import Orcheo.Defs.Repository.Workflow

/-! The repository of hosted apps: apps, aliases, deployments, releases, capabilities, platform
moderation and the runtime switch. Every operation holds the lock throughout. -/

namespace Orcheo.HostedApps

open Lib (Dict)
open Repository (TextRuntime isLowerAlnum)

inductive AppVisibility
  | publicApp | privateApp
  deriving DecidableEq, Repr

inductive PublicationState
  | draft | published | unpublished
  deriving DecidableEq, Repr

inductive AliasLifecycle
  | app | platform | tombstone
  deriving DecidableEq, Repr

inductive DeploymentStatus
  | pending | validating | ready | failed | expired
  deriving DecidableEq, Repr

structure HostedApp where
  id : Uuid
  workspaceId : Uuid
  name : String
  description : Option String := none
  visibility : AppVisibility := .publicApp
  publicationState : PublicationState := .draft
  isArchived : Bool := false
  activeReleaseId : Option Uuid := none
  permissionRevision : Nat := 1
  publishedPermissionRevision : Option Nat := none
  suspendedAt : Option Instant := none
  createdBy : String
  updatedAt : Instant := 0
  publishedAt : Option Instant := none
  deriving DecidableEq

def HostedApp.bumped (app : HostedApp) (now : Instant) : HostedApp :=
  { app with permissionRevision := app.permissionRevision + 1, updatedAt := now }

structure AppAlias where
  alias_ : String
  appId : Option Uuid := none
  workspaceId : Option Uuid := none
  reservedKind : AliasLifecycle := .app
  tombstonedUntil : Option Instant := none
  updatedAt : Instant := 0
  deriving DecidableEq

structure AppDeployment where
  id : Uuid
  appId : Uuid
  workspaceId : Uuid
  status : DeploymentStatus := .pending
  appManifest : Option Json := none
  createdBy : String
  deriving DecidableEq

structure AppRelease where
  id : Uuid
  workspaceId : Uuid
  appId : Uuid
  deploymentId : Uuid
  permissionRevision : Nat
  visibility : AppVisibility
  capabilitySnapshot : Json
  snapshotSha256 : String
  createdBy : String
  deriving DecidableEq

structure Capability where
  id : Uuid
  appId : Uuid
  workspaceId : Uuid
  name : String
  deletedAt : Option Instant := none
  updatedAt : Instant := 0
  deriving DecidableEq

structure AppBinding extends Capability where
  workflowId : Uuid
  grant : Json := .null
  deriving DecidableEq

structure AppCollection extends Capability where
  policy : Json := .null
  deriving DecidableEq

structure ModerationBlock where
  targetKind : String
  targetId : String
  reasonCode : String
  reasonDetail : Option String := none
  createdBy : String
  liftedBy : Option String := none
  liftedAt : Option Instant := none
  deriving DecidableEq

structure RuntimeGeneration where
  generation : Nat := 0
  enabled : Bool := false
  updatedBy : Option String := none
  deriving DecidableEq

structure PlatformAuditEvent where
  action : String
  actor : String
  targetKind : String
  targetId : String
  reasonCode : Option String := none
  workspaceId : Option String := none
  deriving DecidableEq

def idText (x : Uuid) : String := toString x

inductive HostedAppsError
  /-- a `KeyError` -/
  | notFound (message : String)
  /-- a `ValueError` -/
  | invalid (message : String)
  | aliasValidation (message : String)
  | reservedAlias (message : String)
  | aliasConflict (message : String)
  | aliasTombstoned (message : String)
  | disabled (message : String)
  | audit
  deriving DecidableEq, Repr

def defaultReservedAliases : List String :=
  ["api", "admin", "auth", "cdn", "mail", "metrics", "status", "studio", "support", "www"]

/-- `_ALIAS_RE.fullmatch` -/
def matchesAliasPattern (s : String) : Bool :=
  decide (3 ≤ s.length) && decide (s.length ≤ 48) &&
    s.toList.all (fun c => isLowerAlnum c || c == '-') &&
    (s.toList.head?.any isLowerAlnum) && (s.toList.getLast?.any isLowerAlnum)

def normalizeAlias (rt : TextRuntime) (value : String) : Except HostedAppsError String :=
  let candidate := rt.lower (rt.strip value)
  if !matchesAliasPattern candidate then
    .error (.aliasValidation
      ("App aliases must be 3-48 lowercase ASCII characters, start and end " ++
        "with an alphanumeric character, and use only internal hyphens."))
  else if candidate ∈ defaultReservedAliases then
    .error (.reservedAlias "This app alias is reserved by the platform.")
  else .ok candidate

inductive Store
  | inMemory | postgres
  deriving DecidableEq, Repr

structure Env where
  now : Instant
  accepts : PlatformAuditEvent → Bool := fun _ => true

structure HostedAppsRepository where
  apps : Dict Uuid HostedApp := ∅
  aliases : Dict String AppAlias := ∅
  deployments : Dict Uuid AppDeployment := ∅
  releases : Dict Uuid AppRelease := ∅
  bindings : Dict Uuid AppBinding := ∅
  collections : Dict Uuid AppCollection := ∅
  moderationBlocks : Dict Uuid ModerationBlock := ∅
  auditEvents : List PlatformAuditEvent := []
  runtime : RuntimeGeneration := {}
  aliasTombstone : Duration := seconds (30 * 86400)

abbrev Outcome (α : Type) := HostedAppsRepository × Except HostedAppsError α

def ensure (p : Prop) [Decidable p] (e : HostedAppsError) : Except HostedAppsError Unit :=
  if p then .ok () else .error e

/-- `actor or app.created_by` -/
def orCreator (actor : Option String) (app : HostedApp) : String :=
  match actor with
  | none => app.createdBy
  | some actor => if actor = "" then app.createdBy else actor

namespace HostedAppsRepository

variable (r : HostedAppsRepository) (rt : TextRuntime) (env : Env)

/-- An operation that fails before it changes anything. -/
def attempt {α : Type} (x : Except HostedAppsError (HostedAppsRepository × α)) : Outcome α :=
  match x with
  | .error e => (r, .error e)
  | .ok (r', a) => (r', .ok a)

def ensureAppScope (workspaceId appId : Uuid) : Except HostedAppsError HostedApp :=
  match r.apps.get? appId with
  | none => .error (.notFound "Hosted app was not found in this workspace.")
  | some app =>
    if app.workspaceId = workspaceId then .ok app
    else .error (.notFound "Hosted app was not found in this workspace.")

def record (event : PlatformAuditEvent) : Except HostedAppsError HostedAppsRepository :=
  if env.accepts event then .ok { r with auditEvents := r.auditEvents ++ [event] }
  else .error .audit

def recordAudit (action actor : String) (app : HostedApp) :
    Except HostedAppsError HostedAppsRepository :=
  r.record env
    { action := action, actor := actor, targetKind := "app", targetId := idText app.id,
      workspaceId := some (idText app.workspaceId) }

def recordPlatformAudit (action actor targetKind targetId : String)
    (reasonCode : Option String) : Except HostedAppsError HostedAppsRepository :=
  r.record env
    { action := action, actor := actor, targetKind := targetKind, targetId := targetId,
      reasonCode := reasonCode }

/-- Whether another owner's reservation may be taken over. -/
def claimable (now : Instant) (existing : AppAlias) : Except HostedAppsError Unit :=
  match existing.reservedKind, existing.tombstonedUntil with
  | .tombstone, some until_ =>
    ensure (until_ ≤ now) (.aliasTombstoned "App alias is temporarily tombstoned.")
  | .tombstone, none => .error (.aliasTombstoned "App alias is temporarily tombstoned.")
  | _, _ => .error (.aliasConflict "App alias is already reserved.")

def prepareAlias (app : HostedApp) (rawAlias : String) : Except HostedAppsError AppAlias := do
  let alias_ ← normalizeAlias rt rawAlias
  let reservation : AppAlias :=
    { alias_ := alias_, appId := some app.id, workspaceId := some app.workspaceId,
      updatedAt := env.now }
  match r.aliases.get? alias_ with
  | none => return reservation
  | some existing =>
    if existing.appId = some app.id then return existing
    else
      claimable env.now existing
      return reservation

def createAppWithAlias (app : HostedApp) (rawAlias : String) : Outcome AppAlias :=
  r.attempt do
    ensure ((r.apps.get? app.id).isNone) (.invalid "Hosted app already exists.")
    let reservation ← r.prepareAlias rt env app rawAlias
    let r ← r.recordAudit env "app.create" app.createdBy app
    return ({ r with
      apps := r.apps.set app.id app
      aliases := r.aliases.set reservation.alias_ reservation }, reservation)

def getApp (workspaceId appId : Uuid) : Except HostedAppsError HostedApp :=
  r.ensureAppScope workspaceId appId

def updateApp (app : HostedApp) (actor : Option String) (action : String) : Outcome HostedApp :=
  r.attempt do
    let persisted ← r.ensureAppScope app.workspaceId app.id
    let r ← r.recordAudit env action (orCreator actor app) app
    let stored := { app with updatedAt := env.now }
    return ({ r with apps := r.apps.set persisted.id stored }, stored)

def tombstoned (current : AppAlias) : AppAlias :=
  { current with
    appId := none
    workspaceId := none
    reservedKind := .tombstone
    tombstonedUntil := some (env.now + r.aliasTombstone)
    updatedAt := env.now }

def reserveAlias (app : HostedApp) (rawAlias : String) (actor : Option String) :
    Outcome AppAlias :=
  r.attempt do
    let _ ← r.ensureAppScope app.workspaceId app.id
    let reservation ← r.prepareAlias rt env app rawAlias
    let r ← r.recordAudit env "alias.reserve" (orCreator actor app) app
    let aliases := r.aliases.set reservation.alias_ reservation
    return ({ r with
      aliases := aliases.mapValues (fun _ current =>
        if current.appId = some app.id ∧ current.alias_ ≠ reservation.alias_ then
          r.tombstoned env current
        else current) }, reservation)

variable (store : Store)

def addDeployment (deployment : AppDeployment) : Outcome AppDeployment :=
  match r.ensureAppScope deployment.workspaceId deployment.appId with
  | .error e => (r, .error e)
  | .ok app =>
    if (r.deployments.get? deployment.id).isSome then
      (r, .error (.invalid "Hosted app deployment already exists."))
    else
      let stored := { r with deployments := r.deployments.set deployment.id deployment }
      if deployment.status = .ready ∧ deployment.appManifest.isSome = true then
        match stored.recordAudit env "deployment.manifest.request" deployment.createdBy app with
        | .error e => (match store with
          | .inMemory => stored
          | .postgres => r, .error e)
        | .ok audited =>
          ({ audited with apps := audited.apps.set app.id (app.bumped env.now) }, .ok deployment)
      else (stored, .ok deployment)

def checkCapability (kind : String) (rows : List Capability) (existing : Option Capability)
    (c : Capability) : Except HostedAppsError Unit := do
  ensure (rows.all (fun current => !(decide (current.id ≠ c.id ∧ current.appId = c.appId ∧
      current.deletedAt = none ∧ current.name = c.name))) = true)
    (.invalid ("A live " ++ kind ++ " already uses this name."))
  ensure (existing.all (fun e => decide (e.workspaceId = c.workspaceId ∧ e.appId = c.appId))
      = true)
    (.notFound ("Hosted app " ++ kind ++ " was not found."))

def liveCapability {α : Type} (kind : String) (capability : α → Capability)
    (workspaceId appId : Uuid) : Option α → Except HostedAppsError α
  | none => .error (.notFound ("Hosted app " ++ kind ++ " was not found."))
  | some row =>
    if (capability row).workspaceId = workspaceId ∧ (capability row).appId = appId ∧
        (capability row).deletedAt = none then .ok row
    else .error (.notFound ("Hosted app " ++ kind ++ " was not found."))

def saveBinding (binding : AppBinding) (actor : String) : Outcome AppBinding :=
  r.attempt do
    let app ← r.ensureAppScope binding.workspaceId binding.appId
    checkCapability "binding" (r.bindings.values.map AppBinding.toCapability)
      ((r.bindings.get? binding.id).map AppBinding.toCapability) binding.toCapability
    let r ← r.recordAudit env "capability.binding.save" actor app
    let stored := { binding with updatedAt := env.now }
    return ({ r with
      bindings := r.bindings.set binding.id stored
      apps := r.apps.set app.id (app.bumped env.now) }, stored)

def deleteBinding (workspaceId appId bindingId : Uuid) (actor : String) : Outcome Unit :=
  r.attempt do
    let app ← r.ensureAppScope workspaceId appId
    let binding ← liveCapability "binding" AppBinding.toCapability workspaceId appId
      (r.bindings.get? bindingId)
    let r ← r.recordAudit env "capability.binding.delete" actor app
    let deleted := { binding with deletedAt := some env.now, updatedAt := env.now }
    return ({ r with
      bindings := r.bindings.set bindingId deleted
      apps := r.apps.set app.id (app.bumped env.now) }, ())

def saveCollection (collection : AppCollection) (actor : String) : Outcome AppCollection :=
  r.attempt do
    let app ← r.ensureAppScope collection.workspaceId collection.appId
    checkCapability "collection" (r.collections.values.map AppCollection.toCapability)
      ((r.collections.get? collection.id).map AppCollection.toCapability)
      collection.toCapability
    let r ← r.recordAudit env "capability.collection.save" actor app
    let stored := { collection with updatedAt := env.now }
    return ({ r with
      collections := r.collections.set collection.id stored
      apps := r.apps.set app.id (app.bumped env.now) }, stored)

def deleteCollection (workspaceId appId collectionId : Uuid) (actor : String) : Outcome Unit :=
  r.attempt do
    let app ← r.ensureAppScope workspaceId appId
    let collection ← liveCapability "collection" AppCollection.toCapability workspaceId appId
      (r.collections.get? collectionId)
    let r ← r.recordAudit env "capability.collection.delete" actor app
    let deleted := { collection with deletedAt := some env.now, updatedAt := env.now }
    return ({ r with
      collections := r.collections.set collectionId deleted
      apps := r.apps.set app.id (app.bumped env.now) }, ())

def invalidateApp (workspaceId : Uuid) (actor : String) (appId : Uuid) :
    Except HostedAppsError HostedAppsRepository := do
  let app ← r.ensureAppScope workspaceId appId
  let r ← r.recordAudit env "capability.binding.dependency_invalidated" actor app
  return { r with apps := r.apps.set app.id (app.bumped env.now) }

def invalidateApps (workspaceId : Uuid) (actor : String) (r : HostedAppsRepository) :
    List Uuid → HostedAppsRepository × Option HostedAppsError
  | [] => (r, none)
  | appId :: appIds => match r.invalidateApp env workspaceId actor appId with
    | .error e => (r, some e)
    | .ok r => invalidateApps workspaceId actor r appIds

def boundApps (workspaceId workflowId : Uuid) : List Uuid :=
  ((r.bindings.values.filter (fun binding => decide (binding.workspaceId = workspaceId ∧
    binding.workflowId = workflowId ∧ binding.deletedAt = none))).map (·.appId)).dedup

def invalidateBindingsForWorkflow (workspaceId workflowId : Uuid) (actor : String) : Outcome Nat :=
  let appIds := r.boundApps workspaceId workflowId
  match invalidateApps env workspaceId actor r appIds with
  | (r', none) => (r', .ok appIds.length)
  | (r', some e) => (match store with
    | .inMemory => r'
    | .postgres => r, .error e)

def expectedRevision (app : HostedApp) (release : AppRelease) : Nat :=
  app.permissionRevision + if release.visibility ≠ app.visibility then 1 else 0

def readyDeployment (app : HostedApp) (deployment : AppDeployment) : Bool :=
  decide (deployment.appId = app.id ∧ deployment.workspaceId = app.workspaceId ∧
    deployment.status = .ready)

def published (app : HostedApp) (release : AppRelease) : HostedApp :=
  { app with
    permissionRevision :=
      if release.visibility ≠ app.visibility then release.permissionRevision
      else app.permissionRevision
    visibility := release.visibility
    activeReleaseId := some release.id
    publicationState := .published
    publishedPermissionRevision := some release.permissionRevision
    publishedAt := some env.now
    updatedAt := env.now }

def publishRelease (release : AppRelease) : Outcome HostedApp :=
  r.attempt do
    let app ← r.ensureAppScope release.workspaceId release.appId
    ensure (app.isArchived = false ∧ app.suspendedAt = none)
      (.invalid "Archived or suspended apps cannot be published.")
    ensure ((r.deployments.get? release.deploymentId).any (readyDeployment app) = true)
      (.invalid "Release deployment is not a ready app-owned deployment.")
    ensure (release.permissionRevision = expectedRevision app release)
      (.invalid "Release must acknowledge the current permission revision.")
    ensure ((r.releases.get? release.id).isNone = true)
      (.invalid "Hosted app release already exists.")
    let r ← r.recordAudit env "release.publish" release.createdBy app
    return ({ r with
      releases := r.releases.set release.id release
      apps := r.apps.set app.id (published env app release) }, published env app release)

def unpublish (workspaceId appId : Uuid) (actor : Option String) : Outcome HostedApp :=
  r.attempt do
    let app ← r.ensureAppScope workspaceId appId
    let r ← r.recordAudit env "release.unpublish" (orCreator actor app) app
    let stored := { app with publicationState := .unpublished, updatedAt := env.now }
    return ({ r with apps := r.apps.set app.id stored }, stored)

def reservePlatformAlias (rawAlias : String) (actor : String) : Outcome AppAlias :=
  r.attempt do
    let normalized ← normalizeAlias rt rawAlias
    ensure ((r.aliases.get? normalized).isNone = true)
      (.invalid "Hosted app alias is already reserved.")
    let r ← r.recordPlatformAudit env "moderation.alias.reserve" actor "alias" normalized none
    let reservation : AppAlias :=
      { alias_ := normalized, reservedKind := .platform, updatedAt := env.now }
    return ({ r with aliases := r.aliases.set normalized reservation }, reservation)

/-- `id` is the identifier that the new block draws. -/
def createModerationBlock (id : Uuid) (targetKind targetId reasonCode : String)
    (reasonDetail : Option String) (actor : String) : Outcome ModerationBlock :=
  r.attempt do
    ensure (targetKind ∈ ["app", "alias", "workspace", "publisher"])
      (.invalid "Hosted Apps moderation target is invalid.")
    let block : ModerationBlock :=
      { targetKind := targetKind, targetId := targetId, reasonCode := reasonCode,
        reasonDetail := reasonDetail, createdBy := actor }
    let r ← r.recordPlatformAudit env "moderation.block" actor targetKind targetId
      (some reasonCode)
    return ({ r with moderationBlocks := r.moderationBlocks.set id block }, block)

def liftModerationBlock (blockId : Uuid) (actor : String) : Outcome ModerationBlock :=
  match r.moderationBlocks.get? blockId with
  | none => (r, .error (.notFound "Hosted Apps moderation block was not found."))
  | some block =>
    if block.liftedAt.isSome then (r, .ok block)
    else r.attempt do
      let r ← r.recordPlatformAudit env "moderation.reinstate" actor block.targetKind
        block.targetId (some block.reasonCode)
      let lifted := { block with liftedBy := some actor, liftedAt := some env.now }
      return ({ r with moderationBlocks := r.moderationBlocks.set blockId lifted }, lifted)

def setRuntimeEnabled (enabled : Bool) (actor : String) : Outcome RuntimeGeneration :=
  r.attempt do
    let r ← r.recordPlatformAudit env "runtime_generation.update" actor "runtime" "global" none
    let runtime : RuntimeGeneration :=
      { generation := r.runtime.generation + 1, enabled := enabled, updatedBy := some actor }
    return ({ r with runtime := runtime }, runtime)

def isPlatformBlocked (alias_ : String) (app : HostedApp) : Bool :=
  r.moderationBlocks.values.any (fun block => decide (block.liftedAt = none ∧
    (block.targetKind, block.targetId) ∈ [("alias", alias_), ("app", idText app.id),
      ("workspace", idText app.workspaceId), ("publisher", app.createdBy)]))

structure PublishedDescriptor where
  alias_ : String
  generation : Nat
  workspaceId : Uuid
  appId : Uuid
  releaseId : Uuid
  deploymentId : Uuid
  visibility : AppVisibility
  snapshotSha256 : String
  capabilitySnapshot : Json
  deriving DecidableEq

inductive Descriptor
  | suspended (alias_ : String) (generation : Nat)
  | published (d : PublishedDescriptor)
  deriving DecidableEq

def liveAlias (reservation : Option AppAlias) : Except HostedAppsError (AppAlias × Uuid × Uuid) :=
  match reservation with
  | none => .error (.notFound "Hosted app alias was not found.")
  | some held => match held.reservedKind, held.appId, held.workspaceId with
    | .app, some appId, some workspaceId => .ok (held, appId, workspaceId)
    | _, _, _ => .error (.notFound "Hosted app alias was not found.")

def findRelease (app : HostedApp) (releaseId : Uuid) : Option AppRelease :=
  match store with
  | .inMemory => r.releases.get? releaseId
  | .postgres => (r.releases.get? releaseId).filter (fun release =>
    decide (release.workspaceId = app.workspaceId ∧ release.appId = app.id))

def describe (reservation : AppAlias) (app : HostedApp) (release : AppRelease) :
    PublishedDescriptor where
  alias_ := reservation.alias_
  generation := r.runtime.generation
  workspaceId := app.workspaceId
  appId := app.id
  releaseId := release.id
  deploymentId := release.deploymentId
  visibility := release.visibility
  snapshotSha256 := release.snapshotSha256
  capabilitySnapshot := release.capabilitySnapshot

def activeRelease (app : HostedApp) : Except HostedAppsError AppRelease :=
  if app.isArchived = false ∧ app.publicationState = .published then
    match app.activeReleaseId with
    | none => .error (.notFound "Hosted app alias is not published.")
    | some releaseId => match r.findRelease store app releaseId with
      | none => .error (.notFound "Hosted app release was not found.")
      | some release => .ok release
  else .error (.notFound "Hosted app alias is not published.")

def resolveDescriptor (rawAlias : String) : Except HostedAppsError Descriptor := do
  ensure (r.runtime.enabled = true) (.disabled "Hosted Apps runtime is disabled.")
  let normalized ← normalizeAlias rt rawAlias
  let (reservation, appId, workspaceId) ← liveAlias (r.aliases.get? normalized)
  let app ← r.ensureAppScope workspaceId appId
  if app.suspendedAt.isSome ∨ r.isPlatformBlocked reservation.alias_ app = true then
    return .suspended reservation.alias_ r.runtime.generation
  else
    let release ← r.activeRelease store app
    return .published (r.describe reservation app release)

end HostedAppsRepository

inductive RepositoryOp
  | createAppWithAlias (app : HostedApp) (rawAlias : String)
  | updateApp (app : HostedApp) (actor : Option String) (action : String)
  | reserveAlias (app : HostedApp) (rawAlias : String) (actor : Option String)
  | addDeployment (deployment : AppDeployment)
  | saveBinding (binding : AppBinding) (actor : String)
  | deleteBinding (workspaceId appId bindingId : Uuid) (actor : String)
  | saveCollection (collection : AppCollection) (actor : String)
  | deleteCollection (workspaceId appId collectionId : Uuid) (actor : String)
  | invalidateBindingsForWorkflow (workspaceId workflowId : Uuid) (actor : String)
  | publishRelease (release : AppRelease)
  | unpublish (workspaceId appId : Uuid) (actor : Option String)
  | reservePlatformAlias (rawAlias actor : String)
  | createModerationBlock (id : Uuid) (targetKind targetId reasonCode : String)
      (reasonDetail : Option String) (actor : String)
  | liftModerationBlock (blockId : Uuid) (actor : String)
  | setRuntimeEnabled (enabled : Bool) (actor : String)

def HostedAppsRepository.step (rt : TextRuntime) (store : Store) (r : HostedAppsRepository)
    (c : Env × RepositoryOp) : HostedAppsRepository :=
  let env := c.1
  match c.2 with
  | .createAppWithAlias app rawAlias => (r.createAppWithAlias rt env app rawAlias).1
  | .updateApp app actor action => (r.updateApp env app actor action).1
  | .reserveAlias app rawAlias actor => (r.reserveAlias rt env app rawAlias actor).1
  | .addDeployment deployment => (r.addDeployment env store deployment).1
  | .saveBinding binding actor => (r.saveBinding env binding actor).1
  | .deleteBinding workspaceId appId bindingId actor =>
    (r.deleteBinding env workspaceId appId bindingId actor).1
  | .saveCollection collection actor => (r.saveCollection env collection actor).1
  | .deleteCollection workspaceId appId collectionId actor =>
    (r.deleteCollection env workspaceId appId collectionId actor).1
  | .invalidateBindingsForWorkflow workspaceId workflowId actor =>
    (r.invalidateBindingsForWorkflow env store workspaceId workflowId actor).1
  | .publishRelease release => (r.publishRelease env release).1
  | .unpublish workspaceId appId actor => (r.unpublish env workspaceId appId actor).1
  | .reservePlatformAlias rawAlias actor => (r.reservePlatformAlias rt env rawAlias actor).1
  | .createModerationBlock id targetKind targetId reasonCode reasonDetail actor =>
    (r.createModerationBlock env id targetKind targetId reasonCode reasonDetail actor).1
  | .liftModerationBlock blockId actor => (r.liftModerationBlock env blockId actor).1
  | .setRuntimeEnabled enabled actor => (r.setRuntimeEnabled env enabled actor).1

end Orcheo.HostedApps
