import Orcheo.Defs.HostedApps.Repository
import Orcheo.Lib.Except
import Orcheo.Lib.Run

/-! What the operations of the hosted-apps repository do to the stored apps. -/

namespace Orcheo.HostedApps

open Lib (Dict bind_ok_iff)
open Repository (TextRuntime)

theorem ensure_ok {p : Prop} [Decidable p] {e : HostedAppsError} {u : Unit} :
    ensure p e = .ok u ↔ p := by
  unfold ensure
  split
  case isTrue holds => simp [holds]
  case isFalse fails => simp [fails]

namespace HostedAppsRepository

variable {r r' : HostedAppsRepository} {rt : TextRuntime} {env : Env} {store : Store} {α : Type}

theorem attempt_result (x : Except HostedAppsError (HostedAppsRepository × α)) :
    (∃ e, r.attempt x = (r, .error e)) ∨ ∃ r' a, x = .ok (r', a) ∧ r.attempt x = (r', .ok a) := by
  cases x with
  | error e => exact Or.inl ⟨e, rfl⟩
  | ok result => exact Or.inr ⟨result.1, result.2, rfl, rfl⟩

theorem attempt_cases (x : Except HostedAppsError (HostedAppsRepository × α)) :
    (r.attempt x).1 = r ∨ ∃ r' a, x = .ok (r', a) ∧ (r.attempt x).1 = r' :=
  (attempt_result x).imp (fun ⟨_, same⟩ => congrArg Prod.fst same)
    fun ⟨r', a, done, same⟩ => ⟨r', a, done, congrArg Prod.fst same⟩

variable {appId workspaceId : Uuid} {actor : String} {app' : HostedApp}

theorem ensureAppScope_ok {app : HostedApp} :
    r.ensureAppScope workspaceId appId = .ok app ↔
      r.apps.get? appId = some app ∧ app.workspaceId = workspaceId := by
  unfold ensureAppScope
  cases r.apps.get? appId with
  | none => simp
  | some found =>
    dsimp only
    split
    case isTrue same =>
      simp only [Except.ok.injEq, Option.some.injEq]
      constructor
      · rintro rfl
        exact ⟨rfl, same⟩
      · exact And.left
    case isFalse other =>
      simp only [reduceCtorEq, Option.some.injEq, false_iff]
      rintro ⟨rfl, same⟩
      exact other same

variable {event : PlatformAuditEvent}

theorem record_ok :
    r.record env event = .ok r' ↔
      env.accepts event = true ∧ r' = { r with auditEvents := r.auditEvents ++ [event] } := by
  unfold record
  split
  case isTrue accepted => simp [accepted, eq_comm]
  case isFalse refused => simp [refused]

theorem refused_of_record {e : HostedAppsError}
    (h : r.record env event = .error e) : env.accepts event = false := by
  unfold record at h
  split at h
  case isTrue => cases h
  case isFalse refused => simpa using refused

theorem recorded_bind {event : PlatformAuditEvent}
    {f : HostedAppsRepository → Except HostedAppsError α} {a : α}
    (done : r.record env event >>= f = .ok a) :
    ∃ events, f { r with auditEvents := events } = .ok a := by
  obtain ⟨audited, recorded, done⟩ := bind_ok_iff.mp done
  obtain ⟨-, rfl⟩ := record_ok.mp recorded
  exact ⟨_, done⟩

theorem scoped_bind {f : HostedApp → Except HostedAppsError α} {a : α}
    (done : r.ensureAppScope workspaceId appId >>= f = .ok a) : ∃ app,
      r.apps.get? appId = some app ∧ app.workspaceId = workspaceId ∧ f app = .ok a := by
  obtain ⟨app, found, done⟩ := bind_ok_iff.mp done
  exact ⟨app, (ensureAppScope_ok.mp found).1, (ensureAppScope_ok.mp found).2, done⟩

variable (deployment : AppDeployment)

def asksCapabilities : Bool :=
  decide (deployment.status = .ready ∧ deployment.appManifest.isSome = true)

variable (app : HostedApp)

def manifestRequest : PlatformAuditEvent :=
  { action := "deployment.manifest.request", actor := deployment.createdBy, targetKind := "app",
    targetId := idText app.id, workspaceId := some (idText app.workspaceId) }

theorem createAppWithAlias_cases (rawAlias : String) :
    (r.createAppWithAlias rt env app rawAlias).1 = r ∨ ∃ reservation events,
      r.apps.get? app.id = none ∧ r.prepareAlias rt env app rawAlias = .ok reservation ∧
      (r.createAppWithAlias rt env app rawAlias).1 = { r with
        auditEvents := events
        apps := r.apps.set app.id app
        aliases := r.aliases.set reservation.alias_ reservation } := by
  unfold createAppWithAlias
  apply Or.imp id _ (attempt_cases _)
  rintro ⟨r', _, done, result⟩
  obtain ⟨_, fresh, done⟩ := bind_ok_iff.mp done
  obtain ⟨reservation, prepared, done⟩ := bind_ok_iff.mp done
  obtain ⟨events, done⟩ := recorded_bind done
  cases done
  exact ⟨_, events, by simpa using ensure_ok.mp fresh, prepared, result⟩

theorem updateApp_cases (actor : Option String) (action : String) :
    (r.updateApp env app actor action).1 = r ∨ ∃ persisted events,
      r.apps.get? app.id = some persisted ∧ persisted.workspaceId = app.workspaceId ∧
      (r.updateApp env app actor action).1 = { r with
        auditEvents := events
        apps := r.apps.set persisted.id { app with updatedAt := env.now } } := by
  unfold updateApp
  apply Or.imp id _ (attempt_cases _)
  rintro ⟨r', _, done, result⟩
  obtain ⟨persisted, stored, same, done⟩ := scoped_bind done
  obtain ⟨events, done⟩ := recorded_bind done
  cases done
  exact ⟨persisted, events, stored, same, result⟩

theorem reserveAlias_cases (rawAlias : String) (actor : Option String) :
    (r.reserveAlias rt env app rawAlias actor).1 = r ∨ ∃ persisted reservation events,
      r.apps.get? app.id = some persisted ∧ persisted.workspaceId = app.workspaceId ∧
      r.prepareAlias rt env app rawAlias = .ok reservation ∧
      (r.reserveAlias rt env app rawAlias actor).1 = { r with
        auditEvents := events
        aliases := (r.aliases.set reservation.alias_ reservation).mapValues (fun _ current =>
          if current.appId = some app.id ∧ current.alias_ ≠ reservation.alias_ then
            r.tombstoned env current
          else current) } := by
  unfold reserveAlias
  apply Or.imp id _ (attempt_cases _)
  rintro ⟨r', _, done, result⟩
  obtain ⟨persisted, stored, same, done⟩ := scoped_bind done
  obtain ⟨reservation, prepared, done⟩ := bind_ok_iff.mp done
  obtain ⟨events, done⟩ := recorded_bind done
  cases done
  exact ⟨persisted, _, events, stored, same, prepared, result⟩

theorem addDeployment_cases : (r.addDeployment env store deployment).1 = r ∨ ∃ app,
      r.apps.get? deployment.appId = some app ∧ app.workspaceId = deployment.workspaceId ∧
      r.deployments.get? deployment.id = none ∧
      ((r.addDeployment env store deployment).1 = { r with
          deployments := r.deployments.set deployment.id deployment } ∧
          (asksCapabilities deployment = true → store = .inMemory ∧
            env.accepts (manifestRequest deployment app) = false) ∨
        ∃ events, (r.addDeployment env store deployment).1 = { r with
          auditEvents := events
          deployments := r.deployments.set deployment.id deployment
          apps := r.apps.set app.id (app.bumped env.now) }) := by
  unfold addDeployment
  cases found : r.ensureAppScope deployment.workspaceId deployment.appId with
  | error e => exact Or.inl rfl
  | ok app =>
    obtain ⟨stored, same⟩ := ensureAppScope_ok.mp found
    dsimp only
    split
    case isTrue => exact Or.inl rfl
    case isFalse absent =>
      have absent : r.deployments.get? deployment.id = none := by simpa using absent
      split
      case isFalse plain =>
        refine Or.inr ⟨app, stored, same, absent, Or.inl ⟨rfl, ?_⟩⟩
        intro asks
        exact absurd (of_decide_eq_true asks) plain
      case isTrue =>
        split
        case h_1 e refused =>
          have refused : env.accepts (manifestRequest deployment app) = false :=
            refused_of_record refused
          cases store with
          | inMemory =>
            exact Or.inr ⟨app, stored, same, absent, Or.inl ⟨rfl, fun _ => ⟨rfl, refused⟩⟩⟩
          | postgres => exact Or.inl rfl
        case h_2 audited recorded =>
          obtain ⟨-, rfl⟩ := record_ok.mp recorded
          exact Or.inr ⟨app, stored, same, absent, Or.inr ⟨_, rfl⟩⟩

theorem saveBinding_cases (binding : AppBinding) (actor : String) :
    (r.saveBinding env binding actor).1 = r ∨ ∃ app events,
      r.apps.get? binding.appId = some app ∧ app.workspaceId = binding.workspaceId ∧
      (r.saveBinding env binding actor).1 = { r with
        auditEvents := events
        bindings := r.bindings.set binding.id { binding with updatedAt := env.now }
        apps := r.apps.set app.id (app.bumped env.now) } := by
  unfold saveBinding
  apply Or.imp id _ (attempt_cases _)
  rintro ⟨r', _, done, result⟩
  obtain ⟨app, stored, same, done⟩ := scoped_bind done
  obtain ⟨_, _, done⟩ := bind_ok_iff.mp done
  obtain ⟨events, done⟩ := recorded_bind done
  cases done
  exact ⟨app, events, stored, same, result⟩

theorem liveCapability_ok {kind : String} {capability : α → Capability}
    {stored : Option α} {row : α}
    (h : liveCapability kind capability workspaceId appId stored = .ok row) :
    (capability row).workspaceId = workspaceId ∧ (capability row).appId = appId := by
  cases stored with
  | none => cases h
  | some found =>
    rw [liveCapability] at h
    split at h
    case isTrue live =>
      cases h
      exact ⟨live.1, live.2.1⟩
    case isFalse => cases h

theorem deleteBinding_cases (workspaceId appId bindingId : Uuid) (actor : String) :
    (r.deleteBinding env workspaceId appId bindingId actor).1 = r ∨
      ∃ (app : HostedApp) (binding : AppBinding) (events : List PlatformAuditEvent),
      r.apps.get? appId = some app ∧ app.workspaceId = workspaceId ∧
      (binding.workspaceId = workspaceId ∧ binding.appId = appId) ∧
      (r.deleteBinding env workspaceId appId bindingId actor).1 = { r with
        auditEvents := events
        bindings := r.bindings.set bindingId
          { binding with deletedAt := some env.now, updatedAt := env.now }
        apps := r.apps.set app.id (app.bumped env.now) } := by
  unfold deleteBinding
  apply Or.imp id _ (attempt_cases _)
  rintro ⟨r', _, done, result⟩
  obtain ⟨app, stored, same, done⟩ := scoped_bind done
  obtain ⟨binding, live, done⟩ := bind_ok_iff.mp done
  obtain ⟨events, done⟩ := recorded_bind done
  cases done
  exact ⟨app, binding, events, stored, same, liveCapability_ok live, result⟩

theorem saveCollection_cases (collection : AppCollection) (actor : String) :
    (r.saveCollection env collection actor).1 = r ∨ ∃ app events,
      r.apps.get? collection.appId = some app ∧ app.workspaceId = collection.workspaceId ∧
      (r.saveCollection env collection actor).1 = { r with
        auditEvents := events
        collections := r.collections.set collection.id { collection with updatedAt := env.now }
        apps := r.apps.set app.id (app.bumped env.now) } := by
  unfold saveCollection
  apply Or.imp id _ (attempt_cases _)
  rintro ⟨r', _, done, result⟩
  obtain ⟨app, stored, same, done⟩ := scoped_bind done
  obtain ⟨_, _, done⟩ := bind_ok_iff.mp done
  obtain ⟨events, done⟩ := recorded_bind done
  cases done
  exact ⟨app, events, stored, same, result⟩

theorem deleteCollection_cases (workspaceId appId collectionId : Uuid) (actor : String) :
    (r.deleteCollection env workspaceId appId collectionId actor).1 = r ∨
      ∃ (app : HostedApp) (collection : AppCollection) (events : List PlatformAuditEvent),
      r.apps.get? appId = some app ∧ app.workspaceId = workspaceId ∧
      (r.deleteCollection env workspaceId appId collectionId actor).1 = { r with
        auditEvents := events
        collections := r.collections.set collectionId
          { collection with deletedAt := some env.now, updatedAt := env.now }
        apps := r.apps.set app.id (app.bumped env.now) } := by
  unfold deleteCollection
  apply Or.imp id _ (attempt_cases _)
  rintro ⟨r', _, done, result⟩
  obtain ⟨app, stored, same, done⟩ := scoped_bind done
  obtain ⟨collection, _, done⟩ := bind_ok_iff.mp done
  obtain ⟨events, done⟩ := recorded_bind done
  cases done
  exact ⟨app, collection, events, stored, same, result⟩

structure Publishable (r : HostedAppsRepository) (app : HostedApp) (release : AppRelease) :
    Prop where
  found : r.apps.get? release.appId = some app
  workspace : app.workspaceId = release.workspaceId
  open_ : app.isArchived = false ∧ app.suspendedAt = none
  deployment : (r.deployments.get? release.deploymentId).any (readyDeployment app) = true
  acknowledged : release.permissionRevision = expectedRevision app release
  fresh : r.releases.get? release.id = none

theorem publishRelease_cases (release : AppRelease) :
    (∃ e, r.publishRelease env release = (r, .error e)) ∨ ∃ app events,
      r.Publishable app release ∧
      r.publishRelease env release = ({ r with
        auditEvents := events
        releases := r.releases.set release.id release
        apps := r.apps.set app.id (published env app release) },
        .ok (published env app release)) := by
  unfold publishRelease
  apply Or.imp id _ (attempt_result _)
  rintro ⟨r', _, done, result⟩
  obtain ⟨app, stored, same, done⟩ := scoped_bind done
  obtain ⟨_, open_, done⟩ := bind_ok_iff.mp done
  obtain ⟨_, deployment, done⟩ := bind_ok_iff.mp done
  obtain ⟨_, acknowledged, done⟩ := bind_ok_iff.mp done
  obtain ⟨_, fresh, done⟩ := bind_ok_iff.mp done
  obtain ⟨events, done⟩ := recorded_bind done
  cases done
  exact ⟨app, events, ⟨stored, same, ensure_ok.mp open_, ensure_ok.mp deployment,
    ensure_ok.mp acknowledged, by simpa using ensure_ok.mp fresh⟩, result⟩

theorem unpublish_cases (workspaceId appId : Uuid) (actor : Option String) :
    (r.unpublish env workspaceId appId actor).1 = r ∨ ∃ app events,
      r.apps.get? appId = some app ∧
      (r.unpublish env workspaceId appId actor).1 = { r with
        auditEvents := events
        apps := r.apps.set app.id
          { app with publicationState := .unpublished, updatedAt := env.now } } := by
  unfold unpublish
  apply Or.imp id _ (attempt_cases _)
  rintro ⟨r', _, done, result⟩
  obtain ⟨app, found, done⟩ := bind_ok_iff.mp done
  obtain ⟨events, done⟩ := recorded_bind done
  cases done
  exact ⟨app, events, (ensureAppScope_ok.mp found).1, result⟩

theorem reservePlatformAlias_cases (rawAlias actor : String) :
    (r.reservePlatformAlias rt env rawAlias actor).1 = r ∨ ∃ normalized events,
      normalizeAlias rt rawAlias = .ok normalized ∧ r.aliases.get? normalized = none ∧
      (r.reservePlatformAlias rt env rawAlias actor).1 = { r with
        auditEvents := events
        aliases := r.aliases.set normalized
          { alias_ := normalized, reservedKind := .platform, updatedAt := env.now } } := by
  unfold reservePlatformAlias
  apply Or.imp id _ (attempt_cases _)
  rintro ⟨r', _, done, result⟩
  obtain ⟨normalized, valid, done⟩ := bind_ok_iff.mp done
  obtain ⟨_, absent, done⟩ := bind_ok_iff.mp done
  obtain ⟨events, done⟩ := recorded_bind done
  cases done
  exact ⟨normalized, events, valid, by simpa using ensure_ok.mp absent, result⟩

theorem createModerationBlock_cases (id : Uuid) (targetKind targetId reasonCode : String)
    (reasonDetail : Option String) (actor : String) : ∃ events blocks,
      (r.createModerationBlock env id targetKind targetId reasonCode reasonDetail actor).1 =
        { r with auditEvents := events, moderationBlocks := blocks } := by
  unfold createModerationBlock
  refine (attempt_cases _).elim (fun same => ⟨_, _, same⟩) ?_
  rintro ⟨r', _, done, result⟩
  obtain ⟨_, _, done⟩ := bind_ok_iff.mp done
  obtain ⟨events, done⟩ := recorded_bind done
  cases done
  exact ⟨events, _, result⟩

theorem liftModerationBlock_cases (blockId : Uuid) (actor : String) : ∃ events blocks,
    (r.liftModerationBlock env blockId actor).1 =
      { r with auditEvents := events, moderationBlocks := blocks } := by
  unfold liftModerationBlock
  cases r.moderationBlocks.get? blockId with
  | none => exact ⟨_, _, rfl⟩
  | some block =>
    dsimp only
    split
    case isTrue => exact ⟨_, _, rfl⟩
    case isFalse =>
      refine (attempt_cases _).elim (fun same => ⟨_, _, same⟩) ?_
      rintro ⟨r', _, done, result⟩
      obtain ⟨events, done⟩ := recorded_bind done
      cases done
      exact ⟨events, _, result⟩

theorem setRuntimeEnabled_cases (enabled : Bool) (actor : String) : ∃ events runtime,
    (r.setRuntimeEnabled env enabled actor).1 =
      { r with auditEvents := events, runtime := runtime } := by
  unfold setRuntimeEnabled
  refine (attempt_cases _).elim (fun same => ⟨_, _, same⟩) ?_
  rintro ⟨r', _, done, result⟩
  obtain ⟨events, done⟩ := recorded_bind done
  cases done
  exact ⟨events, _, result⟩

def Keyed (r : HostedAppsRepository) : Prop := ∀ x app, r.apps.get? x = some app → app.id = x

inductive AppChange (r : HostedAppsRepository) (c : Env × RepositoryOp) (app : HostedApp) :
    HostedApp → Prop
  | raised {n : Nat} {t : Instant} : app.permissionRevision ≤ n →
    AppChange r c app { app with permissionRevision := n, updatedAt := t }
  | replaced {new : HostedApp} {actor : Option String} {action : String} :
    c.2 = .updateApp new actor action → new.id = app.id → new.workspaceId = app.workspaceId →
    AppChange r c app { new with updatedAt := c.1.now }
  | published {release : AppRelease} : c.2 = .publishRelease release →
    r.Publishable app release → AppChange r c app (published c.1 app release)
  | unpublished : AppChange r c app
    { app with publicationState := .unpublished, updatedAt := c.1.now }

variable {c : Env × RepositoryOp} {app : HostedApp}

theorem AppChange.kept : AppChange r c app app :=
  AppChange.raised (n := app.permissionRevision) (t := app.updatedAt) (Nat.le_refl _)

theorem AppChange.bumped (now : Instant) : AppChange r c app (app.bumped now) :=
  AppChange.raised (Nat.le_succ _)

theorem AppChange.id_eq (h : AppChange r c app app') : app'.id = app.id := by
  cases h with
  | raised => rfl
  | replaced _ id _ => exact id
  | published => rfl
  | unpublished => rfl

theorem AppChange.workspaceId_eq (h : AppChange r c app app') :
    app'.workspaceId = app.workspaceId := by
  cases h with
  | raised => rfl
  | replaced _ _ workspace => exact workspace
  | published => rfl
  | unpublished => rfl

structure AppsStep (r : HostedAppsRepository) (c : Env × RepositoryOp)
    (apps : Dict Uuid HostedApp) : Prop where
  changed : ∀ x app, r.apps.get? x = some app → ∃ app', apps.get? x = some app' ∧
    AppChange r c app app'
  added : ∀ x app', r.apps.get? x = none → apps.get? x = some app' →
    app'.id = x ∧ ∃ rawAlias, c.2 = .createAppWithAlias app' rawAlias

theorem AppsStep.refl : AppsStep r c r.apps := by
  constructor
  · intro x app stored
    exact ⟨app, stored, AppChange.kept⟩
  · intro x app' absent stored
    rw [absent] at stored
    cases stored

theorem AppsStep.set {x : Uuid} (keyed : r.Keyed)
    (stored : r.apps.get? x = some app) (change : AppChange r c app app') :
    AppsStep r c (r.apps.set app.id app') := by
  have here := keyed x app stored
  constructor
  · intro y app₂ stored₂
    rw [Dict.get?_set, here]
    split
    case isTrue same =>
      rw [same, stored] at stored₂
      cases stored₂
      exact ⟨app', rfl, change⟩
    case isFalse => exact ⟨app₂, stored₂, AppChange.kept⟩
  · intro y app₂ absent stored₂
    rw [Dict.get?_set, here] at stored₂
    split at stored₂
    case isTrue same =>
      rw [same, stored] at absent
      cases absent
    case isFalse =>
      rw [absent] at stored₂
      cases stored₂

theorem invalidateApp_ok (keyed : r.Keyed)
    (h : r.invalidateApp env workspaceId actor appId = .ok r') : r'.Keyed ∧ ∃ app events,
      r.apps.get? appId = some app ∧ app.workspaceId = workspaceId ∧
      r' = { r with
        auditEvents := events
        apps := r.apps.set appId (app.bumped env.now) } := by
  obtain ⟨app, stored, same, h⟩ := scoped_bind h
  obtain ⟨events, h⟩ := recorded_bind h
  cases h
  have here := keyed _ _ stored
  refine ⟨?_, app, events, stored, same, by rw [here]⟩
  intro x app₁ stored₁
  obtain ⟨same, rfl⟩ | ⟨-, stored₁⟩ := Dict.of_get?_set stored₁
  · exact same.symm
  · exact keyed x app₁ stored₁

theorem invalidateApps_cases (workspaceId : Uuid) (actor : String) (appIds : List Uuid)
    (keyed : r.Keyed) : ∃ apps events,
      (invalidateApps env workspaceId actor r appIds).1 =
        { r with auditEvents := events, apps := apps } ∧
      (∀ x, r.apps.get? x = none → apps.get? x = none) ∧
      ∀ x app, r.apps.get? x = some app → ∃ n t, app.permissionRevision ≤ n ∧
        apps.get? x = some { app with permissionRevision := n, updatedAt := t } := by
  induction appIds generalizing r with
  | nil => exact ⟨r.apps, r.auditEvents, rfl, fun _ => id, fun x app stored =>
      ⟨app.permissionRevision, app.updatedAt, Nat.le_refl _, stored⟩⟩
  | cons appId appIds ih =>
    rw [invalidateApps]
    cases done : r.invalidateApp env workspaceId actor appId with
    | error e => exact ⟨r.apps, r.auditEvents, rfl, fun _ => id, fun x app stored =>
        ⟨app.permissionRevision, app.updatedAt, Nat.le_refl _, stored⟩⟩
    | ok r₁ =>
      obtain ⟨keyed₁, app₁, events₁, stored₁, _, rfl⟩ := invalidateApp_ok keyed done
      obtain ⟨apps, events, result, absent, raised⟩ := ih keyed₁
      refine ⟨apps, events, result, ?_, ?_⟩
      · intro x none_
        apply absent
        rw [Dict.get?_set]
        split
        case isTrue same =>
          rw [same, stored₁] at none_
          cases none_
        case isFalse => exact none_
      · intro x app stored
        by_cases same : x = appId
        · rw [same, stored₁] at stored
          cases stored
          obtain ⟨n, t, above, written⟩ := raised x (app₁.bumped env.now) (by
            rw [Dict.get?_set, if_pos same])
          exact ⟨n, t, Nat.le_of_succ_le above, written⟩
        · apply raised x app
          rw [Dict.get?_set, if_neg same]
          exact stored

theorem invalidateBindingsForWorkflow_cases (workspaceId workflowId : Uuid) (actor : String) :
    (r.invalidateBindingsForWorkflow env store workspaceId workflowId actor).1 = r ∨
      (r.invalidateBindingsForWorkflow env store workspaceId workflowId actor).1 =
        (invalidateApps env workspaceId actor r (r.boundApps workspaceId workflowId)).1 := by
  unfold invalidateBindingsForWorkflow
  dsimp only
  split
  case h_1 r' done =>
    rw [done]
    exact Or.inr rfl
  case h_2 r' e done =>
    rw [done]
    cases store with
    | inMemory => exact Or.inr rfl
    | postgres => exact Or.inl rfl

def AliasKeyed (r : HostedAppsRepository) : Prop :=
  ∀ k held, r.aliases.get? k = some held → held.alias_ = k

theorem aliasKeyed_set (held : AppAlias) (keyed : r.AliasKeyed)
    (aliases : r'.aliases = r.aliases.set held.alias_ held) : r'.AliasKeyed := by
  intro k held' stored
  rw [aliases] at stored
  obtain ⟨same, rfl⟩ | ⟨-, stored⟩ := Dict.of_get?_set stored
  · exact same.symm
  · exact keyed k held' stored

/-- What may be taken over: a free text, or a tombstone that has run out. -/
def Claimable (r : HostedAppsRepository) (now : Instant) (k : String) : Prop :=
  r.aliases.get? k = none ∨ ∃ held until_, r.aliases.get? k = some held ∧
    held.reservedKind = .tombstone ∧ held.tombstonedUntil = some until_ ∧ until_ ≤ now

/-- A reservation is the app's own alias as it stands, or a new one in place of what may be taken
over. -/
inductive Prepared (r : HostedAppsRepository) (now : Instant) (app : HostedApp) : AppAlias → Prop
  | own {k : String} {held : AppAlias} (stored : r.aliases.get? k = some held)
      (owner : held.appId = some app.id) : Prepared r now app held
  | fresh {k : String} (allowed : k ∉ defaultReservedAliases) (free : r.Claimable now k) :
      Prepared r now app
        { alias_ := k, appId := some app.id, workspaceId := some app.workspaceId,
          updatedAt := now }

theorem claimable_ok {held : AppAlias} {now : Instant} (h : claimable now held = .ok ()) :
    held.reservedKind = .tombstone ∧ ∃ until_, held.tombstonedUntil = some until_ ∧
      until_ ≤ now := by
  unfold claimable at h
  split at h
  next until_ kind time => exact ⟨kind, until_, time, ensure_ok.mp h⟩
  next => cases h
  next => cases h

theorem allowed_of_normalizeAlias {value k : String} (h : normalizeAlias rt value = .ok k) :
    k ∉ defaultReservedAliases := by
  unfold normalizeAlias at h
  dsimp only at h
  split at h
  next => cases h
  next =>
    split at h
    next => cases h
    next allowed =>
      cases h
      exact allowed

theorem prepared_of_prepareAlias {app : HostedApp} {rawAlias : String} {reservation : AppAlias}
    (h : r.prepareAlias rt env app rawAlias = .ok reservation) :
    r.Prepared env.now app reservation := by
  unfold prepareAlias at h
  obtain ⟨k, normalized, h⟩ := bind_ok_iff.mp h
  have allowed := allowed_of_normalizeAlias normalized
  cases stored : r.aliases.get? k with
  | none =>
    rw [stored] at h
    cases h
    exact .fresh allowed (Or.inl stored)
  | some held =>
    simp only [stored] at h
    by_cases own : held.appId = some app.id
    · rw [if_pos own] at h
      cases h
      exact .own stored own
    · rw [if_neg own] at h
      obtain ⟨_, free, h⟩ := bind_ok_iff.mp h
      cases h
      obtain ⟨kind, until_, time, past⟩ := claimable_ok free
      exact .fresh allowed (Or.inr ⟨held, until_, stored, kind, time, past⟩)

/-- The aliases after `reserve_alias`: what else the app holds becomes a tombstone. -/
def renamed (r : HostedAppsRepository) (env : Env) (app : HostedApp) (reservation : AppAlias) :
    Dict String AppAlias :=
  (r.aliases.set reservation.alias_ reservation).mapValues (fun _ current =>
    if current.appId = some app.id ∧ current.alias_ ≠ reservation.alias_ then
      r.tombstoned env current
    else current)

inductive Aliasing (r : HostedAppsRepository) (env : Env) (r' : HostedAppsRepository) : Prop
  | kept (span : r'.aliasTombstone = r.aliasTombstone) (aliases : r'.aliases = r.aliases)
      (apps : ∀ x, r.apps.get? x = none → r'.apps.get? x = none)
  | created (span : r'.aliasTombstone = r.aliasTombstone) (app : HostedApp)
      (reservation : AppAlias) (absent : r.apps.get? app.id = none)
      (prepared : r.Prepared env.now app reservation) (apps : r'.apps = r.apps.set app.id app)
      (aliases : r'.aliases = r.aliases.set reservation.alias_ reservation)
  | renamed (span : r'.aliasTombstone = r.aliasTombstone) (app persisted : HostedApp)
      (reservation : AppAlias) (stored : r.apps.get? app.id = some persisted)
      (workspace : persisted.workspaceId = app.workspaceId)
      (prepared : r.Prepared env.now app reservation) (apps : r'.apps = r.apps)
      (aliases : r'.aliases = r.renamed env app reservation)
  | reserved (span : r'.aliasTombstone = r.aliasTombstone) (k : String)
      (allowed : k ∉ defaultReservedAliases) (free : r.aliases.get? k = none)
      (apps : r'.apps = r.apps)
      (aliases : r'.aliases = r.aliases.set k
        { alias_ := k, reservedKind := .platform, updatedAt := env.now })

theorem Aliasing.aliasKeyed (aliasing : Aliasing r env r') (keyed : r.AliasKeyed) :
    r'.AliasKeyed := by
  cases aliasing with
  | kept _ aliases =>
    intro k held stored
    rw [aliases] at stored
    exact keyed k held stored
  | created _ _ reservation _ _ _ aliases => exact aliasKeyed_set reservation keyed aliases
  | renamed _ _ _ reservation _ _ _ _ aliases =>
    intro k held stored
    rw [aliases, HostedAppsRepository.renamed, Dict.get?_mapValues,
      Option.map_eq_some_iff] at stored
    obtain ⟨current, stored, rfl⟩ := stored
    have here : current.alias_ = k := by
      obtain ⟨same, rfl⟩ | ⟨-, stored⟩ := Dict.of_get?_set stored
      · exact same.symm
      · exact keyed k current stored
    -- a tombstone keeps the text
    split
    case isTrue => exact here
    case isFalse => exact here
  | reserved _ k _ _ _ aliases =>
    exact aliasKeyed_set { alias_ := k, reservedKind := .platform, updatedAt := env.now } keyed
      aliases

structure StepSpec (r : HostedAppsRepository) (c : Env × RepositoryOp)
    (r' : HostedAppsRepository) : Prop where
  apps : AppsStep r c r'.apps
  aliases : r.AliasKeyed → r'.AliasKeyed
  deployments : ∀ x d, r.deployments.get? x = some d → r'.deployments.get? x = some d
  releases : r'.releases = r.releases ∨ ∃ release app, c.2 = .publishRelease release ∧
    r.Publishable app release ∧ r'.releases = r.releases.set release.id release

theorem StepSpec.keyed (spec : StepSpec r c r') (keyed : r.Keyed) : r'.Keyed := by
  intro x app' stored'
  cases stored : r.apps.get? x with
  | none => exact (spec.apps.added x app' stored stored').1
  | some app =>
    obtain ⟨app₂, stored₂, change⟩ := spec.apps.changed x app stored
    rw [stored'] at stored₂
    cases stored₂
    rw [change.id_eq]
    exact keyed x app stored

structure Effect (r : HostedAppsRepository) (c : Env × RepositoryOp)
    (r' : HostedAppsRepository) : Prop where
  apps : AppsStep r c r'.apps
  aliasing : Aliasing r c.1 r'
  deployments : ∀ x d, r.deployments.get? x = some d → r'.deployments.get? x = some d
  releases : r'.releases = r.releases ∨ ∃ release app, c.2 = .publishRelease release ∧
    r.Publishable app release ∧ r'.releases = r.releases.set release.id release
  bindings : r'.bindings = r.bindings ∨ ∃ k binding app,
    r'.bindings = r.bindings.set k binding ∧
    r.apps.get? binding.appId = some app ∧ app.workspaceId = binding.workspaceId

theorem Effect.aside (events : List PlatformAuditEvent) (blocks : Dict Uuid ModerationBlock)
    (runtime : RuntimeGeneration) : Effect r c
      { r with auditEvents := events, moderationBlocks := blocks, runtime := runtime } where
  apps := .refl
  aliasing := .kept rfl rfl fun _ => id
  deployments _ _ := id
  releases := .inl rfl
  bindings := .inl rfl

theorem Effect.of_eq (same : r' = r) : Effect r c r' := same ▸ .aside _ _ _

theorem Effect.congr {r'' : HostedAppsRepository} (written : r' = r'') (effect : Effect r c r'') :
    Effect r c r' := written ▸ effect

theorem Effect.edited {x : Uuid} (keyed : r.Keyed) (stored : r.apps.get? x = some app)
    (change : AppChange r c app app') (span : r'.aliasTombstone = r.aliasTombstone)
    (apps : r'.apps = r.apps.set app.id app') (aliases : r'.aliases = r.aliases)
    (deployments : ∀ x d, r.deployments.get? x = some d → r'.deployments.get? x = some d)
    (releases : r'.releases = r.releases ∨ ∃ release app, c.2 = .publishRelease release ∧
      r.Publishable app release ∧ r'.releases = r.releases.set release.id release)
    (bindings : r'.bindings = r.bindings ∨ ∃ k binding app,
      r'.bindings = r.bindings.set k binding ∧
      r.apps.get? binding.appId = some app ∧ app.workspaceId = binding.workspaceId) :
    Effect r c r' := by
  refine ⟨apps ▸ .set keyed stored change, .kept span aliases fun y absent => ?_, deployments,
    releases, bindings⟩
  rw [apps, Dict.get?_set, keyed x app stored]
  split
  next same =>
    rw [same, stored] at absent
    cases absent
  next => exact absent

theorem step_effect (keyed : r.Keyed) (c : Env × RepositoryOp) :
    Effect r c (r.step rt store c) := by
  obtain ⟨env, op⟩ := c
  cases op with
  | createAppWithAlias app rawAlias =>
    apply (createAppWithAlias_cases app rawAlias).elim Effect.of_eq
    rintro ⟨reservation, events, absent, prepared, written⟩
    refine .congr written ⟨⟨?_, ?_⟩, .created rfl app reservation absent
      (prepared_of_prepareAlias prepared) rfl rfl, fun _ _ => id, .inl rfl, .inl rfl⟩
    · intro x app' stored
      refine ⟨app', ?_, .kept⟩
      rw [Dict.get?_set, if_neg]
      · exact stored
      · intro same
        rw [same, absent] at stored
        cases stored
    · intro x app' absent' stored
      obtain ⟨same, rfl⟩ | ⟨-, stored⟩ := Dict.of_get?_set stored
      · exact ⟨same.symm, rawAlias, rfl⟩
      · rw [absent'] at stored
        cases stored
  | updateApp app actor action =>
    apply (updateApp_cases app actor action).elim Effect.of_eq
    rintro ⟨persisted, events, stored, workspace, written⟩
    have change := AppChange.replaced (r := r) (c := (env, .updateApp app actor action)) rfl
      (keyed _ _ stored).symm workspace.symm
    exact .congr written
      (.edited keyed stored change rfl rfl rfl (fun _ _ => id) (.inl rfl) (.inl rfl))
  | reserveAlias app rawAlias actor =>
    apply (reserveAlias_cases app rawAlias actor).elim Effect.of_eq
    rintro ⟨persisted, reservation, events, stored, workspace, prepared, written⟩
    exact .congr written ⟨.refl, .renamed rfl app persisted reservation stored workspace
      (prepared_of_prepareAlias prepared) rfl rfl, fun _ _ => id, .inl rfl, .inl rfl⟩
  | addDeployment deployment =>
    apply (addDeployment_cases deployment).elim Effect.of_eq
    rintro ⟨app, stored, -, absent, added⟩
    have kept : ∀ x d, r.deployments.get? x = some d →
        (r.deployments.set deployment.id deployment).get? x = some d := by
      intro x d present
      rw [Dict.get?_set, if_neg]
      · exact present
      · intro same
        rw [same, absent] at present
        cases present
    obtain ⟨plain, -⟩ | ⟨events, requested⟩ := added
    · exact .congr plain ⟨.refl, .kept rfl rfl fun _ => id, kept, .inl rfl, .inl rfl⟩
    · exact .congr requested
        (.edited keyed stored (.bumped _) rfl rfl rfl kept (.inl rfl) (.inl rfl))
  | saveBinding binding actor =>
    apply (saveBinding_cases binding actor).elim Effect.of_eq
    rintro ⟨app, events, stored, same, written⟩
    exact .congr written (.edited keyed stored (.bumped _) rfl rfl rfl (fun _ _ => id) (.inl rfl)
      (.inr ⟨binding.id, { binding with updatedAt := env.now }, app, rfl, stored, same⟩))
  | deleteBinding workspaceId appId bindingId actor =>
    apply (deleteBinding_cases workspaceId appId bindingId actor).elim Effect.of_eq
    rintro ⟨app, binding, events, stored, same, ⟨workspace, owner⟩, written⟩
    exact .congr written (.edited keyed stored (.bumped _) rfl rfl rfl (fun _ _ => id) (.inl rfl)
      (.inr ⟨bindingId, { binding with deletedAt := some env.now, updatedAt := env.now }, app, rfl,
        owner ▸ stored, same.trans workspace.symm⟩))
  | saveCollection collection actor =>
    apply (saveCollection_cases collection actor).elim Effect.of_eq
    rintro ⟨app, events, stored, -, written⟩
    exact .congr written
      (.edited keyed stored (.bumped _) rfl rfl rfl (fun _ _ => id) (.inl rfl) (.inl rfl))
  | deleteCollection workspaceId appId collectionId actor =>
    apply (deleteCollection_cases workspaceId appId collectionId actor).elim Effect.of_eq
    rintro ⟨app, collection, events, stored, -, written⟩
    exact .congr written
      (.edited keyed stored (.bumped _) rfl rfl rfl (fun _ _ => id) (.inl rfl) (.inl rfl))
  | invalidateBindingsForWorkflow workspaceId workflowId actor =>
    apply (invalidateBindingsForWorkflow_cases workspaceId workflowId actor).elim Effect.of_eq
    intro done
    obtain ⟨apps, events, written, absent, raised⟩ := invalidateApps_cases
      workspaceId actor (r.boundApps workspaceId workflowId) keyed
    refine .congr (done.trans written) ⟨⟨fun x app stored => ?_, fun x app' none_ stored => ?_⟩,
      .kept rfl rfl absent, fun _ _ => id, .inl rfl, .inl rfl⟩
    · obtain ⟨n, t, above, written⟩ := raised x app stored
      exact ⟨_, written, .raised above⟩
    · rw [absent x none_] at stored
      cases stored
  | publishRelease release =>
    obtain ⟨e, refused⟩ | ⟨app, events, publishable, written⟩ := publishRelease_cases release
    · exact .of_eq (congrArg Prod.fst refused)
    · exact .congr (congrArg Prod.fst written) (.edited keyed publishable.found
        (.published rfl publishable) rfl rfl rfl (fun _ _ => id)
        (.inr ⟨release, app, rfl, publishable, rfl⟩) (.inl rfl))
  | unpublish workspaceId appId actor =>
    apply (unpublish_cases workspaceId appId actor).elim Effect.of_eq
    rintro ⟨app, events, stored, written⟩
    exact .congr written
      (.edited keyed stored .unpublished rfl rfl rfl (fun _ _ => id) (.inl rfl) (.inl rfl))
  | reservePlatformAlias rawAlias actor =>
    apply (reservePlatformAlias_cases rawAlias actor).elim Effect.of_eq
    rintro ⟨normalized, events, valid, absent, written⟩
    exact .congr written ⟨.refl, .reserved rfl normalized (allowed_of_normalizeAlias valid) absent
      rfl rfl, fun _ _ => id, .inl rfl, .inl rfl⟩
  | createModerationBlock id targetKind targetId reasonCode reasonDetail actor =>
    obtain ⟨events, blocks, written⟩ := createModerationBlock_cases id
      targetKind targetId reasonCode reasonDetail actor
    exact .congr written (.aside _ _ _)
  | liftModerationBlock blockId actor =>
    obtain ⟨events, blocks, written⟩ := liftModerationBlock_cases blockId actor
    exact .congr written (.aside _ _ _)
  | setRuntimeEnabled enabled actor =>
    obtain ⟨events, runtime, written⟩ := setRuntimeEnabled_cases enabled actor
    exact .congr written (.aside _ _ _)

theorem step_spec (keyed : r.Keyed) (c : Env × RepositoryOp) :
    StepSpec r c (r.step rt store c) :=
  have effect : Effect r c (r.step rt store c) := step_effect keyed c
  ⟨effect.apps, effect.aliasing.aliasKeyed, effect.deployments, effect.releases⟩

end HostedAppsRepository

end Orcheo.HostedApps
