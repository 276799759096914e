import Orcheo.Defs.Repository.Runs
import Orcheo.Defs.Triggers.Layer

/-! What the routes share: the repository behind them, the limits of a workspace, and
how a workflow reference is resolved. -/

namespace Orcheo.Routers

open Lib (Dict)
open Repository (Readings WorkflowRun)
open Triggers (CredentialHealthGuard TriggerLayer WebhookClock WebhookError WebhookRequest
  WebhookRuntime)
open Triggers.WebhookTriggerState (truthy)

inductive LoadsError
  | jsonDecode | recursion
  deriving DecidableEq, Repr

structure RouterRuntime extends WebhookRuntime where
  parseUuid : String → Option Uuid
  showUuid : Uuid → String
  isalnum : Char → Bool
  loads : String → Except LoadsError Json
  str : Json → String

def RouterRuntime.ascii : RouterRuntime where
  toWebhookRuntime := .ascii
  parseUuid := Triggers.decimal?
  showUuid := toString
  isalnum := Char.isAlphanum
  loads _ := .error .jsonDecode
  str _ := ""

inductive StoreKind
  | inMemory | postgres
  deriving DecidableEq, Repr

structure Workspace where
  slug : String
  maxConcurrentRuns : Int := 25
  deriving DecidableEq, Repr

structure Workflow where
  workspaceId : Option String := none
  inDefaultTeam : Bool := false
  handle : Option String := none
  isArchived : Bool := false
  isPublic : Bool := false
  requireLogin : Bool := false
  updatedAt : Instant := 0
  deriving DecidableEq, Repr

structure WorkflowVersion where
  workflowId : Uuid
  graph : Json := .obj []
  runnableConfig : Json := .null
  deriving DecidableEq

structure CredentialAccessContext where
  workflowId : Option Uuid := none
  workspaceId : Option String := none
  roles : List String := []
  deriving DecidableEq, Repr

structure WorkspaceGovernance where
  apiRateLimit : Nat := 120
  apiRateIntervalSeconds : Nat := 60
  apiEvents : Dict String (List Instant) := ∅

def WorkspaceGovernance.checkApiRateLimit (g : WorkspaceGovernance) (workspaceId : String)
    (now : Instant) : WorkspaceGovernance × Bool :=
  if g.apiRateLimit = 0 ∨ workspaceId = "" then (g, true)
  else
    let windowStart := now - seconds g.apiRateIntervalSeconds
    let bucket := ((g.apiEvents.get? workspaceId).getD []).dropWhile
      (fun t => decide (t ≤ windowStart))
    if g.apiRateLimit ≤ bucket.length then
      ({ g with apiEvents := g.apiEvents.set workspaceId bucket }, false)
    else ({ g with apiEvents := g.apiEvents.set workspaceId (bucket ++ [now]) }, true)

abbrev HandleIndex := Dict (Option String) (Dict String (List Uuid))

structure AppState where
  workspaces : Dict String Workspace := ∅
  workflows : Dict Uuid Workflow := ∅
  versions : Dict Uuid WorkflowVersion := ∅
  activeHandles : HandleIndex := ∅
  archivedHandles : HandleIndex := ∅
  runs : Dict Uuid WorkflowRun := ∅
  layer : TriggerLayer := {}
  guard : Option CredentialHealthGuard := none
  /-- the verdict of the credential service, where one is configured -/
  healthy : Uuid → Option String → Bool := fun _ _ => true
  governance : WorkspaceGovernance := {}

inductive RepositoryError
  | workflowNotFound | workflowVersionNotFound | credentialHealth
  | workspaceNotFound | workspaceQuotaExceeded | cronOverlap
  | webhook (e : WebhookError)
  deriving DecidableEq, Repr

namespace AppState

variable (s : AppState)

def withLayer (layer : TriggerLayer) : AppState := { s with layer := layer }

def withGovernance (g : WorkspaceGovernance) : AppState := { s with governance := g }

def getWorkflowWorkspaceId (w : Uuid) : Option String :=
  (s.workflows.get? w).bind Workflow.workspaceId

def latestVersionId (w : Uuid) : Option Uuid :=
  ((s.versions.entries.filter (fun e => decide (e.2.workflowId = w))).map Prod.fst).getLast?

def getLatestVersion (w : Uuid) : Except RepositoryError (Uuid × WorkflowVersion) :=
  match s.workflows.get? w with
  | none => .error .workflowNotFound
  | some _ => match s.latestVersionId w with
    | none => .error .workflowVersionNotFound
    | some v => match s.versions.get? v with
      | none => .error .workflowVersionNotFound
      | some version => .ok (v, version)

variable (rt : RouterRuntime)

/-- `normalize_slug`: nothing where it raises. -/
def normalizeSlug (value : String) : Option String :=
  let candidate := rt.lower (rt.strip value)
  if candidate = "" then none
  else if candidate.toList.all (fun ch => rt.isalnum ch || ch = '-' || ch = '_') then some candidate
  else none

def getWorkspaceBySlug (s : AppState) (slug : String) : Option String :=
  match normalizeSlug rt slug with
  | none => none
  | some slug => (s.workspaces.entries.find? (fun e => decide (e.2.slug = slug))).map Prod.fst

def findInHandleIndex (index : HandleIndex) (scopeKeys : List (Option String)) (ref : String) :
    Option Uuid :=
  scopeKeys.findSome? (fun scope =>
    ((index.get? scope).bind (fun handles => handles.get? ref)).bind List.head?)

def resolveByUuid (s : AppState) (ref : String) (workspaceId : Option String) : Option Uuid :=
  match rt.parseUuid ref with
  | none => none
  | some w => match s.workflows.get? w with
    | none => none
    | some workflow =>
      if workspaceId = none ∨ workflow.workspaceId = none ∨ workflow.workspaceId = workspaceId then
        some w
      else none

def resolveInMemory (s : AppState) (ref : String) (workspaceId : Option String) : Option Uuid :=
  let scopeKeys := match workspaceId with
    | some workspaceId => [some workspaceId, none]
    | none => none :: s.activeHandles.keys
  (findInHandleIndex s.activeHandles scopeKeys ref).or
    ((findInHandleIndex s.archivedHandles scopeKeys ref).or (s.resolveByUuid rt ref workspaceId))

def handleRank (ref : String) (w : Workflow) : Nat :=
  if w.handle = some ref then (if w.isArchived then 1 else 0) else 2

def orderBy : List Int → List Int → Bool
  | x :: xs, y :: ys => decide (x < y) || (decide (x = y) && orderBy xs ys)
  | _, _ => true

/-- `ORDER BY … LIMIT 1` over the rows that match by handle or by identifier. -/
def selectWorkflow (s : AppState) (ref : String)
    (inScope : Workflow → Bool) (defaultTeamFirst : Bool) : Option Uuid :=
  let isUuid := (rt.parseUuid ref).isSome
  let rows := s.workflows.entries.filter (fun e =>
    (decide (e.2.handle = some ref) || (isUuid && decide (rt.showUuid e.1 = ref))) && inScope e.2)
  let key (w : Workflow) : List Int :=
    [handleRank ref w, if defaultTeamFirst && w.inDefaultTeam then 0 else 1, -w.updatedAt]
  (rows.mergeSort (fun a b => orderBy (key a.2) (key b.2))).head?.map Prod.fst

def resolveInPostgres (s : AppState) (ref : String) :
    Option String → Option Uuid
  | none => s.selectWorkflow rt ref (fun _ => true) false
  | some workspaceId =>
    (s.selectWorkflow rt ref (fun w => decide (w.workspaceId = some workspaceId)) true).or
      (s.selectWorkflow rt ref (fun w => decide (w.workspaceId = none)) false)

def resolveWorkflowRef (store : StoreKind) (rt : RouterRuntime) (s : AppState) (ref : String)
    (workspaceId : Option String) : Option Uuid :=
  let normalized := rt.lower (rt.strip ref)
  if normalized = "" then none
  else match store with
    | .inMemory => s.resolveInMemory rt normalized workspaceId
    | .postgres => match s.resolveInPostgres rt normalized workspaceId with
      | none => none
      | some w =>
        let found := s.getWorkflowWorkspaceId w
        if workspaceId = none ∨ found = none ∨ found = workspaceId then some w else none

def activeRuns (workspaceId : String) : Nat :=
  (s.runs.values.filter (fun run =>
    decide (run.workspaceId = some workspaceId) && !run.status.isTerminal)).length

def ensureConcurrentRunCapacity (activeRuns : Nat) (limit : Int) : Except RepositoryError Unit :=
  if limit ≤ 0 ∨ activeRuns < limit then .ok () else .error .workspaceQuotaExceeded

def ensureWorkspace : Option String → Except RepositoryError Unit
  | none => .ok ()
  | some workspaceId => match s.workspaces.get? workspaceId with
    | none => .error .workspaceNotFound
    | some workspace =>
      ensureConcurrentRunCapacity (s.activeRuns workspaceId) workspace.maxConcurrentRuns

/-- `uuid4()`: an identifier that no run has. -/
def newRunId : Uuid := s.runs.fresh

def newRun (w : Uuid) (triggeredBy actor : String) (workspaceId : Option String) (c : Readings) :
    WorkflowRun :=
  WorkflowRun.recordEvent
    { workspaceId := workspaceId
      workflowId := w
      triggeredBy := triggeredBy
      createdAt := c.utcnow
      updatedAt := c.utcnow } c actor "run_created" []

def createRunLocked (w v : Uuid) (triggeredBy actor : String)
    (workspaceId : Option String) (c : Readings) : AppState × Except RepositoryError Uuid :=
  match s.versions.get? v with
  | none => (s, .error .workflowVersionNotFound)
  | some version =>
    if version.workflowId ≠ w then (s, .error .workflowVersionNotFound)
    else match s.ensureWorkspace workspaceId with
      | .error e => (s, .error e)
      | .ok () =>
        let r := s.newRunId
        let s := { s with
          runs := s.runs.set r (newRun w triggeredBy actor workspaceId c)
          layer := s.layer.trackRun w r c.utcnow }
        if triggeredBy = "cron" then
          match s.layer.registerCronRun r with
          | (layer, .ok ()) => (s.withLayer layer, .ok r)
          | (layer, .error _) => (s.withLayer layer, .error .cronOverlap)
        else (s, .ok r)

def createRun (w v : Uuid) (triggeredBy : String) (actor : Option String)
    (workspaceId : Option String) (c : Readings) : AppState × Except RepositoryError Uuid :=
  match s.workflows.get? w with
  | none => (s, .error .workflowNotFound)
  | some workflow =>
    if workflow.isArchived then (s, .error .workflowNotFound)
    else if !s.healthy w workspaceId then (s, .error .credentialHealth)
    else s.createRunLocked w v triggeredBy ((truthy actor).getD triggeredBy) workspaceId c

def dispatchError : Triggers.DispatchError → RepositoryError
  | .credentialHealth => .credentialHealth
  | .webhook e => .webhook e

def handleWebhookTrigger (clock : WebhookClock) (c : Readings) (s : AppState)
    (w : Uuid) (r : WebhookRequest) : AppState × Except RepositoryError Uuid :=
  match s.workflows.get? w with
  | none => (s, .error .workflowNotFound)
  | some workflow =>
    if workflow.isArchived then (s, .error .workflowNotFound)
    else match s.latestVersionId w with
      | none => (s, .error .workflowVersionNotFound)
      | some v =>
        if !s.healthy w workflow.workspaceId then (s, .error .credentialHealth)
        else match s.layer.prepareWebhookDispatch rt.toWebhookRuntime clock s.guard w r with
          | (layer, .error e) => (s.withLayer layer, .error (dispatchError e))
          | (layer, .ok dispatch) =>
            (s.withLayer layer).createRunLocked w v dispatch.triggeredBy dispatch.actor
              workflow.workspaceId c

end AppState

end Orcheo.Routers
