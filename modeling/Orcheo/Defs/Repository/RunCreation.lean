import Orcheo.Lib.Admission
import Orcheo.Defs.Repository.CronDispatch

/-! Creation of runs: who creates them, the check against the workspace's limit of concurrent
runs, and the two stores. -/

universe u

namespace Orcheo.Repository

open Lib (Dict)
open Triggers (Calendar CronError LayerOp TriggerLayer WebhookRuntime)

structure WorkflowScope where
  workspaceId : Option String := none
  isArchived : Bool := false
  deriving DecidableEq

/-- The callers of `_create_run_locked`, each with the workspace that it was called in. -/
inductive Creator
  /-- `create_workflow_run` -/
  | api (workspaceId : String)
  /-- `WorkflowExecutor.run` -/
  | executor (workspaceId : Option String)
  /-- `trigger_chatkit_workflow` -/
  | chatkitTrigger
  | webhook
  | cron
  | manual
  | listener
  deriving DecidableEq, Repr

inductive CreationError
  | workflowNotFound | versionNotFound | workspaceNotFound | credentialHealth
  | quotaExceeded (limit : Int) (current : Nat)
  | cron (e : CronError)
  | rolledBack
  deriving DecidableEq, Repr

structure RunRequest where
  creator : Creator
  workflowId : Uuid
  workflowVersionId : Uuid
  triggeredBy : String
  actor : Option String := none
  cronInput : Option CronInput := none
  dispatchRequested : Bool := false
  /-- the verdict of the credential service -/
  healthy : Bool := true
  deriving DecidableEq

def Creator.workspaceId (own : Option String) : Creator → Except CreationError (Option String)
  | api workspaceId =>
    if own.all (· == workspaceId) then .ok (some workspaceId) else .error .workflowNotFound
  | executor none => .ok own
  | executor (some given) =>
    if own.all (· == given) then .ok (some given) else .error .workflowNotFound
  | chatkitTrigger => .ok none
  | webhook => .ok own
  | cron => .ok own
  | manual => .ok own
  | listener => .ok own

/-- `actor or triggered_by` -/
def RunRequest.creationActor (q : RunRequest) : String :=
  match q.actor with
  | none => q.triggeredBy
  | some actor => if actor = "" then q.triggeredBy else actor

def RunRequest.row (q : RunRequest) (workspaceId : Option String) (c : Readings) : RunRow :=
  let row := RunRow.new q.workflowId q.triggeredBy q.creationActor q.cronInput
    q.dispatchRequested c
  { row with payload := { row.payload with workspaceId := workspaceId } }

def ensureConcurrentRunCapacity (activeRuns : Nat) (limit : Int) : Except CreationError Unit :=
  if limit ≤ 0 ∨ (activeRuns : Int) < limit then .ok ()
  else .error (.quotaExceeded limit activeRuns)

/-- What the stores have in common. The column `workspace_id` of a run stands beside the table. -/
structure RunStore where
  workflows : Dict Uuid WorkflowScope := ∅
  versions : Dict Uuid Uuid := ∅
  /-- `quotas.max_concurrent_runs` of the workspaces -/
  limits : Dict String Int := ∅
  runs : RunTable := ∅
  runWorkspaces : Dict Uuid String := ∅

namespace RunStore

def ownWorkspace (s : RunStore) (workflowId : Uuid) : Option String :=
  (s.workflows.get? workflowId).bind WorkflowScope.workspaceId

def admission (s : RunStore) (q : RunRequest) : Except CreationError (Option (String × Int)) :=
  match s.workflows.get? q.workflowId with
  | none => .error .workflowNotFound
  | some scope => match q.creator.workspaceId scope.workspaceId with
    | .error e => .error e
    | .ok workspaceId =>
      if q.creator ≠ .listener ∧ scope.isArchived = true then .error .workflowNotFound
      else if q.creator ≠ .listener ∧ q.healthy = false then .error .credentialHealth
      else if s.versions.get? q.workflowVersionId ≠ some q.workflowId then .error .versionNotFound
      else match workspaceId with
        | none => .ok none
        | some workspaceId => match s.limits.get? workspaceId with
          | none => .error .workspaceNotFound
          | some limit => .ok (some (workspaceId, limit))

def insert (s : RunStore) (r : Uuid) (row : RunRow) (workspaceId : Option String) : RunStore :=
  { s with
    runs := s.runs.set r row
    runWorkspaces := match workspaceId with
      | none => s.runWorkspaces
      | some workspaceId => s.runWorkspaces.set r workspaceId }

end RunStore

inductive StoreOp
  | createWorkflow (w : Uuid) (workspaceId : Option String)
  | archiveWorkflow (w : Uuid) (isArchived : Bool)
  | createVersion (version w : Uuid)
  | markRun (r : Uuid) (actor : String) (m : RunTable.Mark) (c : Readings)
  | markRunCancelled (r : Uuid) (actor : String) (reason : Option String) (c : Readings)

def RunStore.step (s : RunStore) : StoreOp → RunStore
  | .createWorkflow w workspaceId =>
    if s.workflows.get? w = none then
      { s with workflows := s.workflows.set w { workspaceId := workspaceId } }
    else s
  | .archiveWorkflow w isArchived => match s.workflows.get? w with
    | none => s
    | some scope =>
      { s with workflows := s.workflows.set w { scope with isArchived := isArchived } }
  | .createVersion version w =>
    if s.versions.get? version = none ∧ (s.workflows.get? w).isSome = true then
      { s with versions := s.versions.set version w }
    else s
  | .markRun r actor m c => { s with runs := (s.runs.markRun r actor m c).1 }
  | .markRunCancelled r actor reason c =>
    { s with runs := (s.runs.markRunCancelled r actor reason c).1 }

def registerRun (layer : TriggerLayer) (q : RunRequest) (r : Uuid) (now : Instant) :
    TriggerLayer × Except CreationError Unit :=
  let layer := layer.trackRun q.workflowId r now
  if q.triggeredBy = "cron" then
    match layer.registerCronRun r with
    | (layer, .error e) => (layer, .error (.cron e))
    | (layer, .ok ()) => (layer, .ok ())
  else (layer, .ok ())

structure InMemoryRuns where
  store : RunStore := {}
  layer : TriggerLayer := {}

namespace InMemoryRuns

def countActiveRunsLocked (s : RunStore) (workspaceId : String) : Nat :=
  (s.runWorkspaces.entries.filter (fun e => decide (e.2 = workspaceId) &&
    (s.runs.get? e.1).any (fun row => !row.payload.status.isTerminal))).length

def ensureCapacity (s : RunStore) : Option (String × Int) → Except CreationError Unit
  | none => .ok ()
  | some (workspaceId, limit) =>
    ensureConcurrentRunCapacity (countActiveRunsLocked s workspaceId) limit

/-- `r` is the identifier that the new run draws. The run is stored before it is registered. -/
def createRun (s : InMemoryRuns) (r : Uuid) (q : RunRequest) (c : Readings) :
    InMemoryRuns × Except CreationError Unit :=
  match s.store.admission q with
  | .error e => (s, .error e)
  | .ok scope => match ensureCapacity s.store scope with
    | .error e => (s, .error e)
    | .ok () =>
      let workspaceId := scope.map Prod.fst
      let (layer, result) := registerRun s.layer q r c.utcnow
      ({ store := s.store.insert r (q.row workspaceId c) workspaceId, layer := layer }, result)

end InMemoryRuns

inductive InMemoryRunsOp
  | store (op : StoreOp)
  | onLayer (op : LayerOp)
  | createRun (r : Uuid) (q : RunRequest) (c : Readings)

/-- An identifier that is taken is not drawn. -/
def InMemoryRuns.step (rt : WebhookRuntime) (cal : Calendar) (s : InMemoryRuns) :
    InMemoryRunsOp → InMemoryRuns
  | .store op => { s with store := s.store.step op }
  | .onLayer op => { s with layer := s.layer.step rt cal op }
  | .createRun r q c =>
    if s.store.runs.get? r = none then (s.createRun r q c).1 else s

inductive CreationStage
  | idle
  | waiting (q : RunRequest) (workspaceId : String) (limit : Int)
  | locked (q : RunRequest) (workspaceId : String) (limit : Int)
  | ready (q : RunRequest) (workspaceId : Option String)
  | inserted (q : RunRequest) (workspaceId : Option String) (r : Uuid) (row : RunRow)
  deriving DecidableEq

def CreationStage.holds : CreationStage → Option String
  | idle => none
  | waiting _ _ _ => none
  | locked _ workspaceId _ => some workspaceId
  | ready _ workspaceId => workspaceId
  | inserted _ workspaceId _ _ => workspaceId

structure PostgresRuns (P : Type u) where
  store : RunStore := {}
  locks : Dict String P := ∅
  layers : P → TriggerLayer := fun _ => {}
  stages : P → CreationStage := fun _ => .idle

inductive PostgresRunsOp (P : Type u)
  | store (op : StoreOp)
  | onRuns (op : RunOp)
  | onLayer (p : P) (op : LayerOp)
  | begin (p : P) (q : RunRequest)
  | lock (p : P)
  | ensureCapacity (p : P)
  | insert (p : P) (r : Uuid) (c : Readings)
  | commit (p : P) (now : Instant)
  | rollback (p : P)

namespace PostgresRuns

variable {P : Type u} [DecidableEq P]

/-- `SELECT COUNT(*) … WHERE workspace_id = %s AND status = ANY(…)` -/
def countActiveRuns (s : RunStore) (workspaceId : String) : Nat :=
  (s.runs.entries.filter (fun e => decide (s.runWorkspaces.get? e.1 = some workspaceId) &&
    e.2.status.isActive)).length

variable (s : PostgresRuns P) (p : P)

def setStage (stage : CreationStage) : PostgresRuns P :=
  { s with stages := Function.update s.stages p stage }

def endTx : PostgresRuns P :=
  { s.setStage p .idle with
    locks := match (s.stages p).holds with
      | none => s.locks
      | some workspaceId => s.locks.erase workspaceId }

def begin (q : RunRequest) :
    PostgresRuns P × Except CreationError Unit :=
  match s.stages p with
  | .idle => match s.store.admission q with
    | .error e => (s, .error e)
    | .ok none => (s.setStage p (.ready q none), .ok ())
    | .ok (some (workspaceId, limit)) => (s.setStage p (.waiting q workspaceId limit), .ok ())
  | _ => (s, .ok ())

def lock : PostgresRuns P :=
  match s.stages p with
  | .waiting q workspaceId limit =>
    if s.locks.get? workspaceId = none then
      { s.setStage p (.locked q workspaceId limit) with locks := s.locks.set workspaceId p }
    else s
  | _ => s

def ensureCapacity : PostgresRuns P × Except CreationError Unit :=
  match s.stages p with
  | .locked q workspaceId limit =>
    match ensureConcurrentRunCapacity (countActiveRuns s.store workspaceId) limit with
    | .error e => (s.endTx p, .error e)
    | .ok () => (s.setStage p (.ready q (some workspaceId)), .ok ())
  | _ => (s, .ok ())

def insert (r : Uuid) (c : Readings) : PostgresRuns P :=
  match s.stages p with
  | .ready q workspaceId => s.setStage p (.inserted q workspaceId r (q.row workspaceId c))
  | _ => s

/-- The run becomes visible, and is then registered in the process. A repeated primary key fails
the transaction. -/
def commit (now : Instant) :
    PostgresRuns P × Except CreationError Unit :=
  match s.stages p with
  | .inserted q workspaceId r row =>
    if s.store.runs.get? r = none then
      let (layer, result) := registerRun (s.layers p) q r now
      ({ s.endTx p with
        store := s.store.insert r row workspaceId
        layers := Function.update s.layers p layer }, result)
    else (s.endTx p, .error .rolledBack)
  | _ => (s, .ok ())

end PostgresRuns

def PostgresRuns.step {P : Type u} [DecidableEq P] (rt : WebhookRuntime) (cal : Calendar)
    (s : PostgresRuns P) : PostgresRunsOp P → PostgresRuns P
  | .store op => { s with store := s.store.step op }
  | .onRuns op =>
    if op.creates then s else { s with store := { s.store with runs := s.store.runs.step op } }
  | .onLayer p op => { s with layers := Function.update s.layers p ((s.layers p).step rt cal op) }
  | .begin p q => (s.begin p q).1
  | .lock p => s.lock p
  | .ensureCapacity p => (s.ensureCapacity p).1
  | .insert p r c => s.insert p r c
  | .commit p now => (s.commit p now).1
  | .rollback p => s.endTx p

end Orcheo.Repository
