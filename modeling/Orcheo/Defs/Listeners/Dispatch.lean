import Orcheo.Defs.Listeners.Subscription

/-! Dispatch of listener events into runs, in the in-memory and in the Postgres store. -/

namespace Orcheo.Listeners

open Lib (Dict)
open Repository (ListenerInput Readings RunError RunTable WorkflowRun)

inductive DispatchError
  | workflowNotFound | workflowVersionNotFound | invalidDedupeWindow
  | workspaceNotFound | workspaceQuotaExceeded
  deriving DecidableEq, Repr

structure ListenerRepository where
  workflows : Dict Uuid (Option String) := ∅
  versions : Dict Uuid Uuid := ∅
  /-- `quotas.max_concurrent_runs` of each workspace -/
  quotas : Dict String Int := ∅
  runs : Dict Uuid WorkflowRun := ∅
  listeners : ListenerStore := {}

namespace ListenerRepository

variable (s : ListenerRepository)

def activeRuns (workspaceId : String) : Nat :=
  (s.runs.values.filter (fun run =>
    decide (run.workspaceId = some workspaceId) && !run.status.isTerminal)).length

def ensureConcurrentRunCapacity (activeRuns : Nat) (limit : Int) : Except DispatchError Unit :=
  if limit ≤ 0 ∨ activeRuns < limit then .ok () else .error .workspaceQuotaExceeded

def ensureWorkspace : Option String → Except DispatchError Unit
  | none => .ok ()
  | some workspaceId => match s.quotas.get? workspaceId with
    | none => .error .workspaceNotFound
    | some limit => ensureConcurrentRunCapacity (s.activeRuns workspaceId) limit

/-- The checks of `_create_run_locked`, with the workspace of the workflow. -/
def ensureCreatable (workflowId versionId : Uuid) :
    Except DispatchError (Option String) :=
  match s.workflows.get? workflowId with
  | none => .error .workflowNotFound
  | some workspaceId =>
    if s.versions.get? versionId = some workflowId then
      (s.ensureWorkspace workspaceId).map (fun _ => workspaceId)
    else .error .workflowVersionNotFound

/-- `uuid4()`: an identifier that no run has. -/
def newRunId : Uuid := s.runs.fresh

def listenerRun (workspaceId : Option String) (workflowId : Uuid) (input : ListenerInput)
    (c : Readings) : WorkflowRun :=
  WorkflowRun.recordEvent
    { workspaceId := workspaceId
      workflowId := workflowId
      triggeredBy := "listener"
      listenerInput := some input
      createdAt := c.utcnow
      updatedAt := c.utcnow } c "listener" "run_created" []

def createRunLocked (sub : ListenerSubscription) (input : ListenerInput)
    (c : Readings) : Except DispatchError (ListenerRepository × Uuid) :=
  match s.ensureCreatable sub.workflowId sub.workflowVersionId with
  | .error e => .error e
  | .ok workspaceId =>
    let run := listenerRun workspaceId sub.workflowId input c
    .ok ({ s with runs := s.runs.set s.newRunId run }, s.newRunId)

/-- The records left by the eviction of the expired ones: those of the subscription in
memory, all of them in Postgres. -/
def liveDedupe (b : Backend) (s : ListenerRepository) (x : Uuid) (now : Instant) :
    Dict (Uuid × String) ListenerDedupeRecord :=
  s.listeners.dedupe.filter (fun key record => match b with
    | .inMemory => decide (key.1 ≠ x) || decide (now < record.expiresAt)
    | .postgres => decide (now < record.expiresAt))

def withDedupe (dedupe : Dict (Uuid × String) ListenerDedupeRecord) :
    ListenerRepository := { s with listeners := { s.listeners with dedupe := dedupe } }

def recordDelivery (x : Uuid) (sub : ListenerSubscription) (key : String)
    (window : Int) (now : Instant) : ListenerRepository :=
  { s with listeners := { s.listeners with
      dedupe := s.listeners.dedupe.set (x, key) ⟨now, now + seconds window⟩
      subscriptions := s.listeners.subscriptions.set x
        { sub with lastEventAt := some now, lastError := none } } }

def createListenerRun (x : Uuid) (sub : ListenerSubscription) (key : String)
    (c : Readings) : ListenerRepository × Except DispatchError (Option Uuid) :=
  match s.createRunLocked sub ⟨x, key⟩ c with
  | .error e => (s, .error e)
  | .ok (s, r) => (s, .ok (some r))

def dispatchInMemory (x : Uuid) (key : String) (now : Instant) (c : Readings) :
    ListenerRepository × Except DispatchError (Option Uuid) :=
  match s.listeners.subscriptions.get? x with
  | none => (s, .error .workflowNotFound)
  | some sub =>
    if sub.status ≠ .active then (s, .ok none)
    else if s.versions.get? sub.workflowVersionId = none then (s, .error .workflowVersionNotFound)
    else match sub.dedupeWindowSeconds with
      | none => (s, .error .invalidDedupeWindow)
      | some window =>
        let live := s.withDedupe (s.liveDedupe .inMemory x now)
        if live.listeners.dedupe.contains (x, key) then (live, .ok none)
        else (live.recordDelivery x sub key window now).createListenerRun x sub key c

def dispatchPostgres (x : Uuid) (key : String) (now : Instant) (c : Readings) :
    ListenerRepository × Except DispatchError (Option Uuid) :=
  match s.listeners.subscriptions.get? x with
  | none => (s, .error .workflowNotFound)
  | some sub =>
    if sub.status ≠ .active then (s, .ok none)
    else
      let live := s.withDedupe (s.liveDedupe .postgres x now)
      if live.listeners.dedupe.contains (x, key) then (live, .ok none)
      else match sub.dedupeWindowSeconds with
        -- the first transaction rolls back
        | none => (s, .error .invalidDedupeWindow)
        | some window =>
          (live.recordDelivery x sub key window now).createListenerRun x sub key c

def dispatchListenerEvent (b : Backend) (s : ListenerRepository) (x : Uuid) (key : String)
    (now : Instant) (c : Readings) : ListenerRepository × Except DispatchError (Option Uuid) :=
  match b with
  | .inMemory => s.dispatchInMemory x key now c
  | .postgres => s.dispatchPostgres x key now c

end ListenerRepository

inductive ListenerRepositoryOp
  | deliver (x : Uuid) (key : String) (now : Instant) (c : Readings)
  | putWorkflow (w : Uuid) (workspaceId : Option String)
  | deleteWorkflow (w : Uuid)
  | putVersion (v w : Uuid)
  | deleteVersion (v : Uuid)
  | setQuota (workspaceId : String) (limit : Int)
  | deleteWorkspace (workspaceId : String)
  | claim (x : Uuid) (runtimeId : String) (leaseSeconds : Nat) (now : Instant)
  | release (x : Uuid) (runtimeId : String) (now : Instant)
  | updateStatus (x : Uuid) (status : ListenerSubscriptionStatus) (actor : String)
      (lastError : Option String) (now : Instant)
  | disable (w : Uuid) (actor : String) (now : Instant)
  | sync (w : Uuid) (actor : String) (compiled : List (Uuid × ListenerSubscription))
      (now : Instant)
  | markRun (r : Uuid) (actor : String) (m : RunTable.Mark) (c : Readings)
  | cancelRun (r : Uuid) (actor : String) (reason : Option String) (c : Readings)

namespace ListenerRepository

def withListeners (s : ListenerRepository) (listeners : ListenerStore) : ListenerRepository :=
  { s with listeners := listeners }

def updateRun (s : ListenerRepository) (r : Uuid)
    (updater : WorkflowRun → Except RunError WorkflowRun) :
    ListenerRepository :=
  match s.runs.get? r with
  | none => s
  | some run => match updater run with
    | .error _ => s
    | .ok run => { s with runs := s.runs.set r run }

def step (b : Backend) (s : ListenerRepository) : ListenerRepositoryOp → ListenerRepository
  | .deliver x key now c => (s.dispatchListenerEvent b x key now c).1
  | .putWorkflow w workspaceId => { s with workflows := s.workflows.set w workspaceId }
  | .deleteWorkflow w => { s with workflows := s.workflows.erase w }
  | .putVersion v w => { s with versions := s.versions.set v w }
  | .deleteVersion v => { s with versions := s.versions.erase v }
  | .setQuota workspaceId limit => { s with quotas := s.quotas.set workspaceId limit }
  | .deleteWorkspace workspaceId => { s with quotas := s.quotas.erase workspaceId }
  | .claim x runtimeId leaseSeconds now =>
    s.withListeners (s.listeners.claimListenerSubscription b x runtimeId leaseSeconds now).1
  | .release x runtimeId now =>
    s.withListeners (s.listeners.releaseListenerSubscription x runtimeId now).1
  | .updateStatus x status actor lastError now =>
    s.withListeners
      (s.listeners.updateListenerSubscriptionStatus x status actor lastError now).1
  | .disable w actor now => s.withListeners (s.listeners.disableListenerSubscriptions b w actor now)
  | .sync w actor compiled now =>
    s.withListeners (s.listeners.syncListenerSubscriptions b w actor compiled now)
  | .markRun r actor m c => s.updateRun r (m.apply c actor)
  | .cancelRun r actor reason c => s.updateRun r (·.markCancelled c actor reason)

end ListenerRepository

end Orcheo.Listeners
