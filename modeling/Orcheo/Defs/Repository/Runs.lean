import Orcheo.Defs.Base

/-! The `workflow_runs` table: what a run records, and the transactions that move it. -/

namespace Orcheo.Repository

open Lib (Dict)

inductive WorkflowRunStatus
  | pending | running | succeeded | failed | cancelled
  deriving DecidableEq, Repr

def WorkflowRunStatus.isTerminal : WorkflowRunStatus → Bool
  | pending => false
  | running => false
  | succeeded => true
  | failed => true
  | cancelled => true

structure AuditRecord where
  actor : String
  action : String
  recordedAt : Instant
  metadata : List (String × Json) := []
  deriving DecidableEq

inductive RunError
  | workflowRunNotFound
  | valueError (message : String)
  deriving DecidableEq, Repr

/-- The clock readings of one operation: the application's, the audit record's, and the
two that the database takes. -/
structure Readings where
  utcnow : Instant
  recordedAt : Instant
  heartbeatAt : Instant
  leaseFrom : Instant

structure CronInput where
  scheduledFor : Instant
  timezone : String
  deriving DecidableEq, Repr

structure ListenerInput where
  subscriptionId : Uuid
  dedupeKey : String
  deriving DecidableEq, Repr

structure WorkflowRun where
  workspaceId : Option String := none
  workflowId : Uuid
  status : WorkflowRunStatus := .pending
  triggeredBy : String
  cronInput : Option CronInput := none
  listenerInput : Option ListenerInput := none
  outputPayload : Option (List (String × Json)) := none
  startedAt : Option Instant := none
  completedAt : Option Instant := none
  error : Option String := none
  createdAt : Instant
  updatedAt : Instant
  auditLog : List AuditRecord := []
  deriving DecidableEq

namespace WorkflowRun

def recordEvent (run : WorkflowRun) (c : Readings) (actor action : String)
    (metadata : List (String × Json)) : WorkflowRun :=
  { run with
    auditLog := run.auditLog ++ [⟨actor, action, c.recordedAt, metadata⟩]
    updatedAt := c.recordedAt }

variable (c : Readings)

def markStarted (actor : String) (run : WorkflowRun) : Except RunError WorkflowRun :=
  if run.status = .pending then
    .ok (recordEvent { run with status := .running, startedAt := some c.utcnow }
      c actor "run_started" [])
  else .error (.valueError "Only pending runs can be started.")

def markSucceeded (actor : String) (output : Option (List (String × Json)))
    (run : WorkflowRun) : Except RunError WorkflowRun :=
  if run.status = .running then
    .ok (recordEvent { run with
      status := .succeeded
      completedAt := some c.utcnow
      outputPayload := some (output.getD [])
      error := none } c actor "run_succeeded" [])
  else .error (.valueError "Only running runs can be marked as succeeded.")

def markFailed (actor error : String) (run : WorkflowRun) :
    Except RunError WorkflowRun :=
  if run.status = .pending ∨ run.status = .running then
    .ok (recordEvent { run with
      status := .failed
      completedAt := some c.utcnow
      error := some error } c actor "run_failed" [("error", .str error)])
  else .error (.valueError "Only pending or running runs can be marked as failed.")

def cancelledMetadata : Option String → List (String × Json)
  | some reason => if reason = "" then [] else [("reason", .str reason)]
  | none => []

def markCancelled (actor : String) (reason : Option String) (run : WorkflowRun) :
    Except RunError WorkflowRun :=
  if run.status.isTerminal then
    .error (.valueError "Cannot cancel a run that is already completed.")
  else
    .ok (recordEvent { run with
      status := .cancelled
      completedAt := some c.utcnow
      error := reason } c actor "run_cancelled" (cancelledMetadata reason))

@[simp] theorem status_recordEvent (run : WorkflowRun) (c : Readings) (actor action : String)
    (metadata : List (String × Json)) :
    (run.recordEvent c actor action metadata).status = run.status := rfl

@[simp] theorem error_recordEvent (run : WorkflowRun) (c : Readings) (actor action : String)
    (metadata : List (String × Json)) :
    (run.recordEvent c actor action metadata).error = run.error := rfl

end WorkflowRun

def workerLeaseDuration : Duration := seconds 120

def workerRecoveryGrace : Duration := seconds 180

def orphanedWorkerRunError : String := "Worker execution stopped after its heartbeat expired."

structure RunRow where
  payload : WorkflowRun
  status : WorkflowRunStatus
  createdAt : Instant
  updatedAt : Instant
  dispatchRequested : Bool := false
  enqueueConfirmed : Bool := false
  lastEnqueueAttemptAt : Option Instant := none
  workerOwnerToken : Option String := none
  workerHeartbeatAt : Option Instant := none
  workerLeaseExpiresAt : Option Instant := none
  deriving DecidableEq

namespace RunRow

def new (workflowId : Uuid) (triggeredBy actor : String) (cronInput : Option CronInput)
    (dispatchRequested : Bool) (c : Readings) : RunRow :=
  let run := WorkflowRun.recordEvent
    { workflowId := workflowId
      triggeredBy := triggeredBy
      cronInput := cronInput
      createdAt := c.utcnow
      updatedAt := c.utcnow } c actor "run_created" []
  { payload := run
    status := run.status
    createdAt := run.createdAt
    updatedAt := run.updatedAt
    dispatchRequested := dispatchRequested }

def store (row : RunRow) (run : WorkflowRun) : RunRow :=
  { row with payload := run, status := run.status, updatedAt := run.updatedAt }

def claim (ownerToken actor : String) (c : Readings) (row : RunRow) :
    Except RunError (RunRow × Option WorkflowRun) :=
  if row.payload.status = .pending then
    match row.payload.markStarted c actor with
    | .error e => .error e
    | .ok run => .ok ({ row.store run with
        workerOwnerToken := some ownerToken
        workerHeartbeatAt := some c.heartbeatAt
        workerLeaseExpiresAt := some (c.leaseFrom + workerLeaseDuration) }, some run)
  else .ok (row, none)

def disowned (row : RunRow) : RunRow :=
  { row with workerOwnerToken := none, workerLeaseExpiresAt := none }

def update (updater : WorkflowRun → Except RunError WorkflowRun) (ownerToken : Option String)
    (row : RunRow) : Except RunError (RunRow × WorkflowRun) :=
  if ownerToken ≠ none ∧ row.workerOwnerToken ≠ ownerToken then
    .error (.valueError "Worker no longer owns this run.")
  else match updater row.payload with
    | .error e => .error e
    | .ok run => .ok (if run.status.isTerminal then (row.store run).disowned else row.store run, run)

def heldBy (ownerToken : String) (row : RunRow) : Bool :=
  decide (row.status = .running ∧ row.workerOwnerToken = some ownerToken)

def renew (ownerToken : String) (c : Readings) (row : RunRow) : RunRow × Bool :=
  if row.heldBy ownerToken then
    ({ row with
      workerHeartbeatAt := some c.heartbeatAt
      workerLeaseExpiresAt := some (c.leaseFrom + workerLeaseDuration) }, true)
  else (row, false)

/-- A lease that is absent is never expired: the comparison with `NULL` does not hold. -/
def leaseExpiredBy (deadline : Instant) (row : RunRow) : Bool :=
  match row.workerLeaseExpiresAt with
  | some expires => decide (expires ≤ deadline)
  | none => false

def isOrphaned (now : Instant) (row : RunRow) : Bool :=
  decide (row.status = .running) && row.workerOwnerToken.isSome &&
    row.leaseExpiredBy (now - workerRecoveryGrace)

def failOrphan (c : Readings) (row : RunRow) : Except RunError (RunRow × WorkflowRun) :=
  match row.payload.markFailed c "worker_reconciler" orphanedWorkerRunError with
  | .error e => .error e
  | .ok run => .ok ((row.store run).disowned, run)

def isStalePending (now : Instant) (minAge retryInterval : Duration) (row : RunRow) : Bool :=
  decide (row.status = .pending) && row.dispatchRequested && !row.enqueueConfirmed &&
    decide (row.createdAt ≤ now - minAge) &&
    match row.lastEnqueueAttemptAt with
    | none => true
    | some last => decide (last ≤ now - retryInterval)

end RunRow

abbrev RunTable := Dict Uuid RunRow

namespace RunTable

def onRow {α : Type} (t : RunTable) (r : Uuid) (f : RunRow → Except RunError (RunRow × α)) :
    RunTable × Except RunError α :=
  match t.get? r with
  | none => (t, .error .workflowRunNotFound)
  | some row => match f row with
    | .error e => (t, .error e)
    | .ok (row, result) => (t.set r row, .ok result)

variable (t : RunTable)

/-- A repeated primary key is refused. -/
def createRun (r workflowId : Uuid) (triggeredBy actor : String)
    (dispatchRequested : Bool) (c : Readings) : RunTable :=
  match t.get? r with
  | some _ => t
  | none => t.set r (.new workflowId triggeredBy actor none dispatchRequested c)

def claimWorkerRun (r : Uuid) (ownerToken actor : String) (c : Readings) :
    RunTable × Except RunError (Option WorkflowRun) := t.onRow r (RunRow.claim ownerToken actor c)

def markWorkerRunSucceeded (r : Uuid) (ownerToken actor : String)
    (output : Option (List (String × Json))) (c : Readings) :
    RunTable × Except RunError WorkflowRun :=
  t.onRow r (RunRow.update (·.markSucceeded c actor output) (some ownerToken))

def markWorkerRunFailed (r : Uuid) (ownerToken actor error : String)
    (c : Readings) : RunTable × Except RunError WorkflowRun :=
  t.onRow r (RunRow.update (·.markFailed c actor error) (some ownerToken))

/-- The status changes that name no owner. -/
inductive Mark
  | started
  | succeeded (output : Option (List (String × Json)))
  | failed (error : String)

def Mark.apply (c : Readings) (actor : String) : Mark → WorkflowRun → Except RunError WorkflowRun
  | started => (·.markStarted c actor)
  | succeeded output => (·.markSucceeded c actor output)
  | failed error => (·.markFailed c actor error)

/-- `mark_run_started`, `mark_run_succeeded` and `mark_run_failed` -/
def markRun (r : Uuid) (actor : String) (m : Mark) (c : Readings) :
    RunTable × Except RunError WorkflowRun := t.onRow r (RunRow.update (m.apply c actor) none)

def markRunCancelled (r : Uuid) (actor : String) (reason : Option String)
    (c : Readings) : RunTable × Except RunError WorkflowRun :=
  t.onRow r (RunRow.update (·.markCancelled c actor reason) none)

def renewWorkerRunLease (r : Uuid) (ownerToken : String) (c : Readings) :
    RunTable × Bool :=
  match t.get? r with
  | none => (t, false)
  | some row => (t.set r (row.renew ownerToken c).1, (row.renew ownerToken c).2)

/-- The rows a `LIMIT … FOR UPDATE SKIP LOCKED` query hands out: the unlocked candidates
that match, in the order the database visits them. -/
def handedOut (p : RunRow → Bool) (candidates : List Uuid) (limit : Nat) :
    List Uuid := (candidates.dedup.filter (fun r => (t.get? r).any p)).take limit

def failOrphans (c : Readings) : List Uuid → RunTable → Except RunError RunTable
  | [], t => .ok t
  | r :: rs, t => match t.get? r with
    | none => failOrphans c rs t
    | some row => match row.failOrphan c with
      | .error e => .error e
      | .ok (row, _) => failOrphans c rs (t.set r row)

def failOrphanedWorkerRuns (limit : Nat) (candidates : List Uuid)
    (now : Instant) (c : Readings) : RunTable × Except RunError Unit :=
  match failOrphans c (t.handedOut (RunRow.isOrphaned now) candidates limit) t with
  | .error e => (t, .error e)
  | .ok t => (t, .ok ())

def claimStalePendingRuns (minAge retryInterval : Duration) (limit : Nat)
    (candidates : List Uuid) (now : Instant) : RunTable :=
  let claimed := t.handedOut (RunRow.isStalePending now minAge retryInterval) candidates limit
  t.mapValues (fun r row =>
    if r ∈ claimed then { row with lastEnqueueAttemptAt := some now } else row)

def markRunEnqueued (r : Uuid) : RunTable :=
  t.mapValues (fun r' row => if r' = r then { row with enqueueConfirmed := true } else row)

end RunTable

inductive RunOp
  | createRun (r workflowId : Uuid) (triggeredBy actor : String) (dispatchRequested : Bool)
      (c : Readings)
  | claimWorkerRun (r : Uuid) (ownerToken actor : String) (c : Readings)
  | renewWorkerRunLease (r : Uuid) (ownerToken : String) (c : Readings)
  | markWorkerRunSucceeded (r : Uuid) (ownerToken actor : String)
      (output : Option (List (String × Json))) (c : Readings)
  | markWorkerRunFailed (r : Uuid) (ownerToken actor error : String) (c : Readings)
  | failOrphanedWorkerRuns (limit : Nat) (candidates : List Uuid) (now : Instant) (c : Readings)
  | markRunCancelled (r : Uuid) (actor : String) (reason : Option String) (c : Readings)
  | claimStalePendingRuns (minAge retryInterval : Duration) (limit : Nat)
      (candidates : List Uuid) (now : Instant)
  | markRunEnqueued (r : Uuid)

def RunOp.creates : RunOp → Bool
  | createRun .. => true
  | _ => false

def RunTable.step (t : RunTable) : RunOp → RunTable
  | .createRun r workflowId triggeredBy actor dispatchRequested c =>
    t.createRun r workflowId triggeredBy actor dispatchRequested c
  | .claimWorkerRun r ownerToken actor c => (t.claimWorkerRun r ownerToken actor c).1
  | .renewWorkerRunLease r ownerToken c => (t.renewWorkerRunLease r ownerToken c).1
  | .markWorkerRunSucceeded r ownerToken actor output c =>
    (t.markWorkerRunSucceeded r ownerToken actor output c).1
  | .markWorkerRunFailed r ownerToken actor error c =>
    (t.markWorkerRunFailed r ownerToken actor error c).1
  | .failOrphanedWorkerRuns limit candidates now c =>
    (t.failOrphanedWorkerRuns limit candidates now c).1
  | .markRunCancelled r actor reason c => (t.markRunCancelled r actor reason c).1
  | .claimStalePendingRuns minAge retryInterval limit candidates now =>
    t.claimStalePendingRuns minAge retryInterval limit candidates now
  | .markRunEnqueued r => t.markRunEnqueued r

end Orcheo.Repository
