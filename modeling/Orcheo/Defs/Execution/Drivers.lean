import Orcheo.Defs.Repository.Runs
import Orcheo.Lib.Effect

/-! The drivers that execute a workflow and record it in the history, from the start of the
record on. What every await meets is given: that it goes through, or what it raises. -/

namespace Orcheo.Execution

open Lib (Effect)
open Lib.Effect
open Repository (WorkflowRunStatus)

/-- What comes out of an await or of the graph. -/
inductive Raised
  /-- an `asyncio.CancelledError` -/
  | cancelled (reason : String)
  /-- a `RunHistoryError` -/
  | historyError (message : String)
  /-- another `Exception` -/
  | error (message : String)
  /-- a `BaseException` that no handler names -/
  | exit
  deriving DecidableEq, Repr

/-- `except Exception` -/
def Raised.isException : Raised → Bool
  | .historyError _ => true
  | .error _ => true
  | _ => false

abbrev Signal := Option Raised

inductive HistoryStatus
  | running | completed | error | cancelled
  deriving DecidableEq, Repr

/-- A `RunHistoryRecord`, and the run record that the call has marked started. -/
structure Record where
  status : HistoryStatus := .running
  error : Option String := none
  steps : List Json := []
  run : Option WorkflowRunStatus := none
  written : List HistoryStatus := []
  ended : Bool := false

namespace Record

variable (s : Record)

def appendStep (payload : Json) : Record := { s with steps := s.steps ++ [payload] }

def mark (status : HistoryStatus) (error : Option String) : Record :=
  { s with status := status, error := error, written := s.written ++ [status] }

def markCompleted : Record := s.mark .completed none

def markFailed (error : String) : Record := s.mark .error (some error)

def markCancelled (reason : String) : Record := s.mark .cancelled (some reason)

def markRun (status : WorkflowRunStatus) : Record := { s with run := s.run.map fun _ => status }

end Record

abbrev Driver := Effect Record Raised

/-- A call of the history store or the repository, which itself succeeds; a cancellation may
reach it before or after its effect. -/
inductive StoreCall
  | done
  | cancelled (reason : String) (written : Bool)
  deriving DecidableEq, Repr

def StoreCall.signal : StoreCall → Signal
  | .done => none
  | .cancelled reason _ => some (.cancelled reason)

def StoreCall.takes : StoreCall → Bool
  | .done => true
  | .cancelled _ written => written

def store (call : StoreCall) (g : Record → Record) : Driver :=
  write (if call.takes then g else id) >> await call.signal

/-- What only logs an `Exception`. -/
def logged (signal : Signal) : Driver :=
  try_ (await signal) (fun raised => if raised.isException then skip else raise raised)

inductive Sent
  | delivered
  | disconnected
  /-- the `RuntimeError` of a socket that is closed -/
  | closed
  | failed (raised : Raised)
  deriving DecidableEq, Repr

def Sent.signal : Sent → Signal
  | .failed raised => some raised
  | _ => none

def safeSendJson (sent : Sent) : Driver := await sent.signal

structure TraceUpdate where
  snapshot : Option String := none
  sent : Sent := .delivered

def emitTraceUpdate (update : TraceUpdate) : Driver :=
  await (update.snapshot.map .cancelled) >> safeSendJson update.sent

structure Forwarded where
  sent : Sent := .delivered
  trace : TraceUpdate := {}

def forward (f : Forwarded) : Driver := safeSendJson f.sent >> emitTraceUpdate f.trace

structure Update (F : Type) where
  payload : Json
  appended : StoreCall := .done
  forwarded : F

structure GraphRun (F : Type) where
  updates : List (Update F) := []
  ending : Signal := none

def follow {F : Type} (handOn : F → Driver) (run : GraphRun F) : Driver :=
  each (fun update => store update.appended (·.appendStep update.payload) >>
    handOn update.forwarded) run.updates >>
  await run.ending >>
  write ({ · with ended := true })

structure Recording where
  appended : StoreCall := .done
  marked : StoreCall := .done
  trace : TraceUpdate := {}

def recordCancellation (reason : String) (r : Recording) (websocket : Bool) : Driver :=
  store r.appended (·.appendStep (.obj [("status", .str "cancelled"), ("reason", .str reason)])) >>
  store r.marked (·.markCancelled reason) >>
  if websocket then emitTraceUpdate r.trace else skip

/-- `_persist_failure_history` and the trace after it -/
def recordFailure (message : String) (r : Recording) (websocket : Bool) : Driver :=
  store r.appended (·.appendStep (.obj [("status", .str "error"), ("error", .str message)])) >>
  store r.marked (·.markFailed message) >>
  if websocket then emitTraceUpdate r.trace else skip

/-- `str(exc) or default` -/
def reasonOr (reason default_ : String) : String := if reason = "" then default_ else reason

structure Completion where
  appended : StoreCall := .done
  marked : StoreCall := .done
  sent : Sent := .delivered
  trace : TraceUpdate := {}

def recordCompletion (c : Completion) : Driver :=
  store c.appended (·.appendStep (.obj [("status", .str "completed")])) >>
  store c.marked (·.markCompleted)

structure StreamedRun where
  graph : GraphRun Forwarded := {}
  /-- the exit of `aclosing` -/
  close : Signal := none
  finalState : Signal := none
  recording : Recording := {}

def streamWorkflowUpdates (run : StreamedRun) (websocket : Bool) : Driver :=
  finally_ (follow (if websocket then forward else fun _ => skip) run.graph) (await run.close) >>
  await run.finalState

def runWorkflowStream (run : StreamedRun) (websocket : Bool) : Driver :=
  try_ (streamWorkflowUpdates run websocket) (fun raised => match raised with
    | .cancelled reason =>
      recordCancellation (reasonOr reason "Workflow execution cancelled") run.recording
        websocket >> raise raised
    -- only reported
    | .historyError _ => raise raised
    | .error message => recordFailure message run.recording websocket >> raise raised
    | .exit => raise raised)

structure GraphSetup where
  openCheckpointer : Signal := none
  openStore : Signal := none
  build : Signal := none
  compile : Signal := none
  initialState : Signal := none
  discard : Signal := none
  closeStore : Signal := none
  closeCheckpointer : Signal := none

/-- `execute_workflow` and `execute_workflow_recorded` -/
structure WorkflowCall where
  root : TraceUpdate := {}
  setup : GraphSetup := {}
  run : StreamedRun := {}
  completion : Completion := {}
  closeBrowser : Signal := none

variable (setup : GraphSetup)

def executeTrustedWorkflowInWorker (run : StreamedRun) : Driver :=
  within (await setup.openCheckpointer) (await setup.closeCheckpointer) <|
    within (await setup.openStore) (await setup.closeStore)
      (await setup.build >> await setup.compile) >>
    await setup.initialState >>
    finally_ (runWorkflowStream run true) (logged setup.discard)

def executeWorkflow (call : WorkflowCall) : Driver :=
  finally_
    (emitTraceUpdate call.root >>
      executeTrustedWorkflowInWorker call.setup call.run >>
      recordCompletion call.completion >>
      safeSendJson call.completion.sent >>
      emitTraceUpdate call.completion.trace)
    (await call.closeBrowser)

def executeWorkflowRecorded (call : WorkflowCall) : Driver :=
  finally_
    (within (await call.setup.openCheckpointer) (await call.setup.closeCheckpointer)
        (within (await call.setup.openStore) (await call.setup.closeStore)
          (await call.setup.build >> await call.setup.compile >> await call.setup.initialState >>
            finally_ (runWorkflowStream call.run false) (logged call.setup.discard))) >>
      recordCompletion call.completion)
    (await call.closeBrowser)

structure AgentensorRun where
  construct : Signal := none
  node : GraphRun Forwarded := {}
  result : Update Forwarded := { payload := .null, forwarded := {} }
  recording : Recording := {}

def runAgentensorNode (run : AgentensorRun) : Driver :=
  follow forward run.node >>
  store run.result.appended (·.appendStep run.result.payload) >>
  forward run.result.forwarded

/-- The handlers of both nodes, which differ in the reason they give. -/
def recordAgentensorOutcome (run : AgentensorRun) (default_ : String) (raised : Raised) : Driver :=
  match raised with
  | .cancelled reason =>
    recordCancellation (reasonOr reason default_) run.recording true >> raise raised
  | .historyError message => recordFailure message run.recording true >> raise raised
  | .error message => recordFailure message run.recording true >> raise raised
  | .exit => raise raised

structure AgentensorCall where
  root : TraceUpdate := {}
  setup : GraphSetup := {}
  run : AgentensorRun := {}
  completion : Completion := {}
  closeBrowser : Signal := none

def runEvaluationNode (run : AgentensorRun) : Driver :=
  finally_
    (try_
      (within (await setup.openCheckpointer) (await setup.closeCheckpointer) <|
        within (await setup.openStore) (await setup.closeStore)
          (await setup.build >> await setup.compile) >>
        await run.construct >>
        await setup.initialState >>
        runAgentensorNode run)
      (recordAgentensorOutcome run "Evaluation cancelled"))
    (logged setup.discard)

def runTrainingNode (run : AgentensorRun) : Driver :=
  within (await setup.openCheckpointer) (await setup.closeCheckpointer) <|
    within (await setup.openStore) (await setup.closeStore)
      (await setup.build >> await setup.compile) >>
    await run.construct >>
    await setup.initialState >>
    finally_
      (try_ (runAgentensorNode run) (recordAgentensorOutcome run "Training cancelled"))
      (logged setup.discard)

def executeAgentensor (runNode : GraphSetup → AgentensorRun → Driver) (call : AgentensorCall) :
    Driver :=
  finally_
    (emitTraceUpdate call.root >>
      runNode call.setup call.run >>
      recordCompletion call.completion >>
      safeSendJson call.completion.sent >>
      emitTraceUpdate call.completion.trace)
    (await call.closeBrowser)

def executeWorkflowEvaluation : AgentensorCall → Driver := executeAgentensor runEvaluationNode

def executeWorkflowTraining : AgentensorCall → Driver := executeAgentensor runTrainingNode

structure TurnRecording where
  appended : StoreCall := .done
  marked : StoreCall := .done
  runMarked : StoreCall := .done

structure ChatCall where
  /-- whether the run record could be created and started -/
  recorded : Bool := true
  openCheckpointer : Signal := none
  openStore : Signal := none
  build : Signal := none
  compile : Signal := none
  /-- the read of pending interrupts, and whether there are some to resume -/
  pendingInterrupts : Signal := none
  resumes : Bool := false
  initialState : Signal := none
  /-- whether progress is asked for, so that the updates are streamed -/
  streaming : Bool := false
  messageCount : Signal := none
  graph : GraphRun Signal := {}
  closeStream : Signal := none
  snapshot : Signal := none
  interrupted : Bool := false
  threadExists : Option Signal := none
  release : Signal := none
  closeStore : Signal := none
  closeCheckpointer : Signal := none
  /-- `_build_reply_state` -/
  reply : Signal := none
  failure : TurnRecording := {}
  success : TurnRecording := {}

variable (call : ChatCall)

def releaseChatkitCheckpoints : Driver :=
  logged (call.threadExists.getD none) >> logged call.release

def runChatGraph : Driver :=
  logged call.messageCount >>
  if call.streaming then
    finally_ (follow await call.graph) (await call.closeStream) >> await call.snapshot
  else
    follow await { ending := call.graph.ending } >>
    if call.interrupted then await call.snapshot else skip

def executeGraph : Driver :=
  within (await call.openCheckpointer) (await call.closeCheckpointer) <|
    within (await call.openStore) (await call.closeStore) <|
      await call.build >>
      await call.compile >>
      logged call.pendingInterrupts >>
      (if call.resumes then skip else await call.initialState) >>
      finally_ (runChatGraph call) (releaseChatkitCheckpoints call)

def markRunSucceeded : Driver :=
  if call.recorded then store call.success.runMarked (·.markRun .succeeded) else skip

def recordRunFailure (message : String) : Driver :=
  store call.failure.appended
    (·.appendStep (.obj [("status", .str "error"), ("error", .str message)])) >>
  store call.failure.marked (·.markFailed message) >>
  if call.recorded then store call.failure.runMarked (·.markRun .failed) else skip

/-- Only an `Exception` is recorded. -/
def WorkflowExecutor.run : Driver :=
  try_ (executeGraph call >> await call.reply) (fun raised => match raised with
    | .historyError message => recordRunFailure call message >> raise raised
    | .error message => recordRunFailure call message >> raise raised
    | _ => raise raised) >>
  store call.success.appended (·.appendStep (.obj [("status", .str "completed")])) >>
  store call.success.marked (·.markCompleted) >>
  markRunSucceeded call

end Orcheo.Execution
