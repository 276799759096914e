import Orcheo.Defs.Execution.Drivers

/-! When the record of an execution is closed, for each of the drivers: what has to hold of
the awaits that no handler covers, and of the calls that a handler makes. -/

namespace Orcheo.Execution

open Lib (Effect)
open Lib.Effect
open Repository (WorkflowRunStatus)

def HistoryStatus.runStatus : HistoryStatus → WorkflowRunStatus
  | .running => .running
  | .completed => .succeeded
  | .error => .failed
  | .cancelled => .cancelled

theorem HistoryStatus.eq_running {status : HistoryStatus} (h : status.runStatus = .running) :
    status = .running := by
  cases status with
  | running => rfl
  | completed => cases h
  | error => cases h
  | cancelled => cases h

structure Record.Closed (s : Record) : Prop where
  left : s.status ≠ .running
  completed : s.status = .completed → s.ended = true
  once : s.written.length = 1
  run : ∀ status, s.run = some status → status = s.status.runStatus

/-- What `logged` lets through -/
def escapes (signal : Signal) : Signal := signal.filter (!·.isException)

namespace TraceUpdate

def signal (update : TraceUpdate) : Signal := (update.snapshot.map .cancelled).or update.sent.signal

end TraceUpdate

def Forwarded.signal (f : Forwarded) : Signal := f.sent.signal.or f.trace.signal

def Update.signal {F : Type} (handedOn : F → Signal) (update : Update F) : Signal :=
  update.appended.signal.or (handedOn update.forwarded)

def GraphRun.signal {F : Type} (handedOn : F → Signal) (run : GraphRun F) : Signal :=
  (run.updates.foldr (fun update r => (update.signal handedOn).or r) none).or run.ending

namespace StreamedRun

def signal (run : StreamedRun) (websocket : Bool) : Signal :=
  (run.close.or (run.graph.signal (if websocket then Forwarded.signal else fun _ => none))).or
    run.finalState

end StreamedRun

variable (setup : GraphSetup)

def GraphSetup.compiled : Signal :=
  setup.openStore.or (setup.closeStore.or (setup.build.or setup.compile))

variable (run : AgentensorRun)

def AgentensorRun.signal : Signal :=
  (run.node.signal Forwarded.signal).or (run.result.signal Forwarded.signal)

def evaluationSignal : Signal :=
  setup.openCheckpointer.or (setup.closeCheckpointer.or
    (setup.compiled.or (run.construct.or (setup.initialState.or run.signal))))

namespace ChatCall

def releaseSignal (call : ChatCall) : Signal :=
  (escapes (call.threadExists.getD none)).or (escapes call.release)

def runSignal (call : ChatCall) : Signal :=
  (escapes call.messageCount).or <|
    if call.streaming then (call.closeStream.or (call.graph.signal id)).or call.snapshot
    else (GraphRun.signal id { ending := call.graph.ending }).or
      (if call.interrupted then call.snapshot else none)

def graphSignal (call : ChatCall) : Signal :=
  call.openCheckpointer.or <| call.closeCheckpointer.or <|
    call.openStore.or <| call.closeStore.or <|
      call.build.or <| call.compile.or <| (escapes call.pendingInterrupts).or <|
        (if call.resumes then none else call.initialState).or <|
          call.releaseSignal.or call.runSignal

end ChatCall

/-- The calls that close the record: the status is written, and no cancellation comes between
the step and the status. -/
def Recording.records (r : Recording) : Bool := r.appended.signal.isNone && r.marked.takes

def Completion.records (c : Completion) : Bool := c.appended.signal.isNone && c.marked.takes

def TurnRecording.records (r : TurnRecording) (recorded : Bool) : Bool :=
  if recorded then r.appended.signal.isNone && r.marked.signal.isNone && r.runMarked.takes
  else r.appended.signal.isNone && r.marked.takes

def StreamedRun.handles (run : StreamedRun) : Raised → Bool
  | .cancelled _ => run.recording.records
  | .error _ => run.recording.records
  | _ => false

def AgentensorRun.handles : Raised → Bool
  | .exit => false
  | _ => run.recording.records

variable (call : ChatCall)

def ChatCall.handles : Raised → Bool
  | .historyError _ => call.failure.records call.recorded
  | .error _ => call.failure.records call.recorded
  | _ => false

/-- Nothing is raised before the stream, and the stream is handled or followed by completion. -/
def WorkflowCall.closes (call : WorkflowCall) : Bool :=
  call.root.signal.isNone && call.setup.openCheckpointer.isNone &&
  call.setup.compiled.isNone && call.setup.initialState.isNone &&
  (call.run.signal true).elim
    ((escapes call.setup.discard).isNone && call.setup.closeCheckpointer.isNone &&
      call.completion.records)
    call.run.handles

def WorkflowCall.closesRecorded (call : WorkflowCall) : Bool :=
  call.setup.openCheckpointer.isNone && call.setup.openStore.isNone &&
  call.setup.build.isNone && call.setup.compile.isNone && call.setup.initialState.isNone &&
  (call.run.signal false).elim
    ((escapes call.setup.discard).isNone && call.setup.closeStore.isNone &&
      call.setup.closeCheckpointer.isNone && call.completion.records)
    call.run.handles

def AgentensorCall.closesEvaluation (call : AgentensorCall) : Bool :=
  call.root.signal.isNone &&
  (evaluationSignal call.setup call.run).elim
    ((escapes call.setup.discard).isNone && call.completion.records)
    call.run.handles

def AgentensorCall.closesTraining (call : AgentensorCall) : Bool :=
  call.root.signal.isNone && call.setup.openCheckpointer.isNone &&
  call.setup.compiled.isNone && call.run.construct.isNone && call.setup.initialState.isNone &&
  call.run.signal.elim
    ((escapes call.setup.discard).isNone && call.setup.closeCheckpointer.isNone &&
      call.completion.records)
    call.run.handles

def ChatCall.closes : Bool :=
  (call.graphSignal.or call.reply).elim (call.success.records call.recorded) call.handles

def ChatCall.started : Record :=
  { run := if call.recorded then some .running else none }

theorem quiet_logged (signal : Signal) : Quiet (logged signal) (escapes signal) := by
  intro s
  rcases signal with _ | raised
  · rfl
  · cases raised <;> rfl

theorem quiet_safeSendJson (sent : Sent) : Quiet (safeSendJson sent) sent.signal :=
  quiet_await sent.signal

theorem quiet_emitTraceUpdate (update : TraceUpdate) :
    Quiet (emitTraceUpdate update) update.signal :=
  (quiet_await _).seq (quiet_safeSendJson update.sent)

theorem quiet_forward (f : Forwarded) : Quiet (forward f) f.signal :=
  (quiet_safeSendJson f.sent).seq (quiet_emitTraceUpdate f.trace)

theorem quiet_compile :
    Quiet (S := Record) (within (await setup.openStore) (await setup.closeStore)
      (await setup.build >> await setup.compile)) setup.compiled :=
  (quiet_await _).within (quiet_await _) ((quiet_await _).seq (quiet_await _))

theorem quiet_releaseChatkitCheckpoints :
    Quiet (releaseChatkitCheckpoints call) call.releaseSignal :=
  (quiet_logged _).seq (quiet_logged _)

structure Keeps (s t : Record) : Prop where
  status : t.status = s.status
  written : t.written = s.written
  run : t.run = s.run
  ended : s.ended = true → t.ended = true

theorem Keeps.refl (s : Record) : Keeps s s := ⟨rfl, rfl, rfl, id⟩

theorem Keeps.trans (s t u : Record) (h : Keeps s t) (k : Keeps t u) : Keeps s u where
  status := k.status.trans h.status
  written := k.written.trans h.written
  run := k.run.trans h.run
  ended := fun ended => k.ended (h.ended ended)

theorem Keeps.appendStep (s : Record) (payload : Json) : Keeps s (s.appendStep payload) :=
  ⟨rfl, rfl, rfl, id⟩

theorem Keeps.ends (s t : Record) (h : Keeps s t) (ended : s.ended = true) : t.ended = true :=
  h.ended ended

abbrev Leaves (x : Driver) (signal : Signal) : Prop := Gives Keeps (fun _ => True) x signal

abbrev Ends (x : Driver) (signal : Signal) : Prop := Gives Keeps (·.ended = true) x signal

theorem leaves_append (call : StoreCall) (payload : Json) :
    Leaves (store call (·.appendStep payload)) call.signal := by
  intro s
  cases call with
  | done => exact ⟨s.appendStep payload, rfl, .appendStep s payload, fun _ => trivial⟩
  | cancelled reason written =>
    cases written
    · exact ⟨s, rfl, .refl s, fun _ => trivial⟩
    · exact ⟨s.appendStep payload, rfl, .appendStep s payload, fun _ => trivial⟩

section Follow

variable {F : Type} {handOn : F → Driver} {handedOn : F → Signal}

theorem leaves_update (quiet : ∀ f, Quiet (handOn f) (handedOn f)) (update : Update F) :
    Leaves (store update.appended (·.appendStep update.payload) >> handOn update.forwarded)
      (update.signal handedOn) :=
  (leaves_append _ _).seq Keeps.trans ((quiet _).gives Keeps.refl)

theorem ends_follow (quiet : ∀ f, Quiet (handOn f) (handedOn f)) (run : GraphRun F) :
    Ends (follow handOn run) (run.signal handedOn) := by
  have updates := gives_each Keeps.refl Keeps.trans (leaves_update quiet) run.updates
  have ending : Ends (write ({ · with ended := true }) : Driver) none :=
    gives_write (fun _ => ⟨rfl, rfl, rfl, fun _ => rfl⟩) fun _ => rfl
  have all := updates.seq Keeps.trans
    (((quiet_await run.ending).gives Keeps.refl).seq Keeps.trans ending)
  rwa [Option.or_none] at all

end Follow

theorem ends_streamWorkflowUpdates (run : StreamedRun) (websocket : Bool) :
    Ends (streamWorkflowUpdates run websocket) (run.signal websocket) := by
  have quiet : ∀ f, Quiet ((if websocket then forward else fun _ => skip) f)
      ((if websocket then Forwarded.signal else fun _ => none) f) := by
    cases websocket
    · exact fun _ => quiet_skip
    · exact quiet_forward
  exact ((ends_follow quiet run.graph).finally_ (quiet_await _)).seq_stable Keeps.trans Keeps.ends
    ((quiet_await _).gives Keeps.refl)

theorem ends_runAgentensorNode : Ends (runAgentensorNode run) run.signal :=
  (ends_follow quiet_forward run.node).seq_stable Keeps.trans Keeps.ends
    (leaves_update quiet_forward run.result)

theorem ends_evaluation :
    Ends (within (await setup.openCheckpointer) (await setup.closeCheckpointer) <|
        within (await setup.openStore) (await setup.closeStore)
          (await setup.build >> await setup.compile) >>
        await run.construct >>
        await setup.initialState >>
        runAgentensorNode run) (evaluationSignal setup run) := by
  have construct := (quiet_await (S := Record) run.construct).gives Keeps.refl
  have initialState := (quiet_await (S := Record) setup.initialState).gives Keeps.refl
  have node := initialState.seq Keeps.trans (ends_runAgentensorNode run)
  have made := ((quiet_compile setup).gives Keeps.refl).seq Keeps.trans
    (construct.seq Keeps.trans node)
  exact made.within Keeps.refl Keeps.trans (quiet_await _) (quiet_await _)

theorem ends_runChatGraph : Ends (runChatGraph call) call.runSignal := by
  have counted := (quiet_logged call.messageCount).gives Keeps.refl
  apply counted.seq Keeps.trans
  have snapshot := (quiet_await (S := Record) call.snapshot).gives Keeps.refl
  cases call.streaming with
  | true =>
    have streamed := (ends_follow quiet_await call.graph).finally_ (quiet_await call.closeStream)
    exact streamed.seq_stable Keeps.trans Keeps.ends snapshot
  | false =>
    have invoked := ends_follow quiet_await { ending := call.graph.ending }
    cases call.interrupted with
    | true => exact invoked.seq_stable Keeps.trans Keeps.ends snapshot
    | false => exact invoked.seq_stable Keeps.trans Keeps.ends (quiet_skip.gives Keeps.refl)

theorem ends_executeGraph : Ends (executeGraph call) call.graphSignal := by
  have initialState : Quiet (S := Record) (if call.resumes then skip else await call.initialState)
      (if call.resumes then none else call.initialState) := by
    cases call.resumes
    · exact quiet_await _
    · exact quiet_skip
  have build := (quiet_await (S := Record) call.build).gives Keeps.refl
  have compile := (quiet_await (S := Record) call.compile).gives Keeps.refl
  have pending := (quiet_logged call.pendingInterrupts).gives Keeps.refl
  have run := (ends_runChatGraph call).finally_ (quiet_releaseChatkitCheckpoints call)
  have payload := (initialState.gives Keeps.refl).seq Keeps.trans run
  have body := build.seq Keeps.trans (compile.seq Keeps.trans (pending.seq Keeps.trans payload))
  have inStore := body.within Keeps.refl Keeps.trans (quiet_await call.openStore)
    (quiet_await call.closeStore)
  exact inStore.within Keeps.refl Keeps.trans (quiet_await call.openCheckpointer)
    (quiet_await call.closeCheckpointer)

structure Running (run : Option WorkflowRunStatus) (s : Record) : Prop where
  status : s.status = .running
  written : s.written = []
  run : s.run = run

namespace Running

variable {run : Option WorkflowRunStatus} {s t : Record}

theorem keeps (running : Running run s) (h : Keeps s t) : Running run t where
  status := h.status.trans running.status
  written := h.written.trans running.written
  run := h.run.trans running.run

theorem appendStep (running : Running run s) (payload : Json) :
    Running run (s.appendStep payload) := running.keeps (.appendStep s payload)

theorem not_closed (running : Running run s) : ¬ s.Closed := fun closed =>
  closed.left running.status

end Running

theorem StoreCall.takes_of_signal {call : StoreCall} (h : call.signal = none) :
    call.takes = true := by
  cases call with
  | done => rfl
  | cancelled reason written => cases h

theorem wp_store {call : StoreCall} {g : Record → Record} {Q : Option Raised → Record → Prop}
    {s : Record} : wp (store call g) Q s ↔ Q call.signal (if call.takes then g s else s) := by
  unfold store
  cases call with
  | done => rfl
  | cancelled reason written => cases written <;> rfl

abbrev closing : Option Raised → Record → Prop := fun _ t => t.Closed

section Marks

variable {run : Option WorkflowRunStatus} {s : Record} {call : StoreCall}

theorem wp_quiet_after {x rest : Driver} {signal : Signal} (quiet : Quiet rest signal) :
    wp (x >> rest) closing s ↔ wp x closing s := by
  rw [wp_seq]
  unfold wp
  dsimp only
  split
  · rw [quiet]
  · rfl

theorem wp_append (running : Running run s) (payload : Json) (rest : Driver) :
    wp (store call (·.appendStep payload) >> rest) closing s ↔
      call.signal = none ∧ wp rest closing (s.appendStep payload) := by
  rw [wp_seq, wp_store]
  by_cases h : call.signal = none
  · simp [h, StoreCall.takes_of_signal h]
  · simp only [h, if_false, false_and, iff_false]
    split
    · exact (running.appendStep payload).not_closed
    · exact running.not_closed

variable {status : HistoryStatus}

theorem Record.mark_closed (running : Running run s) {error : Option String}
    (left : status ≠ .running) (completed : status = .completed → s.ended = true) :
    (s.mark status error).Closed ↔ ∀ r, run = some r → r = status.runStatus := by
  constructor
  · intro closed r h
    exact closed.run r (running.run.trans h)
  · intro agrees
    exact ⟨left, completed, by simp [Record.mark, running.written], fun r h =>
      agrees r (running.run.symm.trans h)⟩

theorem Record.markRun_closed (running : Running (some .running) s) {error : Option String}
    (left : status ≠ .running) (completed : status = .completed → s.ended = true) :
    ((s.mark status error).markRun status.runStatus).Closed := by
  refine ⟨left, completed, by simp [Record.mark, Record.markRun, running.written], ?_⟩
  intro r h
  have marked : some status.runStatus = some r := by
    simpa [Record.mark, Record.markRun, running.run] using h
  exact (Option.some.inj marked).symm

theorem wp_mark (running : Running none s) (error : Option String)
    (left : status ≠ .running) (completed : status = .completed → s.ended = true) :
    wp (store call (·.mark status error)) closing s ↔ call.takes = true := by
  rw [wp_store]
  cases call.takes with
  | false => simpa using running.not_closed
  | true => simpa using (Record.mark_closed running left completed).mpr nofun

theorem wp_mark_run (running : Running (some .running) s)
    (error : Option String) (left : status ≠ .running)
    (completed : status = .completed → s.ended = true) (runCall : StoreCall) :
    wp (store call (·.mark status error) >> store runCall (·.markRun status.runStatus)) closing s ↔
      call.signal = none ∧ runCall.takes = true := by
  have open_ : ¬ (s.mark status error).Closed := by
    intro closed
    have runs := (Record.mark_closed running left completed).mp closed _ rfl
    exact left (HistoryStatus.eq_running runs.symm)
  rw [wp_seq, wp_store]
  by_cases h : call.signal = none
  · simp only [h, if_true, true_and, StoreCall.takes_of_signal h, wp_store]
    cases runCall.takes with
    | false => simpa using open_
    | true => simpa using Record.markRun_closed running left completed
  · simp only [h, if_false, false_and, iff_false]
    split
    · exact open_
    · exact running.not_closed

end Marks

def Settles (run : Option WorkflowRunStatus) (x : Driver) (closed : Bool) : Prop :=
  ∀ s, Running run s → (∃ e, (x s).1 = some e) ∧ (wp x closing s ↔ closed = true)

/-- Where the computation raises, the record is closed or not; where it ends normally, the
outcome is left to what follows, and `closes` says how the whole depends on it. -/
def Handles (run : Option WorkflowRunStatus) (x : Driver) (closes : Bool → Bool) : Prop :=
  ∀ s Q later, Running run s → (∀ e t, Q (some e) t ↔ t.Closed) →
    (∀ t, Running run t → t.ended = true → (Q none t ↔ later = true)) →
    (wp x Q s ↔ closes later = true)

section Handles

variable {run : Option WorkflowRunStatus} {x y : Driver} {closes : Bool → Bool}

theorem settles_raise (run : Option WorkflowRunStatus) (e : Raised) :
    Settles run (raise e) false :=
  fun _ running => ⟨⟨e, rfl⟩, by simpa using running.not_closed⟩

theorem settles_recorded {closed : Bool} (e : Raised)
    (h : ∀ s, Running run s → (wp x closing s ↔ closed = true)) :
    Settles run (x >> raise e) closed := by
  intro s running
  constructor
  · show ∃ e', (Effect.seq x (fun _ => raise e) s).1 = some e'
    unfold Effect.seq
    rcases x s with ⟨_ | raised, t⟩
    · exact ⟨e, rfl⟩
    · exact ⟨raised, rfl⟩
  · rw [← h s running, wp_seq]
    unfold wp
    dsimp only
    split <;> rfl

variable {signal : Signal}

theorem handles_try {handler : Raised → Driver} {handled : Raised → Bool}
    (body : Ends x signal) (settles : ∀ e, Settles run (handler e) (handled e)) :
    Handles run (try_ x handler) (fun later => signal.elim later handled) := by
  intro s Q later running raised normal
  obtain ⟨t, ran, keeps, ended⟩ := body s
  rw [wp_try, wp_of_eq ran]
  cases signal with
  | none => exact normal t (running.keeps keeps) (ended rfl)
  | some e =>
    obtain ⟨⟨e', raises⟩, closed⟩ := settles e t (running.keeps keeps)
    refine Iff.trans ?_ closed
    show Q (handler e t).1 (handler e t).2 ↔ Record.Closed (handler e t).2
    rw [raises]
    exact raised e' _

theorem Handles.after (quiet : Quiet y signal) (h : Handles run x closes) :
    Handles run (y >> x) (fun later => signal.isNone && closes later) := by
  intro s Q later running raised normal
  rw [wp_seq, quiet.wp_iff]
  cases signal with
  | none => simpa using h s Q later running raised normal
  | some e => simpa using (raised e s).not.mpr running.not_closed

theorem Handles.finally_ (h : Handles run x closes) (quiet : Quiet y signal) :
    Handles run (finally_ x y) (fun later => closes (signal.isNone && later)) := by
  intro s Q later running raised normal
  rw [wp_finally]
  have last : ∀ r t, wp y (fun r' u => Q (r'.or r) u) t ↔ Q (signal.or r) t :=
    fun r t => quiet.wp_iff
  simp only [last]
  apply h s _ _ running
  · intro e t
    cases signal with
    | none => exact raised e t
    | some e' => exact raised e' t
  · intro t running' ended
    cases signal with
    | none => simpa using normal t running' ended
    | some e' => simpa using (raised e' t).not.mpr running'.not_closed

theorem Handles.within {enter exit_ : Driver} {a c : Signal} (h : Handles run x closes)
    (henter : Quiet enter a) (hexit : Quiet exit_ c) :
    Handles run (within enter exit_ x)
      (fun later => a.isNone && closes (c.isNone && later)) :=
  (h.finally_ hexit).after henter

theorem Handles.closed_iff {later : Bool} (h : Handles run x closes)
    (follows : ∀ s, Running run s → s.ended = true → (wp y closing s ↔ later = true)) :
    ∀ s, Running run s → (wp (x >> y) closing s ↔ closes later = true) := by
  intro s running
  rw [wp_seq]
  apply h s _ _ running
  · intro e t
    simp
  · intro t running' ended
    simpa using follows t running' ended

end Handles

section Recordings

variable {s : Record} {r : Recording}

theorem quiet_trace (websocket : Bool) (update : TraceUpdate) :
    Quiet (if websocket then emitTraceUpdate update else skip)
      (if websocket then update.signal else none) := by
  cases websocket
  · exact quiet_skip
  · exact quiet_emitTraceUpdate update

section

variable (running : Running none s)
include running

theorem wp_recording (payload : Json) (status : HistoryStatus)
    (error : Option String) (left : status ≠ .running) (other : status ≠ .completed)
    (websocket : Bool) :
    wp (store r.appended (·.appendStep payload) >> store r.marked (·.mark status error) >>
      if websocket then emitTraceUpdate r.trace else skip) closing s ↔ r.records = true := by
  have completed : status = .completed → (s.appendStep payload).ended = true :=
    fun h => absurd h other
  rw [wp_append running, wp_quiet_after (quiet_trace websocket r.trace),
    wp_mark (running.appendStep payload) error left completed]
  simp [Recording.records]

theorem wp_recordCancellation (reason : String) (websocket : Bool) :
    wp (recordCancellation reason r websocket) closing s ↔ r.records = true :=
  wp_recording running _ .cancelled _ nofun nofun websocket

theorem wp_recordFailure (message : String) (websocket : Bool) :
    wp (recordFailure message r websocket) closing s ↔ r.records = true :=
  wp_recording running _ .error _ nofun nofun websocket

theorem wp_recordCompletion (ended : s.ended = true) (c : Completion) :
    wp (recordCompletion c) closing s ↔ c.records = true := by
  have marks : wp (store c.marked (·.markCompleted)) closing
      (s.appendStep (.obj [("status", .str "completed")])) ↔ c.marked.takes = true :=
    wp_mark (running.appendStep _) none nofun fun _ => ended
  rw [recordCompletion, wp_append running, marks]
  simp [Completion.records]

theorem wp_reportCompletion (ended : s.ended = true) (c : Completion) :
    wp (recordCompletion c >> safeSendJson c.sent >> emitTraceUpdate c.trace) closing s ↔
      c.records = true := by
  rw [wp_quiet_after ((quiet_safeSendJson c.sent).seq (quiet_emitTraceUpdate c.trace))]
  exact wp_recordCompletion running ended c

end

theorem settles_recordCancellation (r : Recording) (reason : String) (websocket : Bool)
    (e : Raised) : Settles none (recordCancellation reason r websocket >> raise e) r.records :=
  settles_recorded e fun _ running => wp_recordCancellation running reason websocket

theorem settles_recordFailure (r : Recording) (message : String) (websocket : Bool) (e : Raised) :
    Settles none (recordFailure message r websocket >> raise e) r.records :=
  settles_recorded e fun _ running => wp_recordFailure running message websocket

end Recordings

theorem handles_runWorkflowStream (run : StreamedRun) (websocket : Bool) :
    Handles none (runWorkflowStream run websocket)
      (fun later => (run.signal websocket).elim later run.handles) := by
  refine handles_try (ends_streamWorkflowUpdates run websocket) fun e => ?_
  cases e with
  | cancelled reason => exact settles_recordCancellation run.recording _ websocket _
  | historyError message => exact settles_raise none _
  | error message => exact settles_recordFailure run.recording message websocket _
  | exit => exact settles_raise none _

theorem settles_recordAgentensorOutcome (default_ : String) (e : Raised) :
    Settles none (recordAgentensorOutcome run default_ e) (run.handles e) := by
  cases e with
  | cancelled reason => exact settles_recordCancellation run.recording _ true _
  | historyError message => exact settles_recordFailure run.recording message true _
  | error message => exact settles_recordFailure run.recording message true _
  | exit => exact settles_raise none _

theorem handles_executeTrustedWorkflowInWorker (run : StreamedRun) :
    Handles none (executeTrustedWorkflowInWorker setup run) (fun later =>
      setup.openCheckpointer.isNone && (setup.compiled.isNone && (setup.initialState.isNone &&
        (run.signal true).elim ((escapes setup.discard).isNone &&
          (setup.closeCheckpointer.isNone && later)) run.handles))) := by
  have stream := (handles_runWorkflowStream run true).finally_ (quiet_logged setup.discard)
  have ready := (stream.after (quiet_await setup.initialState)).after (quiet_compile setup)
  exact ready.within (quiet_await setup.openCheckpointer) (quiet_await setup.closeCheckpointer)

theorem handles_recordedGraph (run : StreamedRun) :
    Handles none (within (await setup.openCheckpointer) (await setup.closeCheckpointer)
        (within (await setup.openStore) (await setup.closeStore)
          (await setup.build >> await setup.compile >> await setup.initialState >>
            finally_ (runWorkflowStream run false) (logged setup.discard)))) (fun later =>
      setup.openCheckpointer.isNone && (setup.openStore.isNone && (setup.build.isNone &&
        (setup.compile.isNone && (setup.initialState.isNone &&
          (run.signal false).elim ((escapes setup.discard).isNone &&
            (setup.closeStore.isNone && (setup.closeCheckpointer.isNone && later)))
            run.handles))))) := by
  have stream := (handles_runWorkflowStream run false).finally_ (quiet_logged setup.discard)
  have ready := ((stream.after (quiet_await setup.initialState)).after
    (quiet_await setup.compile)).after (quiet_await setup.build)
  exact (ready.within (quiet_await setup.openStore) (quiet_await setup.closeStore)).within
    (quiet_await setup.openCheckpointer) (quiet_await setup.closeCheckpointer)

theorem handles_runEvaluationNode :
    Handles none (runEvaluationNode setup run) (fun later =>
      (evaluationSignal setup run).elim ((escapes setup.discard).isNone && later)
        run.handles) := by
  have node := handles_try (ends_evaluation setup run)
    (settles_recordAgentensorOutcome run "Evaluation cancelled")
  exact node.finally_ (quiet_logged setup.discard)

theorem handles_runTrainingNode :
    Handles none (runTrainingNode setup run) (fun later =>
      setup.openCheckpointer.isNone && (setup.compiled.isNone && (run.construct.isNone &&
        (setup.initialState.isNone && run.signal.elim ((escapes setup.discard).isNone &&
          (setup.closeCheckpointer.isNone && later)) run.handles)))) := by
  have node := (handles_try (ends_runAgentensorNode run)
    (settles_recordAgentensorOutcome run "Training cancelled")).finally_
      (quiet_logged setup.discard)
  have ready := ((node.after (quiet_await setup.initialState)).after
    (quiet_await run.construct)).after (quiet_compile setup)
  exact ready.within (quiet_await setup.openCheckpointer) (quiet_await setup.closeCheckpointer)

section Turns

variable {s : Record} {call : ChatCall}

theorem wp_turn {recorded : Bool} (running : Running (if recorded then some .running else none) s)
    (r : TurnRecording) (payload : Json) (status : HistoryStatus) (error : Option String)
    (left : status ≠ .running) (completed : status = .completed → s.ended = true) :
    wp (store r.appended (·.appendStep payload) >> store r.marked (·.mark status error) >>
      if recorded then store r.runMarked (·.markRun status.runStatus) else skip) closing s ↔
        r.records recorded = true := by
  rw [wp_append running]
  have appended := running.appendStep payload
  cases recorded with
  | true =>
    simp only [if_true] at appended ⊢
    rw [wp_mark_run appended error left completed]
    simp [TurnRecording.records, and_assoc]
  | false =>
    simp only [Bool.false_eq_true, if_false] at appended ⊢
    rw [wp_quiet_after quiet_skip, wp_mark appended error left completed]
    simp [TurnRecording.records]

abbrev ChatCall.runRecord (call : ChatCall) : Option WorkflowRunStatus :=
  if call.recorded then some .running else none

theorem settles_recordRunFailure (call : ChatCall) (message : String) (e : Raised) :
    Settles call.runRecord (recordRunFailure call message >> raise e)
      (call.failure.records call.recorded) :=
  settles_recorded e fun _ running => wp_turn running call.failure _ .error _ nofun nofun

theorem ends_reply (call : ChatCall) : Ends (executeGraph call >> await call.reply)
    (call.graphSignal.or call.reply) :=
  (ends_executeGraph call).seq_stable Keeps.trans Keeps.ends ((quiet_await _).gives Keeps.refl)

theorem handles_turn (call : ChatCall) :
    Handles call.runRecord (try_ (executeGraph call >> await call.reply) (fun raised =>
      match raised with
      | .historyError message => recordRunFailure call message >> raise raised
      | .error message => recordRunFailure call message >> raise raised
      | _ => raise raised))
      (fun later => (call.graphSignal.or call.reply).elim later call.handles) := by
  refine handles_try (ends_reply call) fun e => ?_
  cases e with
  | cancelled reason => exact settles_raise _ _
  | historyError message => exact settles_recordRunFailure call message _
  | error message => exact settles_recordRunFailure call message _
  | exit => exact settles_raise _ _

theorem wp_turnCompleted (running : Running call.runRecord s) (ended : s.ended = true) :
    wp (store call.success.appended (·.appendStep (.obj [("status", .str "completed")])) >>
      store call.success.marked (·.markCompleted) >> markRunSucceeded call) closing s ↔
        call.success.records call.recorded = true :=
  wp_turn running call.success _ .completed none nofun fun _ => ended

end Turns

theorem running_started (run : Option WorkflowRunStatus) : Running run { run := run } :=
  ⟨rfl, rfl, rfl⟩

theorem wp_browser {x : Driver} (closeBrowser : Signal) (s : Record) :
    ((finally_ x (await closeBrowser)) s).2.Closed ↔ wp x closing s := by
  show wp (finally_ x (await closeBrowser)) closing s ↔ _
  rw [wp_finally]
  rfl

theorem wp_root {s : Record} {run : Option WorkflowRunStatus} {x : Driver} (running : Running run s)
    (update : TraceUpdate) :
    wp (emitTraceUpdate update >> x) closing s ↔ update.signal = none ∧ wp x closing s := by
  rw [wp_seq, (quiet_emitTraceUpdate update).wp_iff]
  by_cases h : update.signal = none
  · simp [h]
  · simpa [h] using running.not_closed

theorem executeWorkflow_closed (call : WorkflowCall) :
    (executeWorkflow call {}).2.Closed ↔ call.closes = true := by
  have worker := (handles_executeTrustedWorkflowInWorker call.setup call.run).closed_iff
    (fun s running ended => wp_reportCompletion running ended call.completion) {}
    (running_started none)
  rw [executeWorkflow, wp_browser, wp_root (running_started none), worker]
  simp [WorkflowCall.closes, Bool.and_assoc]

theorem executeWorkflowRecorded_closed (call : WorkflowCall) :
    (executeWorkflowRecorded call {}).2.Closed ↔ call.closesRecorded = true := by
  have graph := (handles_recordedGraph call.setup call.run).closed_iff
    (fun s running ended => wp_recordCompletion running ended call.completion) {}
    (running_started none)
  rw [executeWorkflowRecorded, wp_browser, graph]
  simp [WorkflowCall.closesRecorded, Bool.and_assoc]

theorem executeWorkflowEvaluation_closed (call : AgentensorCall) :
    (executeWorkflowEvaluation call {}).2.Closed ↔ call.closesEvaluation = true := by
  have node := (handles_runEvaluationNode call.setup call.run).closed_iff
    (fun s running ended => wp_reportCompletion running ended call.completion) {}
    (running_started none)
  rw [executeWorkflowEvaluation, executeAgentensor, wp_browser, wp_root (running_started none),
    node]
  simp [AgentensorCall.closesEvaluation]

theorem executeWorkflowTraining_closed (call : AgentensorCall) :
    (executeWorkflowTraining call {}).2.Closed ↔ call.closesTraining = true := by
  have node := (handles_runTrainingNode call.setup call.run).closed_iff
    (fun s running ended => wp_reportCompletion running ended call.completion) {}
    (running_started none)
  rw [executeWorkflowTraining, executeAgentensor, wp_browser, wp_root (running_started none),
    node]
  simp [AgentensorCall.closesTraining, Bool.and_assoc]

theorem WorkflowExecutor.run_closed :
    (WorkflowExecutor.run call call.started).2.Closed ↔ call.closes = true :=
  (handles_turn call).closed_iff (fun _ running ended => wp_turnCompleted running ended)
    call.started (running_started call.runRecord)

def unbuilt : WorkflowCall := { setup := { build := some (.error "Unknown node type: Missing") } }

def interruptedTurn : ChatCall := { graph := { ending := some (.cancelled "") } }

end Orcheo.Execution
