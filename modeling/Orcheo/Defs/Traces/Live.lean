import Orcheo.Defs.Traces.Replay

/-! The spans that are sent step after step are those that are stored. -/

namespace Orcheo.Traces

open Lib (Dict)

def RunHistoryRecord.upTo (record : RunHistoryRecord) (n : Nat) : RunHistoryRecord :=
  { record with steps := record.steps.take n }

/-- The updates of the first steps, each with as many steps in the record as there were when it
was sent. -/
def liveUpdates (rt : TraceRuntime) (record : RunHistoryRecord) (seen : Nat → Nat) (n : Nat) :
    List TraceUpdate :=
  (List.range n).filterMap (fun i =>
    buildTraceUpdate rt (record.upTo (seen i)) record.steps[i]? false false)

def foldUpdates (updates : List TraceUpdate) : Dict String TraceSpan :=
  updates.foldl (fun known update => foldSpans update.spans known) ∅

def nodeSpans (spans : List TraceSpan) : List TraceSpan :=
  spans.filter (fun span => span.parentSpanId.isSome)

variable {rt : TraceRuntime} {record : RunHistoryRecord} {step : RunHistoryStep}
  {tracker : Tracker}

theorem spansOfUpdates_parent {updates : List (String × Entries)} :
    ∀ span ∈ (spansOfUpdates rt record step tracker updates).2, span.parentSpanId.isSome := by
  induction updates generalizing tracker with
  | nil =>
    intro span mem
    cases mem
  | cons update rest ih =>
    intro span mem
    rw [spansOfUpdates] at mem
    rcases List.mem_append.mp mem with here | later
    · unfold spansOfUpdate at here
      rcases List.mem_append.mp here with container | node
      · obtain ⟨path, _, rendered⟩ := List.mem_filterMap.mp container
        obtain ⟨bounds, _, rfl⟩ := Option.map_eq_some_iff.mp rendered
        rfl
      · split at node
        next =>
          rw [List.mem_singleton] at node
          rw [node]
          rfl
        next => cases node
    · exact ih span later

theorem buildSpansForSteps_parent {steps : List RunHistoryStep} :
    ∀ span ∈ buildSpansForSteps rt record tracker steps, span.parentSpanId.isSome := by
  induction steps generalizing tracker with
  | nil =>
    intro span mem
    cases mem
  | cons s steps ih =>
    intro span mem
    rw [buildSpansForSteps] at mem
    rcases List.mem_append.mp mem with here | later
    · exact spansOfUpdates_parent span here
    · exact ih span later

theorem foldSpans_append (spans later : List TraceSpan) (known : Dict String TraceSpan) :
    foldSpans (spans ++ later) known = foldSpans later (foldSpans spans known) :=
  List.foldl_append

theorem foldSpans_headed {root : TraceSpan} {k : String} (spans : List TraceSpan)
    {known headed : Dict String TraceSpan} (first : Dict.Headed k root known headed) :
    Dict.Headed k root (foldSpans spans known) (foldSpans spans headed) := by
  induction spans generalizing known headed with
  | nil => exact first
  | cons span spans ih => exact ih (first.set span.spanId span)

theorem foldSpans_values {P : TraceSpan → Prop} {spans : List TraceSpan}
    {known : Dict String TraceSpan} (before : ∀ k span, known.get? k = some span → P span)
    (all : ∀ span ∈ spans, P span) {k : String} {span : TraceSpan}
    (there : (foldSpans spans known).get? k = some span) : P span := by
  induction spans generalizing known with
  | nil => exact before k span there
  | cons s spans ih =>
    refine ih ?_ (fun span mem => all span (List.mem_cons_of_mem _ mem)) there
    intro j x found
    obtain ⟨-, rfl⟩ | ⟨-, found⟩ := Dict.of_get?_set found
    · exact all s List.mem_cons_self
    · exact before j x found

theorem spansOfSteps_take (tracker : Tracker) (steps : List RunHistoryStep) (n : Nat) :
    spansOfSteps rt record tracker (steps.take n) =
      (spansOfSteps rt record tracker steps).take n := by
  induction steps generalizing tracker n with
  | nil => simp [spansOfSteps]
  | cons s steps ih =>
    cases n with
    | zero => rfl
    | succ n => rw [List.take_succ_cons, spansOfSteps, spansOfSteps, ih, List.take_succ_cons]

theorem spansOfSteps_upTo (tracker : Tracker) (steps : List RunHistoryStep) (n : Nat) :
    spansOfSteps rt (record.upTo n) tracker steps = spansOfSteps rt record tracker steps :=
  spansOfSteps_record record record.inputs (record.steps.take n) tracker steps

theorem Counted.upTo (counted : Counted record) (n : Nat) : Counted (record.upTo n) :=
  counted.sublist (List.take_sublist n record.steps)

theorem buildTraceUpdate_upTo (counted : Counted record) {i n : Nat} (later : i < n) :
    buildTraceUpdate rt (record.upTo n) record.steps[i]? false false =
      let spans := ((spansOfSteps rt record {} record.steps)[i]?).getD []
      if spans.isEmpty then none
      else some ⟨record.executionId, traceIdentifier rt record, spans, false⟩ := by
  have step : record.steps[i]? = (record.upTo n).steps[i]? := (List.getElem?_take_of_lt later).symm
  have spans : (spansOfSteps rt (record.upTo n) {} (record.upTo n).steps)[i]? =
      (spansOfSteps rt record {} record.steps)[i]? := by
    rw [spansOfSteps_upTo]
    show (spansOfSteps rt record {} (record.steps.take n))[i]? = _
    rw [spansOfSteps_take, List.getElem?_take_of_lt later]
  rw [step, buildTraceUpdate_step (counted.upTo n), spans]
  simp only [Bool.false_eq_true, if_false, List.nil_append, Bool.not_false, and_true]
  rfl

theorem foldUpdates_live (counted : Counted record) {seen : Nat → Nat} (later : ∀ i, i < seen i)
    (n : Nat) : foldUpdates (liveUpdates rt record seen n) =
      foldSpans (buildSpansForSteps rt record {} (record.steps.take n)) ∅ := by
  rw [buildSpansForSteps_eq, spansOfSteps_take]
  generalize all : spansOfSteps rt record {} record.steps = spans
  induction n with
  | zero => rfl
  | succ n ih =>
    unfold liveUpdates foldUpdates at ih ⊢
    rw [List.range_succ, List.filterMap_append, List.foldl_append, ih, List.take_add_one,
      List.flatten_append, foldSpans_append, List.filterMap_cons, buildTraceUpdate_upTo counted
        (later n), all]
    dsimp only
    cases there : spans[n]? with
    | none => rfl
    | some sent =>
      cases sent with
      | nil => rfl
      | cons span sent => simp

theorem nodeSpans_eq_self {spans : List TraceSpan}
    (parents : ∀ span ∈ spans, span.parentSpanId.isSome) : nodeSpans spans = spans :=
  List.filter_eq_self.mpr parents

def knownSpans (rt : TraceRuntime) (record : RunHistoryRecord) : Dict String TraceSpan :=
  foldSpans (buildSpansForSteps rt record {} record.steps) ∅

theorem knownSpans_upTo (n : Nat) : knownSpans rt (record.upTo n) =
    foldSpans (buildSpansForSteps rt record {} (record.steps.take n)) ∅ := by
  unfold knownSpans
  rw [buildSpansForSteps_eq, buildSpansForSteps_eq, spansOfSteps_upTo]
  rfl

variable (rt record) in
theorem spansById_headed : Dict.Headed (rootSpanId rt record) (buildRootSpan rt record)
    (knownSpans rt record) (spansById rt record) := foldSpans_headed _ (Dict.headed_empty _ _)

theorem knownSpans_parent : ∀ span ∈ (knownSpans rt record).values, span.parentSpanId.isSome := by
  intro span mem
  obtain ⟨id, there⟩ := ((knownSpans rt record).mem_values_iff span).mp mem
  exact foldSpans_values nofun buildSpansForSteps_parent there

variable (rt record) in
theorem nodeSpans_known :
    (nodeSpans (buildTraceResponse rt record).spans).Perm (knownSpans rt record).values ∧
      ((knownSpans rt record).get? (rootSpanId rt record) = none →
        nodeSpans (buildTraceResponse rt record).spans = (knownSpans rt record).values) := by
  show (nodeSpans (spansById rt record).values).Perm _ ∧
    (_ → nodeSpans (spansById rt record).values = _)
  have headed := spansById_headed rt record
  have parents : nodeSpans (knownSpans rt record).values = (knownSpans rt record).values :=
    nodeSpans_eq_self knownSpans_parent
  have same (absent : (knownSpans rt record).get? (rootSpanId rt record) = none) :
      nodeSpans (spansById rt record).values = (knownSpans rt record).values := by
    rw [headed.values_of_absent absent]
    have root_out : nodeSpans (buildRootSpan rt record :: (knownSpans rt record).values) =
        nodeSpans (knownSpans rt record).values := List.filter_cons_of_neg (by simp [buildRootSpan])
    rw [root_out, parents]
  refine ⟨?_, same⟩
  cases there : (knownSpans rt record).get? (rootSpanId rt record) with
  | none => rw [same there]
  | some replaced =>
    have perm := (headed.values_of_there there).filter (fun span => span.parentSpanId.isSome)
    rwa [show (knownSpans rt record).values.filter _ = _ from parents] at perm

/-- The spans of the nodes that are sent live are the stored ones: the same spans, and in the same
order too unless one of them has the identifier of the run. -/
theorem live_trace_eq_stored (counted : Counted record) {seen : Nat → Nat}
    (later : ∀ i, i < seen i) (k : Nat) :
    let live := foldUpdates (liveUpdates rt record seen (k + 1))
    let stored := nodeSpans (buildTraceResponse rt (record.upTo (k + 1))).spans
    stored.Perm live.values ∧ (live.get? (rootSpanId rt record) = none → stored = live.values) := by
  dsimp only
  rw [foldUpdates_live counted later, ← knownSpans_upTo]
  exact nodeSpans_known rt (record.upTo (k + 1))

def subgraphHistory : RunHistoryRecord where
  workflowId := "workflow"
  executionId := "run"
  startedAt := 0
  steps := [
    { index := 0, happenedAt := 0, payload := [("first", .obj [])] },
    { index := 1, happenedAt := 1, payload := [("__namespace", .arr [.str "sub:1"]),
      ("inner", .obj [])] },
    { index := 2, happenedAt := 2, payload := [("sub", .obj [])] }]

theorem live_trace_eq_stored_subgraph :
    let live := foldUpdates (liveUpdates .plain subgraphHistory (· + 1) 3)
    let stored := nodeSpans (buildTraceResponse .plain (subgraphHistory.upTo 3)).spans
    stored.Perm live.values ∧ stored = live.values :=
  have counted : Counted subgraphHistory := by
    unfold Counted
    decide
  have both := live_trace_eq_stored counted (fun i => Nat.lt_succ_self i) 2
  ⟨both.1, both.2 (by decide +kernel)⟩

end Orcheo.Traces
