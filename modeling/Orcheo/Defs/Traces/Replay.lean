import Orcheo.Defs.Traces.Spans

/-! The spans of a step are the same whether the steps before it have been shown or replayed. -/

namespace Orcheo.Traces

variable {rt : TraceRuntime} {record : RunHistoryRecord} {step : RunHistoryStep}
  {tracker : Tracker}

def Counted (record : RunHistoryRecord) : Prop :=
  record.steps.Pairwise (fun s s' => s.index < s'.index)

theorem spansOfUpdates_tracker (tracker : Tracker) (updates : List (String × Entries)) :
    (spansOfUpdates rt record step tracker updates).1 = updates.foldl (fun tracker update =>
      (tracker.observe rt step update.1 update.2 (step.path rt)).1) tracker := by
  induction updates generalizing tracker with
  | nil => rfl
  | cons update rest ih =>
    rw [spansOfUpdates, List.foldl_cons]
    exact ih _

theorem buildSpansForStep_tracker (tracker : Tracker) :
    (buildSpansForStep rt record step tracker).1 = tracker.observeAll rt step :=
  spansOfUpdates_tracker tracker step.updates

def spansOfSteps (rt : TraceRuntime) (record : RunHistoryRecord) :
    Tracker → List RunHistoryStep → List (List TraceSpan)
  | _, [] => []
  | tracker, step :: steps => (buildSpansForStep rt record step tracker).2 ::
    spansOfSteps rt record (tracker.observeAll rt step) steps

theorem buildSpansForSteps_eq (tracker : Tracker) (steps : List RunHistoryStep) :
    buildSpansForSteps rt record tracker steps = (spansOfSteps rt record tracker steps).flatten := by
  induction steps generalizing tracker with
  | nil => rfl
  | cons step steps ih =>
    rw [buildSpansForSteps, spansOfSteps, List.flatten_cons, ← ih, ← buildSpansForStep_tracker]

theorem spansOfUpdates_record (record : RunHistoryRecord) (inputs : Entries)
    (steps : List RunHistoryStep) (step : RunHistoryStep) (tracker : Tracker)
    (us : List (String × Entries)) :
    spansOfUpdates rt { record with inputs := inputs, steps := steps } step tracker us =
      spansOfUpdates rt record step tracker us := by
  induction us generalizing tracker with
  | nil => rfl
  | cons u us ih =>
    rw [spansOfUpdates, spansOfUpdates]
    dsimp only
    rw [ih]
    rfl

theorem spansOfSteps_record (record : RunHistoryRecord) (inputs : Entries)
    (steps : List RunHistoryStep) (tracker : Tracker) (shown : List RunHistoryStep) :
    spansOfSteps rt { record with inputs := inputs, steps := steps } tracker shown =
      spansOfSteps rt record tracker shown := by
  induction shown generalizing tracker with
  | nil => rfl
  | cons step shown ih =>
    rw [spansOfSteps, spansOfSteps, ih]
    unfold buildSpansForStep
    rw [spansOfUpdates_record]

theorem takeWhile_index {steps : List RunHistoryStep}
    (counted : steps.Pairwise (fun s s' => s.index < s'.index)) {n : Nat}
    (there : steps[n]? = some step) :
    steps.takeWhile (fun prior => prior.index < step.index) = steps.take n := by
  induction steps generalizing n with
  | nil => cases there
  | cons s steps ih =>
    rw [List.pairwise_cons] at counted
    cases n with
    | zero =>
      cases there
      simp
    | succ n =>
      rw [List.getElem?_cons_succ] at there
      have earlier := counted.1 step (List.mem_of_getElem? there)
      rw [List.takeWhile_cons, if_pos (by simpa using earlier), ih counted.2 there,
        List.take_succ_cons]

theorem spansOfSteps_getElem? (tracker : Tracker) (steps : List RunHistoryStep) {n : Nat}
    (there : steps[n]? = some step) : (spansOfSteps rt record tracker steps)[n]? =
      some (buildSpansForStep rt record step
        ((steps.take n).foldl (Tracker.observeAll rt) tracker)).2 := by
  induction steps generalizing tracker n with
  | nil => cases there
  | cons s steps ih =>
    cases n with
    | zero =>
      cases there
      rfl
    | succ n =>
      rw [List.getElem?_cons_succ] at there
      rw [spansOfSteps, List.getElem?_cons_succ, ih _ there, List.take_succ_cons, List.foldl_cons]

@[simp] theorem spansOfSteps_length (tracker : Tracker) (steps : List RunHistoryStep) :
    (spansOfSteps rt record tracker steps).length = steps.length := by
  induction steps generalizing tracker with
  | nil => rfl
  | cons s steps ih => rw [spansOfSteps, List.length_cons, List.length_cons, ih]

theorem spansOfSteps_replay (counted : Counted record) {n : Nat}
    (there : record.steps[n]? = some step) : (spansOfSteps rt record {} record.steps)[n]? =
      some (buildSpansForStep rt record step (replay rt record step)).2 := by
  unfold replay
  rw [takeWhile_index counted there]
  exact spansOfSteps_getElem? _ _ there

theorem buildTraceUpdate_step (counted : Counted record) (n : Nat) (includeRoot complete : Bool) :
    buildTraceUpdate rt record record.steps[n]? includeRoot complete =
      let spans := (if includeRoot then [buildRootSpan rt record] else []) ++
        ((spansOfSteps rt record {} record.steps)[n]?).getD []
      if spans.isEmpty ∧ !complete then none
      else some ⟨record.executionId, traceIdentifier rt record, spans, complete⟩ := by
  cases there : record.steps[n]? with
  | none =>
    have none_of : (spansOfSteps rt record {} record.steps)[n]? = none := by
      rw [List.getElem?_eq_none_iff, spansOfSteps_length]
      exact List.getElem?_eq_none_iff.mp there
    rw [none_of]
    unfold buildTraceUpdate
    simp
  | some step =>
    rw [spansOfSteps_replay counted there]
    rfl

end Orcheo.Traces
