import Orcheo.Defs.Traces.Replay

/-! Runs of one node after the other, with subgraphs, and what the tracker makes of them. -/

namespace Orcheo.Traces

open Lib (Dict)
open Tracker (observeAll touch fail close)

inductive RunEvent
  | node (nodeKey : String) (payload : Entries)
  | subgraph (name taskId : String) (inner : List RunEvent) (aggregate : Entries)

structure NodeUpdate where
  path : Namespace
  nodeKey : String
  payload : Entries
  aggregate : Bool

def segment (name taskId : String) : String := name ++ ":" ++ taskId

mutual
def RunEvent.emitted (path : Namespace) : RunEvent → List NodeUpdate
  | .node nodeKey payload => [⟨path, nodeKey, payload, false⟩]
  | .subgraph name taskId inner aggregate =>
    emittedBy (path ++ [segment name taskId]) inner ++ [⟨path, name, aggregate, true⟩]

def emittedBy (path : Namespace) : List RunEvent → List NodeUpdate
  | [] => []
  | event :: rest => event.emitted path ++ emittedBy path rest
end

mutual
def RunEvent.invocations (path : Namespace) : RunEvent → List Namespace
  | .node _ _ => []
  | .subgraph name taskId inner _ =>
    (path ++ [segment name taskId]) :: invocationsOf (path ++ [segment name taskId]) inner

def invocationsOf (path : Namespace) : List RunEvent → List Namespace
  | [] => []
  | event :: rest => event.invocations path ++ invocationsOf path rest
end

def RunEvent.isNode : RunEvent → Bool
  | .node _ _ => true
  | .subgraph _ _ _ _ => false

def RunEvent.shallow : RunEvent → Bool
  | .node _ _ => true
  | .subgraph _ _ inner _ => !inner.isEmpty && inner.all RunEvent.isNode

def encodeStepNamespace (step : Entries) (path : Namespace) : Entries :=
  if path ≠ [] then put step namespaceMetadataKey (.arr (path.map .str)) else step

abbrev Numbered := NodeUpdate × Nat

variable (rt : TraceRuntime) (record : RunHistoryRecord) (times : Nat → Instant)

def stepOf (u : Numbered) : RunHistoryStep where
  index := u.2
  happenedAt := times u.2
  payload := encodeStepNamespace [(u.1.nodeKey, .obj u.1.payload)] u.1.path

variable (run : List RunEvent)

def numbered : List Numbered := (emittedBy [] run).zipIdx

def RunHistoryRecord.ran : RunHistoryRecord :=
  { record with steps := (numbered run).map (stepOf times) }

def nodeSpanOf (u : Numbered) : TraceSpan :=
  buildNodeSpan rt record (stepOf times u) u.1.nodeKey u.1.payload (parentOfNode rt record u.1.path)

/-- The span of an invocation, whenever it began and ended, and however. -/
def IsContainer (path : Namespace) (span : TraceSpan) : Prop :=
  ∃ tracker : Tracker, renderContainer rt record tracker path = some span

def Named : Prop :=
  ∀ u ∈ emittedBy [] run, ':' ∉ u.nodeKey.toList ∧ u.nodeKey ≠ namespaceMetadataKey

variable {rt record times} {tracker : Tracker} {u : Numbered} {path : Namespace}

section

variable (named : u.1.nodeKey ≠ namespaceMetadataKey)
include named

theorem stepOf_updates : (stepOf times u).updates = [(u.1.nodeKey, u.1.payload)] := by
  have here : nodeUpdate (u.1.nodeKey, .obj u.1.payload) = some (u.1.nodeKey, u.1.payload) :=
    if_neg named
  unfold RunHistoryStep.updates stepOf encodeStepNamespace
  dsimp only
  split
  · simp only [put, Dict.insertEntry, named, if_false, List.filterMap_cons, here]
    rfl
  · simp only [List.filterMap_cons, here, List.filterMap_nil]

theorem stepOf_path : (stepOf times u).path rt = u.1.path := by
  have texts (path : Namespace) : (path.map Json.str).map (text rt) = path := by
    rw [List.map_map]
    exact List.map_id'' (fun _ => rfl) path
  have value : get (stepOf times u).payload namespaceMetadataKey =
      if u.1.path ≠ [] then .arr (u.1.path.map .str) else .null := by
    unfold stepOf encodeStepNamespace get Json.field?
    dsimp only
    split
    · simp [put, Dict.insertEntry, Dict.lookup, named]
    · simp [Dict.lookup, named]
  unfold RunHistoryStep.path extractStepNamespace
  rw [value]
  by_cases top : u.1.path = []
  · rw [if_neg (not_not.mpr top), top]
  · rw [if_pos top]
    exact texts u.1.path

theorem buildSpansForStep_stepOf :
    buildSpansForStep rt record (stepOf times u) tracker =
      let moved := tracker.observe rt (stepOf times u) u.1.nodeKey u.1.payload u.1.path
      (moved.1, moved.2.filterMap (renderContainer rt record moved.1) ++
        if u.1.path ≠ [] ∨ moved.2 = [] then [nodeSpanOf rt record times u] else []) := by
  unfold buildSpansForStep
  rw [stepOf_updates named]
  simp only [spansOfUpdates, spansOfUpdate, stepOf_path named, List.append_nil]
  rfl

end

theorem buildSpansForSteps_append (steps later : List RunHistoryStep) (tracker : Tracker) :
    buildSpansForSteps rt record tracker (steps ++ later) =
      buildSpansForSteps rt record tracker steps ++
        buildSpansForSteps rt record (steps.foldl (observeAll rt) tracker) later := by
  induction steps generalizing tracker with
  | nil => rfl
  | cons s steps ih =>
    rw [List.cons_append, buildSpansForSteps, buildSpansForSteps, List.foldl_cons]
    dsimp only
    rw [buildSpansForStep_tracker, ih, List.append_assoc]

def Idle (tracker : Tracker) : Prop := ∀ name, (tracker.openPaths.get? name).getD [] = []

structure Inside (tracker : Tracker) (path : Namespace) : Prop where
  known : (tracker.bounds.get? path).isSome
  opened : ∀ name, (tracker.openPaths.get? name).getD [] =
    if name = namespaceSegmentName (path.getLast?.getD "") then [path] else []

def Knows (tracker moved : Tracker) (path : Namespace) : Prop :=
  ∀ p, (moved.bounds.get? p).isSome ↔ p = path ∨ (tracker.bounds.get? p).isSome

variable {moved : Tracker} {at_ endTime : Instant}

theorem touch_idle (idle : Idle tracker) (fresh : tracker.bounds.get? path = none) :
    Inside (tracker.touch at_ endTime path) path ∧
      Knows tracker (tracker.touch at_ endTime path) path := by
  unfold touch
  rw [fresh]
  refine ⟨⟨?_, ?_⟩, ?_⟩
  · simp
  · intro name
    rw [Dict.get?_set, idle]
    split
    · rfl
    · exact idle name
  · intro p
    rw [Dict.get?_set]
    by_cases here : p = path <;> simp [here]

theorem touch_inside (inside : Inside tracker path) :
    Inside (tracker.touch at_ endTime path) path ∧
      Knows tracker (tracker.touch at_ endTime path) path := by
  obtain ⟨bounds, known⟩ := Option.isSome_iff_exists.mp inside.known
  unfold touch
  rw [known]
  refine ⟨⟨?_, inside.opened⟩, ?_⟩
  · simp
  · intro p
    rw [Dict.get?_set]
    by_cases here : p = path <;> simp [here]

theorem fail_inside (inside : Inside tracker path) :
    Inside (tracker.fail path) path ∧ Knows tracker (tracker.fail path) path := by
  obtain ⟨bounds, known⟩ := Option.isSome_iff_exists.mp inside.known
  unfold fail
  rw [known]
  refine ⟨⟨?_, inside.opened⟩, ?_⟩
  · simp
  · intro p
    rw [Dict.get?_set]
    by_cases here : p = path <;> simp [here]

theorem segment_name {name : String} (taskId : String) (plain : ':' ∉ name.toList) :
    namespaceSegmentName ([segment name taskId].getLast?.getD "") = name := by
  show namespaceSegmentName (segment name taskId) = name
  unfold namespaceSegmentName segment
  rw [String.toList_append, String.toList_append, List.append_assoc]
  have letters : ∀ c ∈ name.toList, (decide (c ≠ ':')) = true := by
    intro c mem
    exact decide_eq_true (fun same => plain (same ▸ mem))
  rw [List.takeWhile_append_of_pos letters]
  simp

theorem Knows.trans {last : Tracker} (first : Knows tracker moved path)
    (second : Knows moved last path) : Knows tracker last path := by
  intro p
  rw [second, first]
  tauto

variable (step : RunHistoryStep)

variable (rt) in
theorem observe_inner (nodeKey : String) (payload : Entries) {name : String}
    (state : Idle tracker ∧ tracker.bounds.get? [name] = none ∨ Inside tracker [name]) :
    (tracker.observe rt step nodeKey payload [name]).2 = [[name]] ∧
      Inside (tracker.observe rt step nodeKey payload [name]).1 [name] ∧
      Knows tracker (tracker.observe rt step nodeKey payload [name]).1 [name] := by
  let endTime := (computeEndTime rt step.happenedAt payload).getD step.happenedAt
  have touched : Inside (tracker.touch step.happenedAt endTime [name]) [name] ∧
      Knows tracker (tracker.touch step.happenedAt endTime [name]) [name] := by
    rcases state with ⟨idle, fresh⟩ | inside
    · exact touch_idle idle fresh
    · exact touch_inside inside
  refine ⟨rfl, ?_⟩
  show Inside (if _ then _ else _) _ ∧ Knows tracker (if _ then _ else _) _
  split
  · have failed := fail_inside touched.1
    exact ⟨failed.1, touched.2.trans failed.2⟩
  · exact touched

variable (rt) in
theorem observe_idle (nodeKey : String) (payload : Entries)
    (idle : Idle tracker) : tracker.observe rt step nodeKey payload [] = (tracker, []) := by
  show tracker.close _ _ nodeKey = _
  have empty := idle nodeKey
  unfold close
  cases there : tracker.openPaths.get? nodeKey with
  | none => rfl
  | some paths =>
    rw [there] at empty
    cases paths with
    | nil => rfl
    | cons => cases empty

variable (rt) in
theorem observe_aggregate {nodeKey : String} (payload : Entries) (inside : Inside tracker path)
    (named : namespaceSegmentName (path.getLast?.getD "") = nodeKey) :
    (tracker.observe rt step nodeKey payload []).2 = [path] ∧
      Idle (tracker.observe rt step nodeKey payload []).1 ∧
      Knows tracker (tracker.observe rt step nodeKey payload []).1 path := by
  show (tracker.close _ _ nodeKey).2 = _ ∧ Idle (tracker.close _ _ nodeKey).1 ∧
    Knows tracker (tracker.close _ _ nodeKey).1 path
  have queue := inside.opened nodeKey
  rw [if_pos named.symm] at queue
  obtain ⟨bounds, known⟩ := Option.isSome_iff_exists.mp inside.known
  have there : tracker.openPaths.get? nodeKey = some [path] := by
    cases there : tracker.openPaths.get? nodeKey with
    | none =>
      rw [there] at queue
      cases queue
    | some paths =>
      rw [there] at queue
      exact congrArg some queue
  have closed (name : String) :
      ((tracker.openPaths.set nodeKey []).get? name).getD [] = [] := by
    rw [Dict.get?_set]
    split
    · rfl
    next other =>
      rw [inside.opened, named, if_neg other]
  unfold close
  rw [there]
  dsimp only
  rw [known]
  dsimp only
  have ended (bounds : Bounds) (p : Namespace) :
      ((tracker.bounds.set path bounds).get? p).isSome ↔
        p = path ∨ (tracker.bounds.get? p).isSome := by
    rw [Dict.get?_set]
    by_cases here : p = path <;> simp [here]
  refine ⟨rfl, ?_, ?_⟩
  · split
    · unfold fail
      dsimp only
      rw [Dict.get?_set, if_pos rfl]
      exact closed
    · exact closed
  · split
    · unfold fail
      dsimp only
      rw [Dict.get?_set, if_pos rfl]
      intro p
      dsimp only
      rw [Dict.get?_set]
      by_cases here : p = path
      · simp [here]
      · rw [if_neg here, ended]
    · exact ended _

section Account

variable (rt record times)

def spansFrom (tracker : Tracker) (us : List Numbered) : List TraceSpan :=
  buildSpansForSteps rt record tracker (us.map (stepOf times))

def walk (tracker : Tracker) (us : List Numbered) : Tracker :=
  (us.map (stepOf times)).foldl (observeAll rt) tracker

structure Accounts (paths : List Namespace) (us : List Numbered) (spans : List TraceSpan) :
    Prop where
  only : ∀ span ∈ spans, (∃ path ∈ paths, IsContainer rt record path span) ∨
    ∃ u ∈ us, u.1.aggregate = false ∧ span = nodeSpanOf rt record times u
  node : ∀ u ∈ us, u.1.aggregate = false → nodeSpanOf rt record times u ∈ spans
  container : ∀ path ∈ paths, ∃ span ∈ spans, IsContainer rt record path span

end Account

theorem accounts_nil : Accounts rt record times [] [] [] where
  only := by simp
  node := by simp
  container := by simp

variable {ps qs : List Namespace}

theorem Accounts.append {us vs : List Numbered} {ss ts : List TraceSpan}
    (first : Accounts rt record times ps us ss) (second : Accounts rt record times qs vs ts) :
    Accounts rt record times (ps ++ qs) (us ++ vs) (ss ++ ts) where
  only := by
    intro span mem
    rcases List.mem_append.mp mem with here | later
    · rcases first.only span here with ⟨path, there, shown⟩ | ⟨u, there, shown⟩
      · exact .inl ⟨path, List.mem_append_left _ there, shown⟩
      · exact .inr ⟨u, List.mem_append_left _ there, shown⟩
    · rcases second.only span later with ⟨path, there, shown⟩ | ⟨u, there, shown⟩
      · exact .inl ⟨path, List.mem_append_right _ there, shown⟩
      · exact .inr ⟨u, List.mem_append_right _ there, shown⟩
  node := by
    intro u mem leaf
    rcases List.mem_append.mp mem with here | later
    · exact List.mem_append_left _ (first.node u here leaf)
    · exact List.mem_append_right _ (second.node u later leaf)
  container := by
    intro path mem
    rcases List.mem_append.mp mem with here | later
    · obtain ⟨span, there, shown⟩ := first.container path here
      exact ⟨span, List.mem_append_left _ there, shown⟩
    · obtain ⟨span, there, shown⟩ := second.container path later
      exact ⟨span, List.mem_append_right _ there, shown⟩

theorem Accounts.of_mem {us : List Numbered} {ss : List TraceSpan}
    (accounts : Accounts rt record times ps us ss) (same : ∀ p, p ∈ ps ↔ p ∈ qs) :
    Accounts rt record times qs us ss where
  only span mem := by
    simp only [← same]
    exact accounts.only span mem
  node := accounts.node
  container path mem := accounts.container path ((same path).mpr mem)

end Orcheo.Traces
