import Orcheo.Defs.Traces.Attributes
import Orcheo.Defs.Traces.Masking
import Orcheo.Defs.Traces.Replay

/-! What the traces of two histories show that differ only under sensitive keys. -/

namespace Orcheo.Traces

open Lib (Dict)
open RunHistoryStep (path index)

def AlikeItems (e e' : String × Json) : Prop :=
  e.1 = e'.1 ∧ if e.1 = namespaceMetadataKey then e.2 = e'.2 else masked e.2 = masked e'.2

structure AlikeSteps (s s' : RunHistoryStep) : Prop where
  index : s.index = s'.index
  happenedAt : s.happenedAt = s'.happenedAt
  payload : List.Forall₂ AlikeItems s.payload s'.payload

/-- The histories differ only in values under sensitive keys of their inputs and of the payloads
of nodes. -/
structure AlikeHistories (h h' : RunHistoryRecord) : Prop where
  others : { h with inputs := [], steps := [] } = { h' with inputs := [], steps := [] }
  inputs : maskedEntries h.inputs = maskedEntries h'.inputs
  steps : List.Forall₂ AlikeSteps h.steps h'.steps

structure SameTraces (rt : TraceRuntime) (h h' : RunHistoryRecord) : Prop where
  response : buildTraceResponse rt h = buildTraceResponse rt h'
  update : ∀ (n : Nat) includeRoot complete,
    buildTraceUpdate rt h h.steps[n]? includeRoot complete =
      buildTraceUpdate rt h' h'.steps[n]? includeRoot complete
  state : ∀ spanId, buildSpanState rt h spanId = buildSpanState rt h' spanId

structure ShownTexts where
  id : String
  displayName : String
  kind : Option String
  ai : List (Option String)
  artifacts : List String
  prompts : List (List (String × String))
  responses : List (List (String × String))
  messages : List (List (String × String))
  statusMessage : Option String
  deriving DecidableEq

def shownTexts (rt : TraceRuntime) (update : String × Entries) : ShownTexts where
  id := nodeId rt update.1 update.2
  displayName := displayName rt update.1 update.2
  kind := textOf? rt (nodeKind update.2)
  ai := aiTextKeys.map (aiText rt update.2)
  artifacts := extractArtifactIds rt update.2
  prompts := ["prompts", "prompt"].flatMap (textEventsOf rt update.2)
  responses := ["responses", "response"].flatMap (textEventsOf rt update.2)
  messages := messageEvents rt update.2
  statusMessage := (statusFromPayload rt update.2).message

def ownSpans (rt : TraceRuntime) (step : RunHistoryStep) :
    Tracker → List (String × Entries) → List (String × Entries)
  | _, [] => []
  | tracker, update :: rest =>
    let (tracker, touched) := tracker.observe rt step update.1 update.2 (step.path rt)
    (if step.path rt ≠ [] ∨ touched = [] then [update] else []) ++ ownSpans rt step tracker rest

def ownSpansOfSteps (rt : TraceRuntime) : Tracker → List RunHistoryStep → List (String × Entries)
  | _, [] => []
  | tracker, step :: steps => ownSpans rt step tracker step.updates ++
    ownSpansOfSteps rt (tracker.observeAll rt step) steps

def SameTexts (rt : TraceRuntime) (h h' : RunHistoryRecord) : Prop :=
  (ownSpansOfSteps rt {} h.steps).map (shownTexts rt) =
    (ownSpansOfSteps rt {} h'.steps).map (shownTexts rt)

variable {rt : TraceRuntime} {h h' : RunHistoryRecord} {s s' : RunHistoryStep} {p p' : Entries}
  {nodeKey parentId : String} {key k : String}

def eventsNamed (name : String) (events : List TraceSpanEvent) : List (List (String × String)) :=
  events.filterMap (fun e => if e.name = name then some e.attributes else none)

theorem eventsNamed_append (name : String) (es fs : List TraceSpanEvent) :
    eventsNamed name (es ++ fs) = eventsNamed name es ++ eventsNamed name fs :=
  List.filterMap_append

theorem eventsNamed_map (name name' : String) (time : Instant)
    (texts : List (List (String × String))) :
    eventsNamed name (texts.map (⟨name', time, ·⟩)) = if name' = name then texts else [] := by
  unfold eventsNamed
  rw [List.filterMap_map]
  split
  next same =>
    have kept : ((fun e : TraceSpanEvent => if e.name = name then some e.attributes else none) ∘
        fun attributes => ⟨name', time, attributes⟩) = some := by
      funext attributes
      exact if_pos same
    rw [kept, List.filterMap_some]
  next other =>
    rw [List.filterMap_eq_nil_iff]
    intro attributes _
    exact if_neg other

theorem collectMessageEvents_iff (time : Instant) :
    collectMessageEvents rt p time = collectMessageEvents rt p' time ↔
      ["prompts", "prompt"].flatMap (textEventsOf rt p) =
        ["prompts", "prompt"].flatMap (textEventsOf rt p') ∧
      ["responses", "response"].flatMap (textEventsOf rt p) =
        ["responses", "response"].flatMap (textEventsOf rt p') ∧
      messageEvents rt p = messageEvents rt p' := by
  constructor
  · intro same
    have prompts := congrArg (eventsNamed "prompt") same
    have responses := congrArg (eventsNamed "response") same
    have messages := congrArg (eventsNamed "message") same
    unfold collectMessageEvents at prompts responses messages
    simp only [eventsNamed_append, eventsNamed_map] at prompts responses messages
    refine ⟨?_, ?_, ?_⟩
    · simpa using prompts
    · simpa using responses
    · simpa using messages
  · rintro ⟨prompts, responses, messages⟩
    unfold collectMessageEvents
    rw [prompts, responses, messages]

theorem aiPayload_eq (p : Entries) : aiPayload p =
    (existingState (some (get p traceMetadataKey))).bind
      (fun trace => existingState (some (get trace "ai"))) := by
  unfold aiPayload
  cases get p traceMetadataKey with
  | obj trace =>
    dsimp only [existingState, Option.bind_some]
    cases get trace "ai" <;> rfl
  | _ => rfl

theorem object_alike {v v' : Json} (alike : masked v = masked v') :
    (existingState (some v)).map maskedEntries = (existingState (some v')).map maskedEntries :=
  existingState_alike (congrArg some alike)

theorem aiPayload_alike (alike : maskedEntries p = maskedEntries p') :
    (aiPayload p).map maskedEntries = (aiPayload p').map maskedEntries := by
  rw [aiPayload_eq, aiPayload_eq]
  have outer := object_alike
    (get_alike alike (show isSensitiveStateKey traceMetadataKey = false by decide))
  cases there : existingState (some (get p traceMetadataKey)) with
  | none =>
    cases there' : existingState (some (get p' traceMetadataKey)) with
    | none => rfl
    | some trace' =>
      rw [there, there'] at outer
      cases outer
  | some trace =>
    cases there' : existingState (some (get p' traceMetadataKey)) with
    | none =>
      rw [there, there'] at outer
      cases outer
    | some trace' =>
      rw [there, there'] at outer
      exact object_alike
        (get_alike (Option.some.inj outer) (show isSensitiveStateKey "ai" = false by decide))

theorem aiVectorSize_alike (alike : maskedEntries p = maskedEntries p') :
    aiVectorSize rt p = aiVectorSize rt p' := by
  have same := aiPayload_alike alike
  unfold aiVectorSize
  cases there : aiPayload p with
  | none =>
    cases there' : aiPayload p' with
    | none => rfl
    | some ai' =>
      rw [there, there'] at same
      cases same
  | some ai =>
    cases there' : aiPayload p' with
    | none =>
      rw [there, there'] at same
      cases same
    | some ai' =>
      rw [there, there'] at same
      exact toInt_alike (get_alike (Option.some.inj same)
        (show isSensitiveStateKey "vector_size" = false by decide))

variable (rt) in
theorem attribute_texts (nodeKey : String) (p : Entries) (workspaceId : Option String)
    (ids : List String) (input output : Option Int) (shown : Json) :
    let attributes := (artifactAttribute ids (intAttribute "orcheo.token.output" output
      (intAttribute "orcheo.token.input" input (nodeAttributes rt nodeKey p workspaceId)))).set
      "orcheo.node.output" shown
    attributes.get? "orcheo.node.id" = some (.str (nodeId rt nodeKey p)) ∧
    attributes.get? "orcheo.node.kind" = (textOf? rt (nodeKind p)).map .str ∧
    attributes.get? "orcheo.artifact.ids" =
      (if ids ≠ [] then some (.arr (ids.map .str)) else none) ∧
    attributes.get? "orcheo.ai.kind" = (aiText rt p "kind").map .str ∧
    attributes.get? "orcheo.ai.model.requested" = (aiText rt p "requested_model").map .str ∧
    attributes.get? "orcheo.ai.model.actual" = (aiText rt p "actual_model").map .str ∧
    attributes.get? "orcheo.ai.provider" = (aiText rt p "provider").map .str ∧
    attributes.get? "orcheo.ai.embedding.operation" = (aiText rt p "operation").map .str := by
  dsimp only
  rw [attributes_eq]
  have empty (k : String) : (∅ : Attributes).get? k = none := rfl
  refine ⟨?_, ?_, ?_, ?_, ?_, ?_, ?_, ?_⟩ <;>
    simp [Dict.get?_set, get?_artifactAttribute, get?_intAttribute, get?_optionalAttribute, empty]

theorem artifacts_inj {ids ids' : List String}
    (same : (if ids ≠ [] then some (Json.arr (ids.map .str)) else none) =
      (if ids' ≠ [] then some (Json.arr (ids'.map .str)) else none)) : ids = ids' := by
  have strings : Function.Injective (List.map Json.str) :=
    List.map_injective_iff.mpr (fun _ _ same => Json.str.inj same)
  cases ids with
  | nil =>
    cases ids' with
    | nil => rfl
    | cons => simp at same
  | cons id ids =>
    cases ids' with
    | nil => simp at same
    | cons id' ids' =>
      rw [if_pos (by simp), if_pos (by simp)] at same
      exact strings (Json.arr.inj (Option.some.inj same))

theorem statusFromPayload_iff (alike : maskedEntries p = maskedEntries p') :
    statusFromPayload rt p = statusFromPayload rt p' ↔
      (statusFromPayload rt p).message = (statusFromPayload rt p').message := by
  constructor
  · intro same
    rw [same]
  · intro same
    have code : (statusFromPayload rt p).code = (statusFromPayload rt p').code :=
      status_code_alike alike
    cases there : statusFromPayload rt p
    cases there' : statusFromPayload rt p'
    simp_all

theorem buildNodeSpan_iff (alike : maskedEntries p = maskedEntries p') :
    buildNodeSpan rt h s nodeKey p parentId = buildNodeSpan rt h s nodeKey p' parentId ↔
      shownTexts rt (nodeKey, p) = shownTexts rt (nodeKey, p') := by
  constructor
  · intro same
    have strings : Function.Injective (Option.map Json.str) :=
      Option.map_injective (fun _ _ same => Json.str.inj same)
    have attributes := congrArg TraceSpan.attributes same
    have name : displayName rt nodeKey p = displayName rt nodeKey p' :=
      congrArg TraceSpan.name same
    have status : statusFromPayload rt p = statusFromPayload rt p' :=
      congrArg TraceSpan.status same
    obtain ⟨prompts, responses, messages⟩ :=
      (collectMessageEvents_iff s.happenedAt).mp (congrArg TraceSpan.events same)
    obtain ⟨id, kind, artifacts, ai⟩ := attribute_texts rt nodeKey p h.workspaceId
      (extractArtifactIds rt p) (extractInputTokens rt p) (extractOutputTokens rt p) (nodeOutput p)
    obtain ⟨id', kind', artifacts', ai'⟩ := attribute_texts rt nodeKey p' h.workspaceId
      (extractArtifactIds rt p') (extractInputTokens rt p') (extractOutputTokens rt p')
      (nodeOutput p')
    dsimp only [buildNodeSpan] at attributes
    rw [← attributes] at id' kind' artifacts' ai'
    obtain ⟨ai₁, ai₂, ai₃, ai₄, ai₅⟩ := ai
    obtain ⟨ai₁', ai₂', ai₃', ai₄', ai₅'⟩ := ai'
    have texts : aiTextKeys.map (aiText rt p) = aiTextKeys.map (aiText rt p') := by
      simp only [aiTextKeys, List.map_cons, List.map_nil, strings (ai₁.symm.trans ai₁'),
        strings (ai₂.symm.trans ai₂'), strings (ai₃.symm.trans ai₃'),
        strings (ai₄.symm.trans ai₄'), strings (ai₅.symm.trans ai₅')]
    unfold shownTexts
    simp only [Json.str.inj (Option.some.inj (id.symm.trans id')), name,
      strings (kind.symm.trans kind'), texts, artifacts_inj (artifacts.symm.trans artifacts'),
      prompts, responses, messages, status]
  · intro same
    unfold shownTexts at same
    simp only [ShownTexts.mk.injEq] at same
    obtain ⟨id, name, kind, ai, artifacts, prompts, responses, messages, message⟩ := same
    have status := (statusFromPayload_iff alike).mpr message
    have events := (collectMessageEvents_iff s.happenedAt).mpr ⟨prompts, responses, messages⟩
    simp only [aiTextKeys, List.map_cons, List.map_nil, List.cons.injEq, and_true] at ai
    obtain ⟨ai₁, ai₂, ai₃, ai₄, ai₅⟩ := ai
    unfold buildNodeSpan
    simp only [attributes_eq, id, name, kind, ai₁, ai₂, ai₃, ai₄, ai₅, artifacts, status, events,
      aiVectorSize_alike alike, extractLatency_alike alike, coalesceStatus_alike alike,
      spanWorkspaceId_alike alike, extractInputTokens_alike alike,
      extractOutputTokens_alike alike, nodeOutput_alike alike, computeEndTime_alike alike]

/-- Updates of one node, with payloads that differ under sensitive keys. -/
def AlikeUpdates (u u' : String × Entries) : Prop :=
  u.1 = u'.1 ∧ maskedEntries u.2 = maskedEntries u'.2

theorem updates_alike {items items' : Entries} (alike : List.Forall₂ AlikeItems items items') :
    List.Forall₂ AlikeUpdates (items.filterMap nodeUpdate) (items'.filterMap nodeUpdate) := by
  induction alike with
  | nil => exact .nil
  | @cons e e' items items' head tail ih =>
    obtain ⟨key, v⟩ := e
    obtain ⟨key', v'⟩ := e'
    obtain ⟨rfl, values⟩ := head
    dsimp only at values
    by_cases named : key = namespaceMetadataKey
    · have none_of (v : Json) : nodeUpdate (key, v) = none := by
        unfold nodeUpdate
        cases v <;> simp [named]
      rw [List.filterMap_cons_none (none_of v), List.filterMap_cons_none (none_of v')]
      exact ih
    · rw [if_neg named] at values
      cases v with
      | obj p =>
        cases v' with
        | obj p' =>
          have some_of (p : Entries) : nodeUpdate (key, .obj p) = some (key, p) := if_neg named
          rw [List.filterMap_cons_some (some_of p), List.filterMap_cons_some (some_of p')]
          exact .cons ⟨rfl, by simpa using values⟩ ih
        | _ => simp [masked] at values
      | _ =>
        cases v' with
        | obj p' => simp [masked] at values
        | _ => exact ih

theorem path_alike (alike : AlikeSteps s s') : s.path rt = s'.path rt := by
  have fields : ∀ {items items' : Entries}, List.Forall₂ AlikeItems items items' →
      Json.field? items namespaceMetadataKey = Json.field? items' namespaceMetadataKey := by
    intro items items' alike
    induction alike with
    | nil => rfl
    | @cons e e' items items' head tail ih =>
      obtain ⟨key, v⟩ := e
      obtain ⟨key', v'⟩ := e'
      obtain ⟨rfl, values⟩ := head
      unfold Json.field? at ih ⊢
      rw [Dict.lookup, Dict.lookup, ih]
      split
      next named =>
        rw [if_pos named] at values
        exact congrArg some values
      next => rfl
  unfold path extractStepNamespace get
  rw [fields alike.payload]

theorem observe_alike (alike : maskedEntries p = maskedEntries p') (tracker : Tracker)
    (happenedAt : s.happenedAt = s'.happenedAt) (path : Namespace) :
    tracker.observe rt s nodeKey p path = tracker.observe rt s' nodeKey p' path := by
  unfold Tracker.observe
  rw [happenedAt, computeEndTime_alike alike, status_code_alike alike]

variable (rt h) in
theorem spansOfUpdates_iff (index : s.index = s'.index) (happenedAt : s.happenedAt = s'.happenedAt)
    (path : s.path rt = s'.path rt) {us us' : List (String × Entries)}
    (alike : List.Forall₂ AlikeUpdates us us') (tracker : Tracker) :
    (ownSpans rt s tracker us).length = (ownSpans rt s' tracker us').length ∧
    ((spansOfUpdates rt h s tracker us).2 = (spansOfUpdates rt h s' tracker us').2 ↔
      (ownSpans rt s tracker us).map (shownTexts rt) =
        (ownSpans rt s' tracker us').map (shownTexts rt)) := by
  induction alike generalizing tracker with
  | nil => exact ⟨rfl, iff_of_true rfl rfl⟩
  | @cons u u' us us' head tail ih =>
    obtain ⟨nodeKey, p⟩ := u
    obtain ⟨nodeKey', p'⟩ := u'
    obtain ⟨rfl, alike⟩ := head
    dsimp only at alike
    have moved : tracker.observe rt s nodeKey p (s.path rt) =
        tracker.observe rt s' nodeKey p' (s'.path rt) := by
      rw [path]
      exact observe_alike alike tracker happenedAt _
    have span_eq (parentId : String) : buildNodeSpan rt h s' nodeKey p' parentId =
        buildNodeSpan rt h s nodeKey p' parentId := by
      unfold buildNodeSpan
      rw [index, happenedAt]
    rw [spansOfUpdates, spansOfUpdates, spansOfUpdate, spansOfUpdate, ownSpans, ownSpans]
    dsimp only
    rw [← moved, ← path]
    obtain ⟨tracker', touched⟩ := tracker.observe rt s nodeKey p (s.path rt)
    dsimp only
    obtain ⟨lengths, spans⟩ := ih tracker'
    refine ⟨?_, ?_⟩
    · rw [List.length_append, List.length_append, lengths]
      split <;> rfl
    · split
      next own =>
        rw [List.append_assoc, List.append_assoc, List.append_cancel_left_eq, span_eq]
        simp only [List.cons_append, List.nil_append, List.cons.injEq, List.map_cons, spans,
          buildNodeSpan_iff alike]
      next => simpa using spans

theorem observeAll_alike (alike : AlikeSteps s s') (tracker : Tracker) :
    tracker.observeAll rt s = tracker.observeAll rt s' := by
  have updates := updates_alike alike.payload
  unfold Tracker.observeAll RunHistoryStep.updates
  rw [path_alike alike]
  generalize s.payload.filterMap nodeUpdate = us, s'.payload.filterMap nodeUpdate = us' at updates
  induction updates generalizing tracker with
  | nil => rfl
  | @cons u u' us us' head tail ih =>
    rw [List.foldl_cons, List.foldl_cons, head.1,
      observe_alike head.2 tracker alike.happenedAt, ih]

theorem spansOfSteps_iff {steps steps' : List RunHistoryStep}
    (alike : List.Forall₂ AlikeSteps steps steps') (tracker : Tracker) :
    spansOfSteps rt h tracker steps = spansOfSteps rt h tracker steps' ↔
      (ownSpansOfSteps rt tracker steps).map (shownTexts rt) =
        (ownSpansOfSteps rt tracker steps').map (shownTexts rt) := by
  induction alike generalizing tracker with
  | nil => exact iff_of_true rfl rfl
  | @cons s s' steps steps' head tail ih =>
    obtain ⟨lengths, spans⟩ := spansOfUpdates_iff rt h head.index
      head.happenedAt (path_alike head) (updates_alike head.payload) tracker
    have moved : tracker.observeAll rt s = tracker.observeAll rt s' := observeAll_alike head tracker
    rw [spansOfSteps, spansOfSteps, List.cons.injEq, ownSpansOfSteps, ownSpansOfSteps, ← moved,
      ih, List.map_append, List.map_append]
    constructor
    · rintro ⟨here, later⟩
      rw [later]
      exact congrArg (· ++ _) (spans.mp here)
    · intro same
      obtain ⟨here, later⟩ := List.append_inj same (by
        rw [List.length_map, List.length_map]
        exact lengths)
      exact ⟨spans.mpr here, later⟩

theorem setDefault_alike {v v' : Json} (states : maskedEntries p = maskedEntries p')
    (plain : isSensitiveStateKey key = false) (alike : masked v = masked v') :
    maskedEntries (setDefault p key v) = maskedEntries (setDefault p' key v') := by
  have fields := field?_alike states plain
  unfold setDefault
  cases there : Json.field? p key with
  | none =>
    cases there' : Json.field? p' key with
    | none =>
      dsimp only
      rw [maskedEntries_put, maskedEntries_put, states, maskedAt_of_plain plain,
        maskedAt_of_plain plain, alike]
    | some _ =>
      rw [there, there'] at fields
      cases fields
  | some _ =>
    cases there' : Json.field? p' key with
    | none =>
      rw [there, there'] at fields
      cases fields
    | some _ => exact states

theorem initialWorkflowState_alike (alike : maskedEntries p = maskedEntries p') :
    maskedEntries (initialWorkflowState p) = maskedEntries (initialWorkflowState p') := by
  unfold initialWorkflowState
  refine setDefault_alike (setDefault_alike (setDefault_alike alike (by decide) ?_)
    (by decide) rfl) (by decide) rfl
  rw [masked_obj, masked_obj, alike]

theorem findSpanState_alike (spanId : String) {us us' : List (String × Entries)}
    (alike : List.Forall₂ AlikeUpdates us us') (states : maskedEntries p = maskedEntries p') :
    findSpanState spanId p us = findSpanState spanId p' us' := by
  induction alike generalizing p p' with
  | nil => rfl
  | @cons u u' us us' head tail ih =>
    obtain ⟨id, payload⟩ := u
    obtain ⟨id', payload'⟩ := u'
    obtain ⟨rfl, payloads⟩ := head
    have merged := mergeIntoWorkflowState_alike payload payload' p p' states payloads
    rw [findSpanState, findSpanState]
    dsimp only
    rw [sanitizeStateSnapshot_alike states, sanitizeStateSnapshot_alike merged, ih merged]

theorem stateUpdates_alike (alike : List.Forall₂ AlikeSteps h.steps h'.steps)
    (execution : h.executionId = h'.executionId) :
    List.Forall₂ AlikeUpdates (stateUpdates rt h) (stateUpdates rt h') := by
  unfold stateUpdates
  rw [execution]
  generalize h.steps = steps, h'.steps = steps' at alike
  induction alike with
  | nil => exact .nil
  | @cons s s' steps steps' head tail ih =>
    rw [List.flatMap_cons, List.flatMap_cons]
    refine List.rel_append ?_ ih
    rw [head.index]
    have items := head.payload
    generalize s.payload = items, s'.payload = items' at items
    induction items with
    | nil => exact .nil
    | @cons e e' items items' item _ rest =>
      obtain ⟨key, v⟩ := e
      obtain ⟨key', v'⟩ := e'
      obtain ⟨rfl, values⟩ := item
      have alike : masked v = masked v' := by
        dsimp only at values
        split at values
        · rw [values]
        · exact values
      cases v with
      | obj p =>
        cases v' with
        | obj p' => exact .cons ⟨rfl, by simpa using alike⟩ rest
        | _ => simp [masked] at alike
      | _ =>
        cases v' with
        | obj p' => simp [masked] at alike
        | _ => exact rest

theorem buildSpanState_alike (alike : AlikeHistories h h') (spanId : String) :
    buildSpanState rt h spanId = buildSpanState rt h' spanId := by
  have execution := congrArg RunHistoryRecord.executionId alike.others
  exact findSpanState_alike spanId (stateUpdates_alike alike.steps execution)
    (initialWorkflowState_alike alike.inputs)

theorem AlikeHistories.record (alike : AlikeHistories h h') :
    h' = { h with inputs := h'.inputs, steps := h'.steps } := by
  have others := alike.others
  cases h
  cases h'
  simp only [RunHistoryRecord.mk.injEq] at others ⊢
  simp [others]

theorem AlikeHistories.counted (alike : AlikeHistories h h') (counted : Counted h) :
    Counted h' := by
  have indices : h.steps.map index = h'.steps.map index := by
    have steps := alike.steps
    generalize h.steps = steps, h'.steps = steps' at steps
    induction steps with
    | nil => rfl
    | cons head _ ih => rw [List.map_cons, List.map_cons, head.index, ih]
  unfold Counted at counted ⊢
  rw [← List.pairwise_map (f := index) (R := (· < ·))] at counted ⊢
  rwa [← indices]

theorem sameTraces_iff (rt : TraceRuntime) (alike : AlikeHistories h h') (counted : Counted h) :
    SameTraces rt h h' ↔ SameTexts rt h h' := by
  have record (tracker : Tracker) (steps : List RunHistoryStep) :
      spansOfSteps rt h' tracker steps = spansOfSteps rt h tracker steps :=
    (congrArg (spansOfSteps rt · tracker steps) alike.record).trans
      (spansOfSteps_record h h'.inputs h'.steps tracker steps)
  have all_spans : spansOfSteps rt h {} h.steps = spansOfSteps rt h' {} h'.steps ↔
      SameTexts rt h h' := by
    rw [record]
    exact spansOfSteps_iff alike.steps {}
  have roots : buildRootSpan rt h = buildRootSpan rt h' := by
    rw [alike.record]
    rfl
  rw [← all_spans]
  constructor
  · intro same
    have lengths : h.steps.length = h'.steps.length := alike.steps.length_eq
    refine List.ext_getElem (by simpa using lengths) (fun n here here' => ?_)
    have update := same.update n false true
    rw [buildTraceUpdate_step counted n, buildTraceUpdate_step (alike.counted counted) n] at update
    have spans : ((spansOfSteps rt h {} h.steps)[n]?).getD [] =
        ((spansOfSteps rt h' {} h'.steps)[n]?).getD [] := by
      simp only [Bool.false_eq_true, if_false, List.nil_append, Bool.not_true, and_false,
        Option.some.injEq, TraceUpdate.mk.injEq] at update
      exact update.2.2.1
    rwa [List.getElem?_eq_getElem here, List.getElem?_eq_getElem here'] at spans
  · intro same
    refine ⟨?_, ?_, buildSpanState_alike alike⟩
    · have spans : spansById rt h = spansById rt h' := by
        unfold spansById
        rw [buildSpansForSteps_eq, buildSpansForSteps_eq, same, roots, alike.record]
        rfl
      unfold buildTraceResponse
      rw [spans, alike.record]
      rfl
    · intro n includeRoot complete
      rw [buildTraceUpdate_step counted n, buildTraceUpdate_step (alike.counted counted) n, same, roots]
      have execution := congrArg RunHistoryRecord.executionId alike.record
      have trace : traceIdentifier rt h = traceIdentifier rt h' := by
        rw [alike.record]
        rfl
      rw [execution, trace]

def promptHistory (apiKey : String) : RunHistoryRecord where
  workflowId := "workflow"
  executionId := "run"
  startedAt := 0
  steps := [{
    index := 0
    happenedAt := 0
    payload := [("writer", .obj [("prompts", .obj [("api_key", .str apiKey)])])] }]

theorem promptHistory_alike (k k' : String) :
    AlikeHistories (promptHistory k) (promptHistory k') where
  others := rfl
  inputs := rfl
  steps := by
    refine .cons ⟨rfl, rfl, .cons ⟨rfl, ?_⟩ .nil⟩ .nil
    have ordinary : isSensitiveStateKey "prompts" = false := by decide
    have sensitive : isSensitiveStateKey "api_key" = true := by decide
    rw [if_neg (show ¬ "writer" = namespaceMetadataKey by decide)]
    simp [maskedEntries, ordinary, sensitive]

theorem traces_show_prompt_keys : ¬ ∀ (rt : TraceRuntime) (h h' : RunHistoryRecord),
    AlikeHistories h h' → Counted h → SameTraces rt h h' := by
  intro redacted
  have same := redacted .plain (promptHistory "opensesame") (promptHistory "hunter2")
    (promptHistory_alike _ _) (List.pairwise_singleton _ _)
  have update := same.update 0 false false
  revert update
  decide +kernel

/-- Two histories that differ under sensitive keys have one trace if and only if the texts that
are shown without being sanitized are the same. -/
theorem traces_alike_iff_texts (rt : TraceRuntime) (alike : AlikeHistories h h')
    (counted : Counted h) : SameTraces rt h h' ↔ SameTexts rt h h' :=
  sameTraces_iff rt alike counted

theorem traces_alike_iff_texts_prompt :
    SameTraces .plain (promptHistory "opensesame") (promptHistory "hunter2") ↔
      SameTexts .plain (promptHistory "opensesame") (promptHistory "hunter2") :=
  traces_alike_iff_texts .plain (promptHistory_alike _ _) (List.pairwise_singleton _ _)

end Orcheo.Traces
