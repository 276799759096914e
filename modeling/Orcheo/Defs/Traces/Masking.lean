import Orcheo.Defs.Traces.Spans

/-! What of a payload does not depend on the values under sensitive keys. -/

namespace Orcheo.Traces

open Lib (Dict)

mutual
def masked : Json → Json
  | .arr items => .arr (maskedItems items)
  | .obj fields => .obj (maskedEntries fields)
  | value => value

def maskedItems : List Json → List Json
  | [] => []
  | value :: rest => masked value :: maskedItems rest

def maskedEntries : Entries → Entries
  | [] => []
  | (key, value) :: rest =>
    (key, if isSensitiveStateKey key then .null else masked value) :: maskedEntries rest
end

def maskedAt (key : String) (value : Json) : Json :=
  if isSensitiveStateKey key then .null else masked value

variable {rt : TraceRuntime} {p p' q q' : Entries} {key : String} {v v' : Json}

theorem maskedItems_eq (items : List Json) : maskedItems items = items.map masked := by
  induction items with
  | nil => rfl
  | cons value rest ih => rw [maskedItems, ih, List.map_cons]

theorem maskedEntries_eq (p : Entries) :
    maskedEntries p = p.map (fun e => (e.1, maskedAt e.1 e.2)) := by
  induction p with
  | nil => rfl
  | cons e rest ih =>
    obtain ⟨key, value⟩ := e
    rw [maskedEntries, ih, List.map_cons]
    rfl

@[simp] theorem masked_obj : masked (.obj p) = .obj (maskedEntries p) := by rw [masked]

@[simp] theorem masked_arr {items : List Json} : masked (.arr items) = .arr (items.map masked) := by
  rw [masked, maskedItems_eq]

theorem maskedAt_of_plain (plain : isSensitiveStateKey key = false) :
    maskedAt key v = masked v := by
  simp [maskedAt, plain]

theorem field?_maskedEntries (p : Entries) (key : String) :
    Json.field? (maskedEntries p) key = (Json.field? p key).map (maskedAt key) := by
  rw [maskedEntries_eq]
  unfold Json.field?
  induction p with
  | nil => rfl
  | cons e rest ih =>
    obtain ⟨k, value⟩ := e
    rw [List.map_cons, Dict.lookup, Dict.lookup, ih]
    by_cases here : k = key
    · simp [here]
    · simp [here]

theorem field?_alike (alike : maskedEntries p = maskedEntries p')
    (plain : isSensitiveStateKey key = false) :
    (Json.field? p key).map masked = (Json.field? p' key).map masked := by
  have fields := congrArg (Json.field? · key) alike
  simp only [field?_maskedEntries] at fields
  have same : maskedAt key = masked := funext (fun v => maskedAt_of_plain plain)
  rw [same] at fields
  exact fields

theorem get_alike (alike : maskedEntries p = maskedEntries p')
    (plain : isSensitiveStateKey key = false) : masked (get p key) = masked (get p' key) := by
  have fields := field?_alike alike plain
  unfold get
  cases there : Json.field? p key with
  | none =>
    cases there' : Json.field? p' key with
    | none => rfl
    | some v' =>
      rw [there, there'] at fields
      cases fields
  | some v =>
    cases there' : Json.field? p' key with
    | none =>
      rw [there, there'] at fields
      cases fields
    | some v' =>
      rw [there, there'] at fields
      exact Option.some.inj fields

theorem maskedEntries_put (p : Entries) (key : String) (v : Json) :
    maskedEntries (put p key v) = put (maskedEntries p) key (maskedAt key v) := by
  rw [maskedEntries_eq, maskedEntries_eq]
  unfold put
  induction p with
  | nil => rfl
  | cons e rest ih =>
    obtain ⟨k, value⟩ := e
    rw [Dict.insertEntry, List.map_cons, Dict.insertEntry]
    by_cases here : k = key
    · simp [here]
    · simp [here, ih]

section

variable {child : Json → Sanitized Json} (blind : ∀ v, child (masked v) = child v)
include blind

theorem sanitizeEntry_maskedAt (acc : Sanitized Entries) (item : String × Json) :
    sanitizeEntry child acc (item.1, maskedAt item.1 item.2) = sanitizeEntry child acc item := by
  unfold sanitizeEntry
  split
  next => rfl
  next plain =>
    dsimp only at plain
    simp [maskedAt, plain, blind]

theorem sanitizeMappingValue_masked (p : Entries) :
    sanitizeMappingValue child (maskedEntries p) = sanitizeMappingValue child p := by
  have folded : ∀ (acc : Sanitized Entries) (items : Entries),
      (items.map (fun e => (e.1, maskedAt e.1 e.2))).foldl (sanitizeEntry child) acc =
        items.foldl (sanitizeEntry child) acc := by
    intro acc items
    induction items generalizing acc with
    | nil => rfl
    | cons e rest ih => rw [List.map_cons, List.foldl_cons, List.foldl_cons,
        sanitizeEntry_maskedAt blind, ih]
  unfold sanitizeMappingValue
  rw [maskedEntries_eq, ← List.map_take, folded, List.length_map]

theorem sanitizeSequenceValue_masked (items : List Json) :
    sanitizeSequenceValue child (items.map masked) = sanitizeSequenceValue child items := by
  have same : child ∘ masked = child := funext blind
  unfold sanitizeSequenceValue
  rw [← List.map_take, List.map_map, same, List.length_map]

end

theorem sanitizeValue_masked (depth : Nat) (v : Json) :
    sanitizeValue depth (masked v) = sanitizeValue depth v := by
  induction depth generalizing v with
  | zero => rfl
  | succ depth ih =>
    cases v with
    | obj fields => rw [masked_obj, sanitizeValue, sanitizeValue, sanitizeMappingValue_masked ih]
    | arr items => rw [masked_arr, sanitizeValue, sanitizeValue, sanitizeSequenceValue_masked ih]
    | _ => rfl

theorem sanitizeStateSnapshot_alike (alike : maskedEntries p = maskedEntries p') :
    sanitizeStateSnapshot p = sanitizeStateSnapshot p' := by
  unfold sanitizeStateSnapshot
  rw [← sanitizeMappingValue_masked (sanitizeValue_masked _), alike,
    sanitizeMappingValue_masked (sanitizeValue_masked _)]

theorem nodeOutput_alike (alike : maskedEntries p = maskedEntries p') :
    nodeOutput p = nodeOutput p' := by
  have shown : ∀ (acc : Entries) (items : Entries),
      maskedEntries (items.foldl (fun shown item =>
        if item.1 = traceMetadataKey then shown else put shown item.1 item.2) acc) =
      (maskedEntries items).foldl (fun shown item =>
        if item.1 = traceMetadataKey then shown else put shown item.1 item.2)
        (maskedEntries acc) := by
    intro acc items
    rw [maskedEntries_eq items]
    induction items generalizing acc with
    | nil => rfl
    | cons e rest ih =>
      rw [List.foldl_cons, List.map_cons, List.foldl_cons, ih]
      dsimp only
      split
      · rfl
      · rw [maskedEntries_put]
  unfold nodeOutput
  rw [← sanitizeValue_masked, masked_obj, shown, alike, ← shown, ← masked_obj,
    sanitizeValue_masked]

theorem firstOf_alike {α : Type} {take : Json → Option α} {keys : List String}
    (alike : maskedEntries p = maskedEntries p')
    (plain : ∀ key ∈ keys, isSensitiveStateKey key = false)
    (blind : ∀ v v', masked v = masked v' → take v = take v') :
    firstOf p take keys = firstOf p' take keys := by
  unfold firstOf
  induction keys with
  | nil => rfl
  | cons key keys ih =>
    rw [List.findSome?_cons, List.findSome?_cons,
      blind _ _ (get_alike alike (plain key List.mem_cons_self)),
      ih (fun key mem => plain key (List.mem_cons_of_mem _ mem))]

theorem toInt_alike (alike : masked v = masked v') : toInt rt v = toInt rt v' := by
  have same : ∀ v, toInt rt (masked v) = toInt rt v := by
    intro v
    cases v <;> simp [toInt, masked]
  rw [← same, alike, same]

section

variable (alike : maskedEntries p = maskedEntries p')
include alike

theorem coalesceStatus_alike :
    coalesceStatus rt p = coalesceStatus rt p' := by
  refine firstOf_alike alike (by decide) ?_
  intro v v' same
  cases v <;> cases v' <;> simp_all [masked]

theorem extractLatency_alike :
    extractLatency rt p = extractLatency rt p' :=
  firstOf_alike alike (by decide) (fun _ _ same => toInt_alike same)

theorem computeEndTime_alike (start : Instant) :
    computeEndTime rt start p = computeEndTime rt start p' := by
  unfold computeEndTime
  rw [extractLatency_alike alike]

end

theorem extractTokens_alike {ofSource ofPayload : List String}
    (plain : ∀ key ∈ ofSource ++ ofPayload, isSensitiveStateKey key = false)
    (alike : maskedEntries p = maskedEntries p') :
    extractTokens rt p ofSource ofPayload = extractTokens rt p' ofSource ofPayload := by
  have ofPayload_same : extractTokenCount rt p ofPayload = extractTokenCount rt p' ofPayload :=
    firstOf_alike alike (fun key mem => plain key (List.mem_append_right _ mem))
      (fun _ _ same => toInt_alike same)
  unfold extractTokens
  rw [ofPayload_same]
  congr 1
  refine firstOf_alike alike (by decide) ?_
  intro v v' same
  cases v <;> cases v' <;> simp only [masked, Json.obj.injEq, reduceCtorEq] at same ⊢
  exact firstOf_alike same (fun key mem => plain key (List.mem_append_left _ mem))
    (fun _ _ same => toInt_alike same)

section

variable (alike : maskedEntries p = maskedEntries p')
include alike

theorem extractInputTokens_alike :
    extractInputTokens rt p = extractInputTokens rt p' := extractTokens_alike (by decide) alike

theorem extractOutputTokens_alike :
    extractOutputTokens rt p = extractOutputTokens rt p' := extractTokens_alike (by decide) alike

theorem status_code_alike : (statusFromPayload rt p).code = (statusFromPayload rt p').code := by
  unfold statusFromPayload
  rw [coalesceStatus_alike alike]
  split
  · rfl
  · repeat' split
    all_goals rfl

theorem spanWorkspaceId_alike (workspaceId : Option String) :
    spanWorkspaceId rt workspaceId p = spanWorkspaceId rt workspaceId p' := by
  cases workspaceId with
  | some w => rfl
  | none =>
    have fields := get_alike alike (show isSensitiveStateKey "workspace_id" = false by decide)
    unfold spanWorkspaceId
    generalize get p "workspace_id" = v at fields
    generalize get p' "workspace_id" = v' at fields
    cases v <;> cases v' <;> simp_all [masked]

end

def existingState : Option Json → Option Entries
  | some (.obj state) => some state
  | _ => none

theorem mergeValue_obj (existing : Option Json) (payload : Entries) :
    mergeValue existing (.obj payload) = .obj (match existingState existing with
      | some state => mergeIntoWorkflowState state payload
      | none => payload) := by
  cases existing with
  | none =>
    rw [mergeValue]
    · rfl
    · simp
  | some v => cases v <;> rw [mergeValue] <;> first | rfl | simp

theorem existingState_alike {existing existing' : Option Json}
    (alike : existing.map masked = existing'.map masked) :
    (existingState existing).map maskedEntries = (existingState existing').map maskedEntries := by
  have same : ∀ existing : Option Json, (existingState existing).map maskedEntries =
      existingState (existing.map masked) := by
    intro existing
    cases existing with
    | none => rfl
    | some v => cases v <;> simp [existingState, masked]
  rw [same, alike, same]

mutual
theorem mergeValue_alike {existing existing' : Option Json}
    (states : existing.map masked = existing'.map masked) :
    (v v' : Json) → masked v = masked v' →
      masked (mergeValue existing v) = masked (mergeValue existing' v')
  | .obj payload, v', alike => by
    cases v' with
    | obj payload' =>
      have inner : maskedEntries payload = maskedEntries payload' := by simpa using alike
      have states := existingState_alike states
      rw [mergeValue_obj, mergeValue_obj, masked_obj, masked_obj]
      congr 1
      cases there : existingState existing with
      | none =>
        cases there' : existingState existing' with
        | none => exact inner
        | some state' =>
          rw [there, there'] at states
          cases states
      | some state =>
        cases there' : existingState existing' with
        | none =>
          rw [there, there'] at states
          cases states
        | some state' =>
          rw [there, there'] at states
          exact mergeIntoWorkflowState_alike payload payload' state state'
            (Option.some.inj states) inner
    | _ => simp [masked] at alike
  | .arr items, v', alike => by cases v' <;> simp_all [masked, maskedItems_eq, mergeValue]
  | .null, v', alike => by cases v' <;> simp_all [masked, mergeValue]
  | .bool _, v', alike => by cases v' <;> simp_all [masked, mergeValue]
  | .int _, v', alike => by cases v' <;> simp_all [masked, mergeValue]
  | .float _, v', alike => by cases v' <;> simp_all [masked, mergeValue]
  | .str _, v', alike => by cases v' <;> simp_all [masked, mergeValue]

theorem mergeIntoWorkflowState_alike : (p p' s s' : Entries) →
    maskedEntries s = maskedEntries s' → maskedEntries p = maskedEntries p' →
    maskedEntries (mergeIntoWorkflowState s p) = maskedEntries (mergeIntoWorkflowState s' p')
  | [], p', s, s', states, alike => by
    cases p' with
    | nil => simpa [mergeIntoWorkflowState] using states
    | cons => simp [maskedEntries] at alike
  | (key, v) :: rest, p', s, s', states, alike => by
    cases p' with
    | nil => simp [maskedEntries] at alike
    | cons e' rest' =>
      obtain ⟨key', v'⟩ := e'
      rw [maskedEntries, maskedEntries] at alike
      obtain ⟨head, tail⟩ := List.cons.inj alike
      obtain ⟨rfl, values⟩ := Prod.mk.inj head
      rw [mergeIntoWorkflowState, mergeIntoWorkflowState]
      refine mergeIntoWorkflowState_alike rest rest' _ _ ?_ tail
      split
      · exact states
      · rw [maskedEntries_put, maskedEntries_put, states]
        congr 1
        unfold maskedAt
        split
        next => rfl
        next plain =>
          rw [if_neg plain, if_neg plain] at values
          exact mergeValue_alike (field?_alike states (by simpa using plain)) v v' values
end

def EntryShown (Shown : Json → Prop) (e : String × Json) : Prop :=
  if isSensitiveStateKey e.1 then e.2 = stateRedactedMarker
  else Shown e.2 ∨ e.1 = "__truncated_items__" ∧ ∃ n, e.2 = .int n

/-- What may be seen of a value, down to so many levels. -/
def Shown : Nat → Json → Prop
  | 0, value => value = stateTruncatedMarker
  | depth + 1, .obj fields => fields.length ≤ stateMaxCollectionItems + 1 ∧
    ∀ e ∈ fields, EntryShown (Shown depth) e
  | depth + 1, .arr items => items.length ≤ stateMaxCollectionItems + 1 ∧
    ∀ value ∈ items, Shown depth value ∨ value = stateTruncatedMarker
  | _ + 1, .str s => s.length ≤ stateMaxStringLength + 1
  | _ + 1, _ => True

theorem length_put (p : Entries) (key : String) (v : Json) :
    (put p key v).length ≤ p.length + 1 := by
  unfold put
  induction p with
  | nil => exact le_rfl
  | cons e rest ih => grind [Dict.insertEntry]

section

variable {child : Json → Sanitized Json} {depth : Nat} (shown : ∀ v, Shown depth (child v).value)
include shown

theorem sanitizeEntries_shown (items : Entries) (acc : Sanitized Entries)
    (good : ∀ e ∈ acc.value, EntryShown (Shown depth) e) :
    let kept := (items.foldl (sanitizeEntry child) acc).value
    kept.length ≤ acc.value.length + items.length ∧ ∀ e ∈ kept, EntryShown (Shown depth) e := by
  induction items generalizing acc with
  | nil => exact ⟨le_rfl, good⟩
  | cons item rest ih =>
    obtain ⟨v, is, at_⟩ : ∃ v, (sanitizeEntry child acc item).value = put acc.value item.1 v ∧
        EntryShown (Shown depth) (item.1, v) := by
      unfold sanitizeEntry
      split
      next sensitive => exact ⟨_, rfl, by simp [EntryShown, sensitive]⟩
      next plain => exact ⟨_, rfl, by simp [EntryShown, plain, shown]⟩
    have grown := length_put acc.value item.1 v
    have kept := ih (sanitizeEntry child acc item)
    grind [put, Dict.mem_insertEntry]

theorem sanitizeMappingValue_shown (p : Entries) :
    Shown (depth + 1) (.obj (sanitizeMappingValue child p).value) := by
  obtain ⟨size, good⟩ := sanitizeEntries_shown shown (p.take stateMaxCollectionItems)
    ⟨[], false, false⟩ nofun
  have few := List.length_take_le stateMaxCollectionItems p
  have plain : isSensitiveStateKey "__truncated_items__" = false := by decide
  rw [List.length_nil, Nat.zero_add] at size
  unfold sanitizeMappingValue
  dsimp only
  split
  next => exact ⟨by omega, good⟩
  next =>
    refine ⟨(length_put ..).trans (by omega), fun e mem => ?_⟩
    obtain rfl | old := Dict.mem_insertEntry mem
    · simp [EntryShown, plain]
    · exact good e old

theorem sanitizeSequenceValue_shown (items : List Json) :
    Shown (depth + 1) (.arr (sanitizeSequenceValue child items).value) := by
  have few := List.length_take_le stateMaxCollectionItems items
  unfold sanitizeSequenceValue
  grind [Shown]

end

theorem sanitizeValue_shown (depth : Nat) (v : Json) :
    Shown depth (sanitizeValue depth v).value := by
  induction depth generalizing v with
  | zero => rfl
  | succ depth ih =>
    cases v with
    | obj fields => exact sanitizeMappingValue_shown ih fields
    | arr items => exact sanitizeSequenceValue_shown ih items
    | str s =>
      unfold sanitizeValue
      split
      next =>
        show String.length _ ≤ _
        have one : "…".length = 1 := rfl
        rw [String.length_append, String.length_ofList, List.length_take, one]
        omega
      next short => exact Nat.le_succ_of_le (Nat.le_of_not_lt short)
    | _ => trivial

/-- Of the outputs and the states of every node, no more than so many levels and items are shown,
and nothing under a sensitive key. -/
theorem snapshots_shown (rt : TraceRuntime) (record : RunHistoryRecord) (spanId : String)
    (payload : Entries) : Shown stateMaxDepth (nodeOutput payload) ∧
      ∀ state ∈ buildSpanState rt record spanId,
        Shown stateMaxDepth (.obj state.before) ∧ Shown stateMaxDepth (.obj state.after) := by
  refine ⟨sanitizeValue_shown .., ?_⟩
  unfold buildSpanState
  intro state
  have snapshot (p : Entries) : Shown stateMaxDepth (.obj (sanitizeStateSnapshot p).value) :=
    sanitizeMappingValue_shown (sanitizeValue_shown _) p
  generalize initialWorkflowState record.inputs = s
  induction stateUpdates rt record generalizing s with
  | nil => intro found; cases found
  | cons update rest ih =>
    intro found
    unfold findSpanState at found
    dsimp only at found
    split at found
    next =>
      cases found
      exact ⟨snapshot _, snapshot _⟩
    next => exact ih _ found

end Orcheo.Traces
