import Orcheo.Defs.Values
import Orcheo.Lib.Except

/-! The for-loop node, its place in the results of a run, and what it exposes when it is entered
again and again. -/

namespace Orcheo.Nodes

open Lib (Dict)

inductive LoopError
  | int (e : Json.IntError)
  /-- an `IndexError` -/
  | index
  deriving DecidableEq, Repr

structure LoopResult where
  done : Bool
  index : Int
  iteration : Option Int
  total : Nat
  currentItem : Json
  deriving DecidableEq

def LoopResult.toJson (r : LoopResult) : Json :=
  .obj ([("done", .bool r.done), ("index", .int r.index)] ++
    (match r.iteration with | none => [] | some n => [("iteration", .int n)]) ++
    [("total", .int r.total), ("current_item", r.currentItem)])

structure ForLoopNode where
  name : String
  /-- The resolved setting: what a template yields need not be a list. -/
  items : Json

def item (items : List Json) (index : Int) : Except LoopError Json :=
  let place := if index < 0 then index + items.length else index
  if place < 0 then .error .index
  else match items[place.toNat]? with
    | none => .error .index
    | some x => .ok x

def storedIndex (parse : String → Option Int) (name : String) (nodeResults : Dict String Json) :
    Except LoopError Int :=
  match (nodeResults.get? name).getD (.obj []) with
  | .obj loopState =>
    match (Json.field? loopState "index").getD (.int 0) with
    | .null => .ok 0
    | rawIndex => (Json.toInt parse rawIndex).mapError .int
  | _ => .ok 0

def ForLoopNode.run (parse : String → Option Int) (node : ForLoopNode)
    (nodeResults : Dict String Json) : Except LoopError LoopResult :=
  match node.items with
  | .arr items => do
    let index ← storedIndex parse node.name nodeResults
    if index ≥ items.length then
      return {
        done := true
        index := index
        iteration := some index
        total := items.length
        currentItem := .null }
    let currentItem ← item items index
    return {
      done := false
      index := index + 1
      iteration := some (index + 1)
      total := items.length
      currentItem := currentItem }
  | _ => return { done := true, index := 0, iteration := none, total := 0, currentItem := .null }

def currentIteration (name : String) (nodeResults : Dict String Json) : Int :=
  match nodeResults.get? name with
  | some (.obj edgeState) =>
    match Json.field? edgeState "iteration" with
    | some (.int n) => if n ≥ 0 then n else 0
    | some (.bool b) => if b then 1 else 0
    | _ => 0
  | _ => 0

section Loops

variable (parse : String → Option Int) (name : String)

def Others := { results : List (String × Json) // ∀ r ∈ results, r.1 ≠ name }

/-- The node is entered with a value for its items, and the other nodes of the graph run after
each visit: the body of the loop, and what lies outside it after the last one. -/
structure Entry where
  items : Json
  others : Nat → Others name

variable {name}

def Entry.list (e : Entry name) : List Json :=
  match e.items with
  | .arr items => items
  | _ => []

def Entry.isList (e : Entry name) : Bool :=
  match e.items with
  | .arr _ => true
  | _ => false

/-- `dict_reducer` over the results of nodes that run one after the other -/
def Others.store (others : Others name) (nodeResults : Dict String Json) : Dict String Json :=
  others.val.foldl (fun d r => d.set r.1 r.2) nodeResults

/-- The visits of one entry from the given one on: the items that are exposed until the node
reports that it is done.  There is no value where it has not after so many visits. -/
def Entry.visits (e : Entry name) : Nat → Nat → Dict String Json →
    Except LoopError (Option (List Json × Dict String Json))
  | 0, _, _ => return none
  | fuel + 1, visit, nodeResults => do
    let r ← ForLoopNode.run parse ⟨name, e.items⟩ nodeResults
    let nodeResults := (e.others visit).store (nodeResults.set name r.toJson)
    if r.done then return some ([], nodeResults)
    let rest ← e.visits fuel (visit + 1) nodeResults
    return rest.map fun (exposed, nodeResults) => (r.currentItem :: exposed, nodeResults)

def exposed (fuel : Nat) : List (Entry name) → Dict String Json →
    Except LoopError (Option (List (List Json)))
  | [], _ => return some []
  | e :: entries, nodeResults => do
    match ← e.visits parse fuel 0 nodeResults with
    | none => return none
    | some (xs, nodeResults) =>
      let rest ← exposed fuel entries nodeResults
      return rest.map (xs :: ·)

def Separated (entries : List (Entry name)) : Prop :=
  ∀ before e between e' after, entries = before ++ e :: (between ++ e' :: after) →
    e.list ≠ [] → e'.list ≠ [] → ∃ x ∈ between, x.isList = false

end Loops

namespace Entry

variable {parse : String → Option Int} {name : String}

theorem get?_store (others : Others name) (nodeResults : Dict String Json) :
    (others.store nodeResults).get? name = nodeResults.get? name := by
  obtain ⟨results, other⟩ := others
  unfold Others.store
  induction results generalizing nodeResults with
  | nil => rfl
  | cons r results ih =>
    obtain ⟨apart, other⟩ := List.forall_mem_cons.mp other
    rw [List.foldl_cons, ih _ other, Dict.get?_set, if_neg apart.symm]

variable (parse) in
theorem storedIndex_store (others : Others name) (nodeResults : Dict String Json) (r : LoopResult) :
    storedIndex parse name (others.store (nodeResults.set name r.toJson)) = .ok r.index := by
  unfold storedIndex
  rw [get?_store, Dict.get?_set, if_pos rfl]
  rfl

def leave (e : Entry name) (index : Nat) : Nat :=
  if e.isList then max index e.list.length else 0

variable {e : Entry name} {index : Nat} {nodeResults : Dict String Json}

theorem list_of_not_list (other : e.isList = false) : e.list = [] := by
  unfold isList at other
  unfold list
  cases given : e.items with
  | arr items => simp [given] at other
  | _ => rfl

theorem items_of_isList (isList : e.isList = true) : e.items = .arr e.list := by
  unfold Entry.isList at isList
  unfold list
  cases given : e.items with
  | arr items => rfl
  | _ => simp [given] at isList

variable (parse) in
theorem run_of_not_list (other : e.isList = false) (nodeResults : Dict String Json) :
    ∃ r : LoopResult,
      ForLoopNode.run parse ⟨name, e.items⟩ nodeResults = .ok r ∧ r.done = true ∧ r.index = 0 := by
  unfold isList at other
  cases given : e.items with
  | arr items => simp [given] at other
  | _ => exact ⟨_, rfl, rfl, rfl⟩

theorem item_of_lt {items : List Json} (inside : index < items.length) :
    item items index = .ok items[index] := by
  unfold item
  rw [if_neg (by omega), if_neg (by omega), Int.toNat_natCast, List.getElem?_eq_getElem inside]

theorem run_of_list (isList : e.isList = true)
    (stored : storedIndex parse name nodeResults = .ok index) :
    ForLoopNode.run parse ⟨name, e.items⟩ nodeResults =
      if inside : index < e.list.length then .ok ⟨false, (index + 1 : Nat), some (index + 1 : Nat),
        e.list.length, e.list[index]⟩
      else .ok ⟨true, index, some index, e.list.length, .null⟩ := by
  rw [items_of_isList isList]
  generalize e.list = items
  simp only [ForLoopNode.run, stored, Lib.ok_bind]
  by_cases inside : index < items.length
  · rw [dif_pos inside, if_neg (by omega), item_of_lt inside]
    rfl
  · rw [dif_neg inside, if_pos (by omega)]
    rfl

theorem visits_eq (e : Entry name) (fuel visit : Nat)
    (stored : storedIndex parse name nodeResults = .ok (index : Int)) :
    e.visits parse fuel visit nodeResults = .ok none ∧ fuel ≤ e.list.length - index ∨
      ∃ nodeResults', e.visits parse fuel visit nodeResults =
        .ok (some (e.list.drop index, nodeResults')) ∧
        storedIndex parse name nodeResults' = .ok (e.leave index : Int) := by
  induction fuel generalizing index visit nodeResults with
  | zero => exact .inl ⟨rfl, Nat.zero_le _⟩
  | succ fuel ih =>
    unfold visits leave
    cases isList : e.isList with
    | false =>
      obtain ⟨r, ran, done, zero⟩ := run_of_not_list parse isList nodeResults
      refine .inr ⟨_, ?_, storedIndex_store parse (e.others visit) nodeResults r |>.trans (by rw [zero]; rfl)⟩
      rw [ran, Lib.ok_bind, if_pos done, list_of_not_list isList, List.drop_nil]
      rfl
    | true =>
      rw [run_of_list isList stored]
      by_cases inside : index < e.list.length
      · rw [dif_pos inside, Lib.ok_bind, if_neg Bool.false_ne_true,
          List.drop_eq_getElem_cons inside]
        -- the next visit finds the next index
        have next := storedIndex_store parse (e.others visit) nodeResults
          ⟨false, (index + 1 : Nat), some (index + 1 : Nat), e.list.length, e.list[index]⟩
        cases ih (visit + 1) next with
        | inl short =>
          obtain ⟨none, short⟩ := short
          refine .inl ⟨?_, by omega⟩
          rw [none]
          rfl
        | inr rest =>
          obtain ⟨nodeResults', rest, left⟩ := rest
          refine .inr ⟨nodeResults', ?_, ?_⟩
          · rw [rest]
            rfl
          · unfold leave at left
            rw [if_pos isList, Nat.max_eq_right inside] at left
            rw [if_pos rfl, Nat.max_eq_right (Nat.le_of_lt inside)]
            exact left
      · have passed := Nat.le_of_not_lt inside
        have left := storedIndex_store parse (e.others visit) nodeResults
          ⟨true, index, some index, e.list.length, .null⟩
        refine .inr ⟨_, ?_, left.trans ?_⟩
        · rw [dif_neg inside, Lib.ok_bind, if_pos rfl, List.drop_eq_nil_of_le passed]
          rfl
        · rw [if_pos rfl, Nat.max_eq_left passed]

end Entry

section Exposed

variable {parse : String → Option Int} {name : String}

def remaining : Nat → List (Entry name) → List (List Json)
  | _, [] => []
  | index, e :: entries => e.list.drop index :: remaining (e.leave index) entries

theorem exposed_eq (fuel : Nat) (entries : List (Entry name)) {index : Nat}
    {nodeResults : Dict String Json}
    (stored : storedIndex parse name nodeResults = .ok (index : Int)) :
    exposed parse fuel entries nodeResults = .ok none ∧ (∃ e ∈ entries, fuel ≤ e.list.length) ∨
      exposed parse fuel entries nodeResults = .ok (some (remaining index entries)) := by
  induction entries generalizing index nodeResults with
  | nil => exact .inr rfl
  | cons e entries ih =>
    unfold exposed
    cases e.visits_eq fuel 0 stored with
    | inl short =>
      obtain ⟨none, short⟩ := short
      refine .inl ⟨?_, e, List.mem_cons_self, by omega⟩
      rw [none]
      rfl
    | inr entered =>
      obtain ⟨nodeResults', entered, left⟩ := entered
      rw [entered, Lib.ok_bind]
      cases ih left with
      | inl short =>
        obtain ⟨none, e', mem, short⟩ := short
        refine .inl ⟨?_, e', List.mem_cons_of_mem _ mem, short⟩
        simp only [none]
        rfl
      | inr rest =>
        refine .inr ?_
        simp only [rest]
        rfl

def Preceded (entries : List (Entry name)) : Prop :=
  ∀ before e after, entries = before ++ e :: after → e.list ≠ [] →
    ∃ x ∈ before, x.isList = false

theorem preceded_cons {e : Entry name} {entries : List (Entry name)} :
    Preceded (e :: entries) ↔ e.list = [] ∧ (e.isList = false ∨ Preceded entries) := by
  constructor
  · intro preceded
    refine ⟨?_, ?_⟩
    · by_contra items
      obtain ⟨x, mem, _⟩ := preceded [] e entries rfl items
      exact absurd mem List.not_mem_nil
    · by_contra neither
      obtain ⟨isList, unpreceded⟩ := not_or.mp neither
      refine unpreceded (fun before e' after split items => ?_)
      obtain ⟨x, mem, reset⟩ := preceded (e :: before) e' after (congrArg (e :: ·) split) items
      cases List.mem_cons.mp mem with
      | inl here => exact absurd (here ▸ reset) isList
      | inr later => exact ⟨x, later, reset⟩
  · rintro ⟨empty, reset⟩ before e' after split items
    cases before with
    | nil =>
      cases split
      exact absurd empty items
    | cons d before =>
      cases split
      cases reset with
      | inl here => exact ⟨e, List.mem_cons_self, here⟩
      | inr preceded =>
        obtain ⟨x, mem, reset⟩ := preceded before e' after rfl items
        exact ⟨x, List.mem_cons_of_mem _ mem, reset⟩

theorem separated_cons {e : Entry name} {entries : List (Entry name)} :
    Separated (e :: entries) ↔ (e.list ≠ [] → Preceded entries) ∧ Separated entries := by
  constructor
  · intro separated
    refine ⟨?_, ?_⟩
    · intro items before e' after split items'
      exact separated [] e before e' after (congrArg (e :: ·) split) items items'
    · intro before d between e' after split
      exact separated (e :: before) d between e' after (congrArg (e :: ·) split)
  · rintro ⟨first, rest⟩ before d between e' after split items items'
    cases before with
    | nil =>
      cases split
      exact first items between e' after rfl items'
    | cons c before =>
      cases split
      exact rest before d between e' after rfl items items'

theorem drop_eq_self_iff {items : List Json} {index : Nat} :
    items.drop index = items ↔ index = 0 ∨ items = [] := by
  constructor
  · intro same
    have lengths := congrArg List.length same
    rw [List.length_drop] at lengths
    rw [← List.length_eq_zero_iff]
    omega
  · rintro (rfl | rfl)
    · exact List.drop_zero
    · exact List.drop_nil

theorem leave_ne_zero_iff (e : Entry name) (index : Nat) :
    e.leave index ≠ 0 ↔ e.isList = true ∧ (index ≠ 0 ∨ e.list ≠ []) := by
  unfold Entry.leave
  rw [← List.length_pos_iff_ne_nil]
  cases e.isList with
  | false => simp
  | true =>
    simp only [if_true, true_and]
    omega

theorem remaining_eq_iff (index : Nat) (entries : List (Entry name)) :
    remaining index entries = entries.map Entry.list ↔
      Separated entries ∧ (index ≠ 0 → Preceded entries) := by
  induction entries generalizing index with
  | nil => simp [remaining, Separated, Preceded]
  | cons e entries ih =>
    rw [remaining, List.map_cons, List.cons.injEq, drop_eq_self_iff, ih, separated_cons,
      preceded_cons, leave_ne_zero_iff]
    cases isList : e.isList with
    | false => simp [e.list_of_not_list isList]
    | true =>
      by_cases empty : e.list = []
      · simp [empty]
      · by_cases start : index = 0
        · simp [empty, start, and_comm]
        · simp [empty, start]

end Exposed

def inner : Entry "inner" where
  items := .arr [.str "a"]
  others _ := ⟨[], fun _ mem => absurd mem List.not_mem_nil⟩

end Orcheo.Nodes
