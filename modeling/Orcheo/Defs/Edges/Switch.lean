import Orcheo.Defs.Repository.Workflow
import Orcheo.Defs.Values

/-! The switch edge: an input value, the cases it is compared with one after the other, and the
branch that is taken. -/

namespace Orcheo.Edges

open Repository (TextRuntime)

structure CaseRuntime extends TextRuntime where
  casefold : String → String

structure SwitchCase where
  match_ : Json := .null
  branchKey : Option String := none
  caseSensitive : Option Bool := none

structure SwitchEdge where
  value : Json
  caseSensitive : Bool := true
  defaultBranchKey : String := "default"
  cases : List SwitchCase

section Definitions

variable (rt : CaseRuntime)

def normaliseCase (value : Json) (caseSensitive : Bool) : Json :=
  match value with
  | .str s => if caseSensitive then .str s else .str (rt.casefold s)
  | value => value

def coerceBranchKey (candidate : Option String) (fallback : String) : String :=
  let candidate := match candidate with
    | none => ""
    | some candidate => if candidate = "" then "" else rt.strip candidate
  if candidate ≠ "" then candidate
  else
    let slug := (rt.lower (rt.strip fallback)).toList.map (fun c => if c = ' ' then '_' else c)
    let slug := String.ofList (slug.filter (fun c => rt.isAlnum c || c == '_' || c == '-'))
    if slug = "" then fallback else slug

def SwitchCase.effective (edge : SwitchEdge) (c : SwitchCase) : Bool :=
  c.caseSensitive.getD edge.caseSensitive

def SwitchCase.key (c : SwitchCase) (index : Nat) : String :=
  coerceBranchKey rt c.branchKey ("case_" ++ toString (index + 1))

namespace SwitchEdge

variable (edge : SwitchEdge) (c : SwitchCase)

def resolveCase (index : Nat) (normalisedValue : Json) : String × Bool :=
  (c.key rt index, normalisedValue.pyEq (normaliseCase rt c.match_ (c.effective edge)))

def firstMatch (processed : Json) : Nat → List SwitchCase → String
  | _, [] => edge.defaultBranchKey
  | index, c :: cases =>
    let resolved := edge.resolveCase rt c index processed
    if resolved.2 then resolved.1 else firstMatch processed (index + 1) cases

def run : String :=
  edge.firstMatch rt (normaliseCase rt edge.value edge.caseSensitive) 0 edge.cases

def branches : List (String × SwitchCase) :=
  edge.cases.mapIdx fun index c => (c.key rt index, c)

def takes : Bool :=
  (normaliseCase rt edge.value edge.caseSensitive).pyEq
    (normaliseCase rt c.match_ (c.effective edge))

/-- The comparison under the sensitivity of the case, on both sides. -/
def matches_ : Bool :=
  (normaliseCase rt edge.value (c.effective edge)).pyEq
    (normaliseCase rt c.match_ (c.effective edge))

def keyOf (picks : SwitchCase → Bool) (branches : List (String × SwitchCase)) : String :=
  ((branches.find? fun b => picks b.2).map Prod.fst).getD edge.defaultBranchKey

def routed : String := edge.keyOf (edge.matches_ rt) (edge.branches rt)

/-- A text that its folding changes, against a case of the other sensitivity that has the text as
it is or folded. -/
def Misread : Prop :=
  ∃ s m, edge.value = .str s ∧ c.match_ = .str m ∧ rt.casefold s ≠ s ∧
    c.effective edge ≠ edge.caseSensitive ∧
    if edge.caseSensitive then rt.casefold m = s ∨ rt.casefold m = rt.casefold s
    else m = s ∨ m = rt.casefold s

/-- The first case that either comparison picks is not misread, or leads where the other
comparison goes on to. -/
def Settled : Prop :=
  ∀ before b after, edge.branches rt = before ++ b :: after →
    (∀ b ∈ before, edge.takes rt b.2 = false ∧ edge.matches_ rt b.2 = false) →
    edge.Misread rt b.2 →
    b.1 = edge.keyOf (if edge.takes rt b.2 then edge.matches_ rt else edge.takes rt) after

end SwitchEdge

end Definitions

namespace SwitchEdge

variable {rt : CaseRuntime} {edge : SwitchEdge}

theorem keyOf_cons (picks : SwitchCase → Bool) (b : String × SwitchCase)
    (branches : List (String × SwitchCase)) :
    edge.keyOf picks (b :: branches) = if picks b.2 then b.1 else edge.keyOf picks branches := by
  unfold keyOf
  rw [List.find?_cons]
  cases picks b.2 with
  | true => rfl
  | false => rfl

theorem keyOf_eq_iff (p q : SwitchCase → Bool) (branches : List (String × SwitchCase)) :
    edge.keyOf p branches = edge.keyOf q branches ↔
      ∀ before b after, branches = before ++ b :: after →
        (∀ b ∈ before, p b.2 = false ∧ q b.2 = false) → p b.2 ≠ q b.2 →
        b.1 = edge.keyOf (if p b.2 then q else p) after := by
  induction branches with
  | nil =>
    refine iff_of_true rfl (fun before b after empty => ?_)
    exact absurd empty.symm (List.append_ne_nil_of_right_ne_nil _ (List.cons_ne_nil _ _))
  | cons c branches ih =>
    -- the first case of the list is the one that is asked about, or is before it
    have parts : (∀ before b after, c :: branches = before ++ b :: after →
        (∀ b ∈ before, p b.2 = false ∧ q b.2 = false) → p b.2 ≠ q b.2 →
        b.1 = edge.keyOf (if p b.2 then q else p) after) ↔
        (p c.2 ≠ q c.2 → c.1 = edge.keyOf (if p c.2 then q else p) branches) ∧
        (p c.2 = false ∧ q c.2 = false → edge.keyOf p branches = edge.keyOf q branches) := by
      rw [ih]
      constructor
      · intro all
        refine ⟨all [] c branches rfl (fun b mem => absurd mem List.not_mem_nil), ?_⟩
        intro passed before b after split unpicked
        exact all (c :: before) b after (congrArg (c :: ·) split)
          (List.forall_mem_cons.mpr ⟨passed, unpicked⟩)
      · rintro ⟨here, later⟩ before b after split unpicked
        cases before with
        | nil =>
          cases split
          exact here
        | cons d before =>
          cases split
          obtain ⟨passed, unpicked⟩ := List.forall_mem_cons.mp unpicked
          exact later passed before b after rfl unpicked
    rw [parts, keyOf_cons, keyOf_cons]
    cases p c.2 with
    | true =>
      cases q c.2 with
      | true => simp
      | false => simp
    | false =>
      cases q c.2 with
      | true => simp [eq_comm]
      | false => simp

theorem firstMatch_eq (index : Nat) (cases : List SwitchCase) :
    edge.firstMatch rt (normaliseCase rt edge.value edge.caseSensitive) index cases =
      edge.keyOf (edge.takes rt) (cases.mapIdx fun i c => (c.key rt (index + i), c)) := by
  induction cases generalizing index with
  | nil => rfl
  | cons c cases ih =>
    have shift : (fun (i : Nat) (c : SwitchCase) => (c.key rt (index + 1 + i), c)) =
        fun i c => (c.key rt (index + (i + 1)), c) := by
      funext i c
      rw [Nat.add_assoc, Nat.add_comm 1]
    rw [firstMatch, List.mapIdx_cons, keyOf_cons, ih, shift]
    rfl

theorem run_eq : edge.run rt = edge.keyOf (edge.takes rt) (edge.branches rt) := by
  unfold run branches
  rw [firstMatch_eq]
  simp only [Nat.zero_add]

theorem pyEq_text {s : String} {y : Json} : (Json.str s).pyEq y = true ↔ y = .str s := by
  cases y with
  | str t =>
    rw [Json.pyEq, beq_iff_eq, Json.str.injEq]
    exact eq_comm
  | _ => simp [Json.pyEq, Json.numbersEq, Json.number?]

theorem normaliseCase_other {value : Json} (other : ∀ s, value ≠ .str s) (sensitive : Bool) :
    normaliseCase rt value sensitive = value := by
  cases value with
  | str s => exact absurd rfl (other s)
  | _ => rfl

theorem normaliseCase_text (s : String) (sensitive : Bool) :
    normaliseCase rt (.str s) sensitive = .str (if sensitive then s else rt.casefold s) := by
  cases sensitive <;> rfl

theorem texts_of_apart {c : SwitchCase} (apart : edge.takes rt c ≠ edge.matches_ rt c) :
    ∃ s m, edge.value = .str s ∧ c.match_ = .str m := by
  unfold takes matches_ at apart
  by_cases value : ∃ s, edge.value = .str s
  · obtain ⟨s, value⟩ := value
    by_cases text : ∃ m, c.match_ = .str m
    · obtain ⟨m, text⟩ := text
      exact ⟨s, m, value, text⟩
    · have other := not_exists.mp text
      rw [normaliseCase_other other, value, normaliseCase_text, normaliseCase_text] at apart
      refine absurd ?_ apart
      rw [Bool.eq_iff_iff, pyEq_text, pyEq_text]
      exact iff_of_false (other _) (other _)
  · rw [normaliseCase_other (not_exists.mp value), normaliseCase_other (not_exists.mp value)]
      at apart
    exact absurd rfl apart

theorem takes_ne_matches_iff (c : SwitchCase) :
    edge.takes rt c ≠ edge.matches_ rt c ↔ edge.Misread rt c := by
  have texts {s m : String} (value : edge.value = .str s) (text : c.match_ = .str m) :
      edge.takes rt c ≠ edge.matches_ rt c ↔ rt.casefold s ≠ s ∧
        c.effective edge ≠ edge.caseSensitive ∧
        if edge.caseSensitive then rt.casefold m = s ∨ rt.casefold m = rt.casefold s
        else m = s ∨ m = rt.casefold s := by
    unfold takes matches_
    rw [value, text, normaliseCase_text, normaliseCase_text, normaliseCase_text, ne_eq,
      Bool.eq_iff_iff, pyEq_text, pyEq_text, Json.str.injEq, Json.str.injEq]
    cases edge.caseSensitive with
    | true =>
      cases c.effective edge with
      | true => simp
      | false =>
        simp only [if_true, Bool.false_eq_true, if_false]
        grind
    | false =>
      cases c.effective edge with
      | true =>
        simp only [if_true, Bool.false_eq_true, if_false]
        grind
      | false => simp
  constructor
  · intro apart
    obtain ⟨s, m, value, text⟩ := texts_of_apart apart
    exact ⟨s, m, value, text, (texts value text).mp apart⟩
  · rintro ⟨s, m, value, text, misread⟩
    exact (texts value text).mpr misread

/-- A switch routes as its cases say just where it is settled. -/
theorem run_routed_iff : edge.run rt = edge.routed rt ↔ edge.Settled rt := by
  unfold routed Settled
  rw [run_eq, keyOf_eq_iff]
  simp only [takes_ne_matches_iff]

end SwitchEdge

def CaseRuntime.ascii : CaseRuntime :=
  { TextRuntime.ascii with casefold := TextRuntime.ascii.lower }

def letterSwitch : SwitchEdge where
  value := .str "A"
  cases := [{ match_ := .str "A", branchKey := some "a", caseSensitive := some false }]

theorem letter_not_routed :
    ¬ ∀ (rt : CaseRuntime) (edge : SwitchEdge), edge.cases ≠ [] → edge.run rt = edge.routed rt := by
  intro routes
  have same := routes .ascii letterSwitch (List.cons_ne_nil _ _)
  exact absurd same (by decide +kernel)

end Orcheo.Edges
