import Mathlib.Data.List.MinMax
import Mathlib.Data.Prod.Lex

/-! Choosing one of several rows: `List.argmin` as the head of a stable sort, as a search in
stages, and as a choice that no order of the rows changes. -/

universe u v w

namespace Orcheo.Lib

variable {α : Type u} {β : Type v} {γ : Type w} [LinearOrder β] [LinearOrder γ] {f : α → β}
variable {l : List α}

theorem argmin_congr {g : α → γ}
    (h : ∀ a ∈ l, ∀ b ∈ l, f a < f b ↔ g a < g b) : l.argmin f = l.argmin g := by
  induction l with
  | nil => rfl
  | cons a l ih =>
    have tail := ih (fun b hb c hc => h b (.tail a hb) c (.tail a hc))
    rw [List.argmin_cons, List.argmin_cons, ← tail]
    cases least : l.argmin f with
    | none => rfl
    | some c =>
      have mem : c ∈ l := List.argmin_mem least
      simp only [h c (.tail a mem) a (.head l)]

omit [LinearOrder β] in
theorem argmin_map (f : β → γ) (g : α → β) (l : List α) :
    (l.map g).argmin f = (l.argmin (f ∘ g)).map g := by
  induction l with
  | nil => rfl
  | cons a l ih =>
    rw [List.map_cons, List.argmin_cons, List.argmin_cons, ih]
    cases l.argmin (f ∘ g) with
    | none => rfl
    | some c =>
      dsimp only [Option.map_some, Function.comp_apply]
      split <;> rfl

/-- A stable sort lists first what `argmin` chooses: the earliest of the least. -/
theorem head?_mergeSort (f : α → β) (l : List α) :
    (l.mergeSort (fun a b => decide (f a ≤ f b))).head? = l.argmin f := by
  have trans (a b c : α) : decide (f a ≤ f b) = true → decide (f b ≤ f c) = true →
      decide (f a ≤ f c) = true := by
    simpa using le_trans
  have total (a b : α) : (decide (f a ≤ f b) || decide (f b ≤ f a)) = true := by
    simpa using le_total (f a) (f b)
  induction l with
  | nil => simp
  | cons a l ih =>
    obtain ⟨before, after, sorted, rest, above⟩ := List.mergeSort_cons trans total a l
    rw [rest] at ih
    rw [sorted, List.argmin_cons, ← ih]
    cases before with
    | nil =>
      cases after with
      | nil => rfl
      | cons c after =>
        have ordered := List.pairwise_mergeSort trans total (a :: l)
        rw [sorted] at ordered
        have least : f a ≤ f c := of_decide_eq_true
          (List.rel_of_pairwise_cons ordered (List.mem_cons_self (a := c) (l := after)))
        simp [not_lt_of_ge least]
    | cons c before =>
      have less : f c < f a := by simpa using above c (List.mem_cons_self)
      simp [less]

theorem argmin_split (p : α → Bool)
    (below : ∀ a ∈ l, ∀ b ∈ l, p a = true → p b = false → f a < f b) :
    l.argmin f = ((l.filter p).argmin f).or ((l.filter (fun a => !p a)).argmin f) := by
  induction l with
  | nil => rfl
  | cons a l ih =>
    have tail := ih (fun b hb c hc => below b (.tail a hb) c (.tail a hc))
    have low {c : α} (least : (l.filter p).argmin f = some c) : c ∈ l ∧ p c = true :=
      List.mem_filter.mp (List.argmin_mem least)
    have high {c : α} (least : (l.filter (fun a => !p a)).argmin f = some c) :
        c ∈ l ∧ p c = false := by
      simpa using List.mem_filter.mp (List.argmin_mem least)
    rw [List.argmin_cons, tail]
    cases first : p a with
    | true =>
      rw [List.filter_cons_of_pos first, List.filter_cons_of_neg (by simp [first]),
        List.argmin_cons]
      cases upper : (l.filter p).argmin f with
      | some c =>
        dsimp only [Option.or]
        split <;> rfl
      | none =>
        cases lower : (l.filter (fun a => !p a)).argmin f with
        | none => rfl
        | some c =>
          have less := below a (.head l) c (.tail a (high lower).1) first (high lower).2
          simp [not_lt_of_gt less]
    | false =>
      rw [List.filter_cons_of_neg (by simp [first]), List.filter_cons_of_pos (by simp [first]),
        List.argmin_cons]
      cases upper : (l.filter p).argmin f with
      | some c =>
        have less := below c (.tail a (low upper).1) a (.head l) (low upper).2 first
        simp [less]
      | none => rfl

section Stages

variable {σ : Type w} [DecidableEq σ] (stage : α → σ) (f : α → β)

/-- The stage that a row is asked in, then its key. -/
def stagedKey (stages : List σ) (a : α) : Nat ×ₗ β := toLex (stages.idxOf (stage a), f a)

def inStages (stages : List σ) (a : α) : Bool := decide (stage a ∈ stages)

@[simp] theorem inStages_iff {stages : List σ} {a : α} :
    inStages stage stages a = true ↔ stage a ∈ stages := decide_eq_true_iff

variable {stage f}

theorem argmin_stagedKey_here (k : σ) (stages : List σ) (l : List α) :
    (l.filter (fun a => decide (stage a = k))).argmin (stagedKey stage f (k :: stages)) =
      (l.filter (fun a => decide (stage a = k))).argmin f := by
  apply argmin_congr
  intro a ha b hb
  have ka : stage a = k := by simpa using (List.mem_filter.mp ha).2
  have kb : stage b = k := by simpa using (List.mem_filter.mp hb).2
  simp [stagedKey, ka, kb, Prod.Lex.toLex_lt_toLex]

theorem argmin_stagedKey_later {k : σ} {stages : List σ} {l : List α}
    (absent : ∀ a ∈ l, stage a ≠ k) :
    l.argmin (stagedKey stage f (k :: stages)) = l.argmin (stagedKey stage f stages) := by
  apply argmin_congr
  intro a ha b hb
  have ka := (absent a ha).symm
  have kb := (absent b hb).symm
  simp [stagedKey, List.idxOf_cons_ne _ ka, List.idxOf_cons_ne _ kb, Prod.Lex.toLex_lt_toLex]

theorem findSome?_argmin (stage : α → σ) (f : α → β) (stages : List σ) (l : List α) :
    stages.findSome? (fun k => (l.filter (fun a => decide (stage a = k))).argmin f) =
      (l.filter (inStages stage stages)).argmin (stagedKey stage f stages) := by
  induction stages with
  | nil =>
    have none : l.filter (inStages stage []) = [] := by simp
    rw [none]
    rfl
  | cons k stages ih =>
    have below : ∀ a ∈ l.filter (inStages stage (k :: stages)),
        ∀ b ∈ l.filter (inStages stage (k :: stages)),
        decide (stage a = k) = true → decide (stage b = k) = false →
        stagedKey stage f (k :: stages) a < stagedKey stage f (k :: stages) b := by
      intro a _ b _ here there
      have ka : stage a = k := of_decide_eq_true here
      have kb : k ≠ stage b := fun same => of_decide_eq_false there same.symm
      rw [stagedKey, stagedKey, ka, Prod.Lex.toLex_lt_toLex, List.idxOf_cons_self,
        List.idxOf_cons_ne _ kb]
      exact Or.inl (Nat.succ_pos _)
    rw [List.findSome?_cons, argmin_split _ below, List.filter_filter, List.filter_filter]
    have first : l.filter (fun a => decide (stage a = k) && inStages stage (k :: stages) a) =
        l.filter (fun a => decide (stage a = k)) := by
      apply List.filter_congr
      intro a _
      by_cases here : stage a = k <;> simp [inStages, here]
    rw [first, argmin_stagedKey_here]
    cases asked : (l.filter (fun a => decide (stage a = k))).argmin f with
    | some c => rfl
    | none =>
      have absent (a : α) (ha : a ∈ l) : stage a ≠ k := by
        have none := List.argmin_eq_none.mp asked
        rw [List.filter_eq_nil_iff] at none
        simpa using none a ha
      have others : l.filter (fun a => !decide (stage a = k) && inStages stage (k :: stages) a) =
          l.filter (inStages stage stages) := by
        apply List.filter_congr
        intro a ha
        simp [inStages, absent a ha]
      rw [others, Option.none_or, argmin_stagedKey_later]
      · exact ih
      · intro a ha
        exact absent a (List.mem_of_mem_filter ha)

end Stages

/-- A row that no other is before, and the earliest of those. -/
def Earliest [DecidableEq α] (f : α → β) (l : List α) (x : α) : Prop :=
  x ∈ l ∧ (∀ y ∈ l, f x ≤ f y) ∧ ∀ y ∈ l, f y ≤ f x → l.idxOf x ≤ l.idxOf y

instance [DecidableEq α] (f : α → β) (l : List α) (x : α) : Decidable (Earliest f l x) :=
  inferInstanceAs (Decidable (_ ∧ _))

theorem argmin_eq_some_iff_earliest [DecidableEq α] {f : α → β} {x : α} :
    l.argmin f = some x ↔ Earliest f l x := List.argmin_eq_some_iff

def Leads (f : α → β) (l : List α) (x : α) : Prop := x ∈ l ∧ ∀ y ∈ l, y ≠ x → f x < f y

instance [DecidableEq α] (f : α → β) (l : List α) (x : α) : Decidable (Leads f l x) :=
  inferInstanceAs (Decidable (_ ∧ _))

theorem argmin_of_leads {x : α} (h : Leads f l x) :
    l.argmin f = some x := by
  cases least : l.argmin f with
  | none =>
    rw [List.argmin_eq_none.mp least] at h
    cases h.1
  | some y =>
    congr 1
    by_contra other
    exact not_lt_of_ge (List.le_of_mem_argmin h.1 least) (h.2 y (List.argmin_mem least) other)

theorem argmin_of_perm_iff [DecidableEq α] (f : α → β) (p : α → Bool) (l : List α) (x : α) :
    (∀ rows : List α, rows.Perm l → (rows.filter p).argmin f = some x) ↔
      Leads f (l.filter p) x := by
  constructor
  · intro always
    have here := always l (List.Perm.refl l)
    have mem : x ∈ l.filter p := List.argmin_mem here
    refine ⟨mem, ?_⟩
    intro y hy other
    obtain ⟨stored, accepted⟩ := List.mem_filter.mp hy
    -- the other row may come first
    have swapped := always (y :: l.erase y) (List.perm_cons_erase stored).symm
    rw [List.filter_cons_of_pos accepted, List.argmin_cons] at swapped
    cases rest : ((l.erase y).filter p).argmin f with
    | none =>
      rw [rest] at swapped
      exact absurd (Option.some.inj swapped) other
    | some c =>
      rw [rest] at swapped
      dsimp only at swapped
      split at swapped
      case isTrue less => exact Option.some.inj swapped ▸ less
      case isFalse => exact absurd (Option.some.inj swapped) other
  · intro leads rows perm
    apply argmin_of_leads
    have same (y : α) : y ∈ rows.filter p ↔ y ∈ l.filter p := (perm.filter p).mem_iff
    exact ⟨(same x).mpr leads.1, fun y hy => leads.2 y ((same y).mp hy)⟩

theorem argmin_of_perm_eq_none_iff (f : α → β) (p : α → Bool) (l : List α) :
    (∀ rows : List α, rows.Perm l → (rows.filter p).argmin f = none) ↔ l.filter p = [] := by
  constructor
  · intro always
    exact List.argmin_eq_none.mp (always l (List.Perm.refl l))
  · intro empty rows perm
    rw [List.argmin_eq_none, ← List.nil_perm, ← empty]
    exact (perm.filter p).symm

end Orcheo.Lib
