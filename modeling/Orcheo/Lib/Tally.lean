import Mathlib.Data.Finset.Card

/-! Callers that count what is held before they add to it.  A count stands as an upper bound until
somebody adds.  The trace has the latest event first. -/

universe u v w

namespace Orcheo.Lib

/-- Who causes an event, what it counts, and what it adds to. -/
structure Tally (E : Type u) (K : Type v) where
  caller : E → Nat
  counts : E → Option (K × Nat)
  adds : E → K → Bool

namespace Tally

variable {E : Type u} {K : Type v} {R : Type w} (tally : Tally E K)

/-- No more is held than was counted, where nobody has added since. -/
def Bounds (held : K → Finset R) (trace : List E) : Prop :=
  ∀ newer e older k n, trace = newer ++ e :: older → tally.counts e = some (k, n) →
    (∀ e' ∈ newer, tally.adds e' k = false) → (held k).card ≤ n

variable {tally} {held held' : K → Finset R} {trace older : List E} {e : E} {i : Nat} {k : K}

theorem bounds_nil : tally.Bounds held [] := by
  intro newer e older k n split
  have lengths := congrArg List.length split
  simp at lengths

theorem Bounds.cons (bounds : tally.Bounds held trace)
    (counted : ∀ k n, tally.counts e = some (k, n) → (held' k).card ≤ n)
    (shrinks : ∀ k, tally.adds e k = false → held' k ⊆ held k) :
    tally.Bounds held' (e :: trace) := by
  intro newer e' older k n split counts quiet
  cases newer with
  | nil =>
    obtain ⟨rfl, rfl⟩ := List.cons.inj split
    exact counted k n counts
  | cons e'' newer =>
    obtain ⟨rfl, rfl⟩ := List.cons.inj split
    have before : (held k).card ≤ n := bounds newer e' older k n rfl counts
      fun e₁ mem => quiet e₁ (List.mem_cons_of_mem e mem)
    exact (Finset.card_le_card (shrinks k (quiet e (List.mem_cons_self ..)))).trans before

section Undisturbed

variable [DecidableEq K]

variable (tally) in
/-- The caller has counted, and nobody has added since. -/
def undisturbed (i : Nat) (k : K) : List E → Bool
  | [] => false
  | e :: older => (decide (tally.caller e = i) && (tally.counts e).any (·.1 = k)) ||
    (!tally.adds e k && undisturbed i k older)

theorem exists_count (undisturbed : tally.undisturbed i k trace = true) :
    ∃ newer e older n, trace = newer ++ e :: older ∧ tally.caller e = i ∧
      tally.counts e = some (k, n) ∧ ∀ e' ∈ newer, tally.adds e' k = false := by
  induction trace with
  | nil => cases undisturbed
  | cons e older ih =>
    rw [Tally.undisturbed, Bool.or_eq_true, Bool.and_eq_true, Bool.and_eq_true] at undisturbed
    cases undisturbed with
    | inl counted =>
      obtain ⟨own, counted⟩ := counted
      rw [Option.any_eq_true] at counted
      obtain ⟨⟨k', n⟩, counts, same⟩ := counted
      cases of_decide_eq_true same
      refine ⟨[], e, older, n, rfl, of_decide_eq_true own, counts, ?_⟩
      intro e' mem
      cases mem
    | inr later =>
      obtain ⟨newer, e', older', n, split, own, counts, quiet⟩ := ih later.2
      refine ⟨e :: newer, e', older', n, by rw [split]; rfl, own, counts, ?_⟩
      intro e'' mem
      cases List.mem_cons.mp mem with
      | inl new =>
        rw [new]
        simpa using later.1
      | inr old => exact quiet e'' old

theorem Bounds.below (bounds : tally.Bounds held trace) {limit : Nat}
    (undisturbed : tally.undisturbed i k trace = true)
    (low : ∀ e ∈ trace, tally.caller e = i → ∀ n, tally.counts e = some (k, n) → n < limit) :
    (held k).card < limit := by
  obtain ⟨newer, e, older, n, split, own, counts, quiet⟩ := exists_count undisturbed
  have mem : e ∈ trace := by
    rw [split]
    exact List.mem_append_right newer (List.mem_cons_self ..)
  exact (bounds newer e older k n split counts quiet).trans_lt (low e mem own n counts)

end Undisturbed

end Tally

end Orcheo.Lib
