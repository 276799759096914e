import Mathlib.Data.List.Basic

/-! A log of what gives something and what takes it away, the latest first. -/

universe u v

namespace Orcheo.Lib

inductive Change
  | given | taken
  deriving DecidableEq, Repr

namespace Ledger

variable {E : Type u} {K : Type v} (change : E → Option Change) (caller : E → K)

/-- Who has taken it away since it was last given. -/
def takenBy : List E → List K
  | [] => []
  | e :: es => match change e with
    | some .given => []
    | some .taken => caller e :: takenBy es
    | none => takenBy es

variable {change} {caller} {e : E} {es : List E} {k : K}

theorem takenBy_given (given : change e = some .given) : takenBy change caller (e :: es) = [] := by
  simp [takenBy, given]

theorem takenBy_taken (taken : change e = some .taken) :
    takenBy change caller (e :: es) = caller e :: takenBy change caller es := by
  simp [takenBy, taken]

theorem takenBy_unchanged (unchanged : change e = none) :
    takenBy change caller (e :: es) = takenBy change caller es := by
  simp [takenBy, unchanged]

theorem mem_takenBy_cons (mem : k ∈ takenBy change caller (e :: es)) :
    change e = some .taken ∧ k = caller e ∨ k ∈ takenBy change caller es := by
  unfold takenBy at mem
  split at mem
  next => cases mem
  next taken => exact (List.mem_cons.mp mem).imp_left (fun same => ⟨taken, same⟩)
  next => exact Or.inr mem

theorem not_mem_takenBy_iff : k ∉ takenBy change caller es ↔
    ∀ newer e older, es = newer ++ e :: older → caller e = k → change e = some .taken →
      ∃ e' ∈ newer, change e' = some .given := by
  induction es with
  | nil =>
    constructor
    · intro _ newer e older split
      cases newer <;> cases split
    · intro _ mem
      cases mem
  | cons e₀ es ih =>
    cases here : change e₀ with
    | none =>
      rw [takenBy_unchanged here, ih]
      constructor
      · intro again newer e older split same taken
        cases newer with
        | nil =>
          cases split
          cases here.symm.trans taken
        | cons _ newer =>
          cases split
          obtain ⟨e', mem, given⟩ := again newer e older rfl same taken
          exact ⟨e', List.mem_cons_of_mem _ mem, given⟩
      · intro again newer e older split same taken
        obtain ⟨e', mem, given⟩ := again (e₀ :: newer) e older (by rw [split]; rfl) same taken
        cases List.mem_cons.mp mem with
        | inl first =>
          rw [first] at given
          cases here.symm.trans given
        | inr later => exact ⟨e', later, given⟩
    | some c =>
      cases c with
      | given =>
        rw [takenBy_given here]
        constructor
        · intro _ newer e older split same taken
          cases newer with
          | nil =>
            cases split
            cases here.symm.trans taken
          | cons _ newer =>
            cases split
            exact ⟨_, List.mem_cons_self, here⟩
        · intro _ mem
          cases mem
      | taken =>
        rw [takenBy_taken here, List.mem_cons, not_or, ih]
        constructor
        · rintro ⟨other, again⟩ newer e older split same taken
          cases newer with
          | nil =>
            cases split
            exact absurd same.symm other
          | cons _ newer =>
            cases split
            obtain ⟨e', mem, given⟩ := again newer e older rfl same taken
            exact ⟨e', List.mem_cons_of_mem _ mem, given⟩
        · intro again
          refine ⟨fun same => ?_, fun newer e older split same taken => ?_⟩
          · obtain ⟨e', mem, -⟩ := again [] e₀ es rfl same.symm here
            cases mem
          · obtain ⟨e', mem, given⟩ := again (e₀ :: newer) e older (by rw [split]; rfl) same taken
            cases List.mem_cons.mp mem with
            | inl first =>
              rw [first] at given
              cases here.symm.trans given
            | inr later => exact ⟨e', later, given⟩

end Ledger

end Orcheo.Lib
