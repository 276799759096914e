import Orcheo.Lib.Run

/-! Cells whose version counts the writes since they were created: while a cell is not deleted,
one version names one content. -/

universe u v w

namespace Orcheo.Lib

/-- What a cell holds, with its version; nothing before it is created. -/
abbrev Cell (V : Type u) := Option (Nat × V)

/-- A write raises the version, and one that creates the cell starts it anew. -/
inductive Cell.Step {V : Type u} : Cell V → Cell V → Prop
  | kept {c : Cell V} : Step c c
  | created {x : V} {n : Nat} : Step none (some (n, x))
  | written {n : Nat} {x y : V} : Step (some (n, x)) (some (n + 1, y))
  | deleted {n : Nat} {x : V} : Step (some (n, x)) none

variable {V : Type u} {S : Type v} {A : Type w} {step : S → A → S} {I : S → Prop}

theorem Cell.version_le (cell : S → Cell V) (keep : ∀ s a, I s → I (step s a))
    (moves : ∀ s a, I s → Cell.Step (cell s) (cell (step s a))) {s : S} (sound : I s) {as : List A}
    {n m : Nat} {x y : V} (start : cell s = some (n, x))
    (stop : cell (as.foldl step s) = some (m, y))
    (undeleted : AllSteps step (fun s a => cell (step s a) = none → cell s = none) s as) :
    n ≤ m ∧ (m = n → AllSteps step (fun s a => cell (step s a) = cell s) s as ∧ y = x) := by
  induction as generalizing s n x with
  | nil =>
    have same : some (n, x) = some (m, y) := start.symm.trans stop
    cases same
    exact ⟨Nat.le_refl _, fun _ => ⟨trivial, rfl⟩⟩
  | cons a as ih =>
    have sound' := keep s a sound
    have one := moves s a sound
    obtain ⟨stays, undeleted⟩ := undeleted
    cases next : cell (step s a) with
    | none =>
      rw [stays next] at start
      cases start
    | some c =>
      obtain ⟨k, z⟩ := c
      obtain ⟨above, same⟩ := ih sound' next stop undeleted
      rw [start, next] at one
      cases one with
      | kept =>
        refine ⟨above, fun equal => ?_⟩
        obtain ⟨rest, value⟩ := same equal
        exact ⟨⟨next.trans start.symm, rest⟩, value⟩
      | written =>
        refine ⟨Nat.le_of_succ_le above, fun equal => ?_⟩
        rw [equal] at above
        exact absurd above (Nat.not_succ_le_self n)

end Orcheo.Lib
