import Mathlib.Data.Finset.Card
import Orcheo.Lib.Dict
import Orcheo.Lib.Run

/-! The members that a dictionary holds of a kind, and sets that grow only below their limits. -/

universe u v

namespace Orcheo.Lib

section Counting

variable {K : Type u} {V : Type v} [DecidableEq K]

def Dict.keysWhere (d : Dict K V) (p : K → V → Bool) : Finset K := (d.filter p).keys.toFinset

@[simp] theorem Dict.mem_keysWhere {d : Dict K V} {p : K → V → Bool} {k : K} :
    k ∈ d.keysWhere p ↔ ∃ v, d.get? k = some v ∧ p k v = true := by
  simp [keysWhere, mem_keys_iff, Option.filter_eq_some_iff]

theorem Dict.card_keysWhere (d : Dict K V) (p : K → V → Bool) :
    (d.keysWhere p).card = (d.entries.filter (fun e => p e.1 e.2)).length := by
  rw [keysWhere, keys, List.toFinset_card_of_nodup (d.filter p).nodup]
  exact List.length_map ..

end Counting

section Admission

variable {K : Type u} {R : Type v} [DecidableEq R]

/-- No set is above its limit; one without a limit may be of any size. -/
def Within (limit : K → Option Nat) (held : K → Finset R) : Prop :=
  ∀ k n, limit k = some n → (held k).card ≤ n

/-- Every set loses members, or gains one while it is below its limit. -/
def Admits (limit : K → Option Nat) (held held' : K → Finset R) : Prop :=
  ∀ k, held' k ⊆ held k ∨
    ∃ r, held' k ⊆ insert r (held k) ∧ ∀ n, limit k = some n → (held k).card < n

variable {limit : K → Option Nat} {held held' : K → Finset R}

theorem Admits.of_subset (sub : ∀ k, held' k ⊆ held k) : Admits limit held held' :=
  fun k => Or.inl (sub k)

theorem Admits.refl : Admits limit held held := Admits.of_subset fun _ => Finset.Subset.refl _

theorem Within.admits (within : Within limit held) (admits : Admits limit held held') :
    Within limit held' := by
  intro k n bound
  cases admits k with
  | inl sub => exact (Finset.card_le_card sub).trans (within k n bound)
  | inr gained =>
    obtain ⟨r, sub, below⟩ := gained
    calc (held' k).card
      _ ≤ (insert r (held k)).card := Finset.card_le_card sub
      _ ≤ (held k).card + 1 := Finset.card_insert_le r (held k)
      _ ≤ n := below n bound

theorem AllSteps.within {S : Type*} {A : Type*} {step : S → A → S} {Guard : S → A → Prop}
    {I : S → Prop} (held : S → K → Finset R) (limit : S → K → Option Nat)
    (keep : ∀ s a, I s → Guard s a → I (step s a) ∧ limit (step s a) = limit s ∧
      Admits (limit s) (held s) (held (step s a))) {s : S} (sound : I s)
    (within : Within (limit s) (held s)) {as : List A} (h : AllSteps step Guard s as) :
    Always step (fun s => I s ∧ Within (limit s) (held s)) s as := by
  apply h.always (I := fun s => I s ∧ Within (limit s) (held s)) (fun _ => id) _ ⟨sound, within⟩
  rintro s a ⟨sound, within⟩ guard
  obtain ⟨sound', fixed, admits⟩ := keep s a sound guard
  refine ⟨sound', ?_⟩
  rw [fixed]
  exact within.admits admits

end Admission

end Orcheo.Lib
