import Mathlib.Data.List.Basic

/-! Logs with increasing numbers that a reader takes in order, and what it has dealt with up to
the number it acknowledges. -/

universe u

namespace Orcheo.Lib

variable {α : Type u} (number : α → Int)

def Past (read : Option Int) (n : Int) : Prop := ∃ m, read = some m ∧ n ≤ m

instance (read : Option Int) (n : Int) : Decidable (Past read n) :=
  decidable_of_iff (read.any (fun m => n ≤ m) = true) (by cases read <;> simp [Past])

def Increasing (log : List α) : Prop := log.Pairwise (fun e e' => number e < number e')

def nextAfter? (read : Option Int) (log : List α) : Option α :=
  log.find? (fun e => !decide (Past read (number e)))

def Acknowledged (Done : α → Prop) (read : Option Int) (log : List α) : Prop :=
  ∀ e ∈ log, Past read (number e) → Done e

variable {number} {Done Done' : α → Prop} {read : Option Int} {log : List α} {e : α}

theorem not_past_none {n : Int} : ¬ Past none n := by
  rintro ⟨m, there, -⟩
  cases there

theorem past_some {m n : Int} : Past (some m) n ↔ n ≤ m := by
  constructor
  · rintro ⟨k, there, le⟩
    cases there
    exact le
  · intro le
    exact ⟨m, rfl, le⟩

theorem increasing_append (increasing : Increasing number log)
    (larger : ∀ e' ∈ log, number e' < number e) : Increasing number (log ++ [e]) := by
  refine List.pairwise_append.mpr ⟨increasing, List.pairwise_singleton _ _, ?_⟩
  intro e' mem e'' last
  rw [List.mem_singleton.mp last]
  exact larger e' mem

theorem nextAfter?_append {more : List α} (next : nextAfter? number read log = some e) :
    nextAfter? number read (log ++ more) = some e := by
  unfold nextAfter? at next ⊢
  rw [List.find?_append, next]
  rfl

theorem nextAfter?_mem (next : nextAfter? number read log = some e) : e ∈ log :=
  List.mem_of_find?_eq_some next

theorem nextAfter?_not_past (next : nextAfter? number read log = some e) :
    ¬ Past read (number e) := by
  simpa using List.find?_some next

theorem past_of_past_next (increasing : Increasing number log)
    (next : nextAfter? number read log = some e) {e' : α} (mem : e' ∈ log)
    (past : number e' ≤ number e) : e' = e ∨ Past read (number e') := by
  obtain ⟨-, front, back, split, before⟩ := List.find?_eq_some_iff_append.mp next
  rw [split] at mem increasing
  cases List.mem_append.mp mem with
  | inl front =>
    right
    simpa using before e' front
  | inr rest =>
    cases rest with
    | head => exact Or.inl rfl
    | tail _ back =>
      have order := (List.pairwise_cons.mp (List.pairwise_append.mp increasing).2.1).1 e' back
      omega

namespace Acknowledged

theorem none : Acknowledged number Done none log := fun _ _ past => absurd past not_past_none

theorem mono (acknowledged : Acknowledged number Done read log)
    (done : ∀ e ∈ log, Done e → Done' e) : Acknowledged number Done' read log :=
  fun e mem past => done e mem (acknowledged e mem past)

theorem advance (acknowledged : Acknowledged number Done read log)
    (increasing : Increasing number log) (next : nextAfter? number read log = some e)
    (done : Done e) : Acknowledged number Done (some (number e)) log := by
  intro e' mem past
  cases past_of_past_next increasing next mem (past_some.mp past) with
  | inl same =>
    rw [same]
    exact done
  | inr before => exact acknowledged e' mem before

theorem append {m : Int} {more : List α} (acknowledged : Acknowledged number Done (some m) log)
    (there : ∃ e ∈ log, number e = m) (larger : ∀ e ∈ log, ∀ e' ∈ more, number e < number e') :
    Acknowledged number Done (some m) (log ++ more) := by
  intro e' mem past
  cases List.mem_append.mp mem with
  | inl old => exact acknowledged e' old past
  | inr new =>
    obtain ⟨e, mem', same⟩ := there
    have order := larger e mem' e' new
    have le := past_some.mp past
    omega

end Acknowledged

end Orcheo.Lib
