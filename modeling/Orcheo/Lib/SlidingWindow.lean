import Mathlib.Algebra.Order.Group.Basic
import Mathlib.Data.List.TakeWhile
import Mathlib.Order.Interval.Set.Basic

/-! A limiter that keeps the times it has taken in a queue, and drops those older than an
interval from its front before it takes another one. -/

universe u v

namespace Orcheo.Lib.SlidingWindow

section Definitions

variable {T : Type u} [AddCommGroup T] [LinearOrder T]

/-- What is left of the queue at a time: the front leaves while it is too old. -/
def fresh (interval now : T) (window : List T) : List T :=
  window.dropWhile (fun t => decide (t < now - interval))

def offer (limit : Nat) (interval : T) (window : List T) (now : T) : List T × Bool :=
  if limit ≤ (fresh interval now window).length then (fresh interval now window, false)
  else (fresh interval now window ++ [now], true)

def countIn (times : List T) (window : Set T) [DecidablePred (· ∈ window)] : Nat :=
  times.countP (fun t => decide (t ∈ window))

/-- The queue is the part of all taken times that may still count at a time or later. -/
structure Tracks (interval now : T) (times window : List T) : Prop where
  past : ∀ t ∈ times, t ≤ now
  suffix : ∃ old, times = old ++ window ∧ ∀ t ∈ old, t < now - interval

/-- No closed window of one interval holds more than the limit. -/
def Limited (limit : Nat) (interval : T) (times : List T) : Prop :=
  ∀ a, countIn times (Set.Icc a (a + interval)) ≤ limit

end Definitions

section Counting

variable {T : Type u} {times : List T}

theorem countIn_append (times more : List T) (window : Set T) [DecidablePred (· ∈ window)] :
    countIn (times ++ more) window = countIn times window + countIn more window :=
  List.countP_append

theorem countIn_le_length (times : List T) (window : Set T) [DecidablePred (· ∈ window)] :
    countIn times window ≤ times.length := List.countP_le_length

theorem countIn_eq_zero {window : Set T} [DecidablePred (· ∈ window)]
    (outside : ∀ t ∈ times, t ∉ window) : countIn times window = 0 := by
  apply List.countP_eq_zero.mpr
  intro t mem
  simpa using outside t mem

theorem countIn_eq_length {window : Set T} [DecidablePred (· ∈ window)]
    (inside : ∀ t ∈ times, t ∈ window) : countIn times window = times.length := by
  apply List.countP_eq_length.mpr
  intro t mem
  simpa using inside t mem

end Counting

section Queue

variable {T : Type u} [AddCommGroup T] [LinearOrder T] {limit : Nat} {interval now now' : T}
  {times window : List T}

theorem fresh_sublist (interval now : T) (window : List T) :
    (fresh interval now window).Sublist window := List.dropWhile_sublist _

theorem offer_full (full : limit ≤ (fresh interval now window).length) :
    offer limit interval window now = (fresh interval now window, false) := if_pos full

theorem offer_room (room : ¬ limit ≤ (fresh interval now window).length) :
    offer limit interval window now = (fresh interval now window ++ [now], true) := if_neg room

theorem tracks_nil (interval now : T) : Tracks interval now ([] : List T) [] where
  past t mem := by cases mem
  suffix := ⟨[], rfl, nofun⟩

theorem limited_nil (limit : Nat) (interval : T) : Limited limit interval ([] : List T) := by
  intro a
  exact Nat.zero_le limit

theorem Tracks.take (tracks : Tracks interval now times window) :
    Tracks interval now (times ++ [now]) (window ++ [now]) where
  past t mem := by
    cases List.mem_append.mp mem with
    | inl earlier => exact tracks.past t earlier
    | inr present => exact le_of_eq (List.mem_singleton.mp present)
  suffix := by
    obtain ⟨old, split, gone⟩ := tracks.suffix
    exact ⟨old, by rw [split, List.append_assoc], gone⟩

theorem Tracks.fresh (tracks : Tracks interval now times window) :
    Tracks interval now times (fresh interval now window) where
  past := tracks.past
  suffix := by
    obtain ⟨old, split, gone⟩ := tracks.suffix
    refine ⟨old ++ window.takeWhile (fun t => decide (t < now - interval)), ?_, ?_⟩
    · rw [List.append_assoc, SlidingWindow.fresh, List.takeWhile_append_dropWhile]
      exact split
    · intro t mem
      cases List.mem_append.mp mem with
      | inl early => exact gone t early
      | inr front =>
        have early := List.mem_takeWhile_imp (p := fun t => decide (t < now - interval)) front
        exact of_decide_eq_true early

end Queue

section Limits

variable {T : Type u} [AddCommGroup T] [LinearOrder T] [IsOrderedAddMonoid T] {limit : Nat}
  {interval now now' : T} {times window : List T}

theorem Tracks.later (tracks : Tracks interval now times window) (later : now ≤ now') :
    Tracks interval now' times window where
  past t mem := le_trans (tracks.past t mem) later
  suffix := by
    obtain ⟨old, split, gone⟩ := tracks.suffix
    exact ⟨old, split, fun t mem => lt_of_lt_of_le (gone t mem) (sub_le_sub_right later interval)⟩

theorem Tracks.countIn_le (tracks : Tracks interval now times window) {a : T}
    (reaches : now ≤ a + interval) : countIn times (Set.Icc a (a + interval)) ≤ window.length := by
  obtain ⟨old, split, gone⟩ := tracks.suffix
  have outside : countIn old (Set.Icc a (a + interval)) = 0 := by
    apply countIn_eq_zero
    intro t mem inside
    have early : t < a := lt_of_lt_of_le (gone t mem) (sub_le_iff_le_add.mpr reaches)
    exact absurd inside.1 (not_le.mpr early)
  rw [split, countIn_append, outside, Nat.zero_add]
  exact countIn_le_length _ _

theorem Limited.take (limited : Limited limit interval times)
    (tracks : Tracks interval now times window) (room : window.length < limit) :
    Limited limit interval (times ++ [now]) := by
  intro a
  rw [countIn_append]
  by_cases inside : now ∈ Set.Icc a (a + interval)
  · have before : countIn times (Set.Icc a (a + interval)) ≤ window.length :=
      tracks.countIn_le inside.2
    have present : countIn [now] (Set.Icc a (a + interval)) ≤ 1 := countIn_le_length _ _
    omega
  · have absent : countIn [now] (Set.Icc a (a + interval)) = 0 := by
      apply countIn_eq_zero
      intro t mem
      rw [List.mem_singleton.mp mem]
      exact inside
    rw [absent]
    exact limited a

theorem mem_fresh (sorted : window.Pairwise (· ≤ ·)) {t : T} (mem : t ∈ fresh interval now window) :
    now - interval ≤ t := by
  induction window with
  | nil => cases mem
  | cons x xs ih =>
    have ordered := List.pairwise_cons.mp sorted
    rw [fresh, List.dropWhile_cons] at mem
    split at mem
    next => exact ih ordered.2 mem
    next young =>
      have recent : now - interval ≤ x := not_lt.mp (by simpa using young)
      cases List.mem_cons.mp mem with
      | inl head => rwa [head]
      | inr tail => exact le_trans recent (ordered.1 t tail)

theorem Tracks.le_countIn (tracks : Tracks interval now times window)
    (sorted : times.Pairwise (· ≤ ·)) :
    (SlidingWindow.fresh interval now window).length ≤
      countIn times (Set.Icc (now - interval) now) := by
  obtain ⟨old, split, _⟩ := tracks.suffix
  have ordered : window.Pairwise (· ≤ ·) := by
    rw [split] at sorted
    exact (List.pairwise_append.mp sorted).2.1
  have inside : countIn (SlidingWindow.fresh interval now window) (Set.Icc (now - interval) now) =
      (SlidingWindow.fresh interval now window).length := by
    apply countIn_eq_length
    intro t mem
    refine ⟨mem_fresh ordered mem, tracks.past t ?_⟩
    rw [split]
    exact List.mem_append_right old ((fresh_sublist interval now window).subset mem)
  rw [← inside]
  apply List.Sublist.countP_le
  rw [split]
  exact (fresh_sublist interval now window).trans (List.sublist_append_right old window)

end Limits

section Charges

variable {T : Type u} {A : Type v} [AddCommGroup T] [LinearOrder T]

/-- How many entries that have a limit lie behind a time. -/
def charged (limit : A → Option Int) (since : T) (log : List (T × A)) : Nat :=
  log.countP fun e => (limit e.2).isSome && decide (since < e.1)

/-- Entries in order of time, each taken while fewer than its own limit lay in the interval before
it. -/
inductive Admitted (limit : A → Option Int) (interval : T) : List (T × A) → Prop
  | nil : Admitted limit interval []
  | take {log : List (T × A)} {now : T} {a : A} (admitted : Admitted limit interval log)
      (past : ∀ e ∈ log, e.1 ≤ now)
      (room : ∀ l, limit a = some l → (charged limit (now - interval) log : Int) < l) :
      Admitted limit interval (log ++ [(now, a)])

variable [IsOrderedAddMonoid T] {limit : A → Option Int} {interval : T} {log : List (T × A)}

theorem Admitted.countP_le (admitted : Admitted limit interval log) (most : Int) {window : T → Bool}
    (shorter : ∀ t t', window t = true → window t' = true → t' < t + interval) :
    log.countP (fun e => window e.1 && (limit e.2).any fun l => decide (l ≤ most)) ≤
      most.toNat := by
  induction admitted with
  | nil => exact Nat.zero_le _
  | @take log now a _ _ room ih =>
    rw [List.countP_append, List.countP_singleton]
    by_cases counts : (window now && (limit a).any fun l => decide (l ≤ most)) = true
    · rw [if_pos counts]
      obtain ⟨inside, limited⟩ := Bool.and_eq_true_iff.mp counts
      obtain ⟨l, has, small⟩ := (Option.any_eq_true _ _).mp limited
      have free := room l has
      have small : l ≤ most := of_decide_eq_true small
      have before : log.countP (fun e => window e.1 && (limit e.2).any fun l => decide (l ≤ most)) ≤
          charged limit (now - interval) log := by
        apply List.countP_mono_left
        intro e _ counts
        obtain ⟨here, limited⟩ := Bool.and_eq_true_iff.mp counts
        rw [Bool.and_eq_true_iff, decide_eq_true_iff, sub_lt_iff_lt_add]
        exact ⟨Option.isSome_of_any limited, shorter e.1 now here inside⟩
      omega
    · rw [if_neg counts]
      exact ih

end Charges

end Orcheo.Lib.SlidingWindow
