import Mathlib.Data.List.Sort
import Orcheo.Lib.Run

/-! `append_step` of the PostgreSQL history store, called by several processes for one execution.
A turn is one statement of one call, in a read-committed transaction. -/

namespace Orcheo.Execution.Appends

open Lib (Always AllSteps)

variable {P : Type*}

inductive Outcome
  | stored (index : Nat)
  /-- a `RunHistoryNotFoundError`, which is a `RunHistoryError` -/
  | notFound
  /-- the database error of the unique constraint -/
  | uniqueViolation
  deriving DecidableEq, Repr

def Outcome.isHistoryError : Outcome → Bool
  | .notFound => true
  | _ => false

inductive Phase
  | begun
  | found
  | chosen (index : Nat)
  | inserted (index : Nat)
  | updated (index : Nat)
  | done (outcome : Outcome)
  deriving DecidableEq, Repr

def Phase.held : Phase → Option Nat
  | .inserted n => some n
  | .updated n => some n
  | _ => none

structure Call (P : Type*) where
  payload : P
  phase : Phase

def Call.commits (c : Call P) : List (Nat × P) :=
  match c.phase with
  | .updated n => [(n, c.payload)]
  | _ => []

/-- The committed rows of the execution, in the order of their commits, and the calls. -/
structure History (P : Type*) where
  recorded : Bool
  steps : List (Nat × P) := []
  calls : List (Call P) := []

inductive Turn (P : Type*)
  | startRun
  | begin (payload : P)
  | advance (i : Nat)

namespace History

variable (s : History P)

def indexes : List Nat := s.steps.map Prod.fst

/-- `COALESCE(MAX(step_index), -1) + 1` -/
def nextIndex : Nat := s.indexes.foldr (fun n m => max (n + 1) m) 0

/-- What the statement that the call is at makes of it. An `INSERT` waits for a row with its index
that is not committed, and fails for one that is. -/
def next (c : Call P) : Phase :=
  match c.phase with
  | .begun => if s.recorded then .found else .done .notFound
  | .found => .chosen s.nextIndex
  | .chosen n =>
    if n ∈ s.indexes then .done .uniqueViolation
    else if s.calls.any (fun d => d.phase.held == some n) then .chosen n
    else .inserted n
  | .inserted n => .updated n
  | .updated n => .done (.stored n)
  | .done o => .done o

def appendStep (i : Nat) (c : Call P) : History P :=
  { s with
    steps := s.steps ++ c.commits
    calls := s.calls.set i { c with phase := s.next c } }

def step : Turn P → History P
  | .startRun => { s with recorded := true }
  | .begin payload => { s with calls := s.calls ++ [⟨payload, .begun⟩] }
  | .advance i => (s.calls[i]?).elim s (s.appendStep i)

/-- `get_history`, with the slice that the readers take of its steps. -/
def getHistory (fromStep : Nat) : List (Nat × P) :=
  (s.steps.insertionSort (fun a b => a.1 ≤ b.1)).drop fromStep

/-- A call that ends has stored its payload under a fresh index, or raises a `RunHistoryError` and
leaves the steps. -/
def Answers : Turn P → Prop
  | .advance i => ∀ c o, s.calls[i]? = some c → (∀ o, c.phase ≠ .done o) → s.next c = .done o →
    (∃ n, o = .stored n ∧ n ∉ s.indexes ∧
      (s.step (.advance i)).steps = s.steps ++ [(n, c.payload)]) ∨
    (o.isHistoryError = true ∧ (s.step (.advance i)).steps = s.steps)
  | _ => True

/-- The indexes are 0, 1, ... in the order of the commits. -/
def Gapless : Prop := s.indexes = List.range s.steps.length

/-- No step has been committed between the `SELECT` of a call and its `INSERT`. -/
def Current : Turn P → Prop
  | .advance i => ∀ c, s.calls[i]? = some c → ∀ n, c.phase = .chosen n → s.nextIndex = n
  | _ => True

/-- What every state reached satisfies: at most one row is not committed, and it has the next
index. -/
structure Ordered : Prop where
  gapless : s.Gapless
  chosen : ∀ c ∈ s.calls, ∀ n, c.phase = .chosen n → n ≤ s.steps.length
  held : ∀ c ∈ s.calls, ∀ n, c.phase.held = some n → n = s.steps.length
  single : ∀ (i j : Nat) (c d : Call P), s.calls[i]? = some c → s.calls[j]? = some d →
    c.phase.held.isSome → d.phase.held.isSome → i = j

variable {s} {i : Nat} {c : Call P}

theorem foldr_range (n k : Nat) : (List.range n).foldr (fun a m => max (a + 1) m) k = max n k := by
  induction n generalizing k with
  | zero => simp
  | succ n ih => rw [List.range_succ, List.foldr_append, ih]; simp only [List.foldr]; omega

theorem Gapless.nextIndex (h : s.Gapless) : s.nextIndex = s.steps.length := by
  rw [History.nextIndex, h, foldr_range, Nat.max_zero]

theorem Gapless.mem_indexes (h : s.Gapless) {n : Nat} :
    n ∈ s.indexes ↔ n < s.steps.length := by
  rw [h, List.mem_range]

theorem Gapless.getHistory (h : s.Gapless) (k : Nat) : s.getHistory k = s.steps.drop k := by
  have sorted : s.indexes.Pairwise (· ≤ ·) := by
    rw [h]
    exact List.pairwise_le_range
  rw [History.getHistory, List.Pairwise.insertionSort_eq (List.pairwise_map.mp sorted)]

theorem getElem?_appendStep {j : Nat} {d : Call P} (h : (s.appendStep i c).calls[j]? = some d) :
    (j = i ∧ d = { c with phase := s.next c }) ∨ (j ≠ i ∧ s.calls[j]? = some d) := by
  simp only [appendStep, List.getElem?_set] at h
  grind

theorem next_chosen (h : s.Ordered) (hc : c ∈ s.calls) {n : Nat} (hn : s.next c = .chosen n) :
    n ≤ s.steps.length := by
  unfold next at hn
  split at hn
  case h_2 =>
    cases hn
    exact h.gapless.nextIndex.le
  case h_3 m hm =>
    split at hn
    · cases hn
    · split at hn
      · cases hn
        exact h.chosen c hc n hm
      · cases hn
  all_goals first | cases hn | (split at hn <;> cases hn)

theorem next_held (h : s.Ordered) (hc : c ∈ s.calls) {n : Nat} (hn : (s.next c).held = some n) :
    n = s.steps.length ∧ c.commits = [] ∧
      (c.phase.held = some n ∨ ∀ d ∈ s.calls, d.phase.held = none) := by
  unfold next at hn
  split at hn
  case h_3 m hm =>
    split at hn
    · cases hn
    · rename_i fresh
      split at hn
      · cases hn
      · rename_i free
        cases hn
        -- The index is at most the next one, and not that of a committed row.
        have := h.chosen c hc n hm
        rw [h.gapless.mem_indexes] at fresh
        have next : n = s.steps.length := by omega
        refine ⟨next, by simp [Call.commits, hm], .inr (fun d hd => ?_)⟩
        refine Option.eq_none_iff_forall_ne_some.mpr (fun m hm => free ?_)
        exact List.any_eq_true.mpr ⟨d, hd, by simp [hm, next, h.held d hd m hm]⟩
  case h_4 m hm =>
    cases hn
    have own : c.phase.held = some n := by rw [hm]; rfl
    exact ⟨h.held c hc n own, by simp [Call.commits, hm], .inl own⟩
  all_goals first | cases hn | (split at hn <;> cases hn)

theorem Ordered.appendStep (h : s.Ordered) (hc : s.calls[i]? = some c) :
    (s.appendStep i c).Ordered := by
  have mem := List.mem_of_getElem? hc
  have grows : s.steps.length ≤ (s.appendStep i c).steps.length := by simp [History.appendStep]
  -- Another call that holds an index is the only one, so this one neither commits nor inserts.
  have other : ∀ j d n, j ≠ i → s.calls[j]? = some d → d.phase.held = some n →
      c.commits = [] ∧ (s.next c).held = none := by
    intro j d n hj hd hn
    have none : c.phase.held = none := by
      refine Option.not_isSome_iff_eq_none.mp (fun some => hj ?_)
      exact h.single j i d c hd hc (by rw [hn]; rfl) some
    constructor
    · unfold Call.commits
      split
      · rename_i hp
        rw [hp] at none
        cases none
      · rfl
    · refine Option.eq_none_iff_forall_ne_some.mpr (fun m hm => ?_)
      obtain ⟨-, -, own | free⟩ := next_held h mem hm
      · rw [none] at own
        cases own
      · rw [free d (List.mem_of_getElem? hd)] at hn
        cases hn
  refine ⟨?_, ?_, ?_, ?_⟩
  · have gapless : s.steps.map Prod.fst = List.range s.steps.length := h.gapless
    simp only [Gapless, indexes, History.appendStep, List.map_append, gapless, List.length_append]
    unfold Call.commits
    split
    · rename_i n hp
      have : n = s.steps.length := h.held c mem n (by rw [hp]; rfl)
      simp [List.range_succ, this]
    · simp
  · intro d hd n hn
    obtain ⟨j, hj⟩ := List.mem_iff_getElem?.mp hd
    obtain ⟨-, rfl⟩ | ⟨-, hj⟩ := getElem?_appendStep hj
    · exact (next_chosen h mem hn).trans grows
    · exact (h.chosen d (List.mem_of_getElem? hj) n hn).trans grows
  · intro d hd n hn
    obtain ⟨j, hj⟩ := List.mem_iff_getElem?.mp hd
    obtain ⟨-, rfl⟩ | ⟨hji, hj⟩ := getElem?_appendStep hj
    · obtain ⟨next, commits, -⟩ := next_held h mem hn
      simp [History.appendStep, commits, next]
    · have commits := (other j d n hji hj hn).1
      simp [History.appendStep, commits, h.held d (List.mem_of_getElem? hj) n hn]
  · intro j k d e hd he hhd hhe
    obtain ⟨n, hn⟩ := Option.isSome_iff_exists.mp hhd
    obtain ⟨m, hm⟩ := Option.isSome_iff_exists.mp hhe
    obtain ⟨rfl, rfl⟩ | ⟨hj, hd'⟩ := getElem?_appendStep hd <;>
      obtain ⟨rfl, rfl⟩ | ⟨hk, he'⟩ := getElem?_appendStep he
    · rfl
    · rw [(other k e m hk he' hm).2] at hhd
      cases hhd
    · rw [(other j d n hj hd' hn).2] at hhe
      cases hhe
    · exact h.single j k d e hd' he' hhd hhe

theorem Ordered.step (h : s.Ordered) (a : Turn P) : (s.step a).Ordered := by
  cases a with
  | startRun => exact ⟨h.gapless, h.chosen, h.held, h.single⟩
  | begin payload =>
    refine ⟨h.gapless, ?_, ?_, ?_⟩
    · simpa [History.step, or_imp, forall_and] using h.chosen
    · simpa [History.step, or_imp, forall_and, Phase.held] using h.held
    · intro j k d e hd he hhd hhe
      have older : ∀ {j : Nat} {d : Call P}, (s.calls ++ [⟨payload, .begun⟩])[j]? = some d →
          d.phase.held.isSome → s.calls[j]? = some d := by
        intro j d hd hhd
        rw [List.getElem?_append] at hd
        split at hd
        · exact hd
        · obtain rfl := List.mem_singleton.mp (List.mem_of_getElem? hd)
          cases hhd
      exact h.single j k d e (older hd hhd) (older he hhe) hhd hhe
  | advance i =>
    cases hc : s.calls[i]? with
    | none => simpa [History.step, hc] using h
    | some c => simpa [History.step, hc] using h.appendStep hc

theorem Ordered.initial (recorded : Bool) :
    (History.mk recorded ([] : List (Nat × P)) []).Ordered :=
  ⟨rfl, nofun, nofun, nofun⟩

theorem steps_step (a : Turn P) : s.steps <+: (s.step a).steps := by
  cases a with
  | advance i => cases hc : s.calls[i]? <;> simp [step, hc, appendStep]
  | _ => exact List.prefix_refl _

theorem answers_iff (h : s.Ordered) (a : Turn P) : s.Answers a ↔ s.Current a := by
  cases a with
  | startRun => exact Iff.rfl
  | begin payload => exact Iff.rfl
  | advance i =>
    constructor
    · intro answers c hc n hn
      by_contra stale
      have taken : n ∈ s.indexes := by
        have := h.chosen c (List.mem_of_getElem? hc) n hn
        rw [h.gapless.nextIndex] at stale
        exact h.gapless.mem_indexes.mpr (by omega)
      obtain ⟨m, stored, -⟩ | ⟨raised, -⟩ :=
        answers c .uniqueViolation hc (by simp [hn]) (by simp [next, hn, taken])
      · cases stored
      · cases raised
    · intro current c o hc unfinished ended
      simp only [step, hc, Option.elim_some, appendStep]
      unfold next at ended
      unfold Call.commits
      split at ended
      case h_1 hp =>
        split at ended <;> cases ended
        exact .inr ⟨rfl, by simp [hp]⟩
      case h_3 n hp =>
        have fresh : n ∉ s.indexes := by
          rw [← current c hc n hp, h.gapless.nextIndex, h.gapless.mem_indexes]
          exact lt_irrefl _
        rw [if_neg fresh] at ended
        split at ended <;> cases ended
      case h_5 n hp =>
        cases ended
        have := h.held c (List.mem_of_getElem? hc) n (by rw [hp]; rfl)
        exact .inl ⟨n, rfl, fun taken => by rw [h.gapless.mem_indexes] at taken; omega, by simp [hp]⟩
      case h_6 o' hp => exact absurd hp (unfinished o')
      all_goals cases ended

/-- In every run, each call stores its payload under a fresh index or raises a `RunHistoryError`,
the indexes have no gap, and what a reader fetches after the steps it has is all that it lacks,
exactly when no call inserts an index after another commit. -/
theorem append_step_iff (recorded : Bool) (as : List (Turn P)) :
    (AllSteps step Answers (History.mk recorded [] []) as ∧
      Always step Gapless (History.mk recorded [] []) as ∧
      ∀ bs cs, as = bs ++ cs →
        ((bs.foldl step (History.mk recorded [] [])).getHistory 0 ++
          (as.foldl step (History.mk recorded [] [])).getHistory
            ((bs.foldl step (History.mk recorded [] [])).getHistory 0).length) =
          (as.foldl step (History.mk recorded [] [])).steps) ↔
      AllSteps step Current (History.mk recorded [] []) as := by
  have answers := Lib.allSteps_iff_of_invariant (fun s a => answers_iff (s := s) (a := a))
    (fun s a h _ => h.step a) (Ordered.initial (P := P) recorded) as
  refine ⟨fun h => answers.mp h.1, fun h => ⟨answers.mpr h, ?_, ?_⟩⟩
  · exact Lib.always_of_invariant (fun s h => h.gapless) (fun s a h => h.step a)
      (Ordered.initial recorded) as
  · rintro bs cs rfl
    have before := Lib.foldl_invariant (fun s a h => h.step a) (Ordered.initial (P := P) recorded) bs
    have after := Lib.foldl_invariant (fun s a h => h.step a) before cs
    have kept := Lib.foldl_relates (R := fun s t => s.steps <+: t.steps) (fun s a h => h.step a)
      (fun s => List.prefix_refl _) (fun s t u => List.IsPrefix.trans)
      (fun s a _ => steps_step a) before cs
    obtain ⟨new, hnew⟩ := kept
    rw [List.foldl_append, after.gapless.getHistory, before.gapless.getHistory, List.drop_zero,
      ← hnew, List.drop_left]

theorem overlapping_appends_not_answered : ¬ ∀ as : List (Turn Nat),
    AllSteps step Answers (History.mk true [] []) as := by
  intro h
  have last := AllSteps.last (h ([.begin 7, .begin 8] ++
    [0, 1, 0, 1, 0, 0, 0].map .advance ++ [.advance 1]))
  obtain ⟨n, stored, -⟩ | ⟨raised, -⟩ :=
    last ⟨8, .chosen 0⟩ .uniqueViolation (by rfl) nofun (by rfl)
  · cases stored
  · cases raised

end History

end Orcheo.Execution.Appends
