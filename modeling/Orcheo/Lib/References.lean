import Orcheo.Lib.Calls
import Orcheo.Lib.Except

/-! Computations that ask for the results of others and fail where one of these does.  How far
the references are followed is how far the result depends on them. -/

universe u v

namespace Orcheo.Lib

variable {K : Type u} {A : K → Type v} {ε α β γ : Type v}

abbrev Results (A : K → Type v) (ε : Type v) := (k : K) → Except ε (A k)

/-- The result of a computation that stops at the first error. -/
def Call.answered (H : Results A ε) : Call A (Except ε α) → Except ε α
  | .done r => r
  | .ask k next => H k >>= fun a => (next a).answered H

variable (H : Results A ε)

theorem Call.answered_andThen (c : Call A (Except ε α)) (f : α → Call A (Except ε β)) :
    (c.andThen f).answered H = c.answered H >>= fun a => (f a).answered H := by
  induction c with
  | done r =>
    cases r with
    | error e => rfl
    | ok a => rfl
  | ask k next ih =>
    change (H k >>= fun a => ((next a).andThen f).answered H) = (H k >>= _) >>= _
    cases H k with
    | error e => rfl
    | ok a => exact ih a

/-- The results are asked for one after another, each where the ones before have succeeded. -/
def Sequential (f : Results A ε → Except ε α) : Prop :=
  ∃ c : Call A (Except ε α), ∀ H, f H = c.answered H

noncomputable def failing (H : Results A ε) (k : K) (e : ε) : Results A ε :=
  open Classical in fun k' => if k' = k then .error e else H k'

theorem failing_self (k : K) (e : ε) : failing H k e k = .error e := if_pos rfl

theorem failing_ne {k k' : K} (e : ε) (h : k' ≠ k) : failing H k e k' = H k' :=
  if_neg h

/-- Whatever error the result is, it is the computation's. -/
def Asks (f : Results A ε → Except ε α) (H : Results A ε) (k : K) : Prop :=
  ∀ e, f (failing H k e) = .error e

namespace Sequential

variable {f : Results A ε → Except ε α} {g : α → Results A ε → Except ε β}

theorem const (r : Except ε α) : Sequential (fun _ : Results A ε => r) := ⟨.done r, fun _ => rfl⟩

theorem ask (k : K) : Sequential (fun H : Results A ε => H k) := by
  refine ⟨.ask k fun a => .done (.ok a), fun H => ?_⟩
  change H k = H k >>= fun a => .ok a
  cases H k with
  | error e => rfl
  | ok a => rfl

theorem bind (hf : Sequential f) (hg : ∀ a, Sequential (g a)) :
    Sequential (fun H => f H >>= fun a => g a H) := by
  obtain ⟨c, hc⟩ := hf
  choose d hd using hg
  refine ⟨c.andThen d, fun H => ?_⟩
  rw [Call.answered_andThen, ← hc]
  exact congrArg _ (funext fun a => hd a H)

variable {f' : Results A ε → Except ε α}

theorem congr (hf : Sequential f) (same : ∀ H, f' H = f H) :
    Sequential f' := by
  obtain ⟨c, hc⟩ := hf
  exact ⟨c, fun H => (same H).trans (hc H)⟩

theorem ite {p : Prop} [Decidable p] (hf : Sequential f)
    (hf' : Sequential f') : Sequential (fun H => if p then f H else f' H) := by
  by_cases h : p
  · exact hf.congr fun H => if_pos h
  · exact hf'.congr fun H => if_neg h

theorem map (hf : Sequential f) (h : α → β) : Sequential (fun H => f H >>= fun a => .ok (h a)) :=
  hf.bind fun a => const (.ok (h a))

theorem mapM {f : γ → Results A ε → Except ε α} (hf : ∀ x, Sequential (f x)) (xs : List γ) :
    Sequential (fun H => xs.mapM fun x => f x H) := by
  induction xs with
  | nil => exact const (.ok [])
  | cons x xs ih =>
    have each : Sequential (fun H => f x H >>= fun y =>
        (xs.mapM fun x => f x H) >>= fun ys => .ok (y :: ys)) :=
      (hf x).bind fun y => ih.bind fun ys => const (.ok (y :: ys))
    obtain ⟨c, hc⟩ := each
    refine ⟨c, fun H => ?_⟩
    change (x :: xs).mapM (fun x => f x H) = _
    rw [List.mapM_cons]
    exact hc H

theorem agree (hf : Sequential f) {H H' : Results A ε} (h : ∀ k, Asks f H k → H' k = H k) :
    f H' = f H := by
  obtain ⟨c, hc⟩ := hf
  have asks : ∀ k, (∀ e, c.answered (failing H k e) = .error e) → H' k = H k := by
    intro k asked
    refine h k fun e => ?_
    rw [hc, asked e]
  rw [hc, hc]
  clear hc h
  induction c with
  | done r => rfl
  | ask k next ih =>
    have first : H' k = H k := by
      refine asks k fun e => ?_
      change (failing H k e k >>= _) = _
      rw [failing_self]
      rfl
    change (H' k >>= _) = (H k >>= _)
    rw [first]
    cases found : H k with
    | error e => rfl
    | ok a =>
      refine ih a fun k' asked => asks k' fun e => ?_
      change (failing H k' e k >>= _) = _
      by_cases same : k = k'
      · subst same
        rw [failing_self]
        rfl
      · rw [failing_ne H e same, found]
        exact asked e

theorem fails (hf : Sequential f) {H H' : Results A ε} {e : ε}
    (h : ∀ k, H' k = H k ∨ H' k = .error e) : f H' = f H ∨ f H' = .error e := by
  obtain ⟨c, hc⟩ := hf
  rw [hc, hc]
  clear hc
  induction c with
  | done r => exact .inl rfl
  | ask k next ih =>
    change (H' k >>= _) = (H k >>= _) ∨ (H' k >>= _) = .error e
    rcases h k with same | failed
    · rw [same]
      cases H k with
      | error e' => exact .inl rfl
      | ok a => exact ih a
    · rw [failed]
      exact .inr rfl

end Sequential

section Depth

variable (F : Results A ε → Results A ε)

/-- The results where references are followed `n` times, and `stop` gives those after them. -/
def cutOff (stop : Results A ε) : Nat → Results A ε
  | 0 => stop
  | n + 1 => F (cutOff stop n)

/-- A chain of `n` references, each asked for by the computation before. -/
inductive Chain (R : K → K → Prop) : Nat → K → Prop
  | stop (k : K) : Chain R 0 k
  | step {n : Nat} {k k' : K} (h : R k k') (rest : Chain R n k') : Chain R (n + 1) k

variable {F} {G : Results A ε} (sequential : ∀ k, Sequential (fun H => F H k))
  (fixed : ∀ k, F G k = G k)

include sequential fixed

theorem cutOff_fails (e : ε) (n : Nat) (k : K) :
    cutOff F (fun _ => .error e) n k = G k ∨ cutOff F (fun _ => .error e) n k = .error e := by
  induction n generalizing k with
  | zero => exact .inr rfl
  | succ n ih =>
    have := (sequential k).fails (H := G) (e := e) ih
    rwa [fixed] at this

theorem cutOff_chain (e : ε) {n : Nat} {k : K}
    (chain : Chain (fun k k' => Asks (fun H => F H k) G k') n k) :
    cutOff F (fun _ => .error e) n k = .error e := by
  induction chain with
  | stop k => rfl
  | @step n k k' asks _ ih =>
    have h : ∀ k'', cutOff F (fun _ => .error e) n k'' = failing G k' e k'' ∨
        cutOff F (fun _ => .error e) n k'' = .error e := by
      intro k''
      by_cases same : k'' = k'
      · subst same
        exact .inr ih
      · rw [failing_ne G e same]
        exact cutOff_fails sequential fixed e n k''
    rcases (sequential k).fails h with same | failed
    · exact same.trans (asks e)
    · exact failed

/-- The result does not depend on what is further than `n` references away just where no chain
of references is that long. -/
theorem cutOff_iff (errors : ∃ e e' : ε, e ≠ e') (n : Nat) (k : K) :
    (∀ stop, cutOff F stop n k = G k) ↔
      ¬ Chain (fun k k' => Asks (fun H => F H k) G k') n k := by
  constructor
  · intro same chain
    obtain ⟨e, e', apart⟩ := errors
    have first := (same _).symm.trans (cutOff_chain sequential fixed e chain)
    have second := (same _).symm.trans (cutOff_chain sequential fixed e' chain)
    exact apart (Except.error.inj (first.symm.trans second))
  · intro short stop
    induction n generalizing k with
    | zero => exact absurd (Chain.stop k) short
    | succ n ih =>
      refine ((sequential k).agree fun k' asks => ?_).trans (fixed k)
      exact ih k' fun rest => short (.step asks rest)

end Depth

end Orcheo.Lib
