import Mathlib.Data.Option.Basic

/-! Computations on a state that may raise and keep the state when they do, with sequences,
loops, handlers, finalisers and contexts, and the rules of their weakest preconditions. -/

universe u v

namespace Orcheo.Lib

/-- What the computation raises, if anything, and the state it leaves. -/
def Effect (S : Type u) (ε : Type v) := S → Option ε × S

namespace Effect

variable {S : Type u} {ε : Type v}

def skip : Effect S ε := fun s => (none, s)

def raise (e : ε) : Effect S ε := fun s => (some e, s)

/-- Raises what is there, if anything. -/
def await (r : Option ε) : Effect S ε := fun s => (r, s)

def write (g : S → S) : Effect S ε := fun s => (none, g s)

def seq (x : Effect S ε) (y : Unit → Effect S ε) : Effect S ε := fun s =>
  match x s with
  | (none, t) => y () t
  | (some e, t) => (some e, t)

instance : AndThen (Effect S ε) := ⟨seq⟩

def try_ (x : Effect S ε) (handler : ε → Effect S ε) : Effect S ε := fun s =>
  match x s with
  | (none, t) => (none, t)
  | (some e, t) => handler e t

/-- What the finaliser raises takes the place of what the body raised. -/
def finally_ (x final : Effect S ε) : Effect S ε := fun s =>
  match x s with
  | (r, t) => match final t with
    | (none, u) => (r, u)
    | (some e, u) => (some e, u)

/-- A context around a body, which is left however the body ends. -/
def within (enter exit_ body : Effect S ε) : Effect S ε := enter >> finally_ body exit_

def each {β : Type*} (f : β → Effect S ε) : List β → Effect S ε
  | [] => skip
  | b :: bs => f b >> each f bs

/-- What has to hold before the computation for the condition to hold after it. -/
def wp (x : Effect S ε) (Q : Option ε → S → Prop) (s : S) : Prop := Q (x s).1 (x s).2

variable {x y final : Effect S ε} {handler : ε → Effect S ε} {Q : Option ε → S → Prop}
  {s t : S} {r : Option ε}

theorem wp_of_eq (h : x s = (r, t)) : wp x Q s ↔ Q r t := by
  rw [wp, h]

@[simp] theorem wp_raise (e : ε) : wp (raise e) Q s ↔ Q (some e) s := Iff.rfl

@[simp] theorem wp_seq :
    wp (x >> y) Q s ↔ wp x (fun r t => if r = none then wp y Q t else Q r t) s := by
  show wp (seq x fun _ => y) Q s ↔ _
  unfold wp seq
  rcases x s with ⟨_ | e, t⟩ <;> simp

@[simp] theorem wp_try : wp (try_ x handler) Q s ↔ wp x (fun r t => match r with
    | none => Q none t
    | some e => wp (handler e) Q t) s := by
  unfold wp try_
  rcases x s with ⟨_ | e, t⟩ <;> rfl

@[simp] theorem wp_finally :
    wp (finally_ x final) Q s ↔ wp x (fun r t => wp final (fun r' u => Q (r'.or r) u) t) s := by
  unfold wp finally_
  rcases x s with ⟨r, t⟩
  rcases hf : final t with ⟨_ | e, u⟩ <;> simp [hf]

/-- The computation raises `r`, if anything, and leaves every state. -/
def Quiet (x : Effect S ε) (r : Option ε) : Prop := ∀ s, x s = (r, s)

variable {a b c : Option ε}

theorem Quiet.wp_iff (h : Quiet x r) : wp x Q s ↔ Q r s := wp_of_eq (h s)

theorem quiet_skip : Quiet (skip : Effect S ε) none := fun _ => rfl

theorem quiet_await (r : Option ε) : Quiet (await r : Effect S ε) r := fun _ => rfl

theorem Quiet.seq (hx : Quiet x a) (hy : Quiet y b) : Quiet (x >> y) (a.or b) := by
  intro s
  show Effect.seq x (fun _ => y) s = _
  unfold Effect.seq
  rw [hx s]
  cases a with
  | none => exact hy s
  | some e => rfl

theorem Quiet.finally_ (hx : Quiet x a) (hf : Quiet final b) :
    Quiet (finally_ x final) (b.or a) := by
  intro s
  unfold Effect.finally_
  simp only [hx s, hf s]
  cases b <;> rfl

theorem Quiet.within {enter exit_ : Effect S ε} (henter : Quiet enter a) (hexit : Quiet exit_ c)
    (hx : Quiet x b) : Quiet (within enter exit_ x) (a.or (c.or b)) :=
  henter.seq (hx.finally_ hexit)

/-- The computation raises `r`, if anything, relates the states before and after it, and has
`P` hold where it ends normally. -/
def Gives (R : S → S → Prop) (P : S → Prop) (x : Effect S ε) (r : Option ε) : Prop :=
  ∀ s, ∃ t, x s = (r, t) ∧ R s t ∧ (r = none → P t)

section Gives

variable {R : S → S → Prop} {P P' : S → Prop}

theorem Quiet.gives (refl : ∀ s, R s s) (hx : Quiet x r) : Gives R (fun _ => True) x r :=
  fun s => ⟨s, hx s, refl s, fun _ => trivial⟩

theorem gives_write {g : S → S} (hg : ∀ s, R s (g s)) (hP : ∀ s, P (g s)) :
    Gives R P (write g : Effect S ε) none :=
  fun s => ⟨g s, rfl, hg s, fun _ => hP s⟩

theorem Gives.seq (trans : ∀ s t u, R s t → R t u → R s u) (hx : Gives R P' x a)
    (hy : Gives R P y b) : Gives R P (x >> y) (a.or b) := by
  intro s
  obtain ⟨t, hxt, hst, _⟩ := hx s
  show ∃ u, Effect.seq x (fun _ => y) s = _ ∧ _
  unfold Effect.seq
  rw [hxt]
  cases a with
  | some e => exact ⟨t, rfl, hst, nofun⟩
  | none =>
    obtain ⟨u, hyu, htu, hP⟩ := hy t
    exact ⟨u, hyu, trans s t u hst htu, hP⟩

theorem Gives.seq_stable (trans : ∀ s t u, R s t → R t u → R s u)
    (stable : ∀ s t, R s t → P s → P t) (hx : Gives R P x a) (hy : Gives R P' y b) :
    Gives R P (x >> y) (a.or b) := by
  intro s
  obtain ⟨t, hxt, hst, hP⟩ := hx s
  show ∃ u, Effect.seq x (fun _ => y) s = _ ∧ _
  unfold Effect.seq
  rw [hxt]
  cases a with
  | some e => exact ⟨t, rfl, hst, nofun⟩
  | none =>
    obtain ⟨u, hyu, htu, _⟩ := hy t
    exact ⟨u, hyu, trans s t u hst htu, fun _ => stable t u htu (hP rfl)⟩

theorem Gives.finally_ (hx : Gives R P x a) (hf : Quiet final b) :
    Gives R P (finally_ x final) (b.or a) := by
  intro s
  obtain ⟨t, hxt, hst, hP⟩ := hx s
  refine ⟨t, ?_, hst, ?_⟩
  · unfold Effect.finally_
    simp only [hxt, hf t]
    cases b <;> rfl
  · intro normal
    exact hP (Option.or_eq_none_iff.mp normal).2

theorem Gives.within (refl : ∀ s, R s s) (trans : ∀ s t u, R s t → R t u → R s u)
    {enter exit_ : Effect S ε} (henter : Quiet enter a) (hexit : Quiet exit_ c)
    (hx : Gives R P x b) : Gives R P (within enter exit_ x) (a.or (c.or b)) :=
  (henter.gives refl).seq trans (hx.finally_ hexit)

theorem gives_each {β : Type*} {f : β → Effect S ε} {h : β → Option ε} (refl : ∀ s, R s s)
    (trans : ∀ s t u, R s t → R t u → R s u) (hf : ∀ b, Gives R (fun _ => True) (f b) (h b))
    (bs : List β) :
    Gives R (fun _ => True) (each f bs) (bs.foldr (fun b r => (h b).or r) none) := by
  induction bs with
  | nil => exact quiet_skip.gives refl
  | cons b bs ih => exact (hf b).seq trans ih

end Gives

end Effect

end Orcheo.Lib
