import Mathlib.Data.List.Forall2

/-! Successful computations that may raise or give nothing: what a sequence of them computed,
and what a loop over a list did. -/

universe u v w

namespace Orcheo.Lib

variable {ε : Type u} {α β γ : Type v}

theorem ok_bind (a : α) (f : α → Except ε β) : (Except.ok a >>= f) = f a := rfl

theorem error_bind (e : ε) (f : α → Except ε β) : (Except.error e >>= f) = .error e := rfl

variable {b : β} {f : α → Except ε β} {P : ε → Prop} {xs : List α} {ys : List β} {R : α → β → Prop}

theorem bind_ok_iff {x : Except ε α} : (x >>= f) = .ok b ↔ ∃ a, x = .ok a ∧ f a = .ok b := by
  cases x with
  | error e =>
    constructor
    · intro h
      cases h
    · rintro ⟨a, ⟨⟩, _⟩
  | ok a =>
    constructor
    · intro h
      exact ⟨a, rfl, h⟩
    · rintro ⟨_, ⟨⟩, h⟩
      exact h

def Raises (P : ε → Prop) (x : Except ε α) : Prop := ∀ e, x = .error e → P e

theorem raises_ok (a : α) : Raises P (.ok a : Except ε α) := by
  intro e raised
  cases raised

theorem raises_error {e : ε} (h : P e) : Raises P (.error e : Except ε α) := by
  intro e' raised
  cases raised
  exact h

theorem Raises.bind {x : Except ε α} (h : Raises P x) (hf : ∀ a, x = .ok a → Raises P (f a)) :
    Raises P (x >>= f) := by
  cases x with
  | error e => exact raises_error (h e rfl)
  | ok a => exact hf a rfl

@[simp] theorem pure_ok_iff {a b : α} : (pure a : Except ε α) = .ok b ↔ a = b :=
  ⟨Except.ok.inj, congrArg Except.ok⟩

theorem mapM_ok_iff :
    xs.mapM f = .ok ys ↔ List.Forall₂ (fun x y => f x = .ok y) xs ys := by
  induction xs generalizing ys with
  | nil =>
    constructor
    · intro h
      cases h
      exact .nil
    · intro h
      cases h
      rfl
  | cons x xs ih =>
    rw [List.mapM_cons, bind_ok_iff]
    constructor
    · rintro ⟨y, hy, h⟩
      obtain ⟨zs, hzs, h⟩ := bind_ok_iff.mp h
      cases pure_ok_iff.mp h
      exact .cons hy (ih.mp hzs)
    · intro h
      cases h with
      | cons hy hys => exact ⟨_, hy, bind_ok_iff.mpr ⟨_, ih.mpr hys, rfl⟩⟩

theorem foldlM_ok_invariant {f : β → α → Except ε β} {P : β → Prop}
    (hf : ∀ b x b', P b → f b x = .ok b' → P b') {b' : β} (hb : P b) (h : xs.foldlM f b = .ok b') :
    P b' := by
  induction xs generalizing b with
  | nil =>
    cases h
    exact hb
  | cons x xs ih =>
    rw [List.foldlM_cons] at h
    obtain ⟨_, hx, h⟩ := bind_ok_iff.mp h
    exact ih (hf _ _ _ hb hx) h

theorem foldlM_ok_prefix {f : β → α → Except ε β} {P : List α → β → Prop}
    (hf : ∀ done b x b', P done b → f b x = .ok b' → P (done ++ [x]) b') {b' : β}
    (hb : P [] b) (h : xs.foldlM f b = .ok b') : P xs b' := by
  suffices ∀ done b, P done b → xs.foldlM f b = .ok b' → P (done ++ xs) b' from this [] b hb h
  clear hb h
  induction xs with
  | nil =>
    intro done b hb h
    cases h
    rwa [List.append_nil]
  | cons x xs ih =>
    intro done b hb h
    rw [List.foldlM_cons] at h
    obtain ⟨_, hx, h⟩ := bind_ok_iff.mp h
    rw [List.append_cons]
    exact ih _ _ (hf _ _ _ _ hb hx) h

theorem foldlM_isOk_iff {f : β → α → Except ε β} {P : β → Prop} {Q : α → Prop}
    (succeeds : ∀ x ∈ xs, ∀ b, P b → ((∃ b', f b x = .ok b') ↔ Q x))
    (keeps : ∀ b x b', P b → f b x = .ok b' → P b') (hb : P b) :
    (∃ b', xs.foldlM f b = .ok b') ↔ ∀ x ∈ xs, Q x := by
  induction xs generalizing b with
  | nil =>
    constructor
    · intro _ x hx
      cases hx
    · intro _
      exact ⟨b, rfl⟩
  | cons x xs ih =>
    obtain ⟨here, later⟩ := List.forall_mem_cons.mp succeeds
    rw [List.foldlM_cons, List.forall_mem_cons]
    constructor
    · rintro ⟨b', h⟩
      obtain ⟨c, hc, h⟩ := bind_ok_iff.mp h
      exact ⟨(here b hb).mp ⟨c, hc⟩, (ih later (keeps b x c hb hc)).mp ⟨b', h⟩⟩
    · rintro ⟨first, rest⟩
      obtain ⟨c, hc⟩ := (here b hb).mpr first
      obtain ⟨b', h⟩ := (ih later (keeps b x c hb hc)).mpr rest
      exact ⟨b', bind_ok_iff.mpr ⟨c, hc, h⟩⟩

theorem mapM_some_iff {f : α → Option β} :
    xs.mapM f = some ys ↔ List.Forall₂ (fun x y => f x = some y) xs ys := by
  induction xs generalizing ys with
  | nil =>
    constructor
    · intro h
      cases h
      exact .nil
    · intro h
      cases h
      rfl
  | cons x xs ih =>
    rw [List.mapM_cons]
    constructor
    · intro h
      obtain ⟨y, hy, h⟩ := Option.bind_eq_some_iff.mp h
      obtain ⟨zs, hzs, h⟩ := Option.bind_eq_some_iff.mp h
      cases h
      exact .cons hy (ih.mp hzs)
    · intro h
      cases h with
      | cons hy hys =>
        exact Option.bind_eq_some_iff.mpr ⟨_, hy, Option.bind_eq_some_iff.mpr ⟨_, ih.mpr hys, rfl⟩⟩

theorem forall₂_comp {S : β → γ → Prop}
    {zs : List γ} (h : List.Forall₂ R xs ys) (h' : List.Forall₂ S ys zs) :
    List.Forall₂ (fun x z => ∃ y, R x y ∧ S y z) xs zs := by
  induction h generalizing zs with
  | nil =>
    cases h'
    exact .nil
  | cons hr _ ih =>
    cases h' with
    | cons hs hss => exact .cons ⟨_, hr, hs⟩ (ih hss)

theorem forall₂_exists_left (h : List.Forall₂ R xs ys) {x : α} (hx : x ∈ xs) : ∃ y ∈ ys, R x y := by
  induction h with
  | nil => cases hx
  | cons hr _ ih =>
    cases List.mem_cons.mp hx with
    | inl hx => exact ⟨_, List.mem_cons_self, hx ▸ hr⟩
    | inr hx =>
      obtain ⟨y, hy, hr⟩ := ih hx
      exact ⟨y, List.mem_cons_of_mem _ hy, hr⟩

theorem forall₂_exists_right (h : List.Forall₂ R xs ys) {y : β} (hy : y ∈ ys) :
    ∃ x ∈ xs, R x y := by
  induction h with
  | nil => cases hy
  | cons hr _ ih =>
    cases List.mem_cons.mp hy with
    | inl hy => exact ⟨_, List.mem_cons_self, hy ▸ hr⟩
    | inr hy =>
      obtain ⟨x, hx, hr⟩ := ih hy
      exact ⟨x, List.mem_cons_of_mem _ hx, hr⟩

theorem exists_forall₂ (h : ∀ x ∈ xs, ∃ y, R x y) :
    ∃ ys, List.Forall₂ R xs ys := by
  induction xs with
  | nil => exact ⟨[], .nil⟩
  | cons x xs ih =>
    obtain ⟨y, here⟩ := h x List.mem_cons_self
    obtain ⟨ys, rest⟩ := ih fun x mem => h x (List.mem_cons_of_mem _ mem)
    exact ⟨y :: ys, .cons here rest⟩

end Orcheo.Lib
