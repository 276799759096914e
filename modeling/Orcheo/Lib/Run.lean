/-! Runs of labelled transition relations and of deterministic step functions,
with the induction rules that carry an invariant along them. -/

universe u v

namespace Orcheo.Lib

section Relational

variable {S : Type u} {A : Type v}

inductive Run (Step : S → A → S → Prop) : S → List A → S → Prop
  | nil {s} : Run Step s [] s
  | cons {s a t as u} : Step s a t → Run Step t as u → Run Step s (a :: as) u

end Relational

section Deterministic

variable {S : Type u} {A : Type v} (step : S → A → S)

/-- The property holds in every state the run of `as` from `s` reaches. -/
def Always (P : S → Prop) : S → List A → Prop
  | s, [] => P s
  | s, a :: as => P s ∧ Always P (step s a) as

/-- Every step of the run of `as` from `s` meets the condition. -/
def AllSteps (Guard : S → A → Prop) : S → List A → Prop
  | _, [] => True
  | s, a :: as => Guard s a ∧ AllSteps Guard (step s a) as

variable {step} {P Q : S → Prop} {Guard : S → A → Prop}

variable {as : List A} {s : S} {I : S → Prop} {Good : S → A → Prop}

theorem Always.head (h : Always step P s as) : P s := by
  cases as with
  | nil => exact h
  | cons a as => exact h.1

theorem Always.mono (hPQ : ∀ s, P s → Q s) (h : Always step P s as) :
    Always step Q s as := by
  induction as generalizing s with
  | nil => exact hPQ s h
  | cons a as ih => exact ⟨hPQ s h.1, ih h.2⟩

theorem Always.last (h : Always step P s as) : P (as.foldl step s) := by
  induction as generalizing s with
  | nil => exact h
  | cons a as ih => exact ih h.2

theorem allSteps_of_forall (h : ∀ s a, Guard s a) (s : S) (as : List A) :
    AllSteps step Guard s as := by
  induction as generalizing s with
  | nil => trivial
  | cons a as ih => exact ⟨h s a, ih _⟩

theorem always_iff_allSteps_of_allowed {Allowed : S → A → Prop}
    (holds : ∀ s, I s → P s) (keep : ∀ s a, I s → Allowed s a → Guard s a → I (step s a))
    (needed : ∀ s a, I s → Allowed s a → P (step s a) → Guard s a) (hs : I s)
    (allowed : AllSteps step Allowed s as) :
    Always step P s as ↔ AllSteps step Guard s as := by
  induction as generalizing s with
  | nil => exact ⟨fun _ => trivial, fun _ => holds s hs⟩
  | cons a as ih =>
    constructor
    · intro h
      have ha := needed s a hs allowed.1 h.2.head
      exact ⟨ha, (ih (keep s a hs allowed.1 ha) allowed.2).mp h.2⟩
    · intro h
      exact ⟨holds s hs, (ih (keep s a hs allowed.1 h.1) allowed.2).mpr h.2⟩

theorem always_iff_allSteps_of_invariant (holds : ∀ s, I s → P s)
    (keep : ∀ s a, I s → Guard s a → I (step s a))
    (needed : ∀ s a, I s → P (step s a) → Guard s a) (hs : I s) (as : List A) :
    Always step P s as ↔ AllSteps step Guard s as :=
  always_iff_allSteps_of_allowed holds (fun s a h _ => keep s a h) (fun s a h _ => needed s a h) hs
    (allSteps_of_forall (fun _ _ => trivial) s as)

theorem always_iff_allSteps (hstep : ∀ s a, P s → (P (step s a) ↔ Guard s a))
    (hs : P s) (as : List A) : Always step P s as ↔ AllSteps step Guard s as :=
  always_iff_allSteps_of_invariant (fun _ h => h) (fun s a h => (hstep s a h).mpr)
    (fun s a h => (hstep s a h).mp) hs as

theorem AllSteps.always (holds : ∀ s, I s → P s) (keep : ∀ s a, I s → Guard s a → I (step s a))
    (hs : I s) (h : AllSteps step Guard s as) : Always step P s as := by
  induction as generalizing s with
  | nil => exact holds s hs
  | cons a as ih => exact ⟨holds s hs, ih (keep s a hs h.1) h.2⟩

theorem always_of_invariant (holds : ∀ s, I s → P s)
    (keep : ∀ s a, I s → I (step s a)) (hs : I s) (as : List A) : Always step P s as :=
  AllSteps.always holds (fun s a h _ => keep s a h) hs (allSteps_of_forall (fun _ _ => trivial) s as)

theorem allSteps_append {bs : List A} : AllSteps step Guard s (as ++ bs) ↔
    AllSteps step Guard s as ∧ AllSteps step Guard (as.foldl step s) bs := by
  induction as generalizing s with
  | nil => simp [AllSteps]
  | cons b as ih => simp only [List.cons_append, AllSteps, ih, List.foldl_cons, and_assoc]

theorem allSteps_snoc {a : A} :
    AllSteps step Guard s (as ++ [a]) ↔
      AllSteps step Guard s as ∧ Guard (as.foldl step s) a := by
  simp [allSteps_append, AllSteps]

theorem AllSteps.last {a : A} (h : AllSteps step Guard s (as ++ [a])) :
    Guard (as.foldl step s) a := (allSteps_snoc.mp h).2

instance AllSteps.decidable [∀ s a, Decidable (Guard s a)] :
    (s : S) → (as : List A) → Decidable (AllSteps step Guard s as)
  | _, [] => isTrue trivial
  | s, a :: as =>
    have := AllSteps.decidable (step s a) as
    inferInstanceAs (Decidable (Guard s a ∧ AllSteps step Guard (step s a) as))

theorem AllSteps.of_invariant (hstep : ∀ s a, P s → Guard s a → P (step s a) ∧ Good s a) (hs : P s)
    (h : AllSteps step Guard s as) : AllSteps step Good s as := by
  induction as generalizing s with
  | nil => trivial
  | cons a as ih =>
    obtain ⟨hp, hg⟩ := hstep s a hs h.1
    exact ⟨hg, ih hp h.2⟩

theorem allSteps_iff_of_invariant (hstep : ∀ s a, P s → (Good s a ↔ Guard s a))
    (keep : ∀ s a, P s → Good s a → P (step s a)) (hs : P s) (as : List A) :
    AllSteps step Good s as ↔ AllSteps step Guard s as := by
  induction as generalizing s with
  | nil => exact Iff.rfl
  | cons a as ih =>
    constructor
    · intro h
      exact ⟨(hstep s a hs).mp h.1, (ih (keep s a hs h.1)).mp h.2⟩
    · intro h
      have good := (hstep s a hs).mpr h.1
      exact ⟨good, (ih (keep s a hs good)).mpr h.2⟩

theorem allSteps_and_iff :
    AllSteps step (fun s a => Guard s a ∧ Good s a) s as ↔
      AllSteps step Guard s as ∧ AllSteps step Good s as := by
  induction as generalizing s with
  | nil => simp [AllSteps]
  | cons a as ih => simp only [AllSteps, ih, and_and_and_comm]

theorem foldl_invariant (hP : ∀ s a, P s → P (step s a)) (hs : P s) (as : List A) :
    P (as.foldl step s) := by
  induction as generalizing s with
  | nil => exact hs
  | cons a as ih => exact ih (hP s a hs)

theorem foldl_relates {R : S → S → Prop} (hP : ∀ s a, P s → P (step s a)) (hrefl : ∀ s, R s s)
    (htrans : ∀ s t u, R s t → R t u → R s u) (hR : ∀ s a, P s → R s (step s a))
    (hs : P s) (as : List A) : R s (as.foldl step s) := by
  induction as generalizing s with
  | nil => exact hrefl s
  | cons a as ih => exact htrans _ _ _ (hR s a hs) (ih (hP s a hs))

end Deterministic

end Orcheo.Lib
