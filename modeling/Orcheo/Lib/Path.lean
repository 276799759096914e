import Mathlib.Data.List.Infix

/-! Paths written as text: the segments between separators without the empty ones and the dots,
the text that segments join to, and the paths that lie apart in a tree. -/

universe u

namespace Orcheo.Lib.Path

variable {α : Type u} (sep dot : α)

/-- A segment that reading a path keeps and that writing it keeps apart. -/
def Segment (p : List α) : Prop := p ≠ [] ∧ p ≠ [dot] ∧ sep ∉ p

def join (ps : List (List α)) : List α := [sep].intercalate ps

def segments [DecidableEq α] (s : List α) : List (List α) :=
  (s.splitOn sep).filter fun p => decide (p ≠ [] ∧ p ≠ [dot])

/-- Neither of the two lies on the way to the other. -/
def Apart (k l : List α) : Prop := (k <+: l ∨ l <+: k) → k = l

instance [DecidableEq α] (k l : List α) : Decidable (Apart k l) :=
  inferInstanceAs (Decidable ((k <+: l ∨ l <+: k) → k = l))

variable {sep dot} {s t p : List α} {ps : List (List α)}

theorem join_cons_cons (p q : List α) (ps : List (List α)) :
    join sep (p :: q :: ps) = p ++ [sep] ++ join sep (q :: ps) := by
  rw [join, List.intercalate_cons_cons]
  rfl

theorem join_ne_nil (h : p ≠ []) : join sep (p :: ps) ≠ [] := by
  cases ps with
  | nil => simpa [join] using h
  | cons q qs => simp [join_cons_cons]

theorem head?_join_ne (h : ∀ p ∈ ps, Segment sep dot p) : (join sep ps).head? ≠ some sep := by
  cases ps with
  | nil => simp [join]
  | cons p ps =>
    obtain ⟨nonempty, _, free⟩ := h p List.mem_cons_self
    cases p with
    | nil => exact absurd rfl nonempty
    | cons a p =>
      have first : (join sep ((a :: p) :: ps)).head? = some a := by
        cases ps <;> simp [join, List.intercalate_cons_cons]
      rw [first]
      intro same
      exact free (Option.some.inj same ▸ List.mem_cons_self)

theorem getLast?_join_ne (h : ∀ p ∈ ps, Segment sep dot p) : (join sep ps).getLast? ≠ some sep := by
  induction ps with
  | nil => simp [join]
  | cons p ps ih =>
    obtain ⟨_, _, free⟩ := h p List.mem_cons_self
    cases ps with
    | nil =>
      intro last
      simp only [join, List.intercalate_singleton] at last
      exact free (List.mem_of_getLast? last)
    | cons q qs =>
      have later := ih fun r hr => h r (List.mem_cons_of_mem p hr)
      have kept : join sep (q :: qs) ≠ [] :=
        join_ne_nil (h q (List.mem_cons_of_mem p List.mem_cons_self)).1
      rw [join_cons_cons, List.getLast?_append_of_ne_nil _ kept]
      exact later

theorem mem_join {a : α} (mem : a ∈ join sep ps) : a = sep ∨ ∃ p ∈ ps, a ∈ p := by
  induction ps with
  | nil => cases mem
  | cons p ps ih =>
    cases ps with
    | nil =>
      simp only [join, List.intercalate_singleton] at mem
      exact .inr ⟨p, List.mem_cons_self, mem⟩
    | cons q qs =>
      rw [join_cons_cons, List.append_assoc, List.mem_append] at mem
      cases mem with
      | inl first => exact .inr ⟨p, List.mem_cons_self, first⟩
      | inr rest => cases List.mem_cons.mp rest with
        | inl same => exact .inl same
        | inr later => exact (ih later).imp_right fun ⟨r, among, mem⟩ =>
            ⟨r, List.mem_cons_of_mem p among, mem⟩

variable [DecidableEq α]

theorem not_mem_of_mem_splitOn (h : p ∈ s.splitOn sep) : sep ∉ p := by
  induction s generalizing p with
  | nil =>
    simp only [List.splitOn_nil, List.mem_singleton] at h
    simp [h]
  | cons a s ih =>
    rw [List.splitOn_cons_eq_if_modifyHead] at h
    split at h
    · cases List.mem_cons.mp h with
      | inl empty => simp [empty]
      | inr later => exact ih later
    · rename_i other
      cases split : s.splitOn sep with
      | nil => exact absurd split (List.splitOn_ne_nil sep s)
      | cons q qs =>
        rw [split, List.modifyHead_cons] at h
        have kept : ∀ r ∈ q :: qs, sep ∉ r := fun r hr => ih (split ▸ hr)
        cases List.mem_cons.mp h with
        | inl first =>
          rw [first, List.mem_cons, not_or]
          exact ⟨fun same => other (by simp [same]), kept q List.mem_cons_self⟩
        | inr later => exact kept p (List.mem_cons_of_mem q later)

theorem mem_of_mem_splitOn {a : α} (h : p ∈ s.splitOn sep) (mem : a ∈ p) : a ∈ s := by
  induction s generalizing p with
  | nil =>
    simp only [List.splitOn_nil, List.mem_singleton] at h
    rw [h] at mem
    cases mem
  | cons b s ih =>
    rw [List.splitOn_cons_eq_if_modifyHead] at h
    split at h
    · cases List.mem_cons.mp h with
      | inl empty =>
        rw [empty] at mem
        cases mem
      | inr later => exact List.mem_cons_of_mem b (ih later mem)
    · cases split : s.splitOn sep with
      | nil => exact absurd split (List.splitOn_ne_nil sep s)
      | cons q qs =>
        rw [split, List.modifyHead_cons] at h
        cases List.mem_cons.mp h with
        | inl first =>
          rw [first] at mem
          cases List.mem_cons.mp mem with
          | inl same => exact same ▸ List.mem_cons_self
          | inr rest => exact List.mem_cons_of_mem b (ih (split ▸ List.mem_cons_self) rest)
        | inr later =>
          exact List.mem_cons_of_mem b (ih (split ▸ List.mem_cons_of_mem q later) mem)

theorem mem_join_segments {a : α} (mem : a ∈ join sep (segments sep dot s)) :
    a = sep ∨ a ∈ s :=
  (mem_join mem).imp_right fun ⟨_, among, mem⟩ =>
    mem_of_mem_splitOn (List.mem_filter.mp among).1 mem

theorem segment_of_mem (h : p ∈ segments sep dot s) : Segment sep dot p := by
  simp only [segments, List.mem_filter, decide_eq_true_eq] at h
  exact ⟨h.2.1, h.2.2, not_mem_of_mem_splitOn h.1⟩

theorem segments_nil : segments sep dot [] = [] := by simp [segments]

theorem segments_join (h : ∀ p ∈ ps, Segment sep dot p) : segments sep dot (join sep ps) = ps := by
  cases ps with
  | nil => exact segments_nil
  | cons p ps =>
    rw [segments, join, List.splitOn_intercalate sep (fun q hq => (h q hq).2.2)
      (List.cons_ne_nil p ps), List.filter_eq_self]
    intro q hq
    simp only [decide_eq_true_eq]
    exact ⟨(h q hq).1, (h q hq).2.1⟩

@[simp] theorem segments_join_segments :
    segments sep dot (join sep (segments sep dot s)) = segments sep dot s :=
  segments_join fun _ h => segment_of_mem h

end Orcheo.Lib.Path
