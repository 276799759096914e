import Mathlib.Data.List.Nodup

/-! Pages that are asked for one after the other, each with the cursor that came with the one
before, over rows that are in order of a key. -/

universe u v

namespace Orcheo.Lib.Paging

variable {α C : Type u} {ε : Type v}

/-- The rows of all pages from a cursor on, until none is returned.  There is no value where
there are more pages than that. -/
def follow (fetch : Option C → Except ε (List α × Option C)) :
    Nat → Option C → Except ε (Option (List α))
  | 0, _ => return none
  | fuel + 1, cursor => do
    let (page, next) ← fetch cursor
    if next.isNone then return some page
    let rest ← follow fetch fuel next
    return rest.map (page ++ ·)

/-- A cursor stands before some rows: no more than a page of them comes without a cursor, and a
page of more with one that stands before the rest. -/
structure Serves (fetch : Option C → Except ε (List α × Option C)) (limit : Nat)
    (Stands : Option C → List α → Prop) : Prop where
  last : ∀ cursor rows, Stands cursor rows → rows.length ≤ limit →
    fetch cursor = .ok (rows, none)
  more : ∀ cursor rows, Stands cursor rows → limit < rows.length →
    ∃ next, fetch cursor = .ok (rows.take limit, some next) ∧
      Stands (some next) (rows.drop limit)

section Follow

variable {fetch : Option C → Except ε (List α × Option C)} {limit : Nat}
  {Stands : Option C → List α → Prop}

theorem Serves.follow_eq (serves : Serves fetch limit Stands) (positive : 0 < limit)
    {fuel : Nat} {cursor : Option C} {rows : List α} (stands : Stands cursor rows)
    (enough : rows.length < fuel) : follow fetch fuel cursor = .ok (some rows) := by
  induction fuel generalizing cursor rows with
  | zero => omega
  | succ fuel ih =>
    unfold follow
    by_cases short : rows.length ≤ limit
    · rw [serves.last cursor rows stands short]
      rfl
    · obtain ⟨next, page, stands⟩ := serves.more cursor rows stands (Nat.lt_of_not_le short)
      have rest := ih stands (by rw [List.length_drop]; omega)
      rw [page]
      have joined : Except.ok (ε := ε) (some (rows.take limit ++ rows.drop limit)) =
          .ok (some rows) := by rw [List.take_append_drop]
      rw [← joined]
      exact congrArg (· >>= fun rest => pure (rest.map (rows.take limit ++ ·))) rest

/-- No row is passed, or those up to the one that the cursor names. -/
def Left (rows : List α) (encode : α → C) (cursor : Option C) (left : List α) : Prop :=
  cursor = none ∧ left = rows ∨
    ∃ before last, rows = before ++ last :: left ∧ cursor = some (encode last)

theorem serves_of_left {rows : List α} {encode : α → C} (positive : 0 < limit)
    (answers : ∀ cursor left, Left rows encode cursor left → fetch cursor =
      .ok (left.take limit,
        if limit < left.length then (left.take limit).getLast?.map encode else none)) :
    Serves fetch limit (Left rows encode) where
  last cursor left stands short := by
    rw [answers cursor left stands, if_neg (Nat.not_lt.mpr short), List.take_of_length_le short]
  more cursor left stands long := by
    have some : left.take limit ≠ [] := by
      rw [← List.length_pos_iff_ne_nil, List.length_take]
      omega
    refine ⟨encode ((left.take limit).getLast some), ?_, .inr ?_⟩
    · rw [answers cursor left stands, if_pos long, List.getLast?_eq_some_getLast some]
      rfl
    · have split : left =
          (left.take limit).dropLast ++ (left.take limit).getLast some :: left.drop limit := by
        rw [List.append_cons, List.dropLast_concat_getLast, List.take_append_drop]
      obtain ⟨before, whole⟩ : ∃ before, rows = before ++ left := by
        rcases stands with ⟨_, same⟩ | ⟨before, last, whole, _⟩
        · exact ⟨[], same.symm⟩
        · exact ⟨before ++ [last], by rw [whole, List.append_assoc]; rfl⟩
      refine ⟨before ++ (left.take limit).dropLast, _, ?_, rfl⟩
      rw [whole, List.append_assoc, ← split]

theorem Left.of_map {β : Type u} {rows : List β} {f : β → α} {encode : α → C} {cursor : Option C}
    {left : List α} (stands : Left (rows.map f) encode cursor left) :
    ∃ left', left = left'.map f ∧ Left rows (fun b => encode (f b)) cursor left' := by
  rcases stands with ⟨first, all⟩ | ⟨before, last, split, next⟩
  · exact ⟨rows, all, .inl ⟨first, rfl⟩⟩
  · obtain ⟨before', behind, rfl, _, mapped⟩ := List.map_eq_append_iff.mp split
    obtain ⟨last', left', rfl, here, later⟩ := List.map_eq_cons_iff.mp mapped
    exact ⟨left', later.symm, .inr ⟨before', last', rfl, by rw [next, ← here]⟩⟩

end Follow

section Order

variable {le : α → α → Bool} (trans : ∀ a b c, le a b = true → le b c = true → le a c = true)
  (total : ∀ a b, (le a b || le b a) = true) {rows : List α} (nodup : rows.Nodup)
  (antisymm : ∀ a ∈ rows, ∀ b ∈ rows, le a b = true → le b a = true → a = b)

include trans total antisymm

theorem filter_mergeSort (p : α → Bool) :
    (rows.mergeSort le).filter p = (rows.filter p).mergeSort le := by
  have perm : ((rows.mergeSort le).filter p).Perm ((rows.filter p).mergeSort le) :=
    ((List.mergeSort_perm rows le).filter p).trans (List.mergeSort_perm _ le).symm
  refine perm.eq_of_pairwise ?_ ((List.pairwise_mergeSort trans total rows).filter p)
    (List.pairwise_mergeSort trans total _)
  intro a b memA memB ab ba
  exact antisymm a (List.mem_mergeSort.mp (List.mem_of_mem_filter memA)) b
    (List.mem_of_mem_filter (List.mem_mergeSort.mp memB)) ab ba

include nodup

theorem pairwise_mergeSort_lt :
    (rows.mergeSort le).Pairwise fun a b => le a b = true ∧ le b a = false := by
  have sorted := List.pairwise_mergeSort trans total rows
  have distinct : (rows.mergeSort le).Nodup := (List.mergeSort_perm rows le).nodup_iff.mpr nodup
  refine (sorted.and distinct).imp_of_mem fun {a b} memA memB both => ⟨both.1, ?_⟩
  by_contra back
  exact both.2 (antisymm a (List.mem_mergeSort.mp memA) b (List.mem_mergeSort.mp memB) both.1
    (by simpa using back))

theorem filter_after {before left : List α} {last : α}
    (split : rows.mergeSort le = before ++ last :: left) :
    (rows.mergeSort le).filter (fun x => !(le x last)) = left := by
  have sorted := pairwise_mergeSort_lt trans total nodup antisymm
  rw [split, List.pairwise_append, List.pairwise_cons] at sorted
  obtain ⟨_, ⟨behind, _⟩, ahead⟩ := sorted
  have none : (before ++ [last]).filter (fun x => !(le x last)) = [] := by
    rw [List.filter_eq_nil_iff]
    intro a mem
    cases List.mem_append.mp mem with
    | inl mem => simp [(ahead a mem last List.mem_cons_self).1]
    | inr mem =>
      rw [List.mem_singleton.mp mem]
      have self := total last last
      rw [Bool.or_self] at self
      simp [self]
  have all : left.filter (fun x => !(le x last)) = left := by
    rw [List.filter_eq_self]
    intro a mem
    simp [(behind a mem).2]
  rw [split, List.append_cons, List.filter_append, none, all, List.nil_append]

theorem mergeSort_after {before left : List α} {last : α}
    (split : rows.mergeSort le = before ++ last :: left) :
    (rows.filter fun x => !(le x last)).mergeSort le = left := by
  rw [← filter_mergeSort trans total antisymm, filter_after trans total nodup antisymm split]

end Order

end Orcheo.Lib.Paging
