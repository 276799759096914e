import Mathlib.Data.List.Perm.Subperm
import Mathlib.Data.List.Nodup

/-! Insertion-ordered finite maps with one entry per key: the dictionaries of the
modelled programs.  Updating a present key keeps its position. -/

universe u v w

namespace Orcheo.Lib

open List (map_cons mem_cons mem_cons_of_mem mem_cons_self nodup_cons cons_append map_map foldl_cons map_congr_left map_id filter_cons countP_map)
open Prod (fst snd)

variable {K : Type u} {V : Type v} {W : Type w} [DecidableEq K]

structure Dict (K : Type u) (V : Type v) where
  entries : List (K × V)
  nodup : (entries.map fst).Nodup

namespace Dict

instance [DecidableEq V] : DecidableEq (Dict K V) := fun d e =>
  decidable_of_iff (d.entries = e.entries) (by
    constructor
    · intro h; cases d; cases e; simp_all
    · intro h; rw [h])

def empty : Dict K V := ⟨[], List.nodup_nil⟩

instance : EmptyCollection (Dict K V) := ⟨empty⟩

def lookup (k : K) : List (K × V) → Option V
  | [] => none
  | (k', v) :: es => if k' = k then some v else lookup k es

variable (d : Dict K V)

def get? (k : K) : Option V := lookup k d.entries

def keys : List K := d.entries.map fst

def values : List V := d.entries.map snd

def contains (k : K) : Bool := (d.get? k).isSome

def insertEntry (k : K) (v : V) : List (K × V) → List (K × V)
  | [] => [(k, v)]
  | (k', v') :: es => if k' = k then (k, v) :: es else (k', v') :: insertEntry k v es

theorem mem_keys_insertEntry (k k' : K) (v : V) (es : List (K × V)) :
    k' ∈ (insertEntry k v es).map fst ↔ k' = k ∨ k' ∈ es.map fst := by
  induction es with
  | nil => simp [insertEntry]
  | cons e es ih =>
    obtain ⟨j, x⟩ := e
    by_cases h : j = k
    · simp [insertEntry, h]
    · simp only [insertEntry, h, if_false, map_cons, mem_cons, ih]
      tauto

variable {es : List (K × V)} {k : K} {v v' : V} {d headed : Dict K V} {key : V → K}
  {p : K → V → Bool}

theorem mem_insertEntry {e : K × V} (h : e ∈ insertEntry k v es) : e = (k, v) ∨ e ∈ es := by
  induction es with
  | nil => exact .inl (List.mem_singleton.mp h)
  | cons e' es ih =>
    rw [insertEntry] at h
    split at h
    · cases List.mem_cons.mp h with
      | inl here => exact .inl here
      | inr later => exact .inr (mem_cons_of_mem _ later)
    · cases List.mem_cons.mp h with
      | inl here => exact .inr (here ▸ mem_cons_self)
      | inr later => exact (ih later).imp_right (mem_cons_of_mem _)

theorem nodup_insertEntry (k : K) (v : V) (es : List (K × V)) (h : (es.map fst).Nodup) :
    ((insertEntry k v es).map fst).Nodup := by
  induction es with
  | nil => simp [insertEntry]
  | cons e es ih =>
    obtain ⟨j, x⟩ := e
    simp only [map_cons, nodup_cons] at h
    by_cases hj : j = k
    · subst hj
      simpa [insertEntry] using h
    · simp only [insertEntry, hj, if_false, map_cons, nodup_cons]
      refine ⟨?_, ih h.2⟩
      rw [mem_keys_insertEntry]
      rintro (rfl | hm)
      · exact hj rfl
      · exact h.1 hm

theorem keys_insertEntry_of_mem (h : k ∈ es.map fst) :
    (insertEntry k v es).map fst = es.map fst := by
  induction es with
  | nil => cases h
  | cons e es ih =>
    obtain ⟨j, x⟩ := e
    by_cases hj : j = k
    · simp [insertEntry, hj]
    · have hm : k ∈ es.map fst := (List.mem_cons.mp h).resolve_left fun hk => hj hk.symm
      simp only [insertEntry, hj, if_false, map_cons, ih hm]

theorem keys_insertEntry_of_not_mem (h : k ∉ es.map fst) :
    (insertEntry k v es).map fst = es.map fst ++ [k] := by
  induction es with
  | nil => rfl
  | cons e es ih =>
    obtain ⟨j, x⟩ := e
    rw [map_cons, mem_cons, not_or] at h
    have hj : j ≠ k := fun hj => h.1 hj.symm
    simp only [insertEntry, hj, if_false, map_cons, ih h.2, cons_append]

theorem forall₂_insertEntry {R : K → V → W → Prop} {w : W} (hr : R k v w) {fs : List (K × W)}
    (h : List.Forall₂ (fun e f => e.1 = f.1 ∧ R e.1 e.2 f.2) es fs) :
    List.Forall₂ (fun e f => e.1 = f.1 ∧ R e.1 e.2 f.2) (insertEntry k v es)
      (insertEntry k w fs) := by
  induction h with
  | nil => exact .cons ⟨rfl, hr⟩ .nil
  | @cons e f es fs he h ih =>
    obtain ⟨j, x⟩ := e
    obtain ⟨_, y⟩ := f
    obtain ⟨rfl, hxy⟩ := he
    simp only [insertEntry]
    split
    case isTrue => exact .cons ⟨rfl, hr⟩ h
    case isFalse => exact .cons ⟨rfl, hxy⟩ ih

def set (d : Dict K V) (k : K) (v : V) : Dict K V :=
  ⟨insertEntry k v d.entries, nodup_insertEntry k v d.entries d.nodup⟩

/-- `{k: v for k, v in d.items() if p(k, v)}` -/
def filter (d : Dict K V) (p : K → V → Bool) : Dict K V :=
  ⟨d.entries.filter (fun e => p e.1 e.2),
    d.nodup.sublist (List.filter_sublist.map fst)⟩

/-- `d.pop(k, None)`, without the popped value -/
def erase (d : Dict K V) (k : K) : Dict K V := d.filter (fun k' _ => k' ≠ k)

def mapValues (d : Dict K V) (f : K → V → W) : Dict K W :=
  ⟨d.entries.map (fun e => (e.1, f e.1 e.2)), by
    simpa [map_map, Function.comp_def] using d.nodup⟩

def ofList (es : List (K × V)) : Dict K V :=
  es.foldl (fun d e => d.set e.1 e.2) empty

theorem lookup_eq_none_iff (k : K) (es : List (K × V)) :
    lookup k es = none ↔ k ∉ es.map fst := by
  induction es with
  | nil => simp [lookup]
  | cons e es ih =>
    obtain ⟨j, x⟩ := e
    by_cases h : j = k
    · simp [lookup, h]
    · simp only [lookup, h, if_false, ih, map_cons, mem_cons, not_or]
      exact ⟨fun hm => ⟨fun hk => h hk.symm, hm⟩, fun hm => hm.2⟩

theorem mem_of_lookup (h : lookup k es = some v) : (k, v) ∈ es := by
  induction es with
  | nil => cases h
  | cons e es ih =>
    obtain ⟨j, x⟩ := e
    rw [lookup] at h
    split at h
    case isTrue same =>
      cases h
      rw [same]
      exact mem_cons_self
    case isFalse => exact mem_cons_of_mem _ (ih h)

theorem lookup_append (k : K) (es fs : List (K × V)) :
    lookup k (es ++ fs) = (lookup k es).or (lookup k fs) := by
  induction es with
  | nil => rfl
  | cons e es ih =>
    rw [cons_append, lookup, lookup, ih]
    split <;> rfl

theorem lookup_filterMap {f : V → Option W} {w : W} (h : lookup k es = some v) (hf : f v = some w) :
    lookup k (es.filterMap (fun e => (f e.2).map (fun w => (e.1, w)))) = some w := by
  induction es with
  | nil => cases h
  | cons e es ih =>
    obtain ⟨j, x⟩ := e
    rw [lookup] at h
    split at h
    case isTrue same =>
      cases h
      rw [List.filterMap_cons_some (b := (j, w)) (by simp [hf]), lookup, if_pos same]
    case isFalse other =>
      cases hx : f x with
      | none => rw [List.filterMap_cons_none (by simp [hx]), ih h]
      | some y =>
        rw [List.filterMap_cons_some (b := (j, y)) (by simp [hx]), lookup, if_neg other, ih h]

theorem lookup_insertEntry (k k' : K) (v : V) (es : List (K × V)) :
    lookup k' (insertEntry k v es) = if k' = k then some v else lookup k' es := by
  induction es with
  | nil => simp [insertEntry, lookup, eq_comm]
  | cons e es ih =>
    obtain ⟨j, x⟩ := e
    by_cases hj : j = k
    · subst hj
      by_cases hk : k' = j
      · simp [insertEntry, lookup, hk]
      · simp [insertEntry, lookup, hk, Ne.symm hk]
    · by_cases hk : j = k'
      · subst hk
        simp [insertEntry, lookup, hj]
      · simp only [insertEntry, hj, if_false, lookup, hk, ih]

theorem lookup_eq_some_iff (k : K) (v : V) (es : List (K × V)) (h : (es.map fst).Nodup) :
    lookup k es = some v ↔ (k, v) ∈ es := by
  induction es with
  | nil => simp [lookup]
  | cons e es ih =>
    obtain ⟨j, x⟩ := e
    simp only [map_cons, nodup_cons] at h
    by_cases hj : j = k
    · subst hj
      simp only [lookup, if_true, mem_cons, Prod.mk.injEq, true_and]
      constructor
      · intro hx
        exact Or.inl (Option.some.inj hx).symm
      · rintro (rfl | hm)
        · rfl
        · exact absurd (List.mem_map_of_mem (f := fst) hm) h.1
    · simp only [lookup, hj, if_false, ih h.2, mem_cons, Prod.mk.injEq]
      exact ⟨Or.inr, fun hm => hm.resolve_left (fun he => hj he.1.symm)⟩

theorem get?_eq_some_iff (d : Dict K V) (k : K) (v : V) :
    d.get? k = some v ↔ (k, v) ∈ d.entries := lookup_eq_some_iff k v d.entries d.nodup

theorem get?_eq_none_iff (d : Dict K V) (k : K) : d.get? k = none ↔ k ∉ d.keys :=
  lookup_eq_none_iff k d.entries

theorem mem_keys_iff (d : Dict K V) (k : K) : k ∈ d.keys ↔ ∃ v, d.get? k = some v := by
  rw [← not_iff_not, ← get?_eq_none_iff, Option.eq_none_iff_forall_ne_some]
  simp

theorem mem_values_iff (d : Dict K V) (v : V) : v ∈ d.values ↔ ∃ k, d.get? k = some v := by
  simp [values, get?_eq_some_iff]

theorem contains_iff (d : Dict K V) (k : K) : d.contains k = true ↔ k ∈ d.keys := by
  rw [contains, Option.isSome_iff_exists, mem_keys_iff]

theorem keys_set_of_mem (h : k ∈ d.keys) : (d.set k v).keys = d.keys := keys_insertEntry_of_mem h

theorem keys_set_of_not_mem (h : k ∉ d.keys) :
    (d.set k v).keys = d.keys ++ [k] := keys_insertEntry_of_not_mem h

@[simp] theorem get?_empty (k : K) : (∅ : Dict K V).get? k = none := rfl

@[simp] theorem get?_set (d : Dict K V) (k k' : K) (v : V) :
    (d.set k v).get? k' = if k' = k then some v else d.get? k' :=
  lookup_insertEntry k k' v d.entries

theorem of_get?_set {k k' : K} {v w : V} (found : (d.set k v).get? k' = some w) :
    k' = k ∧ v = w ∨ k' ≠ k ∧ d.get? k' = some w := by
  rw [get?_set] at found
  split at found
  next same => exact Or.inl ⟨same, Option.some.inj found⟩
  next other => exact Or.inr ⟨other, found⟩

def KeyedBy (key : V → K) (d : Dict K V) : Prop := ∀ k v, d.get? k = some v → key v = k

theorem keyedBy_empty : (∅ : Dict K V).KeyedBy key := by
  intro k v found
  cases found

theorem KeyedBy.set (keyed : d.KeyedBy key) (named : key v = k) : (d.set k v).KeyedBy key := by
  intro k' v' found
  rw [get?_set] at found
  split at found
  next same =>
    cases found
    rw [named, same]
  next => exact keyed k' v' found

theorem get?_foldl_entries (es : List (K × V)) (d : Dict K V) (k : K) :
    (es.foldl (fun d e => d.set e.1 e.2) d).get? k = (lookup k es.reverse).or (d.get? k) := by
  induction es generalizing d with
  | nil => rfl
  | cons e es ih =>
    rw [foldl_cons, ih, get?_set, List.reverse_cons, lookup_append, Option.or_assoc]
    congr 1
    obtain ⟨j, x⟩ := e
    by_cases hj : k = j
    · simp [lookup, hj]
    · simp [lookup, hj, Ne.symm hj]

theorem get?_ofList (es : List (K × V)) (k : K) : (ofList es).get? k = lookup k es.reverse := by
  rw [ofList, get?_foldl_entries]
  exact Option.or_none

theorem get?_foldl_entries_dict (e d : Dict K V) (k : K) :
    (e.entries.foldl (fun d e => d.set e.1 e.2) d).get? k = (e.get? k).or (d.get? k) := by
  have nodup : ((e.entries.reverse).map fst).Nodup := by
    rw [List.map_reverse]
    exact List.nodup_reverse.mpr e.nodup
  have same : lookup k e.entries.reverse = e.get? k := by
    apply Option.ext
    intro v
    rw [lookup_eq_some_iff _ _ _ nodup, List.mem_reverse, get?_eq_some_iff]
  rw [get?_foldl_entries, same]

theorem get?_foldl_keyed (key : V → K) (vs : List V) (d : Dict K V) (k : K) :
    (vs.foldl (fun d v => d.set (key v) v) d).get? k =
      (vs.reverse.find? fun v => key v = k).or (d.get? k) := by
  induction vs generalizing d with
  | nil => rfl
  | cons v vs ih =>
    rw [foldl_cons, ih, get?_set, List.reverse_cons, List.find?_append, Option.or_assoc]
    congr 1
    by_cases same : key v = k
    · simp [same]
    · simp [same, Ne.symm same]

@[simp] theorem get?_filter (d : Dict K V) (p : K → V → Bool) (k : K) :
    (d.filter p).get? k = (d.get? k).filter (p k) := by
  apply Option.ext
  intro v
  simp only [get?_eq_some_iff, filter, List.mem_filter, Option.filter_eq_some_iff]

@[simp] theorem get?_erase (d : Dict K V) (k k' : K) :
    (d.erase k).get? k' = if k' = k then none else d.get? k' := by
  rw [erase, get?_filter]
  by_cases h : k' = k
  · cases hd : d.get? k' <;> simp [h, Option.filter]
  · cases hd : d.get? k' <;> simp [h, Option.filter]

@[simp] theorem get?_mapValues (d : Dict K V) (f : K → V → W) (k : K) :
    (d.mapValues f).get? k = (d.get? k).map (f k) := by
  obtain ⟨es, hes⟩ := d
  simp only [get?, mapValues]
  clear hes
  induction es with
  | nil => rfl
  | cons e es ih =>
    obtain ⟨j, x⟩ := e
    by_cases hj : j = k
    · simp [lookup, hj]
    · simp only [map_cons, lookup, hj, if_false, ih]

theorem KeyedBy.map_values (keyed : d.KeyedBy key) :
    d.values.map key = d.keys := by
  unfold values keys
  rw [map_map]
  apply map_congr_left
  intro entry mem
  exact keyed entry.1 entry.2 ((get?_eq_some_iff _ _ _).mpr mem)

theorem KeyedBy.nodup_values (keyed : d.KeyedBy key) : (d.values.map key).Nodup := by
  rw [keyed.map_values]
  exact d.nodup

theorem KeyedBy.filter (keyed : d.KeyedBy key) : (d.filter p).KeyedBy key := by
  intro k v found
  rw [get?_filter, Option.filter_eq_some_iff] at found
  exact keyed k v found.1

theorem KeyedBy.mapValues {key' : W → K} (keyed : d.KeyedBy key)
    {f : K → V → W} (kept : ∀ k v, key' (f k v) = key v) : (d.mapValues f).KeyedBy key' := by
  intro k w found
  rw [get?_mapValues, Option.map_eq_some_iff] at found
  obtain ⟨v, found, same⟩ := found
  rw [← same, kept]
  exact keyed k v found

omit [DecidableEq K] in
theorem ext_entries {e : Dict K V} (h : d.entries = e.entries) : d = e := by
  cases d
  cases e
  cases h
  rfl

theorem mapValues_congr {f g : K → V → W} (h : ∀ k v, d.get? k = some v → f k v = g k v) :
    d.mapValues f = d.mapValues g := by
  apply ext_entries
  apply map_congr_left
  intro e he
  rw [h e.1 e.2 ((d.get?_eq_some_iff e.1 e.2).mpr he)]

theorem entries_set_of_get? (h : d.get? k = some v) :
    (d.set k v').entries = d.entries.map (fun e => if e.1 = k then (k, v') else e) := by
  obtain ⟨es, nodup⟩ := d
  dsimp only [get?, set] at h ⊢
  induction es with
  | nil => cases h
  | cons e es ih =>
    obtain ⟨j, x⟩ := e
    rw [map_cons, nodup_cons] at nodup
    rw [lookup] at h
    split at h
    case isTrue same =>
      subst same
      have others : es.map (fun e => if e.1 = j then (j, v') else e) = es := by
        trans es.map id
        · apply map_congr_left
          rintro ⟨i, y⟩ mem
          have key : i ∈ es.map fst := List.mem_map_of_mem mem
          have other : i ≠ j := fun same => nodup.1 (same ▸ key)
          exact if_neg other
        · exact map_id es
      simp [insertEntry, others]
    case isFalse other => simp [insertEntry, other, ih nodup.2 h]

theorem set_of_get? (h : d.get? k = some v) : d.set k v = d := by
  apply ext_entries
  rw [entries_set_of_get? h]
  trans d.entries.map id
  · apply map_congr_left
    intro e mem
    by_cases same : e.1 = k
    · have there := (d.get?_eq_some_iff e.1 e.2).mpr mem
      rw [same, h, Option.some.injEq] at there
      rw [if_pos same, ← same, there, id]
    · rw [if_neg same, id]
  · exact map_id _

theorem mapValues_set (d : Dict K V) (k : K) (v : V) (f : K → V → W) :
    (d.set k v).mapValues f = (d.mapValues f).set k (f k v) := by
  apply ext_entries
  show (insertEntry k v d.entries).map (fun e => (e.1, f e.1 e.2)) =
    insertEntry k (f k v) (d.entries.map fun e => (e.1, f e.1 e.2))
  induction d.entries with
  | nil => rfl
  | cons e es ih =>
    obtain ⟨j, x⟩ := e
    by_cases here : j = k
    · simp [insertEntry, here]
    · simp [insertEntry, here, ih]

theorem insertEntry_of_not_mem (h : k ∉ es.map fst) :
    insertEntry k v es = es ++ [(k, v)] := by
  induction es with
  | nil => rfl
  | cons e es ih =>
    obtain ⟨j, x⟩ := e
    rw [map_cons, mem_cons, not_or] at h
    have other : j ≠ k := fun same => h.1 same.symm
    simp only [insertEntry, other, if_false, ih h.2, cons_append]

theorem filter_insertEntry_self (k : K) (v : V) (es : List (K × V)) :
    (insertEntry k v es).filter (·.1 ≠ k) = es.filter (·.1 ≠ k) := by
  induction es with
  | nil => simp [insertEntry]
  | cons e es ih =>
    obtain ⟨j, x⟩ := e
    by_cases here : j = k
    · simp [insertEntry, here]
    · simp only [insertEntry, here, if_false, filter_cons, ih]

theorem filter_insertEntry_other {j : K} (other : j ≠ k) (v : V) (es : List (K × V)) :
    (insertEntry j v es).filter (·.1 ≠ k) = insertEntry j v (es.filter (·.1 ≠ k)) := by
  induction es with
  | nil => simp [insertEntry, other]
  | cons e es ih =>
    obtain ⟨i, x⟩ := e
    by_cases here : i = j
    · simp [insertEntry, here, other]
    · by_cases first : i = k
      · simp only [insertEntry, here, if_false, filter_cons, ih]
        simp [first]
      · simp only [insertEntry, here, if_false, filter_cons, ih]
        simp [first, insertEntry, here]

theorem perm_of_lookup (nodup : (es.map fst).Nodup) (there : lookup k es = some v) :
    ((k, v) :: es.filter (·.1 ≠ k)).Perm es := by
  induction es with
  | nil => cases there
  | cons e es ih =>
    obtain ⟨j, x⟩ := e
    rw [map_cons, nodup_cons] at nodup
    by_cases here : j = k
    · subst here
      rw [lookup, if_pos rfl] at there
      cases there
      have rest : es.filter (·.1 ≠ j) = es := by
        rw [List.filter_eq_self]
        intro e mem
        have other : e.1 ≠ j := fun same =>
          nodup.1 (List.mem_map.mpr ⟨e, mem, same⟩)
        simpa using other
      rw [filter_cons, if_neg (by simp), rest]
    · rw [lookup, if_neg here] at there
      rw [filter_cons, if_pos (by simpa using here)]
      exact (List.Perm.swap _ _ _).trans ((ih nodup.2 there).cons _)

/-- The dictionary that has the value first under a key that the other may not have. -/
def Headed (k : K) (v : V) (d headed : Dict K V) : Prop :=
  headed.entries = (k, (d.get? k).getD v) :: d.entries.filter (·.1 ≠ k)

theorem headed_empty (k : K) (v : V) : Headed k v ∅ ((∅ : Dict K V).set k v) := rfl

theorem Headed.set (first : Headed k v d headed) (j : K) (x : V) :
    Headed k v (d.set j x) (headed.set j x) := by
  unfold Headed at first ⊢
  rw [get?_set]
  show insertEntry j x headed.entries = _ :: (insertEntry j x d.entries).filter _
  rw [first]
  by_cases here : j = k
  · subst here
    rw [filter_insertEntry_self]
    simp [insertEntry]
  · rw [filter_insertEntry_other here]
    simp [insertEntry, Ne.symm here]

theorem Headed.values_of_absent (first : Headed k v d headed) (absent : d.get? k = none) :
    headed.values = v :: d.values := by
  have all : d.entries.filter (·.1 ≠ k) = d.entries := by
    rw [List.filter_eq_self]
    intro e mem
    have other : e.1 ≠ k := fun same =>
      (d.get?_eq_none_iff k).mp absent (List.mem_map.mpr ⟨e, mem, same⟩)
    simpa using other
  unfold Headed at first
  unfold values
  rw [first, absent, all]
  rfl

theorem Headed.values_of_there {x : V} (first : Headed k v d headed) (there : d.get? k = some x) :
    headed.values.Perm d.values := by
  unfold Headed at first
  unfold values
  rw [first, there]
  exact (perm_of_lookup d.nodup there).map snd

omit [DecidableEq K] in
theorem filter_filter_of_imp {q : K → V → Bool} (imp : ∀ k v, q k v = true → p k v = true) :
    (d.filter p).filter q = d.filter q := by
  apply ext_entries
  show (d.entries.filter _).filter _ = d.entries.filter _
  rw [List.filter_filter]
  congr 1
  funext e
  cases kept : q e.1 e.2 with
  | false => rfl
  | true => rw [imp e.1 e.2 kept, Bool.and_self]

theorem filter_set_of_refused (absent : d.get? k = none) (refused : p k v = false) :
    (d.set k v).filter p = d.filter p := by
  apply ext_entries
  have written := insertEntry_of_not_mem (v := v) ((d.get?_eq_none_iff k).mp absent)
  simp [filter, set, written, refused]

theorem filter_replaced_of_refused
    (stored : d.get? k = some v) (refused : p k v = false) (refused' : p k v' = false) :
    (d.set k v').filter p = d.filter p := by
  apply ext_entries
  show (d.set k v').entries.filter _ = d.entries.filter _
  rw [entries_set_of_get? stored]
  have at_k {e : K × V} (mem : e ∈ d.entries) (same : e.1 = k) : e.2 = v := by
    have there := (d.get?_eq_some_iff e.1 e.2).mpr mem
    rw [same, stored] at there
    exact (Option.some.inj there).symm
  revert at_k
  induction d.entries with
  | nil => exact fun _ => rfl
  | cons e es ih =>
    intro at_k
    have rest := ih (fun mem => at_k (mem_cons_of_mem _ mem))
    rw [map_cons, filter_cons, filter_cons, rest]
    by_cases same : e.1 = k
    · have out : p e.1 e.2 = false := by
        rw [same, at_k mem_cons_self same]
        exact refused
      simp [same ▸ out, same, refused']
    · simp [same]

theorem filter_replaced_of_kept
    (stored : d.get? k = some v) (kept : p k v = true) (kept' : p k v' = true) :
    (d.set k v').filter p = (d.filter p).set k v' := by
  have filtered : (d.filter p).get? k = some v := by
    rw [get?_filter, stored, Option.filter_some_pos kept]
  apply ext_entries
  rw [entries_set_of_get? filtered]
  show (d.set k v').entries.filter _ = (d.entries.filter _).map _
  rw [entries_set_of_get? stored, List.filter_map]
  congr 1
  apply List.filter_congr
  intro e mem
  by_cases same : e.1 = k
  · have there := (d.get?_eq_some_iff e.1 e.2).mpr mem
    rw [same, stored] at there
    simp [same, kept', ← Option.some.inj there, kept]
  · simp [same]

theorem length_le_filter_values {p : V → Bool} {ks : List K} (nodup : ks.Nodup)
    (all : ∀ k ∈ ks, ∃ v, d.get? k = some v ∧ p v = true) :
    ks.length ≤ (d.values.filter p).length := by
  have sub : ks ⊆ (d.entries.filter fun e => p e.2).map fst := by
    intro k mem
    obtain ⟨v, there, picked⟩ := all k mem
    exact List.mem_map.mpr
      ⟨(k, v), List.mem_filter.mpr ⟨(d.get?_eq_some_iff k v).mp there, picked⟩, rfl⟩
  have short := (List.subperm_of_subset nodup sub).length_le
  rw [List.length_map] at short
  unfold values
  rw [List.filter_map, List.length_map]
  exact short

theorem filter_values_le_mapValues {p : V → Bool} {f : K → V → V}
    (keeps : ∀ k v, d.get? k = some v → p v = true → p (f k v) = true) :
    (d.values.filter p).length ≤ ((d.mapValues f).values.filter p).length := by
  rw [← List.countP_eq_length_filter, ← List.countP_eq_length_filter]
  unfold values mapValues
  rw [countP_map, countP_map, countP_map]
  apply List.countP_mono_left
  intro e mem picked
  exact keeps e.1 e.2 ((d.get?_eq_some_iff e.1 e.2).mpr mem) picked

theorem get?_of_updated {d' : Dict K V} {f : V → V} (stored : d.get? k = some v)
    (updated : d' = d.set k (f v) ∨ d' = d ∧ f v = v) (k' : K) :
    d'.get? k' = (d.get? k').map (fun v => if k' = k then f v else v) := by
  by_cases here : k' = k
  · cases updated with
    | inl written => simp [written, get?_set, here, stored]
    | inr kept => simp [kept.1, kept.2, here, stored]
  · cases updated with
    | inl written => simp [written, get?_set, here]
    | inr kept => simp [kept.1, here]

theorem get?_foldl_set (ks : List K) (v : V) (d : Dict K V) (k : K) :
    (ks.foldl (fun d k' => d.set k' v) d).get? k = if k ∈ ks then some v else d.get? k := by
  induction ks generalizing d with
  | nil => simp
  | cons j ks ih =>
    rw [foldl_cons, ih, get?_set]
    by_cases hk : k ∈ ks <;> by_cases hj : k = j <;> simp [hk, hj]

theorem get?_foldl_erase (ks : List K) (d : Dict K V) (k : K) :
    (ks.foldl Dict.erase d).get? k = if k ∈ ks then none else d.get? k := by
  induction ks generalizing d with
  | nil => simp
  | cons j ks ih =>
    rw [foldl_cons, ih, get?_erase]
    by_cases hk : k ∈ ks <;> by_cases hj : k = j <;> simp [hk, hj]

def fresh (d : Dict Nat V) : Nat := d.keys.foldr max 0 + 1

theorem le_foldr_max {k : Nat} {ks : List Nat} (h : k ∈ ks) : k ≤ ks.foldr max 0 := by
  induction ks with
  | nil => cases h
  | cons j ks ih =>
    rw [List.foldr_cons]
    cases List.mem_cons.mp h with
    | inl hj => exact hj ▸ Nat.le_max_left _ _
    | inr hm => exact Nat.le_trans (ih hm) (Nat.le_max_right _ _)

@[simp] theorem get?_fresh (d : Dict Nat V) : d.get? d.fresh = none := by
  rw [get?_eq_none_iff]
  intro h
  exact Nat.not_succ_le_self _ (le_foldr_max h)

end Dict

end Orcheo.Lib
