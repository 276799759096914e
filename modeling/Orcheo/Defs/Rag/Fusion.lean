import Mathlib.Algebra.Order.BigOperators.Group.List
import Mathlib.Algebra.Order.Field.Rat
import Mathlib.Data.List.Sort
import Mathlib.Tactic.Positivity
import Orcheo.Defs.Base
import Orcheo.Lib.Run

/-! Reciprocal rank fusion of the results of several retrievers, with exact scores. -/

namespace Orcheo.Rag

open Lib (Dict)

structure SearchResult where
  id : String
  score : ℚ
  text : String
  metadata : Dict String Json := ∅
  source : Option String := none
  sources : List String := []

/-- The entries of each retriever, as `run` has normalised them. -/
abbrev Retrieved := Dict String (List SearchResult)

abbrev Fusing := Dict String SearchResult

structure HybridFusionNode where
  rrfK : Nat := 60
  topK : Nat := 10

namespace HybridFusionNode

variable (node : HybridFusionNode)

/-- `setdefault`, and what is added to the record that is there. -/
def fuseEntry (source : String) (fused : Fusing) (ranked : SearchResult × Nat) : Fusing :=
  let (entry, rank) := ranked
  let fusedEntry := (fused.get? entry.id).getD
    { id := entry.id
      score := 0
      text := entry.text
      metadata := entry.metadata
      source := some "hybrid"
      sources := [source] }
  fused.set entry.id
    { fusedEntry with
      score := fusedEntry.score + 1 / (node.rrfK + rank)
      sources :=
        if source ∈ fusedEntry.sources then fusedEntry.sources
        else fusedEntry.sources ++ [source] }

def fuseList (fused : Fusing) (retriever : String × List SearchResult) : Fusing :=
  (retriever.2.zipIdx 1).foldl (node.fuseEntry retriever.1) fused

variable (results : Retrieved)

def reciprocalRankFusion : Fusing :=
  results.entries.foldl node.fuseList ∅

def ranked : List SearchResult :=
  (node.reciprocalRankFusion results).values.insertionSort (fun a b => b.score ≤ a.score)

/-- `run` with the strategy `rrf` -/
def run : Except String (List SearchResult) :=
  if results.entries = [] then .error "HybridFusionNode requires a mapping of retriever results"
  else .ok ((node.ranked results).take node.topK)

def weight (ranked : SearchResult × Nat) : ℚ := 1 / (node.rrfK + ranked.2)

/-- The reciprocal of the first rank of the id in the list. -/
def reciprocal (id : String) (entries : List SearchResult) : ℚ :=
  (((entries.zipIdx 1).find? (fun ranked => ranked.1.id = id)).map node.weight).getD 0

def rrfScore (id : String) : ℚ :=
  (results.entries.map (fun e => node.reciprocal id e.2)).sum

def Lists (source id : String) : Prop :=
  ∃ entries, results.get? source = some entries ∧ id ∈ entries.map SearchResult.id

structure Fused (results : Retrieved) (out : List SearchResult) : Prop where
  once : (out.map SearchResult.id).Nodup
  score : ∀ r ∈ out, r.score = node.rrfScore results r.id
  sources : ∀ r ∈ out, ∀ source, source ∈ r.sources ↔ Lists results source r.id
  dropped : ∀ source id, Lists results source id → id ∉ out.map SearchResult.id →
    out.length = node.topK ∧ ∀ r ∈ out, node.rrfScore results id ≤ r.score
  anyOrder : ∀ results' out', results'.entries.Perm results.entries → node.run results' = .ok out' →
    out'.map SearchResult.score = out.map SearchResult.score ∧
      ∀ r ∈ out, r.id ∉ out'.map SearchResult.id → ∀ r' ∈ out, r.score ≤ r'.score

section Score

variable {node} {source id : String} {fused : Fusing} {results : Retrieved}

def scoreOf (fused : Fusing) (id : String) : ℚ := ((fused.get? id).map SearchResult.score).getD 0

def sourcesOf (fused : Fusing) (id : String) : List String :=
  ((fused.get? id).map SearchResult.sources).getD []

/-- What all the ranks of the id give. -/
def credited (node : HybridFusionNode) (id : String) (l : List (SearchResult × Nat)) : ℚ :=
  ((l.filter (fun ranked => ranked.1.id = id)).map node.weight).sum

theorem fuseEntry_spec (ranked : SearchResult × Nat) :
    scoreOf (node.fuseEntry source fused ranked) id =
        scoreOf fused id + (if ranked.1.id = id then node.weight ranked else 0) ∧
      ∀ s, s ∈ sourcesOf (node.fuseEntry source fused ranked) id ↔
        s ∈ sourcesOf fused id ∨ (s = source ∧ ranked.1.id = id) := by
  simp only [scoreOf, sourcesOf, fuseEntry, Dict.get?_set, eq_comm (a := id), weight]
  split
  · rename_i here
    subst here
    cases fused.get? ranked.1.id with
    | none => simp
    | some r => grind
  · rename_i other
    simp [other]

theorem fuseList_spec (l : List (SearchResult × Nat)) :
    scoreOf (l.foldl (node.fuseEntry source) fused) id = scoreOf fused id + credited node id l ∧
      ∀ s, s ∈ sourcesOf (l.foldl (node.fuseEntry source) fused) id ↔
        s ∈ sourcesOf fused id ∨ (s = source ∧ ∃ ranked ∈ l, ranked.1.id = id) := by
  induction l generalizing fused with
  | nil => simp [credited]
  | cons p l ih =>
    obtain ⟨score, sources⟩ := @ih (node.fuseEntry source fused p)
    obtain ⟨score', sources'⟩ := @fuseEntry_spec node source id fused p
    rw [List.foldl_cons]
    refine ⟨?_, fun s => ?_⟩
    · rw [score, score', credited, credited, List.filter_cons]
      split <;> simp_all [add_assoc]
    · rw [sources, sources']
      grind

theorem fusion_spec (es : List (String × List SearchResult)) :
    scoreOf (es.foldl node.fuseList fused) id =
        scoreOf fused id + (es.map (fun e => credited node id (e.2.zipIdx 1))).sum ∧
      ∀ s, s ∈ sourcesOf (es.foldl node.fuseList fused) id ↔
        s ∈ sourcesOf fused id ∨ ∃ l, (s, l) ∈ es ∧ id ∈ l.map SearchResult.id := by
  induction es generalizing fused with
  | nil => simp
  | cons e es ih =>
    obtain ⟨score, sources⟩ := @ih (node.fuseList fused e)
    obtain ⟨score', sources'⟩ := @fuseList_spec node e.1 id fused (e.2.zipIdx 1)
    have listed : (∃ ranked ∈ e.2.zipIdx 1, ranked.1.id = id) ↔ id ∈ e.2.map SearchResult.id := by
      rw [← List.zipIdx_map_fst 1 e.2, List.map_map]
      simp
    rw [List.foldl_cons]
    refine ⟨?_, fun s => ?_⟩
    · rw [score, fuseList, score', List.map_cons, List.sum_cons, add_assoc]
    · rw [sources, fuseList, sources', listed]
      grind

/-- All ranks give what the first one does, and more if the id is listed again. -/
theorem credited_first (l : List SearchResult) :
    node.reciprocal id l ≤ credited node id (l.zipIdx 1) ∧
      (node.reciprocal id l = credited node id (l.zipIdx 1) ↔
        (l.map SearchResult.id).count id ≤ 1) := by
  have count : (l.map SearchResult.id).count id =
      ((l.zipIdx 1).filter (fun ranked => ranked.1.id = id)).length := by
    conv_lhs => rw [← List.zipIdx_map_fst 1 l]
    simp only [List.count_eq_countP, List.countP_map, ← List.countP_eq_length_filter]
    rfl
  have positive : ∀ ranked ∈ (l.zipIdx 1).filter (fun ranked => ranked.1.id = id),
      0 < node.weight ranked := by
    intro ranked mem
    have : 1 ≤ ranked.2 := List.le_snd_of_mem_zipIdx (List.mem_of_mem_filter mem)
    unfold weight
    positivity
  rw [count, reciprocal, credited, ← List.head?_filter]
  revert positive
  cases (l.zipIdx 1).filter (fun ranked => ranked.1.id = id) with
  | nil => simp
  | cons p ps =>
    intro positive
    cases ps with
    | nil => simp
    | cons q ps =>
      have later : 0 < ((q :: ps).map node.weight).sum := by
        refine List.sum_pos _ (fun x mem => ?_) (List.cons_ne_nil _ _)
        obtain ⟨r, there, rfl⟩ := List.mem_map.mp mem
        exact positive r (.tail p there)
      rw [List.head?_cons, List.map_cons, List.sum_cons, Option.map_some, Option.getD_some]
      refine ⟨le_add_of_nonneg_right later.le, ?_⟩
      rw [left_eq_add, List.length_cons, List.length_cons]
      exact iff_of_false later.ne' (by omega)

/-- A record is stored under its id, and names a retriever. -/
structure Formed (fused : Fusing) : Prop where
  keyed : fused.KeyedBy SearchResult.id
  named : ∀ id r, fused.get? id = some r → r.sources ≠ []

theorem Formed.fuseEntry (h : Formed fused) (ranked : SearchResult × Nat) :
    Formed (node.fuseEntry source fused ranked) := by
  constructor
  · refine h.keyed.set ?_
    cases there : fused.get? ranked.1.id with
    | none => rfl
    | some r => exact h.keyed _ r there
  · intro id r hr
    simp only [HybridFusionNode.fuseEntry, Dict.get?_set] at hr
    split at hr
    · cases hr
      dsimp only
      split
      · rename_i mem
        exact List.ne_nil_of_mem mem
      · simp
    · exact h.named id r hr

theorem formed_fusion (results : Retrieved) : Formed (node.reciprocalRankFusion results) :=
  Lib.foldl_invariant (fun _ _ h => Lib.foldl_invariant (fun _ r h => h.fuseEntry r) h _)
    ⟨Dict.keyedBy_empty, nofun⟩ _

def allRanks (node : HybridFusionNode) (results : Retrieved) (id : String) : ℚ :=
  (results.entries.map (fun e => credited node id (e.2.zipIdx 1))).sum

theorem mem_sourcesOf_fusion (node : HybridFusionNode) {source : String} :
    source ∈ sourcesOf (node.reciprocalRankFusion results) id ↔ Lists results source id := by
  refine ((fusion_spec results.entries).2 source).trans ?_
  simp [sourcesOf, Lists, Dict.get?_eq_some_iff]

theorem record_spec {r : SearchResult} (mem : r ∈ (node.reciprocalRankFusion results).values) :
    r.score = allRanks node results r.id ∧
      ∀ source, source ∈ r.sources ↔ Lists results source r.id := by
  obtain ⟨k, there⟩ := (Dict.mem_values_iff _ r).mp mem
  obtain rfl := (formed_fusion results).keyed k r there
  have score : scoreOf (node.reciprocalRankFusion results) r.id = allRanks node results r.id :=
    (fusion_spec results.entries).1.trans (zero_add _)
  refine ⟨by simpa [scoreOf, there] using score, fun source => ?_⟩
  rw [← mem_sourcesOf_fusion node, sourcesOf, there]
  rfl

theorem mem_fusion_iff : id ∈ (node.reciprocalRankFusion results).keys ↔
    ∃ source, Lists results source id := by
  simp only [← mem_sourcesOf_fusion node, Dict.mem_keys_iff, sourcesOf]
  constructor
  · rintro ⟨r, there⟩
    rw [there]
    exact List.exists_mem_of_ne_nil _ ((formed_fusion results).named id r there)
  · rintro ⟨s, hs⟩
    cases there : (node.reciprocalRankFusion results).get? id with
    | none => simp [there] at hs
    | some r => exact ⟨r, rfl⟩

def Distinct (results : Retrieved) : Prop :=
  ∀ source entries, results.get? source = some entries → (entries.map SearchResult.id).Nodup

theorem score_iff (node : HybridFusionNode) : (∀ source id, Lists results source id →
    allRanks node results id = node.rrfScore results id) ↔ Distinct results := by
  constructor
  · intro same source l stored
    refine List.nodup_iff_count_le_one.mpr (fun id => ?_)
    by_contra twice
    have mem := (Dict.get?_eq_some_iff _ _ _).mp stored
    have listed : id ∈ l.map SearchResult.id := List.count_pos_iff.mp (by omega)
    refine absurd (same source id ⟨l, stored, listed⟩) (ne_of_gt ?_)
    refine List.sum_lt_sum _ _ (fun e _ => (credited_first e.2).1) ⟨_, mem, ?_⟩
    exact lt_of_le_of_ne (credited_first l).1 (fun h => twice ((credited_first l).2.mp h))
  · intro distinct source id _
    refine congrArg List.sum (List.map_congr_left (fun e mem => ?_))
    have nodup := distinct e.1 e.2 ((Dict.get?_eq_some_iff _ _ _).mpr mem)
    exact ((credited_first e.2).2.mpr (List.nodup_iff_count_le_one.mp nodup id)).symm

end Score

section Run

variable {node} {results results' : Retrieved} {out out' : List SearchResult}

theorem lists_perm (perm : results'.entries.Perm results.entries) (source id : String) :
    Lists results' source id ↔ Lists results source id := by
  simp only [Lists, Dict.get?_eq_some_iff, perm.mem_iff]

theorem Distinct.perm (distinct : Distinct results) (perm : results'.entries.Perm results.entries) :
    Distinct results' := by
  intro source l stored
  rw [Dict.get?_eq_some_iff, perm.mem_iff, ← Dict.get?_eq_some_iff] at stored
  exact distinct source l stored

theorem run_ok_iff : node.run results = .ok out ↔
    results.entries ≠ [] ∧ (node.ranked results).take node.topK = out := by
  unfold run
  split <;> simp [*]

theorem ranked_perm : (node.ranked results).Perm (node.reciprocalRankFusion results).values :=
  List.perm_insertionSort _ _

theorem ids_ranked : ((node.ranked results).map SearchResult.id).Perm
    (node.reciprocalRankFusion results).keys := by
  rw [← (formed_fusion results).keyed.map_values]
  exact ranked_perm.map _

theorem ranked_of_lists (node : HybridFusionNode) {source id : String} (listed : Lists results source id) :
    ∃ r ∈ node.ranked results, r.id = id :=
  List.mem_map.mp (ids_ranked.mem_iff.mpr (mem_fusion_iff.mpr ⟨source, listed⟩))

theorem lists_of_ranked {r : SearchResult} (mem : r ∈ node.ranked results) :
    ∃ source, Lists results source r.id :=
  mem_fusion_iff.mp (ids_ranked.mem_iff.mp (List.mem_map_of_mem mem))

section

variable (distinct : Distinct results)
include distinct

theorem score_of_ranked {r : SearchResult}
    (mem : r ∈ node.ranked results) : r.score = node.rrfScore results r.id := by
  obtain ⟨score, -⟩ := record_spec (ranked_perm.mem_iff.mp mem)
  obtain ⟨source, listed⟩ := lists_of_ranked mem
  exact score.trans ((score_iff node).mpr distinct source r.id listed)

theorem scores_perm (perm : results'.entries.Perm results.entries) :
    (node.ranked results').map SearchResult.score =
      (node.ranked results).map SearchResult.score := by
  have scores {results : Retrieved} (distinct : Distinct results) :
      (node.ranked results).map SearchResult.score =
        ((node.ranked results).map SearchResult.id).map (node.rrfScore results) := by
    rw [List.map_map]
    exact List.map_congr_left (fun r mem => score_of_ranked distinct mem)
  have keys : (node.reciprocalRankFusion results').keys.Perm
      (node.reciprocalRankFusion results).keys := by
    refine (List.perm_ext_iff_of_nodup (Dict.nodup _) (Dict.nodup _)).mpr (fun id => ?_)
    exact mem_fusion_iff.trans
      ((exists_congr (fun source => lists_perm perm source id)).trans mem_fusion_iff.symm)
  have same : node.rrfScore results' = node.rrfScore results :=
    funext (fun id => (perm.map _).sum_eq)
  have sorted (results : Retrieved) :
      ((node.ranked results).map SearchResult.score).Pairwise (· ≥ ·) :=
    List.pairwise_map.mpr (List.pairwise_insertionSort _ _)
  refine List.Perm.eq_of_pairwise' (sorted results') (sorted results) ?_
  rw [scores (distinct.perm perm), scores distinct, same]
  exact ((ids_ranked.trans keys).trans ids_ranked.symm).map _

theorem dropped_of_lists {source id : String} (listed : Lists results source id)
    (absent : id ∉ ((node.ranked results).take node.topK).map SearchResult.id) :
    ((node.ranked results).take node.topK).length = node.topK ∧
      ∀ r ∈ (node.ranked results).take node.topK, node.rrfScore results id ≤ r.score := by
  obtain ⟨r₀, mem, rfl⟩ := ranked_of_lists node listed
  have split := List.take_append_drop node.topK (node.ranked results)
  have later : r₀ ∈ (node.ranked results).drop node.topK :=
    (List.mem_append.mp (split.symm ▸ mem)).resolve_left
      (fun kept => absent (List.mem_map_of_mem kept))
  refine ⟨?_, fun r kept => ?_⟩
  · have := List.length_pos_of_mem later
    rw [List.length_drop] at this
    rw [List.length_take]
    omega
  · rw [← score_of_ranked distinct mem]
    have sorted : (node.ranked results).Pairwise (fun a b => b.score ≤ a.score) :=
      List.pairwise_insertionSort _ _
    rw [← split] at sorted
    exact (List.pairwise_append.mp sorted).2.2 r kept r₀ later

theorem fused_of_distinct (ran : node.run results = .ok out) :
    node.Fused results out := by
  obtain ⟨-, rfl⟩ := run_ok_iff.mp ran
  have kept {r : SearchResult} (mem : r ∈ (node.ranked results).take node.topK) :
      r ∈ node.ranked results := List.mem_of_mem_take mem
  refine ⟨?_, fun r mem => score_of_ranked distinct (kept mem),
    fun r mem => (record_spec (ranked_perm.mem_iff.mp (kept mem))).2,
    fun source id => dropped_of_lists distinct, fun results' out' perm ran' => ?_⟩
  · exact (ids_ranked.nodup_iff.mpr (Dict.nodup _)).sublist ((List.take_sublist _ _).map _)
  · obtain ⟨-, rfl⟩ := run_ok_iff.mp ran'
    have scores : ((node.ranked results').take node.topK).map SearchResult.score =
        ((node.ranked results).take node.topK).map SearchResult.score := by
      rw [List.map_take, List.map_take, scores_perm distinct perm]
    refine ⟨scores, fun r mem absent r' mem' => ?_⟩
    obtain ⟨source, listed⟩ := lists_of_ranked (kept mem)
    have low := (dropped_of_lists (distinct.perm perm) ((lists_perm perm source r.id).mpr listed)
      absent).2
    obtain ⟨r'', mem'', same⟩ := List.mem_map.mp (scores ▸ List.mem_map_of_mem mem')
    have sum : node.rrfScore results' r.id = node.rrfScore results r.id := (perm.map _).sum_eq
    rw [← same, score_of_ranked distinct (kept mem), ← sum]
    exact low r'' mem''

end

/-- What is returned is the fusion by the first ranks, whatever number is asked for, exactly when
no retriever lists an id twice. -/
theorem fused_iff (rrfK : Nat) (results : Retrieved) :
    (∀ topK ≥ 1, ∀ out, run ⟨rrfK, topK⟩ results = .ok out → Fused ⟨rrfK, topK⟩ results out) ↔
      Distinct results := by
  refine ⟨fun fused => ?_, fun distinct topK _ out => fused_of_distinct distinct⟩
  by_cases empty : results.entries = []
  · intro source l stored
    rw [Dict.get?_eq_some_iff, empty] at stored
    cases stored
  · -- So many are asked for that none is dropped.
    let node : HybridFusionNode := ⟨rrfK, (ranked ⟨rrfK, 0⟩ results).length + 1⟩
    have all : (node.ranked results).take node.topK = node.ranked results :=
      List.take_of_length_le (Nat.le_succ _)
    have whole := fused node.topK (Nat.le_add_left 1 _) _ (run_ok_iff.mpr ⟨empty, all⟩)
    refine (score_iff node).mp (fun source id listed => ?_)
    obtain ⟨r, mem, rfl⟩ := ranked_of_lists node listed
    exact (record_spec (ranked_perm.mem_iff.mp mem)).1.symm.trans (whole.score r mem)

theorem repeated_id_overscored : ¬ ∀ out, run {} (.ofList [("vector",
      [{ id := "a", score := 1, text := "x" }, { id := "a", score := 1, text := "y" }])]) = .ok out →
    Fused {} (.ofList [("vector",
      [{ id := "a", score := 1, text := "x" }, { id := "a", score := 1, text := "y" }])]) out := by
  intro fused
  have score := (fused _ rfl).score _ (List.mem_singleton_self _)
  exact absurd score (by decide +kernel)

end Run

end HybridFusionNode

end Orcheo.Rag
