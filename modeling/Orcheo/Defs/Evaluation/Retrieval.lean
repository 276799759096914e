import Mathlib.Algebra.Order.BigOperators.Group.List
import Mathlib.Algebra.Order.Field.Rat
import Mathlib.Data.Finset.Card
import Mathlib.Tactic.Linarith
import Mathlib.Tactic.Positivity
import Orcheo.Defs.Base

/-! Retrieval metrics of ranked results against the relevant ids, with exact scores. -/

namespace Orcheo.Evaluation

structure Scores where
  recallAtK : ℚ
  mrr : ℚ
  ndcg : ℚ
  map : ℚ

namespace RetrievalEvaluationNode

/-- `isinstance(item, dict) and isinstance(item.get("id"), str)` -/
def itemId? : Json → Option String
  | .obj item => match Json.field? item "id" with
    | some (.str id) => some id
    | _ => none
  | _ => none

def rankedIds (k : Nat) (results : List Json) : List String := (results.take k).filterMap itemId?

section Metrics

variable (discount : Nat → ℚ) (rankedIds : List String) (relevantIds : Finset String)

def hits : Nat := rankedIds.countP (· ∈ relevantIds)

def recallAtK : ℚ :=
  if relevantIds = ∅ then 0 else hits rankedIds relevantIds / relevantIds.card

def mrr : ℚ :=
  match rankedIds.findIdx? (· ∈ relevantIds) with
  | some index => 1 / (index + 1)
  | none => 0

def dcg : ℚ :=
  rankedIds.zipIdx.foldl
    (fun dcg item => if item.1 ∈ relevantIds then dcg + discount item.2 else dcg) 0

def idcg (idealHits : Nat) : ℚ := ((List.range idealHits).map discount).sum

/-- The discount of an index is `1.0 / math.log2(index + 2)`. -/
def ndcg : ℚ :=
  if relevantIds = ∅ then 0
  else
    let idcg := idcg discount (min relevantIds.card rankedIds.length)
    if idcg = 0 then 0 else dcg discount rankedIds relevantIds / idcg

def precisionSum : Nat × ℚ :=
  (rankedIds.zipIdx 1).foldl
    (fun sum item =>
      if item.1 ∈ relevantIds then (sum.1 + 1, sum.2 + ((sum.1 + 1 : Nat) : ℚ) / item.2) else sum)
    (0, 0)

def averagePrecision : ℚ :=
  if relevantIds = ∅ then 0
  else
    let (hits, precisionSum) := precisionSum rankedIds relevantIds
    if hits = 0 then 0 else precisionSum / relevantIds.card

end Metrics

def scores (discount : Nat → ℚ) (k : Nat) (relevantIds : List String) (returned : List Json) :
    Scores :=
  let relevantIds := relevantIds.toFinset
  let rankedIds := rankedIds k returned
  { recallAtK := recallAtK rankedIds relevantIds
    mrr := mrr rankedIds relevantIds
    ndcg := ndcg discount rankedIds relevantIds
    map := averagePrecision rankedIds relevantIds }

variable {discount : Nat → ℚ} {ranked : List String} {relevant : Finset String}

theorem hits_snoc (id : String) :
    hits (ranked ++ [id]) relevant = hits ranked relevant + if id ∈ relevant then 1 else 0 := by
  simp [hits, List.countP_append, List.countP_singleton]

theorem hits_le_length : hits ranked relevant ≤ ranked.length := List.countP_le_length

theorem le_hits {m : Nat} (long : m ≤ ranked.length)
    (leading : ∀ id ∈ ranked.take m, id ∈ relevant) : m ≤ hits ranked relevant := by
  have all : (ranked.take m).countP (· ∈ relevant) = (ranked.take m).length :=
    List.countP_eq_length.mpr (by simpa using leading)
  rw [List.length_take_of_le long] at all
  exact all.symm.trans_le (List.take_sublist m ranked).countP_le

theorem dcg_snoc (id : String) :
    dcg discount (ranked ++ [id]) relevant =
      dcg discount ranked relevant + if id ∈ relevant then discount ranked.length else 0 := by
  rw [dcg, dcg, List.zipIdx_append, List.foldl_append]
  simp only [List.zipIdx_singleton, List.foldl_cons, List.foldl_nil, Nat.zero_add]
  split <;> simp

theorem idcg_succ (n : Nat) : idcg discount (n + 1) = idcg discount n + discount n := by
  simp [idcg, List.range_succ]

theorem dcg_le (decreasing : StrictAnti discount) :
    dcg discount ranked relevant ≤ idcg discount (hits ranked relevant) := by
  induction ranked using List.reverseRecOn with
  | nil => exact le_rfl
  | append_singleton ranked id ih =>
    rw [dcg_snoc, hits_snoc]
    split
    next =>
      rw [idcg_succ]
      exact add_le_add ih (decreasing.antitone hits_le_length)
    next => simpa using ih

/-- The gain is that of an ideal list where the hits come first. -/
theorem dcg_eq_iff (decreasing : StrictAnti discount) :
    dcg discount ranked relevant = idcg discount (hits ranked relevant) ↔
      ∀ id ∈ ranked.take (hits ranked relevant), id ∈ relevant := by
  induction ranked using List.reverseRecOn with
  | nil => exact iff_of_true rfl (by simp)
  | append_singleton ranked last ih =>
    have short : hits ranked relevant ≤ ranked.length := hits_le_length
    rw [dcg_snoc, hits_snoc]
    by_cases here : last ∈ relevant
    · rw [if_pos here, if_pos here, idcg_succ]
      constructor
      · intro ideal
        have same : discount ranked.length = discount (hits ranked relevant) := by
          have below : dcg discount ranked relevant ≤ _ := dcg_le decreasing
          linarith [decreasing.antitone short]
        have all := List.countP_eq_length.mp (decreasing.injective same).symm
        intro id there
        obtain there | there := List.mem_append.mp (List.mem_of_mem_take there)
        · exact of_decide_eq_true (all id there)
        · rwa [List.mem_singleton.mp there]
      · intro leading
        have whole : hits ranked relevant = ranked.length := by
          by_contra other
          have within : hits ranked relevant + 1 ≤ ranked.length := by omega
          rw [List.take_append_of_le_length within] at leading
          exact absurd (le_hits within leading) (Nat.not_succ_le_self _)
        rw [whole, List.take_of_length_le (by simp)] at leading
        rw [ih.mpr (fun id there => leading id ?_), whole]
        exact List.mem_append_left _ (List.mem_of_mem_take there)
    · rw [if_neg here, if_neg here, add_zero, Nat.add_zero, List.take_append_of_le_length short]
      exact ih

theorem precisionSum_snoc (id : String) :
    precisionSum (ranked ++ [id]) relevant =
      if id ∈ relevant then
        ((precisionSum ranked relevant).1 + 1, (precisionSum ranked relevant).2 +
          (((precisionSum ranked relevant).1 + 1 : Nat) : ℚ) / ((ranked.length + 1 : Nat) : ℚ))
      else precisionSum ranked relevant := by
  rw [precisionSum, List.zipIdx_append, List.foldl_append]
  simp only [List.zipIdx_singleton, List.foldl_cons, List.foldl_nil, Nat.add_comm 1]
  rfl

theorem precisionSum_hits : (precisionSum ranked relevant).1 = hits ranked relevant := by
  induction ranked using List.reverseRecOn with
  | nil => rfl
  | append_singleton ranked id ih =>
    rw [precisionSum_snoc, hits_snoc, ← ih]
    split <;> rfl

theorem precisionSum_le : (precisionSum ranked relevant).2 ≤ hits ranked relevant := by
  induction ranked using List.reverseRecOn with
  | nil => exact le_rfl
  | append_singleton ranked id ih =>
    rw [precisionSum_snoc, hits_snoc, precisionSum_hits]
    split
    next =>
      push_cast
      refine add_le_add ih ((div_le_one (by positivity)).mpr ?_)
      exact_mod_cast Nat.add_le_add_right hits_le_length 1
    next => simpa using ih

theorem recallAtK_eq : recallAtK ranked relevant = (hits ranked relevant : ℚ) / relevant.card := by
  unfold recallAtK
  split <;> simp [*]

theorem mrr_bounds : 0 ≤ mrr ranked relevant ∧ mrr ranked relevant ≤ 1 := by
  unfold mrr
  split
  next index _ =>
    exact ⟨by positivity, (div_le_one (by positivity)).mpr (le_add_of_nonneg_left (by positivity))⟩
  next => exact ⟨le_rfl, zero_le_one⟩

theorem ndcg_eq : ndcg discount ranked relevant =
    dcg discount ranked relevant / idcg discount (min relevant.card ranked.length) := by
  unfold ndcg
  split
  next none => simp [none, idcg]
  next =>
    dsimp only
    split
    next zero => rw [zero, div_zero]
    next => rfl

section Longer

variable (ranked others : List String)

theorem precisionSum_mono :
    (precisionSum ranked relevant).2 ≤ (precisionSum (ranked ++ others) relevant).2 := by
  induction others using List.reverseRecOn with
  | nil => rw [List.append_nil]
  | append_singleton others id ih =>
    rw [← List.append_assoc, precisionSum_snoc]
    split
    next => exact ih.trans (le_add_of_nonneg_right (by positivity))
    next => exact ih

theorem averagePrecision_eq :
    averagePrecision ranked relevant = (precisionSum ranked relevant).2 / relevant.card := by
  unfold averagePrecision
  split
  next none => simp [none]
  next =>
    dsimp only
    split
    next missed =>
      have above : (precisionSum ranked relevant).2 ≤ _ := precisionSum_le
      rw [← precisionSum_hits, missed, Nat.cast_zero] at above
      rw [le_antisymm above (precisionSum_mono [] ranked), zero_div]
    next => rfl

theorem recallAtK_mono : recallAtK ranked relevant ≤ recallAtK (ranked ++ others) relevant := by
  rw [recallAtK_eq, recallAtK_eq]
  refine div_le_div_of_nonneg_right ?_ (Nat.cast_nonneg _)
  exact_mod_cast (List.sublist_append_left ranked others).countP_le

theorem mrr_mono : mrr ranked relevant ≤ mrr (ranked ++ others) relevant := by
  cases found : ranked.findIdx? (· ∈ relevant) with
  | some index => simp [mrr, List.findIdx?_append, found]
  | none => simpa only [mrr, found] using mrr_bounds.1

theorem averagePrecision_mono :
    averagePrecision ranked relevant ≤ averagePrecision (ranked ++ others) relevant := by
  rw [averagePrecision_eq, averagePrecision_eq]
  exact div_le_div_of_nonneg_right (precisionSum_mono ranked others) (Nat.cast_nonneg _)

end Longer

def Unrepeated (ranked : List String) (relevant : Finset String) : Prop :=
  ∀ id ∈ relevant, ranked.count id ≤ 1

theorem Unrepeated.hits_eq (once : Unrepeated ranked relevant) :
    hits ranked relevant = (relevant.filter (· ∈ ranked)).card := by
  have nodup : (ranked.filter (· ∈ relevant)).Nodup := by
    rw [List.nodup_iff_count_le_one]
    intro id
    by_cases here : id ∈ relevant
    · exact (List.filter_sublist.count_le id).trans (once id here)
    · rw [List.count_eq_zero_of_not_mem (by simp [here])]
      exact Nat.zero_le 1
  rw [hits, List.countP_eq_length_filter, ← List.toFinset_card_of_nodup nodup]
  congr 1
  ext id
  simp [and_comm]

theorem Unrepeated.hits_le (once : Unrepeated ranked relevant) :
    hits ranked relevant ≤ min relevant.card ranked.length :=
  le_min (once.hits_eq.trans_le (Finset.card_filter_le _ _)) hits_le_length

section Discounted

variable (positive : ∀ i, 0 < discount i)
include positive

theorem idcg_strictMono : StrictMono (idcg discount) :=
  strictMono_nat_of_lt_succ fun n => by
    rw [idcg_succ]
    exact lt_add_of_pos_right _ (positive n)

theorem idcg_nonneg (n : Nat) : 0 ≤ idcg discount n :=
  (idcg_strictMono positive).monotone (Nat.zero_le n)

theorem dcg_mono (others : List String) :
    dcg discount ranked relevant ≤ dcg discount (ranked ++ others) relevant := by
  induction others using List.reverseRecOn with
  | nil => rw [List.append_nil]
  | append_singleton others id ih =>
    rw [← List.append_assoc, dcg_snoc]
    split
    next => exact ih.trans (le_add_of_nonneg_right (positive _).le)
    next => rwa [add_zero]

theorem ndcg_nonneg : 0 ≤ ndcg discount ranked relevant := by
  have gained : dcg discount [] relevant ≤ dcg discount ranked relevant := dcg_mono positive ranked
  rw [ndcg_eq]
  exact div_nonneg gained (idcg_nonneg positive _)

theorem ndcg_mono (others : List String) (enough : relevant.card ≤ ranked.length) :
    ndcg discount ranked relevant ≤ ndcg discount (ranked ++ others) relevant := by
  have longer := enough.trans (List.sublist_append_left ranked others).length_le
  rw [ndcg_eq, ndcg_eq, min_eq_left enough, min_eq_left longer]
  exact div_le_div_of_nonneg_right (dcg_mono positive others) (idcg_nonneg positive _)

variable (decreasing : StrictAnti discount) (once : Unrepeated ranked relevant)
include decreasing once

theorem ndcg_le : ndcg discount ranked relevant ≤ 1 := by
  rw [ndcg_eq]
  have grows := (idcg_strictMono positive).monotone
  exact div_le_one_of_le₀ ((dcg_le decreasing).trans (grows once.hits_le)) (idcg_nonneg positive _)

theorem ndcg_eq_one_iff : ndcg discount ranked relevant = 1 ↔
    0 < min relevant.card ranked.length ∧
      ∀ id ∈ ranked.take (min relevant.card ranked.length), id ∈ relevant := by
  have grows := idcg_strictMono positive
  rw [ndcg_eq]
  cases Nat.eq_zero_or_pos (min relevant.card ranked.length) with
  | inl zero => simp [zero, idcg]
  | inr some =>
    rw [div_eq_one_iff_eq (grows some).ne', and_iff_right some]
    constructor
    · intro ideal
      have most := grows.le_iff_le.mp (ideal.symm.trans_le (dcg_le decreasing))
      rw [← le_antisymm once.hits_le most] at ideal ⊢
      exact (dcg_eq_iff decreasing).mp ideal
    · intro leading
      have most := le_hits (min_le_right _ _) leading
      rw [← le_antisymm once.hits_le most] at leading ⊢
      exact (dcg_eq_iff decreasing).mpr leading

end Discounted

/-- What the scores of one query promise: their bounds, and what a perfect score means. -/
structure Sound (ranked : List String) (relevant : Finset String) (s : Scores) : Prop where
  nonneg : 0 ≤ s.recallAtK ∧ (0 ≤ s.mrr ∧ s.mrr ≤ 1) ∧ 0 ≤ s.ndcg ∧ 0 ≤ s.map
  bounded : Unrepeated ranked relevant → s.recallAtK ≤ 1 ∧ s.ndcg ≤ 1 ∧ s.map ≤ 1
  counts : Unrepeated ranked relevant →
    s.recallAtK = ((relevant.filter (· ∈ ranked)).card : ℚ) / relevant.card
  perfect : Unrepeated ranked relevant → (s.ndcg = 1 ↔ 0 < min relevant.card ranked.length ∧
    ∀ id ∈ ranked.take (min relevant.card ranked.length), id ∈ relevant)

theorem rankedIds_take (k n : Nat) (returned : List Json) :
    ∃ others, rankedIds k returned = rankedIds k (returned.take n) ++ others := by
  refine ⟨((returned.take k).drop n).filterMap itemId?, ?_⟩
  rw [rankedIds, rankedIds, List.take_take, Nat.min_comm, ← List.take_take, ← List.filterMap_append,
    List.take_append_drop]

theorem scores_sound (positive : ∀ i, 0 < discount i) (decreasing : StrictAnti discount) (k : Nat)
    (relevantIds : List String) (returned : List Json) :
    let s := scores discount k relevantIds returned
    Sound (rankedIds k returned) relevantIds.toFinset s ∧
      ∀ n, let t := scores discount k relevantIds (returned.take n)
        t.recallAtK ≤ s.recallAtK ∧ t.mrr ≤ s.mrr ∧ t.map ≤ s.map ∧
        (relevantIds.toFinset.card ≤ (rankedIds k (returned.take n)).length → t.ndcg ≤ s.ndcg) := by
  refine ⟨⟨?_, fun once => ?_, fun once => ?_, ndcg_eq_one_iff positive decreasing⟩, fun n => ?_⟩
  · simp only [scores, recallAtK_eq, averagePrecision_eq]
    exact ⟨by positivity, mrr_bounds, ndcg_nonneg positive,
      div_nonneg (precisionSum_mono [] _) (Nat.cast_nonneg _)⟩
  · have few : (hits (rankedIds k returned) relevantIds.toFinset : ℚ) ≤
        relevantIds.toFinset.card := by
      exact_mod_cast once.hits_le.trans (min_le_left _ _)
    simp only [scores, recallAtK_eq, averagePrecision_eq]
    exact ⟨div_le_one_of_le₀ few (Nat.cast_nonneg _), ndcg_le positive decreasing once,
      div_le_one_of_le₀ (precisionSum_le.trans few) (Nat.cast_nonneg _)⟩
  · rw [scores, recallAtK_eq, once.hits_eq]
  · obtain ⟨others, longer⟩ := rankedIds_take k n returned
    simp only [scores, longer]
    exact ⟨recallAtK_mono _ others, mrr_mono _ others, averagePrecision_mono _ others,
      ndcg_mono positive others⟩

def reciprocal (index : Nat) : ℚ := 1 / (index + 1)

theorem scores_sound_reciprocal : Sound (rankedIds 2 [.obj [("id", .str "a")], .null]) {"a"}
    (scores reciprocal 2 ["a"] [.obj [("id", .str "a")], .null]) := by
  refine (scores_sound (fun i => ?_) (strictAnti_nat_of_succ_lt fun i => ?_) 2 ["a"] _).1
  · unfold reciprocal
    positivity
  · exact one_div_lt_one_div_of_lt (by positivity) (by push_cast; linarith)

/-- A relevant id that is ranked twice is counted twice; the ideal ranking is as short as the
results; and so a truncated list may score better. -/
theorem metrics_not_sound :
    (¬ ∀ k relevantIds returned, 0 < k → (scores reciprocal k relevantIds returned).recallAtK ≤ 1) ∧
    (¬ ∀ k relevantIds returned, 0 < k → ((scores reciprocal k relevantIds returned).ndcg = 1 ↔
      ∀ i < min k relevantIds.toFinset.card, ∃ id ∈ (returned[i]?).bind itemId?,
        id ∈ relevantIds.toFinset)) ∧
    ¬ ∀ k relevantIds returned n, 0 < k → (scores reciprocal k relevantIds (returned.take n)).ndcg ≤
      (scores reciprocal k relevantIds returned).ndcg := by
  refine ⟨fun sound => ?_, fun sound => ?_, fun sound => ?_⟩
  · exact absurd (sound 2 ["a"] [.obj [("id", .str "a")], .obj [("id", .str "a")]] (by decide))
      (by decide +kernel)
  · obtain ⟨id, there, -⟩ := (sound 2 ["a", "b"] [.obj [("id", .str "a")]] (by decide)).mp
      (by decide +kernel) 1 (by decide)
    cases there
  · exact absurd (sound 2 ["a", "b"] [.obj [("id", .str "a")], .obj [("id", .str "x")]] 1
      (by decide)) (by decide +kernel)

end RetrievalEvaluationNode

end Orcheo.Evaluation
