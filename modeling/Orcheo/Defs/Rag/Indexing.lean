import Mathlib.Data.List.Find
import Orcheo.Defs.Rag.Chunking

/-! The incremental indexing node: chunks in batches, skipped where the store has their hash, and
what a second run finds. -/

namespace Orcheo.Rag

open Lib (Dict)
open DocumentChunk (content)

abbrev Embedding := List (BitVec 64)

structure VectorRecord where
  id : String
  values : Embedding
  text : Text
  metadata : Dict String Json

/-- What an adapter has stored, and whether it is its dictionary `records`. -/
structure VectorStore where
  records : Dict String VectorRecord
  exposed : Bool := true

inductive IndexingError
  | int (e : Json.IntError)
  /-- a `ValueError` -/
  | value (message : String)
  /-- a `RuntimeError` -/
  | runtime (message : String)
  /-- what the embedding model raises -/
  | embedding

/-- What is not decided by the node: the answers of the embedding model, and the attempts of
upserts that raise, each after so many records are written. -/
structure Backend where
  embed : Nat → List Text → Except IndexingError (List Embedding)
  fails : Nat → Nat → Option Nat

structure IncrementalIndexerNode where
  batchSize : Setting := .int 32
  maxRetries : Setting := .int 2
  skipUnchanged : Bool := true

structure IndexResult where
  skipped : Nat := 0
  upsertedIds : List String := []

def IndexResult.indexedCount (r : IndexResult) : Nat := r.upsertedIds.length

/-- The functions of the language and of its libraries: integers read from texts, templates
resolved, and `_hash_text`. -/
structure IndexRuntime where
  parse : String → Option Int
  resolve : String → Json
  hashText : Text → String

def VectorStore.upsert (store : VectorStore) (records : List VectorRecord) : VectorStore :=
  { store with records := records.foldl (fun d r => d.set r.id r) store.records }

/-- The attempts that are left of `_upsert_with_retry` -/
def upsertAttempts (maxRetries : Int) (fails : Nat → Option Nat) (records : List VectorRecord) :
    Nat → Nat → VectorStore → Except IndexingError VectorStore
  | 0, _, store => return store
  | left + 1, attempt, store =>
    match fails attempt with
    | none => return store.upsert records
    | some written => do
      if attempt = maxRetries then throw (.runtime "Vector store upsert failed after retries")
      upsertAttempts maxRetries fails records left (attempt + 1)
        (store.upsert (records.take written))

def isUnchanged (store : VectorStore) (recordId contentHash : String) : Bool :=
  store.exposed && match store.records.get? recordId with
    | none => false
    | some existing => existing.metadata.get? "content_hash" == some (.str contentHash)

def slices (size : Nat) (chunks : List DocumentChunk) : List (List DocumentChunk) :=
  (List.range ((chunks.length + size - 1) / size)).map fun k => (chunks.drop (k * size)).take size

/-- `chunks[start : start + size] for start in range(0, len(chunks), size)` -/
def batches (size : Int) (chunks : List DocumentChunk) :
    Except IndexingError (List (List DocumentChunk)) :=
  if size = 0 then .error (.value "range() arg 3 must not be zero")
  else if size < 0 then .ok []
  else .ok (slices size.toNat chunks)

section Definitions

variable (rt : IndexRuntime)

def recordMetadata (chunk : DocumentChunk) : Dict String Json :=
  chunk.metadata.entries.foldl (fun metadata e => metadata.set e.1 e.2) (Dict.ofList [
    ("document_id", .str chunk.documentId),
    ("chunk_index", .int chunk.index),
    ("content_hash", .str (rt.hashText chunk.content))])

namespace IncrementalIndexerNode

variable (node : IncrementalIndexerNode)

def size : Except IndexingError Int :=
  (Json.toInt rt.parse (node.batchSize.resolved rt.resolve)).mapError .int

def retries : Except IndexingError Int :=
  (Json.toInt rt.parse (node.maxRetries.resolved rt.resolve)).mapError .int

def skips (store : VectorStore) (chunk : DocumentChunk) : Bool :=
  node.skipUnchanged && isUnchanged store chunk.id (rt.hashText chunk.content)

def records (store : VectorStore) (embedded : List (DocumentChunk × Embedding)) :
    List VectorRecord :=
  (embedded.filter fun e => !(node.skips rt store e.1)).map fun (chunk, values) =>
    ⟨chunk.id, values, chunk.content, recordMetadata rt chunk⟩

def upsertWithRetry (fails : Nat → Option Nat) (store : VectorStore)
    (records : List VectorRecord) : Except IndexingError VectorStore := do
  let maxRetries ← node.retries rt
  upsertAttempts maxRetries fails records (maxRetries + 1).toNat 0 store

def indexBatch (backend : Backend) (index : Nat) (r : IndexResult) (store : VectorStore)
    (batch : List DocumentChunk) : Except IndexingError (IndexResult × VectorStore) := do
  let vectors ← backend.embed index (batch.map content)
  if vectors.length ≠ batch.length then throw (.value "zip() arguments differ in length")
  let records := node.records rt store (batch.zip vectors)
  let skipped := r.skipped + (batch.filter (node.skips rt store)).length
  if records = [] then return ({ r with skipped := skipped }, store)
  let store ← node.upsertWithRetry rt (backend.fails index) store records
  return ({ skipped := skipped, upsertedIds := r.upsertedIds ++ records.map VectorRecord.id },
    store)

def indexBatches (backend : Backend) : Nat → IndexResult → VectorStore →
    List (List DocumentChunk) → Except IndexingError (IndexResult × VectorStore)
  | _, r, store, [] => return (r, store)
  | index, r, store, batch :: rest => do
    let (r, store) ← node.indexBatch rt backend index r store batch
    indexBatches backend (index + 1) r store rest

def run (backend : Backend) (store : VectorStore) (chunks : List DocumentChunk) :
    Except IndexingError (IndexResult × VectorStore) := do
  if chunks = [] then throw (.value "IncrementalIndexerNode requires at least one chunk")
  let batchSize ← node.size rt
  let batches ← batches batchSize chunks
  node.indexBatches rt backend 0 {} store batches

end IncrementalIndexerNode

end Definitions

section Views

variable {rt : IndexRuntime}

def VectorStore.view (store : VectorStore) (id : String) : Option (Text × Option Json) :=
  (store.records.get? id).map fun r => (r.text, r.metadata.get? "content_hash")

def chunkView (rt : IndexRuntime) (chunk : DocumentChunk) : Text × Option Json :=
  (chunk.content, (recordMetadata rt chunk).get? "content_hash")

def keepsHash (rt : IndexRuntime) (chunk : DocumentChunk) : Bool :=
  match chunk.metadata.get? "content_hash" with
  | none => true
  | some own => own == .str (rt.hashText chunk.content)

def hasHash (seen : Option (Text × Option Json)) (hash : String) : Bool :=
  match seen with
  | none => false
  | some seen => seen.2 == some (.str hash)

theorem hash_unique {seen : Option (Text × Option Json)} {hash hash' : String}
    (has : hasHash seen hash = true) (has' : hasHash seen hash' = true) : hash = hash' := by
  cases seen with
  | none => cases has
  | some seen =>
    have both := (beq_iff_eq.mp has).symm.trans (beq_iff_eq.mp has')
    cases both
    rfl

theorem isUnchanged_eq (store : VectorStore) (id hash : String) :
    isUnchanged store id hash = (store.exposed && hasHash (store.view id) hash) := by
  unfold isUnchanged VectorStore.view hasHash
  cases store.records.get? id with
  | none => rfl
  | some existing => rfl

variable (rt) in
theorem hasHash_chunkView (chunk : DocumentChunk) :
    hasHash (some (chunkView rt chunk)) (rt.hashText chunk.content) = keepsHash rt chunk := by
  unfold hasHash chunkView keepsHash recordMetadata
  simp only
  rw [Dict.get?_foldl_entries_dict]
  cases chunk.metadata.get? "content_hash" with
  | none => simp [Dict.get?_ofList, Dict.lookup]
  | some own => simp

def lastWith (picks : DocumentChunk → Bool) (chunks : List DocumentChunk) (id : String) :
    Option DocumentChunk :=
  chunks.reverse.find? fun c => picks c && c.id == id

theorem view_upsert {node : IncrementalIndexerNode} {store : VectorStore}
    {batch : List DocumentChunk} {vectors : List Embedding}
    (paired : vectors.length = batch.length) (id : String) :
    (store.upsert (node.records rt store (batch.zip vectors))).view id =
      ((lastWith (fun c => !(node.skips rt store c)) batch id).map (chunkView rt)).or
        (store.view id) := by
  have chunks : (batch.zip vectors).map Prod.fst = batch :=
    List.map_fst_zip (Nat.le_of_eq paired.symm)
  generalize batch.zip vectors = embedded at chunks
  subst chunks
  have last : lastWith (fun c => !(node.skips rt store c)) (embedded.map Prod.fst) id =
      (embedded.reverse.find? fun e => !(node.skips rt store e.1) && e.1.id == id).map
        Prod.fst := by
    rw [lastWith, ← List.map_reverse, List.find?_map]
    rfl
  unfold VectorStore.view VectorStore.upsert IncrementalIndexerNode.records
  simp only
  rw [last, Dict.get?_foldl_keyed, ← List.map_reverse, ← List.filter_reverse, List.find?_map,
    List.find?_filter]
  simp only [Function.comp_def, decide_eq_true_eq, Bool.decide_and, Bool.decide_eq_true,
    Bool.beq_eq_decide_eq]
  cases embedded.reverse.find? fun e => !(node.skips rt store e.1) && decide (e.1.id = id) with
  | none => rfl
  | some e => rfl

end Views

theorem flatten_slices {size : Nat} (positive : 0 < size) (chunks : List DocumentChunk) :
    (slices size chunks).flatten = chunks := by
  have taken (k : Nat) : ((List.range k).map fun j =>
      (chunks.drop (j * size)).take size).flatten = chunks.take (k * size) := by
    induction k with
    | zero => rw [List.range_zero, List.map_nil, List.flatten_nil, Nat.zero_mul, List.take_zero]
    | succ k ih =>
      rw [List.range_succ, List.map_append, List.flatten_append, ih, List.map_singleton,
        List.flatten_singleton, Nat.succ_mul, List.take_add]
  have enough : chunks.length ≤ (chunks.length + size - 1) / size * size := by
    have split := Nat.div_add_mod (chunks.length + size - 1) size
    have rest := Nat.mod_lt (chunks.length + size - 1) positive
    rw [Nat.mul_comm] at split
    omega
  rw [slices, taken, List.take_of_length_le enough]

section Batches

variable {rt : IndexRuntime} {node : IncrementalIndexerNode}

theorem get?_upsert_take (store : VectorStore) (records : List VectorRecord) (written : Nat)
    (id : String) : ((store.upsert (records.take written)).upsert records).records.get? id =
      (store.upsert records).records.get? id := by
  unfold VectorStore.upsert
  simp only [Dict.get?_foldl_keyed]
  cases found : records.reverse.find? fun r => decide (r.id = id) with
  | some r => rfl
  | none =>
    rw [List.find?_eq_none] at found
    have none : (records.take written).reverse.find? (fun r => decide (r.id = id)) = none := by
      rw [List.find?_eq_none]
      intro r mem
      exact found r (List.mem_reverse.mpr (List.mem_of_mem_take (List.mem_reverse.mp mem)))
    rw [none]
    rfl

variable {store store' : VectorStore} {batch : List DocumentChunk} {backend : Backend} {index : Nat}
  {r r' : IndexResult} {bs : List (List DocumentChunk)} {m : Int}

theorem upsertAttempts_ok {maxRetries : Int} {fails : Nat → Option Nat}
    {records : List VectorRecord} {left attempt : Nat}
    (last : (left + attempt : Int) = maxRetries + 1) (attempts : 0 < left)
    (done : upsertAttempts maxRetries fails records left attempt store = .ok store') :
    store'.exposed = store.exposed ∧ ∀ id, store'.view id = (store.upsert records).view id := by
  induction left generalizing attempt store with
  | zero => omega
  | succ left ih =>
    unfold upsertAttempts at done
    cases failed : fails attempt with
    | none =>
      rw [failed] at done
      cases done
      exact ⟨rfl, fun _ => rfl⟩
    | some written =>
      rw [failed] at done
      simp only at done
      by_cases exhausted : (attempt : Int) = maxRetries
      · rw [if_pos exhausted] at done
        cases done
      · rw [if_neg exhausted] at done
        obtain ⟨exposed, views⟩ := ih (by omega) (by omega) done
        refine ⟨exposed, fun id => (views id).trans ?_⟩
        unfold VectorStore.view
        rw [get?_upsert_take]

def changed (rt : IndexRuntime) (node : IncrementalIndexerNode) (store : VectorStore)
    (batch : List DocumentChunk) : List DocumentChunk :=
  batch.filter fun c => !(node.skips rt store c)

variable (rt node) in
theorem ids_records (store : VectorStore)
    {vectors : List Embedding} (paired : vectors.length = batch.length) :
    (node.records rt store (batch.zip vectors)).map VectorRecord.id =
      (changed rt node store batch).map DocumentChunk.id := by
  have chunks : (batch.zip vectors).map Prod.fst = batch :=
    List.map_fst_zip (Nat.le_of_eq paired.symm)
  generalize batch.zip vectors = embedded at chunks
  subst chunks
  unfold IncrementalIndexerNode.records changed
  rw [List.filter_map, List.map_map, List.map_map]
  rfl

theorem indexBatch_ok (done : node.indexBatch rt backend index r store batch = .ok (r', store')) :
    r'.upsertedIds = r.upsertedIds ++ (changed rt node store batch).map DocumentChunk.id ∧
    store'.exposed = store.exposed ∧
    (changed rt node store batch = [] ∧ store' = store ∨ changed rt node store batch ≠ [] ∧
      ∃ m, node.retries rt = .ok m ∧ (m < 0 → store' = store) ∧ (0 ≤ m → ∀ id, store'.view id =
        ((lastWith (fun c => !(node.skips rt store c)) batch id).map (chunkView rt)).or
          (store.view id))) := by
  unfold IncrementalIndexerNode.indexBatch at done
  obtain ⟨vectors, _, done⟩ := Lib.bind_ok_iff.mp done
  by_cases paired : vectors.length = batch.length
  · rw [if_neg (not_not.mpr paired)] at done
    have ids := ids_records rt node store paired
    by_cases none : node.records rt store (batch.zip vectors) = []
    · simp only [none, if_true] at done
      cases done
      rw [none, List.map_nil] at ids
      have unchanged := List.map_eq_nil_iff.mp ids.symm
      refine ⟨?_, rfl, .inl ⟨unchanged, rfl⟩⟩
      rw [unchanged, List.map_nil, List.append_nil]
    · have some : changed rt node store batch ≠ [] := by
        intro unchanged
        rw [unchanged, List.map_nil] at ids
        exact none (List.map_eq_nil_iff.mp ids)
      simp only [if_neg none] at done
      obtain ⟨upserted, stored, done⟩ := Lib.bind_ok_iff.mp done
      cases done
      unfold IncrementalIndexerNode.upsertWithRetry at stored
      obtain ⟨m, retries, stored⟩ := Lib.bind_ok_iff.mp stored
      by_cases attempts : 0 ≤ m
      · obtain ⟨exposed, views⟩ := upsertAttempts_ok (by omega) (by omega) stored
        refine ⟨congrArg _ ids, exposed, .inr ⟨some, m, retries, by omega, fun _ id => ?_⟩⟩
        rw [views, view_upsert paired]
      · have never : (m + 1).toNat = 0 := by omega
        rw [never] at stored
        cases stored
        exact ⟨congrArg _ ids, rfl, .inr ⟨some, m, retries, fun _ => rfl, by omega⟩⟩
  · rw [if_pos paired] at done
    cases done

def Backend.plain : Backend where
  embed _ texts := .ok (texts.map fun _ => [])
  fails _ _ := none

theorem upsertAttempts_plain (m : Int) (records : List VectorRecord) (left : Nat)
    (store : VectorStore) : ∃ store',
      upsertAttempts m (fun _ => none) records left 0 store = .ok store' := by
  cases left with
  | zero => exact ⟨store, rfl⟩
  | succ left => exact ⟨store.upsert records, rfl⟩

variable (rt node) in
theorem indexBatch_plain (index : Nat) (r : IndexResult) (store : VectorStore)
    (batch : List DocumentChunk)
    (able : changed rt node store batch = [] ∨ ∃ m, node.retries rt = .ok m) :
    ∃ r' store', node.indexBatch rt .plain index r store batch = .ok (r', store') := by
  have paired : ((batch.map content).map fun _ => ([] : Embedding)).length =
      batch.length := by rw [List.length_map, List.length_map]
  have ids := ids_records rt node store paired
  unfold IncrementalIndexerNode.indexBatch Backend.plain
  simp only [Lib.ok_bind]
  rw [if_neg (not_not.mpr paired)]
  by_cases none : node.records rt store
      (batch.zip ((batch.map content).map fun _ => [])) = []
  · simp only [none, if_true]
    exact ⟨_, _, rfl⟩
  · simp only [if_neg none]
    obtain ⟨m, retries⟩ : ∃ m, node.retries rt = .ok m := by
      refine able.resolve_left (fun unchanged => none ?_)
      rw [unchanged, List.map_nil] at ids
      exact List.map_eq_nil_iff.mp ids
    obtain ⟨store', stored⟩ := upsertAttempts_plain m (node.records rt store
      (batch.zip ((batch.map content).map fun _ => []))) (m + 1).toNat store
    unfold IncrementalIndexerNode.upsertWithRetry
    rw [retries, Lib.ok_bind, stored]
    exact ⟨_, _, rfl⟩

theorem indexBatches_cons
    (done : node.indexBatches rt backend index r store (batch :: bs) = .ok (r', store')) :
    ∃ r₁ store₁, node.indexBatch rt backend index r store batch = .ok (r₁, store₁) ∧
      node.indexBatches rt backend (index + 1) r₁ store₁ bs = .ok (r', store') := by
  unfold IncrementalIndexerNode.indexBatches at done
  obtain ⟨⟨r₁, store₁⟩, turned, further⟩ := Lib.bind_ok_iff.mp done
  exact ⟨r₁, store₁, turned, further⟩

theorem indexBatches_plain (retries : node.retries rt = .ok m) (index : Nat)
    (r : IndexResult) (store : VectorStore) (bs : List (List DocumentChunk)) :
    ∃ r' store', node.indexBatches rt .plain index r store bs = .ok (r', store') := by
  induction bs generalizing index r store with
  | nil => exact ⟨r, store, rfl⟩
  | cons batch bs ih =>
    obtain ⟨r', store', turned⟩ := indexBatch_plain rt node index r store batch
      (.inr ⟨m, retries⟩)
    unfold IncrementalIndexerNode.indexBatches
    rw [turned]
    exact ih (index + 1) r' store'

def AllSkipped (rt : IndexRuntime) (node : IncrementalIndexerNode) (store : VectorStore)
    (chunks : List DocumentChunk) : Prop := ∀ c ∈ chunks, node.skips rt store c = true

theorem changed_eq_nil_iff :
    changed rt node store batch = [] ↔ AllSkipped rt node store batch := by
  unfold changed AllSkipped
  simp [List.filter_eq_nil_iff]

theorem allSkipped_append {cs ds : List DocumentChunk} :
    AllSkipped rt node store (cs ++ ds) ↔
      AllSkipped rt node store cs ∧ AllSkipped rt node store ds := List.forall_mem_append

theorem indexBatches_skipped (skipped : AllSkipped rt node store bs.flatten)
    (done : node.indexBatches rt backend index r store bs = .ok (r', store')) :
    r'.upsertedIds = r.upsertedIds ∧ store' = store := by
  induction bs generalizing index r store with
  | nil =>
    cases done
    exact ⟨rfl, rfl⟩
  | cons batch bs ih =>
    obtain ⟨here, later⟩ := allSkipped_append.mp skipped
    obtain ⟨r₁, store₁, turned, further⟩ := indexBatches_cons done
    have unchanged := changed_eq_nil_iff.mpr here
    obtain ⟨ids, _, stored⟩ := indexBatch_ok turned
    rw [unchanged, List.map_nil, List.append_nil] at ids
    cases stored with
    | inl kept =>
      obtain ⟨_, rfl⟩ := kept
      obtain ⟨rest, kept⟩ := ih later further
      exact ⟨rest.trans ids, kept⟩
    | inr written => exact absurd unchanged written.1

theorem indexBatches_skipped_plain (index : Nat) (r : IndexResult)
    (skipped : AllSkipped rt node store bs.flatten) :
    ∃ r', node.indexBatches rt .plain index r store bs = .ok (r', store) := by
  induction bs generalizing index r with
  | nil => exact ⟨r, rfl⟩
  | cons batch bs ih =>
    obtain ⟨here, later⟩ := allSkipped_append.mp skipped
    have unchanged := changed_eq_nil_iff.mpr here
    obtain ⟨r₁, store₁, turned⟩ := indexBatch_plain rt node index r store batch
      (.inl unchanged)
    obtain ⟨_, _, kept | written⟩ := indexBatch_ok turned
    · obtain ⟨_, rfl⟩ := kept
      unfold IncrementalIndexerNode.indexBatches
      rw [turned]
      exact ih _ _ later
    · exact absurd unchanged written.1

theorem allSkipped_of_indexBatches
    (done : node.indexBatches rt backend index r store bs = .ok (r', store')) :
    r.upsertedIds.length ≤ r'.upsertedIds.length ∧
      (r'.upsertedIds.length = r.upsertedIds.length → AllSkipped rt node store bs.flatten) := by
  induction bs generalizing index r store with
  | nil =>
    cases done
    exact ⟨Nat.le_refl _, fun _ _ mem => absurd mem List.not_mem_nil⟩
  | cons batch bs ih =>
    obtain ⟨r₁, store₁, turned, further⟩ := indexBatches_cons done
    obtain ⟨ids, _, stored⟩ := indexBatch_ok turned
    obtain ⟨grown, rest⟩ := ih further
    have length := congrArg List.length ids
    rw [List.length_append, List.length_map] at length
    refine ⟨by omega, fun same => ?_⟩
    have unchanged : changed rt node store batch = [] := by
      rw [← List.length_eq_zero_iff]
      omega
    cases stored with
    | inl kept =>
      obtain ⟨_, rfl⟩ := kept
      exact allSkipped_append.mpr ⟨changed_eq_nil_iff.mp unchanged, rest (by omega)⟩
    | inr written => exact absurd unchanged written.1

theorem allSkipped_of_no_retries {e : IndexingError} (none : node.retries rt = .error e)
    (done : node.indexBatches rt backend index r store bs = .ok (r', store')) :
    AllSkipped rt node store bs.flatten := by
  induction bs generalizing index r store with
  | nil => exact fun _ mem => absurd mem List.not_mem_nil
  | cons batch bs ih =>
    obtain ⟨r₁, store₁, turned, further⟩ := indexBatches_cons done
    obtain ⟨_, _, kept | written⟩ := indexBatch_ok turned
    · obtain ⟨unchanged, rfl⟩ := kept
      exact allSkipped_append.mpr ⟨changed_eq_nil_iff.mp unchanged, ih further⟩
    · obtain ⟨_, m, retries, _⟩ := written
      rw [none] at retries
      cases retries

theorem indexBatches_no_attempts (retries : node.retries rt = .ok m) (negative : m < 0)
    (done : node.indexBatches rt backend index r store bs = .ok (r', store')) :
    store' = store := by
  induction bs generalizing index r store with
  | nil =>
    cases done
    rfl
  | cons batch bs ih =>
    obtain ⟨r₁, store₁, turned, further⟩ := indexBatches_cons done
    obtain ⟨_, _, kept | written⟩ := indexBatch_ok turned
    · obtain ⟨_, rfl⟩ := kept
      exact ih further
    · obtain ⟨_, m', retries', kept, _⟩ := written
      rw [retries] at retries'
      cases retries'
      obtain rfl := kept negative
      exact ih further

def seenAfter (rt : IndexRuntime) (reads : Bool) (id : String) (seen : Option (Text × Option Json))
    (batch : List DocumentChunk) : Option (Text × Option Json) :=
  ((lastWith (fun c => !(reads && hasHash seen (rt.hashText c.content))) batch id).map
    (chunkView rt)).or seen

theorem lastWith_skips (store : VectorStore) (batch : List DocumentChunk) (id : String) :
    lastWith (fun c => !(node.skips rt store c)) batch id = lastWith (fun c =>
      !((node.skipUnchanged && store.exposed) &&
        hasHash (store.view id) (rt.hashText c.content))) batch id := by
  unfold lastWith IncrementalIndexerNode.skips
  refine congrArg (fun p => batch.reverse.find? p) (funext fun c => ?_)
  simp only
  by_cases same : c.id = id
  · rw [isUnchanged_eq, same, Bool.and_assoc]
  · rw [beq_eq_false_iff_ne.mpr same, Bool.and_false, Bool.and_false]

theorem indexBatches_ok (retries : node.retries rt = .ok m) (attempts : 0 ≤ m)
    (done : node.indexBatches rt backend index r store bs = .ok (r', store')) :
    store'.exposed = store.exposed ∧ ∀ id, store'.view id =
      bs.foldl (seenAfter rt (node.skipUnchanged && store.exposed) id) (store.view id) := by
  induction bs generalizing index r store with
  | nil =>
    cases done
    exact ⟨rfl, fun _ => rfl⟩
  | cons batch bs ih =>
    obtain ⟨r₁, store₁, turned, further⟩ := indexBatches_cons done
    obtain ⟨_, exposed, stored⟩ := indexBatch_ok turned
    obtain ⟨exposed', views⟩ := ih further
    refine ⟨exposed'.trans exposed, fun id => ?_⟩
    rw [views, exposed, List.foldl_cons]
    congr 1
    unfold seenAfter
    rw [← lastWith_skips]
    cases stored with
    | inl kept =>
      obtain ⟨unchanged, rfl⟩ := kept
      have none : lastWith (fun c => !(node.skips rt store₁ c)) batch id = none := by
        rw [lastWith, List.find?_eq_none]
        intro c mem
        rw [changed_eq_nil_iff.mp unchanged c (List.mem_reverse.mp mem)]
        exact Bool.false_ne_true
      rw [none]
      rfl
    | inr written =>
      obtain ⟨_, m', retries', _, views⟩ := written
      rw [retries] at retries'
      cases retries'
      exact views attempts id

end Batches

section Seen

variable {rt : IndexRuntime} {id : String}

def lastOf (chunks : List DocumentChunk) (id : String) : Option DocumentChunk :=
  lastWith (fun _ => true) chunks id

def firstKept (rt : IndexRuntime) (bs : List (List DocumentChunk)) (id : String) :
    Option DocumentChunk :=
  (bs.filterMap fun batch => lastOf batch id).find? (keepsHash rt)

variable {chunks : List DocumentChunk}

theorem lastOf_some {c : DocumentChunk}
    (last : lastOf chunks id = some c) : c ∈ chunks ∧ c.id = id := by
  have picked := List.find?_some last
  rw [Bool.true_and, beq_iff_eq] at picked
  exact ⟨List.mem_reverse.mp (List.mem_of_find?_eq_some last), picked⟩

theorem lastOf_of_mem {c : DocumentChunk} (mem : c ∈ chunks) :
    ∃ d, lastOf chunks c.id = some d := by
  unfold lastOf lastWith
  rw [← Option.isSome_iff_exists, List.find?_isSome]
  exact ⟨c, List.mem_reverse.mpr mem, by simp⟩

theorem seenAfter_eq {hash : String} {batch : List DocumentChunk}
    (same : ∀ c ∈ batch, c.id = id → rt.hashText c.content = hash)
    (seen : Option (Text × Option Json)) : seenAfter rt true id seen batch =
      if hasHash seen hash then seen else ((lastOf batch id).map (chunkView rt)).or seen := by
  have picks : lastWith (fun c => !(true && hasHash seen (rt.hashText c.content))) batch id =
      lastWith (fun _ => !(hasHash seen hash)) batch id := by
    refine List.find?_congr (fun c mem => ?_)
    simp only
    by_cases here : c.id = id
    · rw [same c (List.mem_reverse.mp mem) here, Bool.true_and]
    · rw [beq_eq_false_iff_ne.mpr here, Bool.and_false, Bool.and_false]
  unfold seenAfter
  rw [picks]
  cases hasHash seen hash with
  | false => rfl
  | true =>
    have none : lastWith (fun _ => !true) batch id = none := by simp [lastWith]
    rw [none]
    rfl

theorem firstKept_cons (batch : List DocumentChunk) (bs : List (List DocumentChunk)) :
    firstKept rt (batch :: bs) id =
      ((lastOf batch id).filter (keepsHash rt)).or (firstKept rt bs id) := by
  unfold firstKept
  cases last : lastOf batch id with
  | none =>
    rw [List.filterMap_cons_none (f := fun batch => lastOf batch id) last]
    rfl
  | some d =>
    rw [List.filterMap_cons_some (f := fun batch => lastOf batch id) last, List.find?_cons,
      Option.filter_some]
    cases keepsHash rt d with
    | true => rfl
    | false => rfl

theorem foldl_seenAfter {hash : String} {bs : List (List DocumentChunk)}
    (same : ∀ c ∈ bs.flatten, c.id = id → rt.hashText c.content = hash)
    (seen : Option (Text × Option Json)) :
    (hasHash seen hash = true → bs.foldl (seenAfter rt true id) seen = seen) ∧
    (hasHash seen hash = false →
      (∀ d, firstKept rt bs id = some d →
        bs.foldl (seenAfter rt true id) seen = some (chunkView rt d)) ∧
      (firstKept rt bs id = none →
        hasHash (bs.foldl (seenAfter rt true id) seen) hash = false)) := by
  induction bs generalizing seen with
  | nil =>
    refine ⟨fun _ => rfl, fun unseen => ⟨fun d found => ?_, fun _ => unseen⟩⟩
    cases found
  | cons batch bs ih =>
    obtain ⟨here, later⟩ := List.forall_mem_append.mp same
    rw [List.foldl_cons, seenAfter_eq here, firstKept_cons]
    cases found : hasHash seen hash with
    | true =>
      rw [if_pos rfl]
      exact ⟨fun _ => (ih later seen).1 found, Bool.noConfusion⟩
    | false =>
      rw [if_neg Bool.false_ne_true]
      refine ⟨Bool.noConfusion, fun _ => ?_⟩
      cases last : lastOf batch id with
      | none => exact (ih later seen).2 found
      | some d =>
        obtain ⟨mem, named⟩ := lastOf_some last
        have shown := hasHash_chunkView rt d
        rw [here d mem named] at shown
        rw [Option.map_some, Option.some_or, Option.filter_some]
        cases kept : keepsHash rt d with
        | true =>
          rw [if_pos rfl, Option.some_or]
          refine ⟨fun d' found => ?_, fun none => ?_⟩
          · cases found
            exact (ih later _).1 (shown.trans kept)
          · cases none
        | false => exact (ih later _).2 (shown.trans kept)

end Seen

namespace IncrementalIndexerNode

variable {rt : IndexRuntime} {node : IncrementalIndexerNode}

def lastContent (chunks : List DocumentChunk) (id : String) : Option Text :=
  (lastOf chunks id).map content

def TextsRight (store : VectorStore) (chunks : List DocumentChunk) : Prop :=
  ∀ c ∈ chunks, (store.records.get? c.id).map VectorRecord.text = lastContent chunks c.id

def Converges (rt : IndexRuntime) (node : IncrementalIndexerNode) (store : VectorStore)
    (chunks : List DocumentChunk) : Prop :=
  ∀ backend r store', node.run rt backend store chunks = .ok (r, store') →
    TextsRight store' chunks ∧ ∀ backend' r' store'',
      node.run rt backend' store' chunks = .ok (r', store'') → r'.upsertedIds = []

/-- Chunks of one id have one hash, and the record with that hash, or else the first that keeps it,
has the text of the last of them. -/
def Steady (rt : IndexRuntime) (store : VectorStore) (bs : List (List DocumentChunk))
    (chunks : List DocumentChunk) : Prop :=
  ∀ c ∈ chunks,
    (∀ d ∈ chunks, d.id = c.id → rt.hashText d.content = rt.hashText c.content) ∧
    (if isUnchanged store c.id (rt.hashText c.content) then
      (store.records.get? c.id).map VectorRecord.text = lastContent chunks c.id
    else (firstKept rt bs c.id).map content = lastContent chunks c.id)

def Settles (rt : IndexRuntime) (node : IncrementalIndexerNode) (store : VectorStore)
    (chunks : List DocumentChunk) (size : Int) : Prop :=
  if size < 0 then TextsRight store chunks
  else match node.retries rt with
    | .error _ => AllSkipped rt node store chunks → TextsRight store chunks
    | .ok m =>
      if m < 0 then AllSkipped rt node store chunks ∧ TextsRight store chunks
      else node.skipUnchanged = true ∧ store.exposed = true ∧
        Steady rt store (slices size.toNat chunks) chunks

def Convergent (rt : IndexRuntime) (node : IncrementalIndexerNode) (store : VectorStore)
    (chunks : List DocumentChunk) : Prop :=
  chunks ≠ [] → ∀ size, node.size rt = .ok size → size ≠ 0 → node.Settles rt store chunks size

variable {chunks : List DocumentChunk}

theorem run_eq (some : chunks ≠ []) {size : Int}
    (sized : node.size rt = .ok size) (nonzero : size ≠ 0) (backend : Backend)
    (store : VectorStore) : node.run rt backend store chunks = node.indexBatches rt backend 0 {}
      store (if size < 0 then [] else slices size.toNat chunks) := by
  unfold run batches
  simp only [if_neg some, sized, Lib.ok_bind, if_neg nonzero]
  by_cases negative : size < 0
  · rw [if_pos negative, if_pos negative]
    rfl
  · rw [if_neg negative, if_neg negative]
    rfl

theorem text_eq_view (store : VectorStore) (id : String) :
    (store.records.get? id).map VectorRecord.text = (store.view id).map Prod.fst := by
  unfold VectorStore.view
  cases store.records.get? id with
  | none => rfl
  | some r => rfl

theorem skips_iff {store : VectorStore} {c : DocumentChunk} :
    node.skips rt store c = true ↔ (node.skipUnchanged && store.exposed) = true ∧
      hasHash (store.view c.id) (rt.hashText c.content) = true := by
  unfold skips
  rw [isUnchanged_eq, ← Bool.and_assoc, Bool.and_eq_true]

section Positive

variable {chunks : List DocumentChunk} {size : Int}

section

variable (some : chunks ≠ []) (sized : node.size rt = .ok size) (positive : 0 < size)
include some sized positive

theorem run_positive (backend : Backend) (store : VectorStore) : node.run rt backend store chunks =
      node.indexBatches rt backend 0 {} store (slices size.toNat chunks) := by
  rw [run_eq some sized (by omega), if_neg (by omega)]

theorem ids_of_allSkipped {store : VectorStore} (skipped : AllSkipped rt node store chunks)
    {backend : Backend} {r : IndexResult} {store' : VectorStore}
    (done : node.run rt backend store chunks = .ok (r, store')) :
    r.upsertedIds = [] ∧ store' = store := by
  rw [run_positive some sized positive] at done
  rw [← flatten_slices (Int.pos_iff_toNat_pos.mp positive) chunks] at skipped
  exact indexBatches_skipped skipped done

theorem allSkipped_iff {m : Int} (retries : node.retries rt = .ok m) (store : VectorStore) :
    (∀ backend r store', node.run rt backend store chunks = .ok (r, store') →
      r.upsertedIds = []) ↔ AllSkipped rt node store chunks := by
  constructor
  · intro nothing
    obtain ⟨r, store', done⟩ := indexBatches_plain retries 0 {} store (slices size.toNat chunks)
    have empty := nothing .plain r store' ((run_positive some sized positive _ _).trans done)
    have skipped := (allSkipped_of_indexBatches done).2 (by rw [empty])
    rwa [flatten_slices (by omega)] at skipped
  · intro skipped backend r store' done
    exact (ids_of_allSkipped some sized positive skipped done).1

end

theorem firstKept_some {bs : List (List DocumentChunk)} {id : String} {d : DocumentChunk}
    (found : firstKept rt bs id = .some d) :
    d ∈ bs.flatten ∧ d.id = id ∧ keepsHash rt d = true := by
  obtain ⟨batch, mem, last⟩ := List.mem_filterMap.mp (List.mem_of_find?_eq_some found)
  obtain ⟨here, named⟩ := lastOf_some last
  exact ⟨List.mem_flatten_of_mem mem here, named, List.find?_some found⟩

theorem steady_iff (some : chunks ≠ []) (sized : node.size rt = .ok size) (positive : 0 < size)
    {m : Int} (retries : node.retries rt = .ok m) (attempts : 0 ≤ m) {backend : Backend}
    {r : IndexResult} {store store' : VectorStore}
    (done : node.run rt backend store chunks = .ok (r, store')) :
    TextsRight store' chunks ∧ AllSkipped rt node store' chunks ↔
      node.skipUnchanged = true ∧ store.exposed = true ∧
        Steady rt store (slices size.toNat chunks) chunks := by
  rw [run_positive some sized positive] at done
  obtain ⟨exposed, views⟩ := indexBatches_ok retries attempts done
  have whole := flatten_slices (Int.pos_iff_toNat_pos.mp positive) chunks
  generalize slices size.toNat chunks = bs at views whole
  -- one chunk, where all chunks of its id have one hash
  have one (reads : (node.skipUnchanged && store.exposed) = true) {c : DocumentChunk}
      (mem : c ∈ chunks)
      (same : ∀ d ∈ chunks, d.id = c.id → rt.hashText d.content = rt.hashText c.content) :
      (store'.view c.id).map Prod.fst = lastContent chunks c.id ∧
        hasHash (store'.view c.id) (rt.hashText c.content) = true ↔
      if isUnchanged store c.id (rt.hashText c.content) then
        (store.records.get? c.id).map VectorRecord.text = lastContent chunks c.id
      else (firstKept rt bs c.id).map content = lastContent chunks c.id := by
    rw [views, reads, isUnchanged_eq, (Bool.and_eq_true_iff.mp reads).2, Bool.true_and,
      text_eq_view]
    obtain ⟨settled, unsettled⟩ := foldl_seenAfter (by rwa [whole])
      (store.view c.id)
    cases found : hasHash (store.view c.id) (rt.hashText c.content) with
    | true =>
      rw [settled found, if_pos rfl]
      exact and_iff_left found
    | false =>
      obtain ⟨kept, unkept⟩ := unsettled found
      rw [if_neg Bool.false_ne_true]
      cases first : firstKept rt bs c.id with
      | none =>
        obtain ⟨d, last⟩ := lastOf_of_mem mem
        unfold lastContent
        rw [unkept first, last]
        simp
      | some d =>
        obtain ⟨there, named, keeps⟩ := firstKept_some first
        have shown := hasHash_chunkView rt d
        rw [same d (whole ▸ there) named] at shown
        rw [kept d first]
        exact and_iff_left (shown.trans keeps)
  constructor
  · rintro ⟨right, skipped⟩
    obtain ⟨c, mem⟩ := List.exists_mem_of_ne_nil chunks some
    have reads := (skips_iff.mp (skipped c mem)).1
    rw [exposed] at reads
    obtain ⟨skips, reads'⟩ := Bool.and_eq_true_iff.mp reads
    refine ⟨skips, reads', fun c mem => ?_⟩
    have hash := (skips_iff.mp (skipped c mem)).2
    have same (d : DocumentChunk) (mem' : d ∈ chunks) (named : d.id = c.id) :
        rt.hashText d.content = rt.hashText c.content := by
      have hash' := (skips_iff.mp (skipped d mem')).2
      rw [named] at hash'
      exact hash_unique hash' hash
    exact ⟨same, (one reads mem same).mp ⟨text_eq_view store' c.id ▸ right c mem, hash⟩⟩
  · rintro ⟨skips, reads, steady⟩
    have reads : (node.skipUnchanged && store.exposed) = true := Bool.and_eq_true_iff.mpr ⟨skips, reads⟩
    have both (c : DocumentChunk) (mem : c ∈ chunks) :=
      (one reads mem (steady c mem).1).mpr (steady c mem).2
    refine ⟨fun c mem => (text_eq_view store' c.id).trans (both c mem).1, fun c mem => ?_⟩
    exact skips_iff.mpr ⟨exposed ▸ reads, (both c mem).2⟩

end Positive

theorem converges_iff_settles (some : chunks ≠ []) {size : Int}
    (sized : node.size rt = .ok size) (nonzero : size ≠ 0) (store : VectorStore) :
    node.Converges rt store chunks ↔ node.Settles rt store chunks size := by
  unfold Settles
  by_cases negative : size < 0
  · rw [if_pos negative]
    -- there are no batches
    have ran (backend : Backend) (store : VectorStore) :
        node.run rt backend store chunks = .ok ({}, store) := by
      rw [run_eq some sized nonzero, if_pos negative]
      rfl
    constructor
    · intro converges
      exact (converges .plain {} store (ran _ _)).1
    · intro right backend r store' done
      cases (ran _ _).symm.trans done
      refine ⟨right, fun backend' r' store'' done' => ?_⟩
      cases (ran _ _).symm.trans done'
      rfl
  · have positive : 0 < size := by omega
    have whole := flatten_slices (Int.pos_iff_toNat_pos.mp positive) chunks
    rw [if_neg negative]
    cases retries : node.retries rt with
    | error e =>
      constructor
      · intro converges skipped
        rw [← whole] at skipped
        obtain ⟨r, done⟩ := indexBatches_skipped_plain 0 {} skipped
        exact (converges .plain r store ((run_positive some sized positive _ _).trans done)).1
      · intro right backend r store' done
        have skipped : AllSkipped rt node store chunks := by
          rw [run_positive some sized positive] at done
          rw [← whole]
          exact allSkipped_of_no_retries retries done
        obtain ⟨_, rfl⟩ := ids_of_allSkipped some sized positive skipped done
        refine ⟨right skipped, fun backend' r' store'' done' => ?_⟩
        exact (ids_of_allSkipped some sized positive skipped done').1
    | ok m =>
      -- a run that nothing hinders returns
      obtain ⟨r₀, store₀, ran⟩ := indexBatches_plain retries 0 {} store
        (slices size.toNat chunks)
      rw [← run_positive some sized positive] at ran
      by_cases attempts : m < 0
      · simp only [if_pos attempts]
        have kept {backend : Backend} {r : IndexResult} {store' : VectorStore}
            (done : node.run rt backend store chunks = .ok (r, store')) : store' = store := by
          rw [run_positive some sized positive] at done
          exact indexBatches_no_attempts retries attempts done
        constructor
        · intro converges
          obtain ⟨right, nothing⟩ := converges .plain r₀ store₀ ran
          obtain rfl := kept ran
          exact ⟨(allSkipped_iff some sized positive retries _).mp nothing, right⟩
        · rintro ⟨skipped, right⟩ backend r store' done
          obtain rfl := kept done
          exact ⟨right, (allSkipped_iff some sized positive retries _).mpr skipped⟩
      · simp only [if_neg attempts]
        have attempts := Int.not_lt.mp attempts
        constructor
        · intro converges
          obtain ⟨right, nothing⟩ := converges .plain r₀ store₀ ran
          exact (steady_iff some sized positive retries attempts ran).mp
            ⟨right, (allSkipped_iff some sized positive retries _).mp nothing⟩
        · intro steady backend r store' done
          obtain ⟨right, skipped⟩ :=
            (steady_iff some sized positive retries attempts done).mpr steady
          exact ⟨right, (allSkipped_iff some sized positive retries _).mpr skipped⟩

/-- A run that returns leaves the contents of the last chunks, and a second one upserts nothing,
just where the settings, the store and the chunks let it. -/
theorem converges_iff_convergent (rt : IndexRuntime) (node : IncrementalIndexerNode)
    (store : VectorStore) (chunks : List DocumentChunk) :
    node.Converges rt store chunks ↔ node.Convergent rt store chunks := by
  -- a run that does not return has nothing to show
  have unanswered (raises : ∀ backend, ∃ e, node.run rt backend store chunks = .error e) :
      node.Converges rt store chunks := by
    intro backend r store' done
    obtain ⟨e, raised⟩ := raises backend
    cases raised.symm.trans done
  by_cases some : chunks = []
  · refine iff_of_true (unanswered fun backend => ?_) (fun given => absurd some given)
    unfold run
    rw [if_pos some]
    exact ⟨_, rfl⟩
  · cases sized : node.size rt with
    | error e =>
      refine iff_of_true (unanswered fun backend => ?_) (fun _ size given => ?_)
      · unfold run
        simp only [if_neg some, sized]
        exact ⟨_, rfl⟩
      · cases sized.symm.trans given
    | ok size =>
      by_cases zero : size = 0
      · refine iff_of_true (unanswered fun backend => ?_) (fun _ size' given nonzero => ?_)
        · unfold run batches
          simp only [if_neg some, sized, Lib.ok_bind, if_pos zero]
          exact ⟨_, rfl⟩
        · cases sized.symm.trans given
          exact absurd zero nonzero
      · rw [converges_iff_settles some sized zero]
        constructor
        · intro settles _ size' given _
          cases sized.symm.trans given
          exact settles
        · intro convergent
          exact convergent some size sized zero

end IncrementalIndexerNode

def foreignChunk : DocumentChunk where
  id := "c"
  documentId := "d"
  index := 0
  content := ['x']
  metadata := Dict.ofList [("content_hash", .str "other")]
  trimmed := by decide
  nonempty := List.cons_ne_nil _ _

def foreignRuntime : IndexRuntime where
  parse _ := none
  resolve := .str
  hashText _ := "2d711642b726b04401627ca9fbac32f5c8530fb1903cc4db02258717921a4881"

theorem foreignChunk_not_converges : ¬ ∀ (rt : IndexRuntime) (node : IncrementalIndexerNode)
    (store : VectorStore) (chunks : List DocumentChunk), node.Converges rt store chunks := by
  intro all
  have settles := (IncrementalIndexerNode.converges_iff_settles (List.cons_ne_nil foreignChunk [])
    rfl (by decide) ⟨∅, true⟩).mp (all foreignRuntime {} _ _)
  have steady := settles.2.2 foreignChunk (List.mem_singleton_self _)
  exact absurd steady.2 (by decide +kernel)

end Orcheo.Rag
