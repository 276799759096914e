import Orcheo.Defs.Rag.Documents
import Orcheo.Lib.Except

/-! The chunking node: windows of a document that overlap, one chunk for each. -/

namespace Orcheo.Rag

open Lib (Dict)
open DocumentChunk (build)

inductive Setting
  | int (n : Int)
  | text (s : String)
  deriving DecidableEq, Repr

def overlapRefused (chunkSize : Setting) (chunkOverlap : Option Setting) : Bool :=
  match chunkSize, chunkOverlap with
  | .int size, some (.int overlap) => decide (overlap ≥ size)
  | _, _ => false

structure ChunkingStrategyNode where
  chunkSize : Setting := .int 800
  chunkOverlap : Option Setting := none
  preserveMetadataKeys : Option (List String) := none
  valid : overlapRefused chunkSize chunkOverlap = false

def sliceIndex (t : Text) (i : Int) : Nat := (if i < 0 then i + t.length else i).toNat

/-- `text[start:end]` -/
def slice (t : Text) (start stop : Int) : Text :=
  (t.drop (sliceIndex t start)).take (sliceIndex t stop - sliceIndex t start)

def mergeMetadata (preserve : Option (List String)) (document : Document) (chunkIndex : Nat) :
    Dict String Json :=
  let metadata := Dict.ofList [
    ("document_id", .str document.id),
    ("chunk_index", .int chunkIndex),
    ("source", document.source.elim .null .str)]
  let base := match preserve with
    | none => document.metadata
    | some keys => document.metadata.filter fun key _ => keys.contains key
  base.entries.foldl (fun metadata e => metadata.set e.1 e.2) metadata

section Definitions

variable (preserve : Option (List String)) (size overlap : Int)

/-- The turns of the loop over one document from a start on.  There is no value where it is not
done after so many. -/
def turns (document : Document) : Nat → Int → Nat →
    Except IngestionError (Option (List DocumentChunk))
  | 0, _, _ => return none
  | fuel + 1, start, chunkIndex => do
    if ¬ start < document.content.length then return some []
    let stop := min (start + size) document.content.length
    let chunk ← build (document.id ++ "-chunk-" ++ toString chunkIndex) document.id
      chunkIndex (slice document.content start stop) (mergeMetadata preserve document chunkIndex)
    if stop = document.content.length then return some [chunk]
    let chunks ← turns document fuel (stop - overlap) (chunkIndex + 1)
    return chunks.map (chunk :: ·)

def chunkAll (fuel : Nat) : List Document → Except IngestionError (Option (List DocumentChunk))
  | [] => return some []
  | document :: documents => do
    match ← turns preserve size overlap document fuel 0 0 with
    | none => return none
    | some own =>
      let chunks ← chunkAll fuel documents
      return chunks.map (own ++ ·)

end Definitions

section Node

variable (parse : String → Option Int) (resolve : String → Json)

def Setting.resolved : Setting → Json
  | .int n => .int n
  | .text s => resolve s

/-- `int(...)` of a setting -/
def Setting.toInt (setting : Setting) : Except IngestionError Int :=
  (Json.toInt parse (setting.resolved resolve)).mapError .int

namespace ChunkingStrategyNode

variable (node : ChunkingStrategyNode)

def size : Except IngestionError Int := node.chunkSize.toInt parse resolve

def overlap : Except IngestionError Int :=
  (node.chunkOverlap.getD (.int 80)).toInt parse resolve

def run (fuel : Nat) (documents : List Document) :
    Except IngestionError (Option (List DocumentChunk)) := do
  if documents = [] then
    throw (.value "ChunkingStrategyNode requires at least one document")
  let chunkSize ← node.size parse resolve
  let chunkOverlap ← node.overlap parse resolve
  chunkAll node.preserveMetadataKeys chunkSize chunkOverlap fuel documents

end ChunkingStrategyNode

end Node

/-- The first text, and what the others have after their first characters. -/
def rebuilt (overlap : Nat) : List Text → Text
  | [] => []
  | t :: ts => t ++ ts.flatMap (List.drop overlap)

def Keeps (size overlap : Int) (document : Document) (chunks : List DocumentChunk) : Prop :=
  (∀ c ∈ chunks, (c.content.length : Int) ≤ size) ∧
    rebuilt overlap.toNat (chunks.map DocumentChunk.content) = document.content

/-- The windows from a place on that the loop comes to neither begin nor end with whitespace. -/
def Trimmed (size overlap : Nat) (t : Text) : Prop :=
  ∀ k : Nat, k * (size - overlap) + overlap < t.length →
    strip ((t.drop (k * (size - overlap))).take size) =
      (t.drop (k * (size - overlap))).take size

def Chunkable (size overlap : Int) (t : Text) : Prop :=
  (t.length : Int) ≤ size ∨
    0 ≤ overlap ∧ overlap < size ∧ Trimmed size.toNat overlap.toNat t

section Build

variable {id documentId : String} {index : Nat} {content : Text} {metadata : Dict String Json}

theorem build_ok {c : DocumentChunk}
    (built : build id documentId index content metadata = .ok c) :
    c.content = strip content := by
  unfold build at built
  by_cases none : content = []
  · rw [if_pos none] at built
    cases built
  · rw [if_neg none] at built
    by_cases blank : strip content = []
    · rw [dif_pos blank] at built
      cases built
    · rw [dif_neg blank] at built
      cases built
      rfl

variable (id documentId index metadata) in
theorem build_of_trimmed (some : content ≠ []) (trimmed : strip content = content) :
    ∃ c, build id documentId index content metadata = .ok c ∧
      c.content = content := by
  unfold build
  rw [if_neg some, dif_neg (trimmed.symm ▸ some)]
  exact ⟨_, rfl, trimmed⟩

end Build

def window (size : Nat) (t : Text) (place : Nat) : Text := (t.drop place).take size

theorem length_window (size : Nat) (t : Text) (place : Nat) :
    (window size t place).length = min size (t.length - place) := by
  rw [window, List.length_take, List.length_drop]

theorem sliceIndex_of_nonneg {t : Text} {i : Int} (nonneg : 0 ≤ i) : sliceIndex t i = i.toNat := by
  unfold sliceIndex
  rw [if_neg (Int.not_lt.mpr nonneg)]

theorem slice_eq_window {t : Text} {place : Nat} (size : Nat) :
    slice t place (min (place + size : Nat) t.length : Nat) = window size t place := by
  unfold slice window
  rw [sliceIndex_of_nonneg (Int.natCast_nonneg _), sliceIndex_of_nonneg (Int.natCast_nonneg _),
    Int.toNat_natCast, Int.toNat_natCast]
  have length : min (place + size) t.length - place = min size (t.drop place).length := by
    rw [List.length_drop]
    omega
  rw [length, ← List.take_eq_take_min]

section Turns

variable {preserve : Option (List String)} {document : Document}

variable {place : Nat} {cs : List DocumentChunk}

theorem turns_inside {size : Nat} (overlap : Int) (fuel index : Nat)
    (inside : place < document.content.length) :
    turns preserve size overlap document (fuel + 1) place index = (do
      let chunk ← build (document.id ++ "-chunk-" ++ toString index) document.id
        index (window size document.content place) (mergeMetadata preserve document index)
      if document.content.length ≤ place + size then return some [chunk]
      let chunks ← turns preserve size overlap document fuel ((place + size : Nat) - overlap)
        (index + 1)
      return chunks.map (chunk :: ·)) := by
  have stop : min ((place : Int) + size) document.content.length =
      (min (place + size) document.content.length : Nat) := by omega
  simp only [turns, stop, slice_eq_window]
  rw [if_neg (by omega)]
  refine bind_congr (fun chunk => ?_)
  by_cases last : document.content.length ≤ place + size
  · rw [if_pos last, Nat.min_eq_right last, if_pos rfl]
  · rw [if_neg last, Nat.min_eq_left (Nat.le_of_not_le last), if_neg (by omega)]

def TrimmedAfter (size overlap : Nat) (t : Text) (place : Nat) : Prop :=
  ∀ k : Nat, place + k * (size - overlap) + overlap < t.length →
    strip (window size t (place + k * (size - overlap))) =
      window size t (place + k * (size - overlap))

variable {size overlap : Nat}

theorem trimmedAfter_step {t : Text} :
    TrimmedAfter size overlap t place ↔
      (place + overlap < t.length → strip (window size t place) = window size t place) ∧
        TrimmedAfter size overlap t (place + (size - overlap)) := by
  unfold TrimmedAfter
  constructor
  · intro trimmed
    refine ⟨fun reached => ?_, fun k reached => ?_⟩
    · have first := trimmed 0
      simp only [Nat.zero_mul, Nat.add_zero] at first
      exact first reached
    · have later := trimmed (k + 1)
      rw [Nat.succ_mul, Nat.add_comm (k * _), ← Nat.add_assoc] at later
      exact later reached
  · rintro ⟨first, later⟩ k reached
    cases k with
    | zero =>
      simp only [Nat.zero_mul, Nat.add_zero] at reached ⊢
      exact first reached
    | succ k =>
      rw [Nat.succ_mul, Nat.add_comm (k * _), ← Nat.add_assoc] at reached ⊢
      exact later k reached

variable (preserve) in
theorem turns_of_trimmed (advances : overlap < size) (fuel index place : Nat)
    (inside : place + overlap < document.content.length)
    (trimmed : TrimmedAfter size overlap document.content place)
    (enough : document.content.length < place + fuel) :
    ∃ c cs, turns preserve size overlap document fuel place index = .ok (some (c :: cs)) ∧
      c.content = window size document.content place ∧
      (∀ d ∈ c :: cs, d.content.length ≤ size) ∧
      c.content ++ (cs.map DocumentChunk.content).flatMap (List.drop overlap) =
        document.content.drop place := by
  induction fuel generalizing index place with
  | zero => omega
  | succ fuel ih =>
    obtain ⟨first, later⟩ := trimmedAfter_step.mp trimmed
    have length := length_window size document.content place
    have nonempty : window size document.content place ≠ [] := by
      rw [← List.length_pos_iff_ne_nil]
      omega
    obtain ⟨c, built, content⟩ := build_of_trimmed
      (document.id ++ "-chunk-" ++ toString index) document.id index
      (mergeMetadata preserve document index) nonempty (first inside)
    have short : c.content.length ≤ size := by
      rw [content, length]
      exact Nat.min_le_left _ _
    rw [turns_inside _ _ _ (by omega), built, Lib.ok_bind]
    by_cases last : document.content.length ≤ place + size
    · refine ⟨c, [], if_pos last, content, by simpa using short, ?_⟩
      rw [List.map_nil, List.flatMap_nil, List.append_nil, content]
      exact List.take_of_length_le (by rw [List.length_drop]; omega)
    · have next : ((place + size : Nat) : Int) - overlap = (place + (size - overlap) : Nat) := by
        omega
      rw [if_neg last, next]
      obtain ⟨d, ds, rest, content', short', joined⟩ :=
        ih (index + 1) _ (by omega) later (by omega)
      refine ⟨c, d :: ds, ?_, content, List.forall_mem_cons.mpr ⟨short, short'⟩, ?_⟩
      · rw [rest]
        rfl
      · have long : overlap ≤ d.content.length := by
          rw [content', length_window]
          omega
        calc c.content ++ ((d :: ds).map DocumentChunk.content).flatMap (List.drop overlap)
          _ = c.content ++ (d.content ++ (ds.map DocumentChunk.content).flatMap
                (List.drop overlap)).drop overlap := by
              rw [List.drop_append_of_le_length long]
              rfl
          _ = window size document.content place ++ document.content.drop (place + size) := by
              rw [joined, content, List.drop_drop]
              congr 2
              omega
          _ = document.content.drop place := by
              rw [window, ← List.drop_drop, List.take_append_drop]

theorem turns_ok {size fuel index : Nat} {overlap : Int} (inside : place < document.content.length)
    (done : turns preserve size overlap document fuel place index = .ok (some cs)) :
    ∃ c rest, cs = c :: rest ∧ c.content = strip (window size document.content place) ∧
      (document.content.length ≤ place + size ∧ rest = [] ∨
        place + size < document.content.length ∧ ∃ fuel', fuel = fuel' + 1 ∧
          turns preserve size overlap document fuel' ((place + size : Nat) - overlap) (index + 1) =
            .ok (some rest)) := by
  cases fuel with
  | zero => cases done
  | succ fuel =>
    rw [turns_inside _ _ _ inside] at done
    obtain ⟨c, built, done⟩ := Lib.bind_ok_iff.mp done
    by_cases last : document.content.length ≤ place + size
    · rw [if_pos last] at done
      cases done
      exact ⟨c, [], rfl, build_ok built, .inl ⟨last, rfl⟩⟩
    · rw [if_neg last] at done
      obtain ⟨chunks, turned, done⟩ := Lib.bind_ok_iff.mp done
      cases chunks with
      | none => cases done
      | some rest =>
        cases done
        exact ⟨c, rest, rfl, build_ok built, .inr ⟨Nat.lt_of_not_le last, fuel, rfl, turned⟩⟩

theorem length_strip_le (t : Text) : (strip t).length ≤ t.length := (strip_sublist t).length_le

theorem length_rest_le (advances : overlap < size) {fuel index : Nat}
    (place : Nat) (inside : place + overlap < document.content.length) {c : DocumentChunk}
    (done : turns preserve size overlap document fuel place index = .ok (some (c :: cs))) :
    ((cs.map DocumentChunk.content).flatMap (List.drop overlap)).length ≤
      document.content.length - (place + size) ∧
    (((cs.map DocumentChunk.content).flatMap (List.drop overlap)).length =
      document.content.length - (place + size) →
        TrimmedAfter size overlap document.content (place + (size - overlap))) := by
  induction fuel generalizing index place c cs with
  | zero => cases done
  | succ fuel ih =>
    obtain ⟨c, rest, same, content, last | further⟩ := turns_ok (by omega) done
    · obtain ⟨last, rfl⟩ := last
      cases same
      refine ⟨Nat.zero_le _, fun _ k reached => ?_⟩
      omega
    · obtain ⟨further, _, ⟨rfl⟩, turned⟩ := further
      cases same
      have next : ((place + size : Nat) : Int) - overlap = (place + (size - overlap) : Nat) := by
        omega
      rw [next] at turned
      obtain ⟨d, ds, rfl, content', _⟩ := turns_ok (by omega) turned
      obtain ⟨rest, trimmed⟩ := ih _ (by omega) turned
      -- the first of the others has what its own window has behind the overlap
      have short := length_strip_le (window size document.content (place + (size - overlap)))
      have length := length_window size document.content (place + (size - overlap))
      rw [← content'] at short
      rw [List.map_cons, List.flatMap_cons, List.length_append, List.length_drop]
      refine ⟨by omega, fun same => trimmedAfter_step.mpr ⟨fun reached => ?_, trimmed (by omega)⟩⟩
      exact strip_eq_of_length (by rw [← content']; omega)

theorem length_of_gap {size : Nat} {overlap : Int} (gap : overlap < 0) {fuel index : Nat}
    (done : turns preserve size overlap document fuel place index = .ok (some cs)) :
    (cs.map DocumentChunk.content).flatten.length ≤ document.content.length - place := by
  induction fuel generalizing index place cs with
  | zero => cases done
  | succ fuel ih =>
    by_cases inside : place < document.content.length
    · obtain ⟨c, rest, rfl, content, ends⟩ := turns_ok inside done
      have short := length_strip_le (window size document.content place)
      rw [← content, length_window] at short
      rw [List.map_cons, List.flatten_cons, List.length_append]
      cases ends with
      | inl last =>
        obtain ⟨_, rfl⟩ := last
        rw [List.map_nil, List.flatten_nil, List.length_nil]
        omega
      | inr further =>
        obtain ⟨_, _, ⟨rfl⟩, turned⟩ := further
        have next : ((place + size : Nat) : Int) - overlap =
            (place + size + overlap.natAbs : Nat) := by omega
        rw [next] at turned
        have rest := ih turned
        omega
    · rw [turns, if_pos (by omega)] at done
      cases done
      exact Nat.zero_le _

theorem turns_of_stuck {size overlap : Int} (stuck : size ≤ overlap)
    (more : size < document.content.length) (fuel index : Nat) {start : Int} (before : start ≤ 0)
    (cs : List DocumentChunk) :
    turns preserve size overlap document fuel start index ≠ .ok (some cs) := by
  induction fuel generalizing index start cs with
  | zero =>
    intro done
    cases done
  | succ fuel ih =>
    intro done
    have nonempty := List.length_pos_iff_ne_nil.mpr document.nonempty
    have stop : min (start + size) document.content.length = start + size := by omega
    simp only [turns, stop] at done
    rw [if_neg (by omega)] at done
    obtain ⟨c, _, done⟩ := Lib.bind_ok_iff.mp done
    rw [if_neg (by omega)] at done
    obtain ⟨chunks, turned, done⟩ := Lib.bind_ok_iff.mp done
    cases chunks with
    | none => cases done
    | some rest => exact ih (index + 1) (by omega) rest turned

theorem trimmedAfter_zero {t : Text} :
    TrimmedAfter size overlap t 0 ↔ Trimmed size overlap t := by
  unfold TrimmedAfter Trimmed window
  simp only [Nat.zero_add]

variable (preserve) in
theorem turns_of_chunkable {size overlap : Int}
    (chunkable : Chunkable size overlap document.content) {fuel : Nat}
    (enough : document.content.length < fuel) : ∃ cs,
      turns preserve size overlap document fuel 0 0 = .ok (some cs) ∧
        Keeps size overlap document cs := by
  have inside := List.length_pos_iff_ne_nil.mpr document.nonempty
  by_cases whole : (document.content.length : Int) ≤ size
  · -- the only window is the document, which is trimmed
    obtain ⟨size, rfl⟩ := Int.eq_ofNat_of_zero_le (Int.le_trans (Int.natCast_nonneg _) whole)
    have whole : document.content.length ≤ size := Int.ofNat_le.mp whole
    have window : window size document.content 0 = document.content :=
      List.take_of_length_le whole
    obtain ⟨c, built, content⟩ := build_of_trimmed
      (document.id ++ "-chunk-" ++ toString 0) document.id 0 (mergeMetadata preserve document 0)
      document.nonempty document.trimmed
    obtain ⟨fuel, rfl⟩ := Nat.exists_eq_succ_of_ne_zero (Nat.ne_zero_of_lt enough)
    refine ⟨[c], ?_, ?_, ?_⟩
    · refine (turns_inside overlap fuel 0 inside).trans ?_
      rw [window, built, Lib.ok_bind, if_pos (by omega)]
      rfl
    · simpa [content] using whole
    · rw [List.map_singleton, rebuilt, List.flatMap_nil, List.append_nil, content]
  · obtain ⟨nonneg, advances, trimmed⟩ := chunkable.resolve_left whole
    obtain ⟨overlap, rfl⟩ := Int.eq_ofNat_of_zero_le nonneg
    obtain ⟨size, rfl⟩ := Int.eq_ofNat_of_zero_le (Int.le_trans nonneg (Int.le_of_lt advances))
    obtain ⟨c, cs, done, _, short, joined⟩ := turns_of_trimmed preserve
      (Int.ofNat_lt.mp advances) fuel 0 0 (by omega) (trimmedAfter_zero.mpr trimmed) (by omega)
    exact ⟨c :: cs, done, fun d mem => Int.ofNat_le.mpr (short d mem), joined⟩

theorem chunkable_of_keeps {size overlap : Int} {fuel : Nat}
    (done : turns preserve size overlap document fuel 0 0 = .ok (some cs))
    (keeps : Keeps size overlap document cs) : Chunkable size overlap document.content := by
  have inside := List.length_pos_iff_ne_nil.mpr document.nonempty
  by_contra unchunkable
  obtain ⟨long, trimmed⟩ := not_or.mp unchunkable
  obtain ⟨short, joined⟩ := keeps
  have length := congrArg List.length joined
  by_cases stuck : size ≤ overlap
  · exact turns_of_stuck stuck (Int.not_le.mp long) fuel 0 (Int.le_refl 0) cs done
  · -- a chunk is not empty, so that there is a size
    have positive : 0 ≤ size := by
      by_contra negative
      cases cs with
      | nil =>
        rw [List.map_nil, rebuilt, List.length_nil] at length
        omega
      | cons c cs =>
        have := short c List.mem_cons_self
        omega
    obtain ⟨size, rfl⟩ := Int.eq_ofNat_of_zero_le positive
    obtain ⟨c, rest, rfl, content, ends⟩ := turns_ok inside done
    have first := length_strip_le (window size document.content 0)
    rw [← content, length_window] at first
    rw [List.map_cons, rebuilt, List.length_append] at length
    by_cases gap : overlap < 0
    · -- what lies between the first window and the second is in no chunk
      rw [Int.toNat_of_nonpos (Int.le_of_lt gap)] at length
      cases ends with
      | inl last => omega
      | inr further =>
        obtain ⟨_, _, _, turned⟩ := further
        have next : ((0 + size : Nat) : Int) - overlap = (size + overlap.natAbs : Nat) := by omega
        rw [next] at turned
        have others := length_of_gap gap turned
        have undropped : (rest.map DocumentChunk.content).flatMap (List.drop 0) =
            (rest.map DocumentChunk.content).flatten := List.flatMap_id
        rw [undropped] at length
        omega
    · obtain ⟨overlap, rfl⟩ := Int.eq_ofNat_of_zero_le (Int.not_lt.mp gap)
      rw [Int.toNat_natCast] at length
      simp only [Int.toNat_natCast] at trimmed
      clear ends
      obtain ⟨others, all⟩ := length_rest_le (by omega) 0 (by omega) done
      refine trimmed ⟨Int.natCast_nonneg _, by omega, ?_⟩
      refine trimmedAfter_zero.mp (trimmedAfter_step.mpr ⟨fun _ => ?_, all (by omega)⟩)
      exact strip_eq_of_length (by rw [← content, length_window]; omega)

end Turns

section Runs

variable {preserve : Option (List String)} {size overlap : Int} {fuel : Nat}

theorem chunkAll_ok {documents : List Document} {chunks : List DocumentChunk} :
    chunkAll preserve size overlap fuel documents = .ok (some chunks) ↔ ∃ owns,
      List.Forall₂ (fun d own => turns preserve size overlap d fuel 0 0 = .ok (some own))
        documents owns ∧ chunks = owns.flatten := by
  induction documents generalizing chunks with
  | nil =>
    constructor
    · intro done
      cases done
      exact ⟨[], .nil, rfl⟩
    · rintro ⟨_, ⟨⟩, rfl⟩
      rfl
  | cons document documents ih =>
    unfold chunkAll
    constructor
    · intro done
      obtain ⟨own, turned, done⟩ := Lib.bind_ok_iff.mp done
      cases own with
      | none => cases done
      | some own =>
        obtain ⟨rest, others, done⟩ := Lib.bind_ok_iff.mp done
        cases rest with
        | none => cases done
        | some rest =>
          cases done
          obtain ⟨owns, all, rfl⟩ := ih.mp others
          exact ⟨own :: owns, .cons turned all, rfl⟩
    · rintro ⟨_, all, rfl⟩
      cases all with
      | cons turned all =>
        rw [turned, Lib.ok_bind]
        simp only [ih.mpr ⟨_, all, rfl⟩, Lib.ok_bind]
        rfl

end Runs

namespace ChunkingStrategyNode

variable {parse : String → Option Int} {resolve : String → Json} {node : ChunkingStrategyNode}

def Lossless (parse : String → Option Int) (resolve : String → Json)
    (node : ChunkingStrategyNode) (documents : List Document) : Prop :=
  ∃ fuel size overlap owns, node.size parse resolve = .ok size ∧
    node.overlap parse resolve = .ok overlap ∧
    node.run parse resolve fuel documents = .ok (some owns.flatten) ∧
    List.Forall₂ (fun d own =>
      turns node.preserveMetadataKeys size overlap d fuel 0 0 = .ok (some own) ∧
        Keeps size overlap d own) documents owns

theorem run_ok {size overlap : Int} (sized : node.size parse resolve = .ok size)
    (overlapped : node.overlap parse resolve = .ok overlap) {documents : List Document}
    (some : documents ≠ []) (fuel : Nat) : node.run parse resolve fuel documents =
      chunkAll node.preserveMetadataKeys size overlap fuel documents := by
  unfold run
  rw [if_neg some, sized, overlapped]
  rfl

/-- Chunking ends and loses nothing just where both settings are integers and every document is
chunkable by them. -/
theorem lossless_iff_chunkable (parse : String → Option Int) (resolve : String → Json)
    (node : ChunkingStrategyNode) (documents : List Document) :
    Lossless parse resolve node documents ↔ documents ≠ [] ∧ ∃ size overlap,
      node.size parse resolve = .ok size ∧ node.overlap parse resolve = .ok overlap ∧
      ∀ d ∈ documents, Chunkable size overlap d.content := by
  constructor
  · rintro ⟨fuel, size, overlap, owns, sized, overlapped, ran, keeps⟩
    have some : documents ≠ [] := by
      rintro rfl
      cases ran
    refine ⟨some, size, overlap, sized, overlapped, fun d mem => ?_⟩
    obtain ⟨own, _, done, kept⟩ := Lib.forall₂_exists_left keeps mem
    exact chunkable_of_keeps done kept
  · rintro ⟨some, size, overlap, sized, overlapped, chunkable⟩
    obtain ⟨fuel, enough⟩ : ∃ fuel, ∀ d ∈ documents, d.content.length < fuel :=
      ⟨_, fun d mem => Nat.lt_succ_of_le
        (Dict.le_foldr_max (List.mem_map_of_mem (f := fun d : Document => d.content.length) mem))⟩
    obtain ⟨owns, all⟩ := Lib.exists_forall₂ fun d mem => turns_of_chunkable
      node.preserveMetadataKeys (chunkable d mem) (enough d mem)
    refine ⟨fuel, size, overlap, owns, sized, overlapped, ?_, all⟩
    rw [run_ok sized overlapped some]
    exact chunkAll_ok.mpr ⟨owns, all.imp fun _ _ own => own.1, rfl⟩

end ChunkingStrategyNode

def eighty : ChunkingStrategyNode where
  chunkSize := .int 80
  valid := rfl

def longText : Document where
  id := "long"
  content := List.replicate 81 'a'
  trimmed := by decide +kernel
  nonempty := List.replicate_succ_ne_nil

theorem longText_not_lossless :
    ¬ ∀ (parse : String → Option Int) (resolve : String → Json) (node : ChunkingStrategyNode)
      (documents : List Document), documents ≠ [] → node.Lossless parse resolve documents := by
  intro all
  obtain ⟨fuel, size, overlap, owns, sized, overlapped, _, keeps⟩ :=
    all (fun _ => none) .str eighty [longText] (List.cons_ne_nil _ _)
  cases sized
  cases overlapped
  obtain ⟨own, _, done, kept⟩ := Lib.forall₂_exists_left keeps (List.mem_singleton_self _)
  have length : longText.content.length = 81 := List.length_replicate
  cases chunkable_of_keeps done kept with
  | inl short => omega
  | inr advances => omega

end Orcheo.Rag
