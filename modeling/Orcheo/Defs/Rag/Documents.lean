import Mathlib.Data.List.DropRight
import Orcheo.Defs.Values
import Orcheo.Lib.Lines

/-! Documents and the chunks that are made of them. -/

namespace Orcheo.Rag

open Lib (Dict)
open Lib.Lines (isspace)

abbrev Text := List Char

def strip (t : Text) : Text := (t.dropWhile isspace).rdropWhile isspace

structure Document where
  id : String
  content : Text
  metadata : Dict String Json := ∅
  source : Option String := none
  trimmed : strip content = content
  nonempty : content ≠ []

structure DocumentChunk where
  id : String
  documentId : String
  index : Nat
  content : Text
  metadata : Dict String Json := ∅
  trimmed : strip content = content
  nonempty : content ≠ []

inductive IngestionError
  | int (e : Json.IntError)
  /-- a `ValueError` -/
  | value (message : String)
  /-- what a field of a model refuses -/
  | validation (field : String)
  deriving DecidableEq, Repr

section Strip

theorem strip_sublist (t : Text) : (strip t).Sublist t :=
  (List.rdropWhile_prefix isspace _).sublist.trans (List.dropWhile_sublist _)

theorem strip_eq_of_length {t : Text} (same : t.length ≤ (strip t).length) : strip t = t :=
  (strip_sublist t).eq_of_length_le same

theorem strip_strip (t : Text) : strip (strip t) = strip t := by
  have front : (strip t).dropWhile isspace = strip t := by
    cases given : strip t with
    | nil => rfl
    | cons c cs =>
      -- what is trimmed at its end begins as the text that is only trimmed at its beginning
      have begins : strip t <+: t.dropWhile isspace := List.rdropWhile_prefix isspace _
      rw [given] at begins
      obtain ⟨rest, whole⟩ := begins
      have first := List.head?_dropWhile_not isspace t
      rw [← whole] at first
      rw [List.dropWhile_cons_of_neg (by simpa using first)]
  unfold strip at front ⊢
  rw [front]
  exact List.rdropWhile_idempotent isspace _

end Strip

def DocumentChunk.build (id documentId : String) (index : Nat) (content : Text)
    (metadata : Dict String Json) : Except IngestionError DocumentChunk :=
  if content = [] then .error (.validation "content")
  else if empty : strip content = [] then
    .error (.value "Chunk content cannot be empty after trimming whitespace")
  else .ok {
    id := id
    documentId := documentId
    index := index
    content := strip content
    metadata := metadata
    trimmed := strip_strip content
    nonempty := empty }

end Orcheo.Rag
