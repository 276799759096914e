import Orcheo.Lib.Base64
import Orcheo.Lib.Paging
import Orcheo.Lib.Run
import Orcheo.Defs.HostedApps.DataConcurrency

/-! Pages of the documents of an owner: a cursor names the key of the last one that was shown. -/

namespace Orcheo.HostedApps

open Lib (Dict Base64.encode Base64.decode Base64.unpadded Base64.padding Paging.follow
  Paging.Left bind_ok_iff)

/-- `base64.urlsafe_b64encode(key.encode()).decode().rstrip("=")` -/
def encodeCursor (key : String) : String :=
  String.ofList (Base64.unpadded (Base64.encode key.toUTF8.data.toList))

/-- `base64.urlsafe_b64decode(cursor + padding).decode()`, where all of it can be read. -/
def decodeCursor (cursor : String) : Option String :=
  if cursor.toList.all (fun c => decide (c.toNat < 128)) then
    (Base64.decode (cursor.toList ++ Base64.padding cursor.toList)).bind fun bytes =>
      String.fromUTF8? ⟨bytes.toArray⟩
  else none

/-- The service's own cursors, with the rest of the language as it may be. -/
def DataRuntime.urlsafe (strip : String → String) (dumps : Json → Option Nat) : DataRuntime :=
  ⟨strip, dumps, HostedApps.encodeCursor, HostedApps.decodeCursor⟩

section Cursors

theorem fromUTF8?_toUTF8 (key : String) : String.fromUTF8? key.toUTF8 = some key := by
  unfold String.fromUTF8?
  exact dif_pos (show key.toUTF8.IsValidUTF8 from key.isValidUTF8)

theorem decodeCursor_encodeCursor (key : String) : decodeCursor (encodeCursor key) = some key := by
  unfold decodeCursor encodeCursor
  rw [String.toList_ofList, if_pos]
  · rw [Lib.Base64.decode_padded, Option.bind_some, Array.toArray_toList]
    exact fromUTF8?_toUTF8 key
  · rw [List.all_eq_true]
    intro c mem
    exact decide_eq_true (Lib.Base64.ascii_encode (Lib.Base64.mem_of_mem_unpadded mem))

example : encodeCursor "ada" = "YWRh" := by decide +kernel

theorem encodeCursor_ne_empty {key : String} (some : key ≠ "") : encodeCursor key ≠ "" := by
  intro none
  have read := decodeCursor_encodeCursor key
  rw [none] at read
  have empty : decodeCursor "" = Option.some "" := decodeCursor_encodeCursor ""
  exact some (Option.some.inj (read.symm.trans empty))

end Cursors

namespace AppDataService

variable {rt : DataRuntime} {s : AppDataService}

def Named (s : AppDataService) : Prop :=
  ∀ d record, s.records.get? d = some record → record.key ≠ ""

theorem key_of_normalizeKey {value key : String} (normal : normalizeKey rt value = .ok key) :
    key ≠ "" := by
  intro none
  unfold normalizeKey at normal
  by_cases refused : rt.strip value = "" ∨ 256 < (rt.strip value).length ∨
      (rt.strip value).toList.any (fun c => decide (c.toNat < 32)) = true
  · simp only [if_pos refused] at normal
    cases normal
  · simp only [if_neg refused] at normal
    cases normal
    exact refused (.inl none)

theorem key_of_newRecord {at_ : DataCaller} {key : String} {value : Json}
    {expectedVersion : Option Int} {id : Uuid} {record : AppRecord}
    (stored : s.newRecord rt at_ key value expectedVersion id = .ok record) :
    record.key ≠ "" := by
  obtain ⟨_, _, stored⟩ := bind_ok_iff.mp stored
  obtain ⟨owner, _, stored⟩ := bind_ok_iff.mp stored
  obtain ⟨key, normal, stored⟩ := bind_ok_iff.mp stored
  obtain ⟨sizeBytes, _, stored⟩ := bind_ok_iff.mp stored
  split at stored
  next => cases stored
  next =>
    dsimp only at stored
    split at stored
    next => cases stored
    next =>
      split at stored
      next => cases stored
      next =>
        cases stored
        exact key_of_normalizeKey normal

theorem Named.step (named : s.Named) (c : DataCall) : (s.step rt c).Named := by
  cases c with
  | put at_ key value expectedVersion id =>
    rw [AppDataService.step, put]
    cases stored : s.newRecord rt at_ key value expectedVersion id with
    | error e => exact named
    | ok new =>
      intro d record there
      obtain ⟨-, rfl⟩ | ⟨-, there⟩ := Dict.of_get?_set there
      · exact key_of_newRecord stored
      · exact named d record there
  | get => exact named
  | list => exact named
  | delete at_ key expectedVersion =>
    rw [AppDataService.step]
    cases @delete_cases rt _ _ _ _ with
    | inl failed =>
      rw [failed.2]
      exact named
    | inr deleted =>
      obtain ⟨document, _, _, _, _, written⟩ := deleted
      rw [written]
      intro d record there
      rw [Dict.get?_erase] at there
      split at there
      next => cases there
      next => exact named d record there

section Owned

variable {appId collectionId : Uuid} {owner : String}

def keyLe (a b : AppRecord) : Bool := decide (a.key ≤ b.key)

theorem keyLe_trans (a b c : AppRecord) (ab : keyLe a b = true) (bc : keyLe b c = true) :
    keyLe a c = true :=
  decide_eq_true (String.le_trans (of_decide_eq_true ab) (of_decide_eq_true bc))

theorem keyLe_total (a b : AppRecord) : (keyLe a b || keyLe b a) = true := by
  rw [Bool.or_eq_true]
  exact (String.le_total a.key b.key).imp decide_eq_true decide_eq_true

theorem lt_iff_not_keyLe {a b : AppRecord} : b.key < a.key ↔ keyLe a b = false := by
  rw [keyLe, decide_eq_false_iff_not, String.not_le]

theorem nodup_owned (filed : s.Filed) : (s.owned appId collectionId owner).Nodup :=
  ((Dict.KeyedBy.nodup_values filed).of_map _).filter _

theorem owned_antisymm (filed : s.Filed) (a : AppRecord)
    (memA : a ∈ s.owned appId collectionId owner) (b : AppRecord)
    (memB : b ∈ s.owned appId collectionId owner) (ab : keyLe a b = true) (ba : keyLe b a = true) :
    a = b := by
  obtain ⟨storedA, hereA⟩ := List.mem_filter.mp memA
  obtain ⟨storedB, hereB⟩ := List.mem_filter.mp memB
  obtain ⟨appA, collectionA, ownerA⟩ := of_decide_eq_true hereA
  obtain ⟨appB, collectionB, ownerB⟩ := of_decide_eq_true hereB
  have key : a.key = b.key := String.le_antisymm (of_decide_eq_true ab) (of_decide_eq_true ba)
  have same : a.document = b.document := by
    unfold AppRecord.document
    rw [appA, collectionA, ownerA, key, appB, collectionB, ownerB]
  exact List.inj_on_of_nodup_map (Dict.KeyedBy.nodup_values filed) storedA storedB same

variable {strip : String → String} {dumps : Json → Option Nat}

theorem entries_of_left (filed : s.Filed)
    (named : s.Named) {cursor : Option String} {left : List AppRecord}
    (stands : Paging.Left ((s.owned appId collectionId owner).mergeSort keyLe)
      (fun record => encodeCursor record.key) cursor left) :
    ∃ after, startAfter (.urlsafe strip dumps) cursor = .ok after ∧
      ((s.owned appId collectionId owner).filter (fun record =>
        after.all (fun after => decide (after < record.key)))).mergeSort keyLe = left := by
  rcases stands with ⟨first, all⟩ | ⟨before, last, split, next⟩
  · rw [first, all]
    exact ⟨none, rfl, congrArg (List.mergeSort · keyLe) (List.filter_eq_self.mpr fun _ _ => rfl)⟩
  · have mem : last ∈ s.owned appId collectionId owner := by
      rw [← List.mem_mergeSort, split]
      exact List.mem_append_right _ List.mem_cons_self
    obtain ⟨d, stored⟩ := (Dict.mem_values_iff _ _).mp (List.mem_of_mem_filter mem)
    have some := encodeCursor_ne_empty (named d last stored)
    refine ⟨.some last.key, ?_, ?_⟩
    · unfold startAfter
      rw [next]
      simp only
      rw [if_neg some, show (DataRuntime.urlsafe strip dumps).decodeCursor _ = _ from
        decodeCursor_encodeCursor last.key]
    · rw [← Lib.Paging.mergeSort_after keyLe_trans keyLe_total (nodup_owned filed)
        (owned_antisymm filed) split]
      congr 2
      funext record
      rw [Option.all_some, Bool.eq_iff_iff, decide_eq_true_iff, lt_iff_not_keyLe,
        Bool.not_eq_true']

theorem list_of_left (filed : s.Filed)
    (named : s.Named) {at_ : DataCaller} {owner : String} {limit : Nat} (positive : 0 < limit)
    (inScope : at_.ensureCollectionScope = .ok ()) (owned : at_.owner false = .ok owner)
    (cursor : Option String) (left : List AppRecord)
    (stands : Paging.Left ((s.owned at_.appId at_.collection.id owner).mergeSort keyLe)
      (fun record => encodeCursor record.key) cursor left) :
    s.list (.urlsafe strip dumps) at_ cursor limit = .ok (left.take limit,
      if limit < left.length then
        (left.take limit).getLast?.map fun record => encodeCursor record.key
      else none) := by
  obtain ⟨after, found, entries⟩ := @entries_of_left _ _ _ _ strip dumps filed named _ _ stands
  unfold list
  rw [inScope, Lib.ok_bind, owned, Lib.ok_bind, found, Lib.ok_bind]
  unfold keyLe at entries
  rw [entries]
  simp only [Int.natCast_nonneg, if_true, Int.toNat_natCast, Int.ofNat_lt]
  by_cases more : limit < left.length
  · have some : left.take limit ≠ [] := by
      rw [← List.length_pos_iff_ne_nil, List.length_take]
      omega
    rw [if_pos more, if_pos more, List.getLast?_eq_some_getLast some]
    rfl
  · rw [if_neg more, if_neg more]
    rfl

end Owned

end AppDataService

open AppDataService in
/-- Following the cursors from the first page on gives the owner's documents of a collection, each
once and by key, whatever calls have come before. -/
theorem data_pages_exhaustive (strip : String → String) (dumps : Json → Option Nat)
    (limits : DataLimits) (calls : List DataCall) (at_ : DataCaller) (owner : String)
    (limit : Int) :
    let rt := DataRuntime.urlsafe strip dumps
    let s := calls.foldl (AppDataService.step rt) { limits := limits }
    at_.ensureCollectionScope = .ok () → at_.owner false = .ok owner → 1 ≤ limit →
    (∃ records, records.Perm (s.owned at_.appId at_.collection.id owner) ∧
      records.Pairwise (fun a b => a.key < b.key) ∧
      ∀ fuel, records.length < fuel →
        Paging.follow (fun cursor => s.list rt at_ cursor limit) fuel none =
          .ok (some records)) ∧
    ∀ key, rt.decodeCursor (rt.encodeCursor key) = some key := by
  intro rt s inScope owned positive
  have filed : s.Filed := Lib.foldl_invariant (P := Filed) (fun _ c filed => filed.after (effect c))
    (fun d record there => by simp at there) calls
  have named : s.Named := Lib.foldl_invariant (P := Named) (fun _ c named => named.step c)
    (fun d record there => by simp at there) calls
  obtain ⟨limit, rfl⟩ := Int.eq_ofNat_of_zero_le (Int.le_trans (by decide) positive)
  have positive : 0 < limit := Int.ofNat_lt.mp positive
  refine ⟨⟨(s.owned at_.appId at_.collection.id owner).mergeSort keyLe, List.mergeSort_perm _ _,
    ?_, fun fuel enough => ?_⟩, decodeCursor_encodeCursor⟩
  · exact (Lib.Paging.pairwise_mergeSort_lt keyLe_trans keyLe_total (nodup_owned filed)
      (owned_antisymm filed)).imp fun both => lt_iff_not_keyLe.mpr both.2
  · exact (Lib.Paging.serves_of_left positive
      (list_of_left filed named positive inScope owned)).follow_eq positive (.inl ⟨rfl, rfl⟩) enough

open DataCaller in
theorem data_pages_exhaustive_shared :
    let rt := DataRuntime.urlsafe Repository.TextRuntime.ascii.strip DataRuntime.numbers.dumps
    let s := [DataCall.put shared "bob" (.int 2) none 5,
      DataCall.put shared "ada" (.int 1) none 6].foldl (AppDataService.step rt) {}
    ∃ records, records.Perm (s.owned 2 3 "") ∧
      records.Pairwise (fun a b => a.key < b.key) ∧
      ∀ fuel, records.length < fuel →
        Paging.follow (fun cursor => s.list rt shared cursor 1) fuel none =
          .ok (some records) :=
  (data_pages_exhaustive Repository.TextRuntime.ascii.strip DataRuntime.numbers.dumps {}
    [.put shared "bob" (.int 2) none 5, .put shared "ada" (.int 1) none 6] shared "" 1 rfl rfl
    (by decide)).1

end Orcheo.HostedApps
