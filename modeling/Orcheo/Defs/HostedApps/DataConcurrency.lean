import Orcheo.Lib.Except
import Orcheo.Lib.Versioned
import Orcheo.Defs.HostedApps.Data

/-! Conditional writes of documents: while a document is not deleted, a write that expects the
version that was read meets the document that was read. -/

namespace Orcheo.HostedApps

open Lib (Dict Cell AllSteps bind_ok_iff)
open Repository (TextRuntime)

def DataCall.expectedVersion : DataCall → Option Int
  | put _ _ _ expectedVersion _ => expectedVersion
  | delete _ _ expectedVersion => expectedVersion
  | _ => none

namespace AppDataService

variable (rt : DataRuntime) (s : AppDataService)

def deletes : DataCall → Option Document
  | .delete at_ key expectedVersion => match at_.document rt true key,
      (s.delete rt at_ key expectedVersion).2 with
    | .ok document, .ok true => some document
    | _, _ => none
  | _ => none

def writes : DataCall → Option Document
  | .put at_ key value expectedVersion id =>
    (s.put rt at_ key value expectedVersion id).2.toOption.map AppRecord.document
  | c => s.deletes rt c

def shows : DataCall → List AppRecord
  | .put at_ key value expectedVersion id =>
    (s.put rt at_ key value expectedVersion id).2.toOption.toList
  | .get at_ key => ((s.get rt at_ key).toOption.bind id).toList
  | .list at_ cursor limit => ((s.list rt at_ cursor limit).toOption.map Prod.fst).getD []
  | .delete _ _ _ => []

/-- What a call writes, what it deletes, and the state that it leaves. -/
inductive Effect (s : AppDataService) : Option Document → Option Document → AppDataService → Prop
  | none : Effect s none none s
  | put (record : AppRecord) (version : record.version = ((s.records.get? record.document).map
      (fun (c : AppRecord) => c.version + 1)).getD 1) :
      Effect s (some record.document) none
        { s with records := s.records.set record.document record }
  | delete (document : Document) (current : AppRecord)
      (there : s.records.get? document = some current) :
      Effect s (some document) (some document) { s with records := s.records.erase document }

def Filed (s : AppDataService) : Prop :=
  ∀ d record, s.records.get? d = some record → record.document = d

variable {rt} {s} {s' : AppDataService} {at_ : DataCaller} {key : String} {value : Json}
  {expectedVersion : Option Int} {id : Uuid} {record : AppRecord} {d : Document}

theorem newRecord_ok (h : s.newRecord rt at_ key value expectedVersion id = .ok record) :
    record.version = ((s.records.get? record.document).map
      (fun (c : AppRecord) => c.version + 1)).getD 1 ∧
    ∀ v, expectedVersion = some v → ∃ current, s.records.get? record.document = some current ∧
      (current.version : Int) = v := by
  obtain ⟨_, _, h⟩ := bind_ok_iff.mp h
  obtain ⟨owner, _, h⟩ := bind_ok_iff.mp h
  obtain ⟨key, _, h⟩ := bind_ok_iff.mp h
  obtain ⟨sizeBytes, _, h⟩ := bind_ok_iff.mp h
  split at h
  next => cases h
  next =>
    dsimp only at h
    split at h
    next => cases h
    next fresh =>
      split at h
      next => cases h
      next =>
        cases h
        refine ⟨rfl, ?_⟩
        rintro v rfl
        rw [Option.any_some] at fresh
        change ∃ current, s.records.get? ⟨at_.appId, at_.collection.id, owner, key⟩ = _ ∧ _
        cases there : s.records.get? ⟨at_.appId, at_.collection.id, owner, key⟩ with
        | none =>
          rw [there] at fresh
          exact absurd rfl fresh
        | some current =>
          rw [there] at fresh
          exact ⟨current, rfl, by simpa using fresh⟩

theorem effect_put : Effect s (s.writes rt (.put at_ key value expectedVersion id)) none
    (s.step rt (.put at_ key value expectedVersion id)) := by
  rw [writes, step, put]
  cases stored : s.newRecord rt at_ key value expectedVersion id with
  | error e => exact .none
  | ok record => exact .put record (newRecord_ok stored).1

theorem delete_cases : (s.deletes rt (.delete at_ key expectedVersion) = none ∧
      (s.delete rt at_ key expectedVersion).1 = s) ∨ ∃ document current,
    s.deletes rt (.delete at_ key expectedVersion) = some document ∧
      s.records.get? document = some current ∧
      (∀ v, expectedVersion = some v → (current.version : Int) = v) ∧
      (s.delete rt at_ key expectedVersion).1 =
        { s with records := s.records.erase document } := by
  rw [deletes, delete]
  cases at_.document rt true key with
  | error e => exact Or.inl ⟨rfl, rfl⟩
  | ok document =>
    dsimp only
    cases there : s.records.get? document with
    | none => exact Or.inl ⟨rfl, rfl⟩
    | some current =>
      dsimp only
      by_cases stale : expectedVersion.any (fun v => decide ((current.version : Int) ≠ v)) = true
      · rw [if_pos stale]
        exact Or.inl ⟨rfl, rfl⟩
      · rw [if_neg stale]
        refine Or.inr ⟨document, current, rfl, there, ?_, rfl⟩
        rintro v rfl
        simpa using stale

theorem effect_delete : Effect s (s.deletes rt (.delete at_ key expectedVersion))
    (s.deletes rt (.delete at_ key expectedVersion))
    (s.step rt (.delete at_ key expectedVersion)) := by
  rw [step]
  cases delete_cases with
  | inl failed =>
    rw [failed.1, failed.2]
    exact .none
  | inr deleted =>
    obtain ⟨document, current, deletes, there, _, written⟩ := deleted
    rw [deletes, written]
    exact .delete document current there

theorem effect (c : DataCall) : Effect s (s.writes rt c) (s.deletes rt c) (s.step rt c) := by
  cases c with
  | put => exact effect_put
  | delete => exact effect_delete
  | get => exact .none
  | list => exact .none

theorem expected_version {c : DataCall} {v : Int} (expects : c.expectedVersion = some v)
    (writes : s.writes rt c = some d) :
    ∃ current, s.records.get? d = some current ∧ (current.version : Int) = v := by
  cases c with
  | put at_ key value expectedVersion id =>
    rw [AppDataService.writes, put] at writes
    cases stored : s.newRecord rt at_ key value expectedVersion id with
    | error e =>
      rw [stored] at writes
      cases writes
    | ok record =>
      rw [stored] at writes
      cases writes
      exact (newRecord_ok stored).2 v expects
  | delete at_ key expectedVersion =>
    change s.deletes rt (.delete at_ key expectedVersion) = some d at writes
    cases (delete_cases : (s.deletes rt (.delete at_ key expectedVersion) = none ∧ _) ∨ _) with
    | inl failed =>
      rw [failed.1] at writes
      cases writes
    | inr deleted =>
      obtain ⟨document, current, deletes, there, same, _⟩ := deleted
      rw [deletes, Option.some.injEq] at writes
      rw [← writes]
      exact ⟨current, there, same v expects⟩
  | get => cases expects
  | list => cases expects

variable {written deleted : Option Document}

theorem Filed.after (filed : s.Filed) (done : Effect s written deleted s') : s'.Filed := by
  intro d record there
  cases done with
  | none => exact filed d record there
  | put new =>
    obtain ⟨here, rfl⟩ | ⟨-, there⟩ := Dict.of_get?_set there
    · exact here.symm
    · exact filed d record there
  | delete document =>
    rw [Dict.get?_erase] at there
    split at there
    next => cases there
    next => exact filed d record there

def cell (s : AppDataService) (d : Document) : Cell AppRecord :=
  (s.records.get? d).map (fun record => (record.version, record))

theorem cell_eq_some :
    s.cell d = some (record.version, record) ↔ s.records.get? d = some record := by
  simp only [cell, Option.map_eq_some_iff, Prod.mk.injEq]
  constructor
  · rintro ⟨stored, there, -, rfl⟩
    exact there
  · intro there
    exact ⟨record, there, rfl, rfl⟩

section

variable (done : Effect s written deleted s')
include done

theorem cell_step :
    Cell.Step (s.cell d) (s'.cell d) := by
  cases done with
  | none => exact .kept
  | put new version =>
    by_cases here : d = new.document
    · subst here
      simp only [cell, Dict.get?_set, if_true, Option.map_some]
      cases there : s.records.get? new.document with
      | none => exact .created
      | some current =>
        rw [there] at version
        rw [version]
        exact .written
    · simp only [cell, Dict.get?_set, if_neg here]
      exact .kept
  | delete document current there =>
    by_cases here : d = document
    · subst here
      simp only [cell, there, Dict.get?_erase, if_true, Option.map_some, Option.map_none]
      exact .deleted
    · simp only [cell, Dict.get?_erase, if_neg here]
      exact .kept

theorem writes_ne_iff :
    written ≠ some d ↔ s'.cell d = s.cell d := by
  cases done with
  | none => simp
  | put new version =>
    by_cases here : d = new.document
    · subst here
      simp only [ne_eq, not_true_eq_false, false_iff]
      intro same
      have there : s.records.get? new.document = some new := by
        apply cell_eq_some.mp
        rw [← same]
        simp [cell]
      rw [there] at version
      exact Nat.succ_ne_self _ version.symm
    · simp [cell, Dict.get?_set, here, Ne.symm here]
  | delete document current there =>
    by_cases here : d = document
    · subst here
      simp [cell, there]
    · simp [cell, here, Ne.symm here]

theorem deletes_ne_iff :
    deleted ≠ some d ↔ (s'.cell d = none → s.cell d = none) := by
  cases done with
  | none => simp
  | put new version =>
    by_cases here : d = new.document
    · simp [cell, here]
    · simp [cell, here]
  | delete document current there =>
    by_cases here : d = document
    · subst here
      simp [cell, there]
    · simp [cell, here, Ne.symm here]

end

theorem mem_owned_of_list {cursor : Option String} {limit : Int}
    {result : List AppRecord × Option String} (h : s.list rt at_ cursor limit = .ok result)
    (mem : record ∈ result.1) : ∃ owner, record ∈ s.owned at_.appId at_.collection.id owner := by
  obtain ⟨_, _, h⟩ := bind_ok_iff.mp h
  obtain ⟨owner, _, h⟩ := bind_ok_iff.mp h
  obtain ⟨startAfter, _, h⟩ := bind_ok_iff.mp h
  dsimp only at h
  generalize entries : ((s.owned at_.appId at_.collection.id owner).filter _).mergeSort _ =
    sorted at h
  generalize cut : sorted.take _ = page at h
  have paged : result.1 = page := by
    split at h
    next =>
      cases last : page.getLast? with
      | none =>
        rw [last] at h
        cases h
      | some record =>
        rw [last] at h
        cases h
        rfl
    next =>
      cases h
      rfl
  rw [paged, ← cut] at mem
  have sorted := List.mem_of_mem_take mem
  rw [← entries, List.mem_mergeSort] at sorted
  exact ⟨owner, List.mem_of_mem_filter sorted⟩

theorem stored_of_shows (filed : s.Filed) {c : DataCall} (shown : record ∈ s.shows rt c) :
    (s.step rt c).records.get? record.document = some record := by
  cases c with
  | put at_ key value expectedVersion id =>
    rw [shows, put] at shown
    rw [step, put]
    cases stored : s.newRecord rt at_ key value expectedVersion id with
    | error e =>
      rw [stored] at shown
      cases shown
    | ok new =>
      rw [stored] at shown
      have same : record = new := List.mem_singleton.mp shown
      rw [same]
      exact (Dict.get?_set ..).trans (if_pos rfl)
  | get at_ key =>
    rw [shows, get] at shown
    cases document : at_.document rt false key with
    | error e =>
      rw [document] at shown
      cases shown
    | ok d =>
      rw [document] at shown
      have there : s.records.get? d = some record := Option.mem_toList.mp shown
      rw [filed d record there]
      exact there
  | list at_ cursor limit =>
    rw [shows] at shown
    cases listed : s.list rt at_ cursor limit with
    | error e =>
      rw [listed] at shown
      cases shown
    | ok result =>
      rw [listed] at shown
      obtain ⟨owner, mem⟩ := mem_owned_of_list listed shown
      obtain ⟨d, there⟩ := (Dict.mem_values_iff _ _).mp (List.mem_of_mem_filter mem)
      rw [filed d record there]
      exact there
  | delete => cases shown

end AppDataService

open AppDataService (writes step deletes)

open AppDataService in
/-- Through every history of calls: where a call showed a record, and a later write or deletion of
its document that expects the version shown succeeds, the document has not been written between
the two and the record that was shown is the one that goes, exactly where the document has not been
deleted between them. -/
theorem data_optimistic_concurrency (rt : DataRuntime) (limits : DataLimits)
    (before between : List DataCall) (reading writing : DataCall) (record : AppRecord) :
    let step := step rt
    let s := before.foldl step { limits := limits }
    let s' := between.foldl step (step s reading)
    record ∈ s.shows rt reading → writing.expectedVersion = some record.version →
    s'.writes rt writing = some record.document →
    ((AllSteps step (fun s c => s.writes rt c ≠ some record.document) (step s reading) between ∧
        s'.records.get? record.document = some record) ↔
      AllSteps step (fun s c => s.deletes rt c ≠ some record.document) (step s reading)
        between) := by
  intro step s s' shown expects succeeded
  have filed : s.Filed := Lib.foldl_invariant (P := Filed) (fun _ c filed => filed.after (effect c))
    (fun d record there => by simp at there) before
  have start := stored_of_shows filed shown
  have writes : (fun s c => writes rt s c ≠ some record.document) =
      fun s c => (step s c).cell record.document = s.cell record.document := by
    funext s c
    exact propext (writes_ne_iff (effect c))
  have deletes : (fun s c => deletes rt s c ≠ some record.document) =
      fun s c => (step s c).cell record.document = none → s.cell record.document = none := by
    funext s c
    exact propext (deletes_ne_iff (effect c))
  rw [writes, deletes]
  constructor
  · rintro ⟨kept, -⟩
    refine kept.of_invariant (P := fun _ => True) ?_ trivial
    intro s c _ same
    refine ⟨trivial, fun gone => ?_⟩
    rw [← same]
    exact gone
  · intro undeleted
    obtain ⟨current, there, same⟩ := expected_version expects succeeded
    have one := Cell.version_le (I := fun _ => True) (fun s : AppDataService =>
      s.cell record.document) (fun _ _ _ => trivial)
      (fun _ c _ => cell_step (effect c)) trivial (cell_eq_some.mpr start)
      (cell_eq_some.mpr there) undeleted
    obtain ⟨unwritten, value⟩ := one.2 (Int.ofNat.inj same)
    rw [value] at there
    exact ⟨unwritten, there⟩

def DataRuntime.numbers : DataRuntime where
  strip := TextRuntime.ascii.strip
  dumps
    | .int n => some (toString n).length
    | _ => none
  encodeCursor := id
  decodeCursor := some

def DataCaller.shared : DataCaller where
  collection :=
    { id := 3, appId := 2, workspaceId := 1, name := "scores", scope := "shared",
      readAccess := "public", writeAccess := "public", maxDocumentBytes := 64, maxRecords := 8 }
  workspaceId := 1
  appId := 2

open AppDataService DataCaller in
theorem data_optimistic_concurrency_replaced :
    let step := step .numbers
    let s : AppDataService := [DataCall.put shared "ada" (.int 1) none 5].foldl step {}
    let s' := [DataCall.put shared "bob" (.int 2) none 6].foldl step (step s (.get shared "ada"))
    s'.records.get? ⟨2, 3, "", "ada"⟩ = some ⟨5, 1, 2, 3, "", "ada", .int 1, 1, 1⟩ :=
  ((data_optimistic_concurrency .numbers {} [.put shared "ada" (.int 1) none 5]
    [.put shared "bob" (.int 2) none 6] (.get shared "ada") (.put shared "ada" (.int 3) (some 1) 7)
    ⟨5, 1, 2, 3, "", "ada", .int 1, 1, 1⟩ (by decide) rfl (by decide)).mpr (by decide)).2

open AppDataService DataCaller in
theorem recreated_document_overwritten : ¬ ∀ (rt : DataRuntime) (limits : DataLimits)
    (before between : List DataCall) (reading writing : DataCall) (record : AppRecord),
    let step := step rt
    let s := before.foldl step { limits := limits }
    let s' := between.foldl step (step s reading)
    record ∈ s.shows rt reading → writing.expectedVersion = some record.version →
    s'.writes rt writing = some record.document →
    AllSteps step (fun s c => s.writes rt c ≠ some record.document) (step s reading) between := by
  intro unwritten
  have h := unwritten .numbers {} [.put shared "ada" (.int 1) none 5]
    [.delete shared "ada" none, .put shared "ada" (.int 2) none 6] (.get shared "ada")
    (.put shared "ada" (.int 3) (some 1) 7) ⟨5, 1, 2, 3, "", "ada", .int 1, 1, 1⟩ (by decide) rfl
    (by decide)
  exact absurd h.1 (by decide)

end Orcheo.HostedApps
