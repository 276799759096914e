import Orcheo.Defs.Repository.InMemory

/-! What the handle indexes hold, as a function of the stored workflows. -/

namespace Orcheo.Repository

open Lib (Dict)

variable {archived : Bool} {x : Uuid} {workflows : Dict Uuid Workflow}

theorem mem_handleEntries {e : HandleEntry} :
    e ∈ handleEntries archived workflows ↔
      ∃ w, workflows.get? e.id = some w ∧ w.isArchived = archived ∧ w.handle = some e.handle ∧
        w.workspaceId = e.workspaceId := by
  unfold handleEntries
  simp only [List.mem_filterMap, Prod.exists, Dict.get?_eq_some_iff]
  constructor
  · rintro ⟨x, w, mem, entry⟩
    split at entry
    case isFalse => cases entry
    case isTrue same =>
      rw [Option.map_eq_some_iff] at entry
      obtain ⟨handle, handled, rfl⟩ := entry
      exact ⟨w, mem, same, handled, rfl⟩
  · rintro ⟨w, mem, same, handled, inScope⟩
    refine ⟨e.id, w, mem, ?_⟩
    rw [if_pos same, handled, inScope]
    rfl

theorem handleEntries_set
    {w w' : Workflow} (found : workflows.get? x = some w) (handle : w'.handle = w.handle)
    (scope : w'.workspaceId = w.workspaceId) (flag : w'.isArchived = w.isArchived) :
    handleEntries archived (workflows.set x w') = handleEntries archived workflows := by
  unfold handleEntries
  rw [Dict.entries_set_of_get? found, List.filterMap_map]
  apply List.filterMap_congr
  rintro ⟨y, v⟩ mem
  rw [Function.comp_apply]
  split
  case isTrue same =>
    dsimp only at same
    subst same
    have : v = w := Option.some.inj (((workflows.get?_eq_some_iff y v).mpr mem).symm.trans found)
    rw [this, handle, scope, flag]
  case isFalse => rfl

namespace HandleIndex

theorem bucket_add (index : HandleIndex) (e : HandleEntry) (scope : Option String)
    (handle : String) :
    (index.add e).bucket scope handle = index.bucket scope handle ++
      if e.workspaceId = scope ∧ e.handle = handle then [e.id] else [] := by
  unfold add bucket
  rw [Dict.get?_set]
  split
  case isTrue same =>
    subst same
    rw [Option.getD_some, Dict.get?_set]
    split
    case isTrue same =>
      subst same
      simp
    case isFalse other => simp [Ne.symm other]
  case isFalse other => simp [Ne.symm other]

theorem bucket_ofEntries (es : List HandleEntry) (scope : Option String) (handle : String) :
    (ofEntries es).bucket scope handle =
      (es.filter (fun e => e.workspaceId = scope ∧ e.handle = handle)).map HandleEntry.id := by
  have general (index : HandleIndex) : (es.foldl add index).bucket scope handle =
      index.bucket scope handle ++
        (es.filter (fun e => e.workspaceId = scope ∧ e.handle = handle)).map HandleEntry.id := by
    induction es generalizing index with
    | nil => simp
    | cons e es ih =>
      rw [List.foldl_cons, ih, bucket_add, List.append_assoc, List.filter_cons]
      congr 1
      by_cases same : e.workspaceId = scope ∧ e.handle = handle
      · simp [same]
      · simp [same]
  exact general ∅

theorem bucket_mapValues (index : HandleIndex) {sort : List Uuid → List Uuid}
    (empty : sort [] = []) (scope : Option String) (handle : String) :
    HandleIndex.bucket (index.mapValues (fun _ handles => handles.mapValues (fun _ => sort)))
      scope handle = sort (index.bucket scope handle) := by
  unfold bucket
  rw [Dict.get?_mapValues]
  cases index.get? scope with
  | none => simp [empty]
  | some handles =>
    rw [Option.map_some, Option.getD_some, Option.getD_some, Dict.get?_mapValues]
    cases handles.get? handle with
    | none => simp [empty]
    | some ids => rfl

theorem mapValues_congr {index : HandleIndex} {sort sort' : List Uuid → List Uuid}
    (h : ∀ scope handle, sort (index.bucket scope handle) = sort' (index.bucket scope handle)) :
    index.mapValues (fun _ handles => handles.mapValues (fun _ => sort)) =
      index.mapValues (fun _ handles => handles.mapValues (fun _ => sort')) := by
  apply Dict.mapValues_congr
  intro scope handles found
  apply Dict.mapValues_congr
  intro handle ids present
  have same : index.bucket scope handle = ids := by
    simp [bucket, found, present]
  rw [← same]
  exact h scope handle

end HandleIndex

def activeMatches (workflows : Dict Uuid Workflow) (scope : Option String) (handle : String) :
    List Uuid :=
  (HandleIndex.ofEntries (handleEntries false workflows)).bucket scope handle

theorem mem_bucket_handleEntries {scope : Option String} {handle : String} :
    x ∈ (HandleIndex.ofEntries (handleEntries archived workflows)).bucket scope handle ↔
      ∃ w, workflows.get? x = some w ∧ w.isArchived = archived ∧ w.handle = some handle ∧
        w.workspaceId = scope := by
  rw [HandleIndex.bucket_ofEntries, List.mem_map]
  constructor
  · rintro ⟨e, mem, rfl⟩
    rw [List.mem_filter, mem_handleEntries] at mem
    obtain ⟨⟨w, found, flag, handled, inScope⟩, same⟩ := mem
    obtain ⟨rfl, rfl⟩ := of_decide_eq_true same
    exact ⟨w, found, flag, handled, inScope⟩
  · rintro ⟨w, found, flag, handled, inScope⟩
    refine ⟨⟨x, scope, handle⟩, ?_, rfl⟩
    rw [List.mem_filter, mem_handleEntries]
    exact ⟨⟨w, found, flag, handled, inScope⟩, by simp⟩

theorem mem_activeMatches {scope : Option String} {handle : String} :
    x ∈ activeMatches workflows scope handle ↔
      ∃ w, workflows.get? x = some w ∧ w.isArchived = false ∧ w.handle = some handle ∧
        w.workspaceId = scope := mem_bucket_handleEntries

section Sorting

variable {workflows workflows' : Dict Uuid Workflow} {defaultTeams defaultTeams' : Dict String Uuid}

@[simp] theorem sortMatches_nil : sortMatches workflows defaultTeams [] = [] := by
  simp [sortMatches]

theorem sortMatches_congr {ids : List Uuid}
    (h : ∀ x ∈ ids, activeHandleSortKey workflows defaultTeams x =
      activeHandleSortKey workflows' defaultTeams' x) :
    sortMatches workflows defaultTeams ids = sortMatches workflows' defaultTeams' ids := by
  unfold sortMatches
  congr 2
  apply List.map_congr_left
  intro x mem
  rw [h x mem]

theorem perm_sortMatches (ids : List Uuid) : (sortMatches workflows defaultTeams ids).Perm ids := by
  unfold sortMatches
  trans (ids.map (fun x => (activeHandleSortKey workflows defaultTeams x, x))).map Prod.snd
  · apply List.Perm.map
    exact List.mergeSort_perm _ _
  · rw [List.map_map]
    exact List.Perm.of_eq (List.map_id ids)

theorem bucket_rebuildHandleIndexes (scope : Option String) (handle : String) :
    (rebuildHandleIndexes workflows defaultTeams).1.bucket scope handle =
      sortMatches workflows defaultTeams (activeMatches workflows scope handle) :=
  HandleIndex.bucket_mapValues _ sortMatches_nil scope handle

variable {x : Uuid} {w : Workflow}

theorem mem_bucket_rebuildHandleIndexes {scope : Option String} {handle : String}
    (archived : Bool) :
    x ∈ (if archived then (rebuildHandleIndexes workflows defaultTeams).2
      else (rebuildHandleIndexes workflows defaultTeams).1).bucket scope handle ↔
      ∃ w, workflows.get? x = some w ∧ w.isArchived = archived ∧ w.handle = some handle ∧
        w.workspaceId = scope := by
  cases archived with
  | true => exact mem_bucket_handleEntries
  | false =>
    rw [if_neg Bool.false_ne_true, bucket_rebuildHandleIndexes, (perm_sortMatches _).mem_iff]
    exact mem_bucket_handleEntries

def SameOrder (workflows : Dict Uuid Workflow) (defaultTeams : Dict String Uuid)
    (workflows' : Dict Uuid Workflow) (defaultTeams' : Dict String Uuid) : Prop :=
  ∀ e ∈ handleEntries false workflows,
    sortMatches workflows' defaultTeams' (activeMatches workflows e.workspaceId e.handle) =
      sortMatches workflows defaultTeams (activeMatches workflows e.workspaceId e.handle)

instance : Decidable (SameOrder workflows defaultTeams workflows' defaultTeams') :=
  inferInstanceAs (Decidable (∀ e ∈ handleEntries false workflows, _))

theorem rebuildHandleIndexes_eq_iff
    (active : handleEntries false workflows' = handleEntries false workflows)
    (archived : handleEntries true workflows' = handleEntries true workflows) :
    rebuildHandleIndexes workflows' defaultTeams' = rebuildHandleIndexes workflows defaultTeams ↔
      SameOrder workflows defaultTeams workflows' defaultTeams' := by
  have alike (scope : Option String) (handle : String) :
      activeMatches workflows' scope handle = activeMatches workflows scope handle := by
    rw [activeMatches, active]
    rfl
  constructor
  · intro same e _
    have buckets := congrArg (fun i => i.1.bucket e.workspaceId e.handle) same
    rw [bucket_rebuildHandleIndexes, bucket_rebuildHandleIndexes, alike] at buckets
    exact buckets
  · intro same
    unfold rebuildHandleIndexes
    rw [active, archived]
    congr 1
    apply HandleIndex.mapValues_congr
    intro scope handle
    -- an empty bucket has no entry, and nothing to sort
    cases listed : activeMatches workflows scope handle with
    | nil =>
      rw [activeMatches] at listed
      rw [listed, sortMatches_nil, sortMatches_nil]
    | cons x ids =>
      have mem : x ∈ activeMatches workflows scope handle := by
        rw [listed]
        exact List.mem_cons_self
      obtain ⟨w, found, unarchived, handled, inScope⟩ := mem_activeMatches.mp mem
      exact same ⟨x, scope, handle⟩
        (mem_handleEntries.mpr ⟨w, found, unarchived, handled, inScope⟩)

theorem activeHandleSortKey_set {y : Uuid} {w' : Workflow}
    (workspace : w'.workspaceId = w.workspaceId) (team : w'.teamId = w.teamId)
    (updated : w'.updatedAt = w.updatedAt) :
    activeHandleSortKey (workflows.set x w') defaultTeams y =
      activeHandleSortKey (workflows.set x w) defaultTeams y := by
  unfold activeHandleSortKey isDefaultTeamWorkflow
  rw [Dict.get?_set, Dict.get?_set]
  by_cases same : y = x
  · rw [if_pos same, if_pos same]
    simp only [workspace, team, updated]
  · rw [if_neg same, if_neg same]

theorem sameOrder_set_congr {w' : Workflow} (workspace : w'.workspaceId = w.workspaceId)
    (team : w'.teamId = w.teamId) (updated : w'.updatedAt = w.updatedAt) :
    SameOrder workflows defaultTeams (workflows.set x w') defaultTeams' ↔
      SameOrder workflows defaultTeams (workflows.set x w) defaultTeams' := by
  unfold SameOrder
  apply forall₂_congr
  intro e _
  rw [sortMatches_congr (fun y _ => activeHandleSortKey_set workspace team updated)]

theorem sameOrder_of_key (h : ∀ x w, workflows.get? x = some w → w.isArchived = false →
      activeHandleSortKey workflows' defaultTeams' x =
        activeHandleSortKey workflows defaultTeams x) :
    SameOrder workflows defaultTeams workflows' defaultTeams' := by
  intro e _
  apply sortMatches_congr
  intro x mem
  obtain ⟨w, found, active, _⟩ := mem_activeMatches.mp mem
  exact h x w found active

theorem sameOrder_set_self (found : workflows.get? x = some w) :
    SameOrder workflows defaultTeams (workflows.set x w) defaultTeams := by
  apply sameOrder_of_key
  intro y _ _ _
  unfold activeHandleSortKey
  rw [Dict.get?_set]
  by_cases same : y = x
  · rw [if_pos same, same, found]
  · rw [if_neg same]

end Sorting

end Orcheo.Repository
