import Mathlib.Data.List.Find
import Orcheo.Defs.Repository.HandleUniqueness
import Orcheo.Defs.Repository.ReferenceAgreement

/-! In one workspace a reference resolves by the workflows of the workspace and the unscoped
ones alone, as long as the indexes of these are those of the stored workflows. -/

namespace Orcheo.Repository

open Lib (Dict AllSteps argmin_congr bind_ok_iff)
open HandleIndex (ofEntries)

def seenScopes (workspace : String) : List (Option String) := [some workspace, none]

def seen (workspace : String) (w : Workflow) : Bool := (seenScopes workspace).contains w.workspaceId

namespace InMemoryRepositoryState

/-- The workspace has the same workflows in both states, in the same order of insertion, next to
the same unscoped ones, and the same default team. -/
structure SeenAlike (workspace : String) (s s' : InMemoryRepositoryState) : Prop where
  workflows : s.workflows.entries.filter (fun row => seen workspace row.2) =
    s'.workflows.entries.filter (fun row => seen workspace row.2)
  defaultTeam : s.defaultTeamByWorkspace.get? workspace = s'.defaultTeamByWorkspace.get? workspace

structure IndexedIn (workspace : String) (s : InMemoryRepositoryState) : Prop where
  active : ∀ scope ∈ seenScopes workspace, ∀ ref, s.activeWorkflowHandles.bucket scope ref =
    sortMatches s.workflows s.defaultTeamByWorkspace (activeMatches s.workflows scope ref)
  archived : ∀ scope ∈ seenScopes workspace, ∀ ref, s.archivedWorkflowHandles.bucket scope ref =
    (ofEntries (handleEntries true s.workflows)).bucket scope ref
  owners : ∀ x, s.workflowWorkspaces.get? x =
    (s.workflows.get? x).bind (fun (w : Workflow) => w.workspaceId)

end InMemoryRepositoryState

def SameOrderIn (workspace : String) (workflows : Dict Uuid Workflow)
    (defaultTeams : Dict String Uuid) (workflows' : Dict Uuid Workflow)
    (defaultTeams' : Dict String Uuid) : Prop :=
  ∀ e ∈ handleEntries false workflows, e.workspaceId ∈ seenScopes workspace →
    sortMatches workflows' defaultTeams' (activeMatches workflows e.workspaceId e.handle) =
      sortMatches workflows defaultTeams (activeMatches workflows e.workspaceId e.handle)

instance {workspace : String} {workflows workflows' : Dict Uuid Workflow}
    {defaultTeams defaultTeams' : Dict String Uuid} :
    Decidable (SameOrderIn workspace workflows defaultTeams workflows' defaultTeams') :=
  inferInstanceAs (Decidable (∀ e ∈ handleEntries false workflows,
    e.workspaceId ∈ seenScopes workspace → _))

section Buckets

variable {workspace : String} {workflows workflows' : Dict Uuid Workflow}
  {defaultTeams defaultTeams' : Dict String Uuid} {scope : Option String} {ref : String} {x : Uuid}
  {w w' : Workflow}

theorem seen_iff : seen workspace w = true ↔ w.workspaceId ∈ seenScopes workspace :=
  List.contains_iff_mem

theorem bucket_of_seen (archived : Bool) (inScope : scope ∈ seenScopes workspace)
    (alike : workflows.entries.filter (fun row => seen workspace row.2) =
      workflows'.entries.filter (fun row => seen workspace row.2)) :
    (ofEntries (handleEntries archived workflows)).bucket scope ref =
      (ofEntries (handleEntries archived workflows')).bucket scope ref := by
  have narrowed (flows : Dict Uuid Workflow) :
      (ofEntries (handleEntries archived flows)).bucket scope ref =
        (((flows.entries.filter (fun row => seen workspace row.2)).filter (fun row =>
          decide (row.2.isArchived = archived ∧ row.2.handle = some ref))).filter
          (fun row => decide (rowScope row = scope))).map Prod.fst := by
    rw [bucket_handleEntries, List.filter_filter, List.filter_filter, List.filter_filter]
    congr 1
    apply List.filter_congr
    intro row _
    by_cases same : rowScope row = scope
    · have visible : seen workspace row.2 = true := by
        rw [seen_iff]
        rw [rowScope] at same
        rwa [same]
      simp [same, visible]
    · simp [same]
  rw [narrowed, narrowed, alike]

theorem get?_of_seen (alike : workflows.entries.filter (fun row => seen workspace row.2) =
      workflows'.entries.filter (fun row => seen workspace row.2))
    (visible : seen workspace w = true) :
    workflows.get? x = some w ↔ workflows'.get? x = some w := by
  rw [Dict.get?_eq_some_iff, Dict.get?_eq_some_iff]
  have mem (flows : Dict Uuid Workflow) : (x, w) ∈ flows.entries ↔
      (x, w) ∈ flows.entries.filter (fun row => seen workspace row.2) := by
    simp [visible]
  rw [mem, mem workflows', alike]

theorem sortMatches_of_seen (inScope : scope ∈ seenScopes workspace)
    (alike : workflows.entries.filter (fun row => seen workspace row.2) =
      workflows'.entries.filter (fun row => seen workspace row.2))
    (teams : defaultTeams.get? workspace = defaultTeams'.get? workspace) :
    sortMatches workflows defaultTeams (activeMatches workflows scope ref) =
      sortMatches workflows' defaultTeams' (activeMatches workflows' scope ref) := by
  rw [show activeMatches workflows scope ref = activeMatches workflows' scope ref from
    bucket_of_seen false inScope alike]
  apply sortMatches_congr
  intro x mem
  obtain ⟨w, found, _, _, inWorkspace⟩ := mem_activeMatches.mp mem
  have visible : seen workspace w = true := by
    rw [seen_iff, inWorkspace]
    exact inScope
  rw [activeHandleSortKey, activeHandleSortKey, found, (get?_of_seen alike visible).mpr found]
  dsimp only
  congr 2
  rw [isDefaultTeamWorkflow, isDefaultTeamWorkflow]
  cases owner : w.workspaceId with
  | none => rfl
  | some other =>
    rw [seen_iff, owner, seenScopes, List.mem_pair] at visible
    cases visible with
    | inl same =>
      cases same
      cases w.teamId with
      | none => rfl
      | some team =>
        dsimp only
        rw [teams]
    | inr unscoped => cases unscoped

theorem filter_seen_set (found : workflows.get? x = some w) (unseen : seen workspace w = false)
    (unseen' : seen workspace w' = false) :
    (workflows.set x w').entries.filter (fun row => seen workspace row.2) =
      workflows.entries.filter (fun row => seen workspace row.2) :=
  congrArg Dict.entries (Dict.filter_replaced_of_refused (p := fun _ w => seen workspace w)
    found unseen unseen')

theorem SameOrderIn.bucket
    (order : SameOrderIn workspace workflows defaultTeams workflows' defaultTeams')
    (inScope : scope ∈ seenScopes workspace) (ref : String) :
    sortMatches workflows' defaultTeams' (activeMatches workflows scope ref) =
      sortMatches workflows defaultTeams (activeMatches workflows scope ref) := by
  cases listed : activeMatches workflows scope ref with
  | nil => rw [sortMatches_nil, sortMatches_nil]
  | cons x ids =>
    have mem : x ∈ activeMatches workflows scope ref := by
      rw [listed]
      exact List.mem_cons_self
    obtain ⟨w, found, active, handled, inWorkspace⟩ := mem_activeMatches.mp mem
    rw [← listed]
    exact order ⟨x, scope, ref⟩
      (mem_handleEntries.mpr ⟨w, found, active, handled, inWorkspace⟩) inScope

theorem sameOrderIn_of_sameOrder
    (order : SameOrder workflows defaultTeams workflows' defaultTeams') :
    SameOrderIn workspace workflows defaultTeams workflows' defaultTeams' :=
  fun e mem _ => order e mem

end Buckets

namespace InMemoryRepositoryState

/-- No refused update has changed the handle of a workflow that the workspace sees, and no
operation that leaves the indexes alone changes the order of a bucket that it looks at.  A new
workflow draws an identifier that is not in use. -/
def keepsIndexes (rt : TextRuntime) (workspace : String) (s : InMemoryRepositoryState) :
    RepositoryOp → Bool
  | .createWorkflow id _ _ => (s.workflows.get? id).isNone
  | .updateWorkflow x _ _ u => match s.checkUpdate rt x u with
    | .error _ => true
    | .ok (w, handle) =>
      u.acceptable rt w || !seen workspace w || decide (handle.or w.handle = w.handle)
  | .publishWorkflow x clock _ _ => match s.unarchived x with
    | .error _ => true
    | .ok w => w.isPublic ||
      decide (SameOrderIn workspace s.workflows s.defaultTeamByWorkspace
        (s.workflows.set x { w with updatedAt := clock.recordedAt }) s.defaultTeamByWorkspace)
  | .revokePublish x now _ => match s.unarchived x with
    | .error _ => true
    | .ok w => !w.isPublic ||
      decide (SameOrderIn workspace s.workflows s.defaultTeamByWorkspace
        (s.workflows.set x { w with updatedAt := now }) s.defaultTeamByWorkspace)
  | .createTeam id workspaceId name slug isDefault =>
    !isDefault || !(s.checkTeam rt workspaceId name slug isDefault).isOk ||
      decide (SameOrderIn workspace s.workflows s.defaultTeamByWorkspace s.workflows
        (s.defaultTeamByWorkspace.set workspaceId id))
  | _ => true

variable {rt : TextRuntime} {workspace : String} {s s' : InMemoryRepositoryState}

theorem indexedIn_rebuilt (owners : ∀ x, s.workflowWorkspaces.get? x =
      (s.workflows.get? x).bind (fun (w : Workflow) => w.workspaceId)) :
    IndexedIn workspace s.rebuilt where
  active scope _ ref := bucket_rebuildHandleIndexes scope ref
  archived _ _ _ := rfl
  owners := owners

theorem IndexedIn.congr (good : IndexedIn workspace s) (workflows : s'.workflows = s.workflows)
    (active : s'.activeWorkflowHandles = s.activeWorkflowHandles)
    (archived : s'.archivedWorkflowHandles = s.archivedWorkflowHandles)
    (defaults : s'.defaultTeamByWorkspace = s.defaultTeamByWorkspace)
    (owners : s'.workflowWorkspaces = s.workflowWorkspaces) : IndexedIn workspace s' := by
  constructor
  case active =>
    rw [workflows, active, defaults]
    exact good.active
  case archived =>
    rw [workflows, archived]
    exact good.archived
  case owners =>
    rw [workflows, owners]
    exact good.owners

theorem owners_set {x : Uuid} {w w' : Workflow} (found : s.workflows.get? x = some w)
    (scope : w'.workspaceId = w.workspaceId)
    (owners : ∀ x, s.workflowWorkspaces.get? x =
      (s.workflows.get? x).bind (fun (w : Workflow) => w.workspaceId)) (y : Uuid) :
    s.workflowWorkspaces.get? y =
      ((s.workflows.set x w').get? y).bind (fun (w : Workflow) => w.workspaceId) := by
  rw [owners y, Dict.get?_set]
  by_cases same : y = x
  · rw [if_pos same, same, found, Option.bind_some, Option.bind_some, scope]
  · rw [if_neg same]

section Edits

variable {x : Uuid} {w w' : Workflow}

theorem IndexedIn.set (good : IndexedIn workspace s) (found : s.workflows.get? x = some w)
    (handle : w'.handle = w.handle) (scope : w'.workspaceId = w.workspaceId)
    (team : w'.teamId = w.teamId) (flag : w'.isArchived = w.isArchived)
    (order : SameOrderIn workspace s.workflows s.defaultTeamByWorkspace
      (s.workflows.set x { w with updatedAt := w'.updatedAt }) s.defaultTeamByWorkspace) :
    IndexedIn workspace { s with workflows := s.workflows.set x w' } := by
  have entries (archived : Bool) :
      handleEntries archived (s.workflows.set x w') = handleEntries archived s.workflows :=
    handleEntries_set found handle scope flag
  constructor
  case active =>
    intro scopeKey inScope ref
    have matching : activeMatches (s.workflows.set x w') scopeKey ref =
        activeMatches s.workflows scopeKey ref := by
      rw [activeMatches, entries]
      rfl
    show s.activeWorkflowHandles.bucket scopeKey ref = _
    rw [good.active scopeKey inScope ref, matching, ← order.bucket inScope ref]
    apply sortMatches_congr
    intro y _
    have key : activeHandleSortKey (s.workflows.set x w') s.defaultTeamByWorkspace y =
        activeHandleSortKey (s.workflows.set x { w with updatedAt := w'.updatedAt })
          s.defaultTeamByWorkspace y := activeHandleSortKey_set scope team rfl
    exact key.symm
  case archived =>
    intro scopeKey inScope ref
    show s.archivedWorkflowHandles.bucket scopeKey ref = _
    rw [entries]
    exact good.archived scopeKey inScope ref
  case owners => exact owners_set found scope good.owners

theorem IndexedIn.set_unseen (good : IndexedIn workspace s) (found : s.workflows.get? x = some w)
    (scope : w'.workspaceId = w.workspaceId) (unseen : seen workspace w = false) :
    IndexedIn workspace { s with workflows := s.workflows.set x w' } := by
  have unseen' : seen workspace w' = false := by
    rw [seen, scope]
    exact unseen
  have alike := (filter_seen_set found unseen unseen').symm
  constructor
  case active =>
    intro scopeKey inScope ref
    show s.activeWorkflowHandles.bucket scopeKey ref = _
    rw [good.active scopeKey inScope ref]
    exact sortMatches_of_seen inScope alike rfl
  case archived =>
    intro scopeKey inScope ref
    show s.archivedWorkflowHandles.bucket scopeKey ref = _
    rw [good.archived scopeKey inScope ref]
    exact bucket_of_seen true inScope alike
  case owners => exact owners_set found scope good.owners

end Edits

section Steps

variable (good : IndexedIn workspace s)
include good

theorem indexedIn_createWorkflow (id : Uuid) (now : Instant) (r : NewWorkflow)
    (fresh : s.workflows.get? id = none) :
    IndexedIn workspace (s.createWorkflow rt id now r).1 := by
  unfold createWorkflow
  dsimp only
  split
  next => exact good
  next w created =>
    obtain ⟨handle, _, created⟩ := bind_ok_iff.mp created
    obtain ⟨_, _, created⟩ := bind_ok_iff.mp created
    obtain ⟨_, scope, _, _⟩ := Workflow.create_ok created
    have unowned : s.workflowWorkspaces.get? id = none := by
      rw [good.owners id, fresh, Option.bind_none]
    have kept (owners : Dict Uuid String) (indexed : ∀ y, owners.get? y =
        ((s.workflows.set id w).get? y).bind (fun (w : Workflow) => w.workspaceId)) :
        IndexedIn workspace (rebuilt { s with
          workflows := s.workflows.set id w
          workflowWorkspaces := owners }) := indexedIn_rebuilt indexed
    cases owner : r.workspaceId with
    | none =>
      refine (kept s.workflowWorkspaces (fun y => ?_)).congr rfl rfl rfl rfl rfl
      by_cases same : y = id
      · simp [same, unowned, scope, owner]
      · simp [same, good.owners y]
    | some other =>
      refine (kept (s.workflowWorkspaces.set id other) (fun y => ?_)).congr rfl rfl rfl rfl rfl
      by_cases same : y = id
      · simp [same, scope, owner]
      · simp [same, good.owners y]

theorem indexedIn_updateWorkflow (x : Uuid) (clock : EventClock) (disabledAt : Instant)
    (u : WorkflowUpdate)
    (guard : s.keepsIndexes rt workspace (.updateWorkflow x clock disabledAt u) = true) :
    IndexedIn workspace (s.updateWorkflow rt x clock disabledAt u).1 := by
  cases checked : s.checkUpdate rt x u with
  | error e =>
    simp only [updateWorkflow, checked]
    exact good
  | ok p =>
    obtain ⟨w, handle⟩ := p
    have found := (checkUpdate_ok checked).1
    simp only [keepsIndexes, checked] at guard
    cases updated : w.applyUpdate rt clock u handle with
    | ok w' =>
      rw [updateWorkflow_updated checked updated]
      apply indexedIn_rebuilt
      exact owners_set found (Workflow.scope_applyUpdate updated).1 good.owners
    | error q =>
      obtain ⟨edited, e⟩ := q
      obtain ⟨name, left⟩ := Workflow.applyUpdate_error updated
      dsimp only at left
      have accepted : (w.applyUpdate rt clock u handle).isOk = u.acceptable rt w :=
        Workflow.isOk_applyUpdate
      have refused : u.acceptable rt w = false := by
        rw [← accepted, updated]
        rfl
      rw [updateWorkflow_refused checked updated]
      rw [refused, Bool.false_or, Bool.or_eq_true, Bool.not_eq_true', decide_eq_true_iff] at guard
      cases guard with
      | inl unseen =>
        apply good.set_unseen found _ unseen
        rw [left]
      | inr kept =>
        have handled : edited.handle = w.handle := by
          rw [left]
          exact kept
        apply good.set found handled
        case order =>
          rw [left]
          exact sameOrderIn_of_sameOrder (sameOrder_set_self found)
        all_goals rw [left]

theorem indexedIn_editUnarchived {x : Uuid} {edit : Workflow → Except WorkflowError Workflow}
    {now : Instant} (stays : Workflow → Bool)
    (refused : ∀ w, stays w = true → ∃ e, edit w = .error e)
    (edited : ∀ w, stays w = false → ∃ w', edit w = .ok w' ∧ w'.handle = w.handle ∧
      w'.workspaceId = w.workspaceId ∧ w'.teamId = w.teamId ∧ w'.isArchived = w.isArchived ∧
      w'.updatedAt = now)
    (guard : (match s.unarchived x with
      | .error _ => true
      | .ok w => stays w || decide (SameOrderIn workspace s.workflows s.defaultTeamByWorkspace
          (s.workflows.set x { w with updatedAt := now }) s.defaultTeamByWorkspace)) = true) :
    IndexedIn workspace (s.editUnarchived x edit).1 := by
  unfold editUnarchived
  cases unarchived : s.unarchived x with
  | error e => exact good
  | ok w =>
    cases kept : stays w with
    | true =>
      obtain ⟨e, done⟩ := refused w kept
      simp only [bind, Except.bind, done, good]
    | false =>
      obtain ⟨w', done, handle, scope, team, flag, rfl⟩ := edited w kept
      simp only [unarchived, kept, Bool.false_or, decide_eq_true_iff] at guard
      simp only [bind, Except.bind, done]
      exact good.set (unarchived_ok unarchived).1 handle scope team flag guard

theorem indexedIn_publishWorkflow (x : Uuid) (clock : EventClock) (requireLogin : Bool)
    (actor : String)
    (guard : s.keepsIndexes rt workspace (.publishWorkflow x clock requireLogin actor) = true) :
    IndexedIn workspace (s.publishWorkflow x clock requireLogin actor).1 :=
  indexedIn_editUnarchived good (·.isPublic) (fun _ published => ⟨_, if_pos published⟩)
    (fun _ published => ⟨_, if_neg (by simp [published]), rfl, rfl, rfl, rfl, rfl⟩) guard

theorem indexedIn_revokePublish (x : Uuid) (now : Instant) (actor : String)
    (guard : s.keepsIndexes rt workspace (.revokePublish x now actor) = true) :
    IndexedIn workspace (s.revokePublish x now actor).1 :=
  indexedIn_editUnarchived good (!·.isPublic)
    (fun _ published => ⟨_, if_neg (by simpa using published)⟩)
    (fun _ published => ⟨_, if_pos (by simpa using published), rfl, rfl, rfl, rfl, rfl⟩) guard

theorem indexedIn_teams {teams : Dict Uuid Team} {defaultTeams : Dict String Uuid}
    (order : SameOrderIn workspace s.workflows s.defaultTeamByWorkspace s.workflows defaultTeams) :
    IndexedIn workspace { s with teams := teams, defaultTeamByWorkspace := defaultTeams } where
  active scope inScope ref := (good.active scope inScope ref).trans (order.bucket inScope ref).symm
  archived := good.archived
  owners := good.owners

theorem indexedIn_createTeam (id : Uuid) (workspaceId name slug : String) (isDefault : Bool)
    (guard : s.keepsIndexes rt workspace (.createTeam id workspaceId name slug isDefault) = true) :
    IndexedIn workspace (s.createTeam rt id workspaceId name slug isDefault).1 := by
  unfold createTeam
  simp only [keepsIndexes] at guard
  cases checked : s.checkTeam rt workspaceId name slug isDefault with
  | error e => exact good
  | ok team =>
    cases isDefault with
    | false => exact good.congr rfl rfl rfl rfl rfl
    | true =>
      rw [checked] at guard
      exact indexedIn_teams good (of_decide_eq_true guard)

theorem indexedIn_ensureDefaultTeam (id : Uuid) (workspaceId name slug : String) :
    IndexedIn workspace (s.ensureDefaultTeam rt id workspaceId name slug).1 := by
  unfold ensureDefaultTeam
  split
  next => exact good
  next =>
    unfold createTeam
    cases s.checkTeam rt workspaceId name slug true with
    | error e => exact good
    | ok team => exact indexedIn_rebuilt good.owners

theorem indexedIn_deleteTeam (team : Uuid) (workspaceId : String) :
    IndexedIn workspace (s.deleteTeam team workspaceId).1 := by
  obtain same | ⟨_, _, deleted, order⟩ := s.deleteTeam_cases team workspaceId
  · rwa [same]
  · rw [deleted]
    exact indexedIn_teams good (sameOrderIn_of_sameOrder order)

theorem indexedIn_step (op : RepositoryOp) (guard : s.keepsIndexes rt workspace op = true) :
    IndexedIn workspace (s.step rt op) := by
  cases op with
  | createWorkflow id now r =>
    exact indexedIn_createWorkflow good id now r (Option.isNone_iff_eq_none.mp guard)
  | updateWorkflow x clock disabledAt u =>
    exact indexedIn_updateWorkflow good x clock disabledAt u guard
  | archiveWorkflow x clock disabledAt actor =>
    apply indexedIn_updateWorkflow good x clock disabledAt
      { isArchived := some true, actor := actor }
    simp only [keepsIndexes]
    split
    next => rfl
    next =>
      rw [Bool.or_assoc, Bool.or_eq_true]
      exact Or.inl rfl
  | publishWorkflow x clock requireLogin actor =>
    exact indexedIn_publishWorkflow good x clock requireLogin actor guard
  | revokePublish x now actor => exact indexedIn_revokePublish good x now actor guard
  | createTeam id workspaceId name slug isDefault =>
    exact indexedIn_createTeam good id workspaceId name slug isDefault guard
  | ensureDefaultTeam id workspaceId name slug =>
    exact indexedIn_ensureDefaultTeam good id workspaceId name slug
  | deleteTeam team workspaceId => exact indexedIn_deleteTeam good team workspaceId
  | createVersion x version compiled actor now =>
    show IndexedIn workspace (s.createVersion x version compiled actor now)
    unfold createVersion
    split
    next => exact good
    next => exact good.congr rfl rfl rfl rfl rfl
  | configureWebhookTrigger x config =>
    show IndexedIn workspace (s.configureWebhookTrigger x config).1
    unfold configureWebhookTrigger
    split
    next => exact good
    next => exact good.congr rfl rfl rfl rfl rfl
  | configureCronTrigger x config =>
    show IndexedIn workspace (s.configureCronTrigger x config).1
    unfold configureCronTrigger
    split
    next => exact good
    next => exact good.congr rfl rfl rfl rfl rfl
  | deleteCronTrigger x =>
    show IndexedIn workspace (s.deleteCronTrigger x).1
    unfold deleteCronTrigger
    split
    next => exact good
    next => exact good.congr rfl rfl rfl rfl rfl
  | _ => exact good.congr rfl rfl rfl rfl rfl

end Steps

theorem indexedIn_fresh : IndexedIn workspace {} where
  active _ _ _ := sortMatches_nil.symm
  archived _ _ _ := rfl
  owners _ := rfl

theorem indexedIn_run {ops : List RepositoryOp}
    (run : AllSteps (step rt) (fun s op => s.keepsIndexes rt workspace op = true) {} ops) :
    IndexedIn workspace (ops.foldl (step rt) {}) :=
  (run.always (P := IndexedIn workspace) (fun _ good => good)
    (fun _ op good guard => indexedIn_step good op guard) indexedIn_fresh).last

end InMemoryRepositoryState

def ReferenceQuery.inWorkspace (q : ReferenceQuery) (workspace : String) : ReferenceQuery :=
  { q with workspaceId := some workspace }

namespace InMemoryRepositoryState

variable {rt : TextRuntime} {workspace ref : String} {s s' : InMemoryRepositoryState}
  {index index' : HandleIndex} {x : Uuid}

theorem matchesTeam_of_seen (alike : SeenAlike workspace s s') {w : Workflow}
    (found : s.workflows.get? x = some w) (visible : seen workspace w = true)
    (teamId : Option String) : s.matchesTeam teamId x = s'.matchesTeam teamId x := by
  have found' := (get?_of_seen alike.workflows visible).mp found
  cases teamId with
  | none => rfl
  | some team => rw [matchesTeam, matchesTeam, found, found']

theorem findInHandleIndex_congr (alike : SeenAlike workspace s s')
    (same : ∀ scope ∈ seenScopes workspace, index.bucket scope ref = index'.bucket scope ref)
    (stored : ∀ scope ∈ seenScopes workspace, ∀ x ∈ index.bucket scope ref,
      ∃ w, s.workflows.get? x = some w ∧ seen workspace w = true) (teamId : Option String) :
    s.findInHandleIndex index (seenScopes workspace) ref teamId =
      s'.findInHandleIndex index' (seenScopes workspace) ref teamId := by
  have bucket (scope : Option String) (inScope : scope ∈ seenScopes workspace) :
      (index.bucket scope ref).find? (s.matchesTeam teamId) =
        (index'.bucket scope ref).find? (s'.matchesTeam teamId) := by
    rw [← same scope inScope]
    apply List.find?_congr
    intro x mem
    obtain ⟨w, found, visible⟩ := stored scope inScope x mem
    exact matchesTeam_of_seen alike found visible teamId
  rw [findInHandleIndex, findInHandleIndex, seenScopes, List.findSome?_cons, List.findSome?_cons,
    List.findSome?_cons, List.findSome?_cons, bucket _ (by simp [seenScopes]),
    bucket _ (by simp [seenScopes])]
  rfl

theorem mem_bucket_seen (archived : Bool) {scope : Option String}
    (inScope : scope ∈ seenScopes workspace)
    (mem : x ∈ (ofEntries (handleEntries archived s.workflows)).bucket scope ref) :
    ∃ w, s.workflows.get? x = some w ∧ seen workspace w = true := by
  obtain ⟨w, found, _, _, owner⟩ := mem_bucket_handleEntries.mp mem
  refine ⟨w, found, ?_⟩
  rw [seen_iff, owner]
  exact inScope

section Exact

variable (good : IndexedIn workspace s) (good' : IndexedIn workspace s')
  (alike : SeenAlike workspace s s')
include good good' alike

theorem findActive_congr (ref : String) (teamId : Option String) :
    s.findInHandleIndex s.activeWorkflowHandles (seenScopes workspace) ref teamId =
      s'.findInHandleIndex s'.activeWorkflowHandles (seenScopes workspace) ref teamId := by
  apply findInHandleIndex_congr alike
  case same =>
    intro scope inScope
    rw [good.active scope inScope ref, good'.active scope inScope ref]
    exact sortMatches_of_seen inScope alike.workflows alike.defaultTeam
  case stored =>
    intro scope inScope x mem
    rw [good.active scope inScope ref, (perm_sortMatches _).mem_iff] at mem
    exact mem_bucket_seen false inScope mem

theorem findArchived_congr (ref : String) (teamId : Option String) :
    s.findInHandleIndex s.archivedWorkflowHandles (seenScopes workspace) ref teamId =
      s'.findInHandleIndex s'.archivedWorkflowHandles (seenScopes workspace) ref teamId := by
  apply findInHandleIndex_congr alike
  case same =>
    intro scope inScope
    rw [good.archived scope inScope ref, good'.archived scope inScope ref]
    exact bucket_of_seen true inScope alike.workflows
  case stored =>
    intro scope inScope x mem
    rw [good.archived scope inScope ref] at mem
    exact mem_bucket_seen true inScope mem

omit alike good' in
theorem storedWithin_iff : s.storedWithin (some workspace) x = true ↔
    ∃ w, s.workflows.get? x = some w ∧ seen workspace w = true := by
  unfold storedWithin
  rw [good.owners x]
  cases found : s.workflows.get? x with
  | none => simp
  | some w =>
    cases owner : w.workspaceId with
    | none => simp [seen, seenScopes, owner]
    | some other => simp [seen, seenScopes, owner]

theorem storedWithin_congr :
    s.storedWithin (some workspace) = s'.storedWithin (some workspace) := by
  funext x
  rw [Bool.eq_iff_iff, storedWithin_iff good, storedWithin_iff good']
  apply exists_congr
  intro w
  apply and_congr_left
  intro visible
  exact get?_of_seen alike.workflows visible

theorem resolveWorkflowRef_congr (q : ReferenceQuery) :
    s.resolveWorkflowRef rt (q.inWorkspace workspace) =
      s'.resolveWorkflowRef rt (q.inWorkspace workspace) := by
  have byUuid (ref : String) (teamId : Option String) :
      s.resolveByUuid rt ref (some workspace) teamId =
        s'.resolveByUuid rt ref (some workspace) teamId := by
    rw [resolveByUuid, resolveByUuid, storedWithin_congr good good' alike]
  have active := findActive_congr good good' alike (normalizeRef rt q.workflowRef) q.teamId
  have archived := findArchived_congr good good' alike (normalizeRef rt q.workflowRef) q.teamId
  rw [seenScopes] at active archived
  simp only [resolveWorkflowRef, ReferenceQuery.inWorkspace, scopeKeys, active, archived, byUuid]
  rfl

end Exact

end InMemoryRepositoryState

namespace WorkflowTables

/-- The workspace has the same rows in both tables, next to the same unscoped ones, and the same
of them are in a default team. -/
structure SeenAlike (workspace : String) (t t' : WorkflowTables) : Prop where
  workflows : t.workflows.filter (fun row => seen workspace row.2) =
    t'.workflows.filter (fun row => seen workspace row.2)
  teams : ∀ row ∈ t.workflows, seen workspace row.2 = true →
    inDefaultTeam t.teams row.2 = inDefaultTeam t'.teams row.2

variable {rt : ReferenceRuntime} {workspace ref : String} {t t' : WorkflowTables}
  {includeArchived : Bool} {scope : Option String} {p : WorkflowRow → Bool} {row : WorkflowRow}

section

variable (alike : SeenAlike workspace t t')
include alike

theorem filter_of_seen (visible : ∀ row, p row = true → seen workspace row.2 = true) :
    t.workflows.filter p = t'.workflows.filter p := by
  have narrowed (rows : List WorkflowRow) :
      rows.filter p = (rows.filter (fun row => seen workspace row.2)).filter p := by
    rw [List.filter_filter]
    apply List.filter_congr
    intro row _
    by_cases holds : p row = true
    · simp [holds, visible row holds]
    · simp [holds]
  rw [narrowed, narrowed t'.workflows, alike.workflows]

theorem queryScope_congr (inScope : scope ∈ seenScopes workspace) :
    t.queryScope rt ref includeArchived scope = t'.queryScope rt ref includeArchived scope := by
  have visible (row : WorkflowRow) (holds : (decide (row.2.workspaceId = scope) &&
      answers rt ref includeArchived row) = true) : seen workspace row.2 = true := by
    rw [Bool.and_eq_true] at holds
    rw [seen_iff, of_decide_eq_true holds.1]
    exact inScope
  rw [queryScope, queryScope, ← filter_of_seen alike visible]
  apply argmin_congr
  intro a ha b hb
  have team {row : WorkflowRow} (mem : row ∈ t.workflows.filter (fun row =>
      decide (row.2.workspaceId = scope) && answers rt ref includeArchived row)) :
      inDefaultTeam t.teams row.2 = inDefaultTeam t'.teams row.2 := by
    obtain ⟨stored, holds⟩ := List.mem_filter.mp mem
    exact alike.teams row stored (visible row holds)
  rw [refOrder, refOrder, refOrder, refOrder, team ha, team hb]

theorem queryTeam_congr (teamId : String) :
    t.queryTeam ref includeArchived workspace teamId =
      t'.queryTeam ref includeArchived workspace teamId := by
  rw [queryTeam, queryTeam, filter_of_seen alike]
  intro row holds
  obtain ⟨_, owner, _⟩ := of_decide_eq_true holds
  rw [seen_iff, owner]
  exact List.mem_cons_self

theorem resolveLocked_congr (q : ReferenceQuery) :
    t.resolveLocked rt ref (q.inWorkspace workspace) =
      t'.resolveLocked rt ref (q.inWorkspace workspace) := by
  unfold resolveLocked ReferenceQuery.inWorkspace
  cases q.teamId with
  | some team => exact queryTeam_congr alike team
  | none =>
    dsimp only
    rw [List.findSome?_cons, List.findSome?_cons, List.findSome?_cons, List.findSome?_cons,
      queryScope_congr alike (by simp [seenScopes]), queryScope_congr alike (by simp [seenScopes])]
    rfl

end

theorem mem_resolveLocked {q : ReferenceQuery}
    (found : t.resolveLocked rt ref (q.inWorkspace workspace) = some row) :
    row ∈ t.workflows ∧ seen workspace row.2 = true := by
  unfold resolveLocked ReferenceQuery.inWorkspace at found
  cases team : q.teamId with
  | some team' =>
    rw [team] at found
    obtain ⟨stored, holds⟩ := List.mem_filter.mp (List.argmin_mem found)
    obtain ⟨_, owner, _⟩ := of_decide_eq_true holds
    refine ⟨stored, ?_⟩
    rw [seen_iff, owner]
    exact List.mem_cons_self
  | none =>
    rw [team] at found
    obtain ⟨scope, inScope, found⟩ := List.exists_of_findSome?_eq_some found
    obtain ⟨stored, holds⟩ := List.mem_filter.mp (List.argmin_mem found)
    rw [Bool.and_eq_true] at holds
    refine ⟨stored, ?_⟩
    rw [seen_iff, of_decide_eq_true holds.1]
    exact inScope

theorem checkWorkspace_seen (nodup : (t.workflows.map Prod.fst).Nodup) (stored : row ∈ t.workflows)
    (visible : seen workspace row.2 = true) :
    t.checkWorkspace (some workspace) row.1 = .ok row.1 := by
  apply checkWorkspace_ok (q := { workflowRef := "", workspaceId := some workspace }) nodup stored
  rw [within_some]
  rw [seen_iff, seenScopes, List.mem_pair] at visible
  exact visible

theorem resolveWorkflowRef_congr (nodup : (t.workflows.map Prod.fst).Nodup)
    (nodup' : (t'.workflows.map Prod.fst).Nodup) (alike : SeenAlike workspace t t')
    (q : ReferenceQuery) : t.resolveWorkflowRef rt (q.inWorkspace workspace) =
      t'.resolveWorkflowRef rt (q.inWorkspace workspace) := by
  rw [resolveWorkflowRef, resolveWorkflowRef, resolveLocked_congr alike]
  cases found : t'.resolveLocked rt
      (normalizeRef rt.toTextRuntime (q.inWorkspace workspace).workflowRef)
      (q.inWorkspace workspace) with
  | none => rfl
  | some row =>
    obtain ⟨stored', visible⟩ := mem_resolveLocked found
    have stored : row ∈ t.workflows := by
      have mem : row ∈ t'.workflows.filter (fun row => seen workspace row.2) :=
        List.mem_filter.mpr ⟨stored', visible⟩
      rw [← alike.workflows] at mem
      exact List.mem_of_mem_filter mem
    dsimp only
    rw [show (q.inWorkspace workspace).workspaceId = some workspace from rfl,
      checkWorkspace_seen nodup stored visible, checkWorkspace_seen nodup' stored' visible]

end WorkflowTables

namespace InMemoryRepositoryState

def publishedLast : List RepositoryOp :=
  [.createWorkflow 1 0 {
      name := "a", handle := some "h", workspaceId := some "w", teamId := some "s" },
    .createWorkflow 2 1 {
      name := "b", handle := some "h", workspaceId := some "w", teamId := some "t" },
    .publishWorkflow 1 ⟨2, 2⟩ false "x"]

def createdElsewhere : RepositoryOp :=
  .createWorkflow 3 3 { name := "c", workspaceId := some "v" }

theorem resolveWorkflowRef_of_head {rt : TextRuntime} {s : InMemoryRepositoryState}
    {workspace workflowRef : String} {x : Uuid} (present : normalizeRef rt workflowRef ≠ "")
    (first : (s.activeWorkflowHandles.bucket (some workspace)
      (normalizeRef rt workflowRef)).head? = some x) :
    s.resolveWorkflowRef rt { workflowRef := workflowRef, workspaceId := some workspace } =
      .ok x := by
  have found : s.findInHandleIndex s.activeWorkflowHandles (s.scopeKeys (some workspace))
      (normalizeRef rt workflowRef) none = some x := by
    rw [findInHandleIndex, scopeKeys, List.findSome?_cons]
    cases listed : s.activeWorkflowHandles.bucket (some workspace)
      (normalizeRef rt workflowRef) with
    | nil =>
      rw [listed] at first
      cases first
    | cons y ids =>
      rw [listed] at first
      cases first
      rfl
  simp only [resolveWorkflowRef, if_neg present, found]
  rfl

end InMemoryRepositoryState

end Orcheo.Repository
