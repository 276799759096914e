import Orcheo.Defs.Repository.HandleIndex
import Orcheo.Defs.Repository.WorkflowLaws
import Orcheo.Lib.Run

/-! Active handles are unique in a team, and the indexes are those of the stored workflows,
exactly as long as the operations that do not check or do not rebuild need not to. -/

namespace Orcheo.Repository

open Lib (Dict Always AllSteps always_iff_allSteps bind_ok_iff)

def UniqueHandles (workflows : Dict Uuid Workflow) : Prop :=
  ∀ x y w v handle, workflows.get? x = some w → workflows.get? y = some v →
    w.isArchived = false → v.isArchived = false → w.handle = some handle →
    v.handle = some handle → w.workspaceId = v.workspaceId → w.teamId = v.teamId → x = y

namespace InMemoryRepositoryState

structure HandlesCoherent (s : InMemoryRepositoryState) : Prop where
  unique : UniqueHandles s.workflows
  indexed : (s.activeWorkflowHandles, s.archivedWorkflowHandles) =
    rebuildHandleIndexes s.workflows s.defaultTeamByWorkspace

variable {rt : TextRuntime} {s : InMemoryRepositoryState}

variable {teamId workspaceId handle : Option String}

theorem handleTaken_eq_false {handle : String} {self : Option Uuid} :
    s.handleTaken handle self workspaceId teamId = false ↔
      ∀ y v, s.workflows.get? y = some v → v.handle = some handle →
        v.workspaceId = workspaceId → v.teamId = teamId → v.isArchived = false →
        some y = self := by
  unfold handleTaken
  rw [List.any_eq_false]
  constructor
  · intro free y v found handled workspace team active
    by_contra other
    apply free (y, v) ((s.workflows.get?_eq_some_iff y v).mp found)
    exact decide_eq_true ⟨other, handled, workspace, team, active⟩
  · rintro free ⟨y, v⟩ mem taken
    obtain ⟨other, handled, workspace, team, active⟩ := of_decide_eq_true taken
    exact other (free y v ((s.workflows.get?_eq_some_iff y v).mpr mem) handled workspace team
      active)

variable {x : Uuid}

theorem handleTaken_self {handle : String}
    (free : s.handleTaken handle none workspaceId teamId = false) :
    s.handleTaken handle (some x) workspaceId teamId = false := by
  rw [handleTaken_eq_false] at free ⊢
  intro y v found handled workspace team active
  cases free y v found handled workspace team active

variable {w : Workflow}

theorem uniqueHandles_set_iff (unique : UniqueHandles s.workflows) :
    UniqueHandles (s.workflows.set x w) ↔ (w.isArchived = false → ∀ handle,
      w.handle = some handle → s.handleTaken handle (some x) w.workspaceId w.teamId = false) := by
  constructor
  · intro unique active handle handled
    rw [handleTaken_eq_false]
    intro y v found handled' workspace team active'
    by_contra other
    have other : y ≠ x := fun same => other (congrArg some same)
    apply other
    apply unique y x v w handle _ _ active' active handled' handled workspace team
    · rw [Dict.get?_set, if_neg other]
      exact found
    · rw [Dict.get?_set, if_pos rfl]
  · intro free y z v u handle foundY foundZ activeY activeZ handledY handledZ workspace team
    rw [Dict.get?_set] at foundY foundZ
    split at foundY
    case isTrue sameY =>
      cases foundY
      split at foundZ
      case isTrue sameZ => rw [sameY, sameZ]
      case isFalse =>
        have same := handleTaken_eq_false.mp (free activeY handle handledY) z u foundZ handledZ
          workspace.symm team.symm activeZ
        rw [sameY]
        exact (Option.some.inj same).symm
    case isFalse =>
      split at foundZ
      case isTrue sameZ =>
        cases foundZ
        have same := handleTaken_eq_false.mp (free activeZ handle handledZ) y v foundY handledY
          workspace team activeY
        rw [sameZ]
        exact Option.some.inj same
      case isFalse =>
        exact unique y z v u handle foundY foundZ activeY activeZ handledY handledZ workspace team

theorem handleTaken_of_unique (unique : UniqueHandles s.workflows)
    {handle : String} (found : s.workflows.get? x = some w) (active : w.isArchived = false)
    (handled : w.handle = some handle) :
    s.handleTaken handle (some x) w.workspaceId w.teamId = false := by
  rw [handleTaken_eq_false]
  intro y v found' handled' workspace team active'
  rw [unique y x v w handle found' found active' active handled' handled workspace team]

theorem ensureHandleAvailable_ok {self : Option Uuid} :
    s.ensureHandleAvailable handle self workspaceId teamId = .ok () ↔
      ∀ h, handle = some h → s.handleTaken h self workspaceId teamId = false := by
  unfold ensureHandleAvailable
  cases handle with
  | none => simp
  | some h => simp

theorem checkUpdate_ok {u : WorkflowUpdate} (h : s.checkUpdate rt x u = .ok (w, handle)) :
    s.workflows.get? x = some w ∧ (handle.isSome → handle ≠ w.handle →
      s.ensureHandleAvailable handle (some x) w.workspaceId w.teamId = .ok ()) := by
  unfold checkUpdate at h
  obtain ⟨normalized, _, h⟩ := bind_ok_iff.mp h
  split at h
  case h_1 => cases h
  case h_2 found =>
    dsimp only at h
    split at h
    case isTrue changed =>
      obtain ⟨_, available, h⟩ := bind_ok_iff.mp h
      cases h
      exact ⟨found, fun _ _ => available⟩
    case isFalse unchanged =>
      cases h
      exact ⟨found, fun given changed => absurd ⟨given, changed⟩ unchanged⟩

theorem unarchived_ok (h : s.unarchived x = .ok w) :
    s.workflows.get? x = some w ∧ w.isArchived = false := by
  unfold unarchived at h
  split at h
  case h_1 => cases h
  case h_2 v found =>
    split at h
    case isTrue => cases h
    case isFalse active =>
      cases h
      exact ⟨found, Bool.eq_false_iff.mpr active⟩

section Updates

variable {x : Uuid} {clock : EventClock} {disabledAt : Instant} {u : WorkflowUpdate} {w : Workflow}
  {handle : Option String}

theorem updateWorkflow_refused {edited : Workflow} {e : WorkflowError}
    (checked : s.checkUpdate rt x u = .ok (w, handle))
    (updated : w.applyUpdate rt clock u handle = .error (edited, e)) :
    (s.updateWorkflow rt x clock disabledAt u).1 =
      { s with workflows := s.workflows.set x edited } := by
  simp only [updateWorkflow, checked, updated]

theorem updateWorkflow_updated {w' : Workflow} (checked : s.checkUpdate rt x u = .ok (w, handle))
    (updated : w.applyUpdate rt clock u handle = .ok w') :
    (s.updateWorkflow rt x clock disabledAt u).1 = rebuilt { s with
      workflows := s.workflows.set x w'
      triggerLayer :=
        if u.isArchived = some true ∧ w.isArchived = false then s.triggerLayer.removeCronConfig x
        else s.triggerLayer
      listeners := if u.isArchived = some true ∧ w.isArchived = false then
          s.listeners.disableListenerSubscriptions .inMemory x u.actor disabledAt
        else s.listeners } := by
  simp only [updateWorkflow, checked, updated]

end Updates

theorem handlesCoherent_rebuilt : s.rebuilt.HandlesCoherent ↔ UniqueHandles s.workflows :=
  ⟨HandlesCoherent.unique, fun unique => ⟨unique, rfl⟩⟩

section

variable {x : Uuid} {w : Workflow} (good : s.HandlesCoherent) (found : s.workflows.get? x = some w)
include good found

theorem handlesCoherent_set_iff {w' : Workflow} (handle : w'.handle = w.handle)
    (workspace : w'.workspaceId = w.workspaceId) (team : w'.teamId = w.teamId)
    (flag : w'.isArchived = w.isArchived) :
    HandlesCoherent { s with workflows := s.workflows.set x w' } ↔
      SameOrder s.workflows s.defaultTeamByWorkspace
        (s.workflows.set x { w with updatedAt := w'.updatedAt }) s.defaultTeamByWorkspace := by
  have same : SameOrder s.workflows s.defaultTeamByWorkspace (s.workflows.set x w')
      s.defaultTeamByWorkspace ↔ _ :=
    sameOrder_set_congr (w := { w with updatedAt := w'.updatedAt }) workspace team rfl
  rw [← same, ← rebuildHandleIndexes_eq_iff (handleEntries_set found handle workspace flag)
    (handleEntries_set found handle workspace flag)]
  constructor
  · intro good'
    exact good'.indexed.symm.trans good.indexed
  · intro order
    refine ⟨?_, good.indexed.trans order.symm⟩
    apply (uniqueHandles_set_iff good.unique).mpr
    intro active h handled
    rw [workspace, team]
    rw [handle] at handled
    rw [flag] at active
    exact handleTaken_of_unique good.unique found active handled

theorem handlesCoherent_refused {edited : Workflow} (handled : edited.handle = handle.or w.handle)
    (workspace : edited.workspaceId = w.workspaceId) (team : edited.teamId = w.teamId)
    (flag : edited.isArchived = w.isArchived) (updated : edited.updatedAt = w.updatedAt) :
    HandlesCoherent { s with workflows := s.workflows.set x edited } ↔
      handle.or w.handle = w.handle := by
  constructor
  · intro good'
    cases handle with
    | none => rfl
    | some h =>
      have same := good'.indexed.symm.trans good.indexed
      have listed : x ∈ (if w.isArchived then
          (rebuildHandleIndexes s.workflows s.defaultTeamByWorkspace).2 else
          (rebuildHandleIndexes s.workflows s.defaultTeamByWorkspace).1).bucket w.workspaceId h := by
        rw [← same]
        apply (mem_bucket_rebuildHandleIndexes w.isArchived).mpr
        have stored : (s.workflows.set x edited).get? x = some edited := by
          rw [Dict.get?_set, if_pos rfl]
        exact ⟨edited, stored, flag, handled, workspace⟩
      obtain ⟨v, found', _, handled', _⟩ :=
        (mem_bucket_rebuildHandleIndexes w.isArchived).mp listed
      cases found.symm.trans found'
      exact handled'.symm
  · intro kept
    apply (handlesCoherent_set_iff good found (handled.trans kept) workspace team flag).mpr
    rw [updated]
    exact sameOrder_set_self found

theorem handlesCoherent_updated {w' : Workflow} {clock : EventClock} {u : WorkflowUpdate}
    (available : handle.isSome → handle ≠ w.handle →
      s.ensureHandleAvailable handle (some x) w.workspaceId w.teamId = .ok ())
    (updated : w.applyUpdate rt clock u handle = .ok w') :
    UniqueHandles (s.workflows.set x w') ↔
      (!w.isArchived || u.isArchived != some false ||
        (s.ensureHandleAvailable (handle.or w.handle) (some x) w.workspaceId
          w.teamId).isOk) = true := by
  rw [uniqueHandles_set_iff good.unique, Workflow.handle_applyUpdate updated,
    (Workflow.scope_applyUpdate updated).1, (Workflow.scope_applyUpdate updated).2,
    Workflow.isArchived_applyUpdate updated, ← ensureHandleAvailable_ok]
  have free : (s.ensureHandleAvailable (handle.or w.handle) (some x) w.workspaceId
      w.teamId).isOk = true ↔ s.ensureHandleAvailable (handle.or w.handle) (some x)
        w.workspaceId w.teamId = .ok () := by
    cases s.ensureHandleAvailable (handle.or w.handle) (some x) w.workspaceId w.teamId <;>
      simp [Except.isOk, Except.toBool]
  rw [Bool.or_eq_true, free]
  cases archived : w.isArchived with
  | true =>
    cases target : u.isArchived with
    | none => simp
    | some flag => cases flag <;> simp
  | false =>
    apply iff_of_true _ (Or.inl (by simp))
    intro _
    by_cases changed : handle.or w.handle = w.handle
    · rw [changed, ensureHandleAvailable_ok]
      intro h handled
      exact handleTaken_of_unique good.unique found archived handled
    · cases handle with
      | none => exact absurd rfl changed
      | some h => exact available rfl changed

end

theorem isDefaultTeamWorkflow_deleted {team : Uuid} {workspaceId : String}
    {defaultTeams : Dict String Uuid}
    (other : w.workspaceId = some workspaceId → w.teamId ≠ some (teamText team)) :
    isDefaultTeamWorkflow (if defaultTeams.get? workspaceId = some team then
        defaultTeams.erase workspaceId else defaultTeams) w =
      isDefaultTeamWorkflow defaultTeams w := by
  split
  case isFalse => rfl
  case isTrue deleted =>
    unfold isDefaultTeamWorkflow
    split
    case h_2 => rfl
    case h_1 workspace teamId inWorkspace inTeam =>
      rw [Dict.get?_erase]
      by_cases same : workspace = workspaceId
      · subst same
        rw [if_pos rfl, deleted]
        apply Eq.symm
        apply decide_eq_false
        rintro rfl
        exact other inWorkspace inTeam
      · rw [if_neg same]

/-- The exact condition on an operation, in the state where it starts: nothing takes a
workflow back among the active ones under a handle in use, no refused update has changed the
handle, and no operation that leaves the indexes alone changes the order of their buckets. -/
def keepsHandles (rt : TextRuntime) (s : InMemoryRepositoryState) : RepositoryOp → Bool
  | .updateWorkflow x _ _ u => match s.checkUpdate rt x u with
    | .error _ => true
    | .ok (w, handle) =>
      if u.acceptable rt w then
        !w.isArchived || u.isArchived != some false ||
          (s.ensureHandleAvailable (handle.or w.handle) (some x) w.workspaceId w.teamId).isOk
      else decide (handle.or w.handle = w.handle)
  | .publishWorkflow x clock _ _ => match s.unarchived x with
    | .error _ => true
    | .ok w => w.isPublic ||
      decide (SameOrder s.workflows s.defaultTeamByWorkspace
        (s.workflows.set x { w with updatedAt := clock.recordedAt }) s.defaultTeamByWorkspace)
  | .revokePublish x now _ => match s.unarchived x with
    | .error _ => true
    | .ok w => !w.isPublic ||
      decide (SameOrder s.workflows s.defaultTeamByWorkspace
        (s.workflows.set x { w with updatedAt := now }) s.defaultTeamByWorkspace)
  | .createTeam id workspaceId name slug isDefault =>
    !isDefault || !(s.checkTeam rt workspaceId name slug isDefault).isOk ||
      decide (SameOrder s.workflows s.defaultTeamByWorkspace s.workflows
        (s.defaultTeamByWorkspace.set workspaceId id))
  | _ => true

section Steps

variable (good : s.HandlesCoherent)
include good

theorem handlesCoherent_createWorkflow (id : Uuid) (now : Instant) (r : NewWorkflow) :
    (s.createWorkflow rt id now r).1.HandlesCoherent := by
  unfold createWorkflow
  dsimp only
  split
  case h_1 => exact good
  case h_2 w created =>
    obtain ⟨handle, normalized, created⟩ := bind_ok_iff.mp created
    obtain ⟨_, available, created⟩ := bind_ok_iff.mp created
    obtain ⟨handled, workspace, team, _⟩ := Workflow.create_ok created
    refine ⟨?_, rfl⟩
    apply (uniqueHandles_set_iff good.unique).mpr
    intro _ h handled'
    rw [workspace, team]
    rw [handled] at handled'
    exact handleTaken_self (ensureHandleAvailable_ok.mp available h handled')

theorem handlesCoherent_updateWorkflow (x : Uuid) (clock : EventClock) (disabledAt : Instant)
    (u : WorkflowUpdate) : (s.updateWorkflow rt x clock disabledAt u).1.HandlesCoherent ↔
      s.keepsHandles rt (.updateWorkflow x clock disabledAt u) = true := by
  cases checked : s.checkUpdate rt x u with
  | error e => simp only [updateWorkflow, keepsHandles, checked, good]
  | ok p =>
    obtain ⟨w, handle⟩ := p
    obtain ⟨found, available⟩ := checkUpdate_ok checked
    have accepted : (w.applyUpdate rt clock u handle).isOk = u.acceptable rt w :=
      Workflow.isOk_applyUpdate
    simp only [keepsHandles, checked]
    cases updated : w.applyUpdate rt clock u handle with
    | error q =>
      obtain ⟨edited, e⟩ := q
      obtain ⟨name, left⟩ := Workflow.applyUpdate_error updated
      dsimp only at left
      rw [updated] at accepted
      rw [updateWorkflow_refused checked updated, ← accepted]
      trans handle.or w.handle = w.handle
      · apply handlesCoherent_refused good found <;> rw [left]
      · exact decide_eq_true_iff.symm
    | ok w' =>
      rw [updated] at accepted
      rw [updateWorkflow_updated checked updated, ← accepted]
      exact handlesCoherent_rebuilt.trans (handlesCoherent_updated good found available updated)

theorem handlesCoherent_editUnarchived {x : Uuid} {edit : Workflow → Except WorkflowError Workflow}
    {now : Instant} (stays : Workflow → Bool)
    (refused : ∀ w, stays w = true → ∃ e, edit w = .error e)
    (edited : ∀ w, stays w = false → ∃ w', edit w = .ok w' ∧ w'.handle = w.handle ∧
      w'.workspaceId = w.workspaceId ∧ w'.teamId = w.teamId ∧ w'.isArchived = w.isArchived ∧
      w'.updatedAt = now) :
    (s.editUnarchived x edit).1.HandlesCoherent ↔ (match s.unarchived x with
      | .error _ => true
      | .ok w => stays w || decide (SameOrder s.workflows s.defaultTeamByWorkspace
          (s.workflows.set x { w with updatedAt := now }) s.defaultTeamByWorkspace)) = true := by
  unfold editUnarchived
  cases unarchived : s.unarchived x with
  | error e => exact iff_of_true good rfl
  | ok w =>
    cases kept : stays w with
    | true =>
      obtain ⟨e, done⟩ := refused w kept
      simp only [bind, Except.bind, done, kept, Bool.true_or, good]
    | false =>
      obtain ⟨w', done, handle, workspace, team, flag, rfl⟩ := edited w kept
      simp only [bind, Except.bind, done, kept, Bool.false_or, decide_eq_true_iff]
      exact handlesCoherent_set_iff good (unarchived_ok unarchived).1 handle workspace team flag

theorem handlesCoherent_publishWorkflow (x : Uuid) (clock : EventClock) (requireLogin : Bool)
    (actor : String) : (s.publishWorkflow x clock requireLogin actor).1.HandlesCoherent ↔
      s.keepsHandles rt (.publishWorkflow x clock requireLogin actor) = true :=
  handlesCoherent_editUnarchived good (·.isPublic) (fun _ published => ⟨_, if_pos published⟩)
    (fun _ published => ⟨_, if_neg (by simp [published]), rfl, rfl, rfl, rfl, rfl⟩)

theorem handlesCoherent_revokePublish (x : Uuid) (now : Instant) (actor : String) :
    (s.revokePublish x now actor).1.HandlesCoherent ↔
      s.keepsHandles rt (.revokePublish x now actor) = true :=
  handlesCoherent_editUnarchived good (!·.isPublic)
    (fun _ published => ⟨_, if_neg (by simpa using published)⟩)
    (fun _ published => ⟨_, if_pos (by simpa using published), rfl, rfl, rfl, rfl, rfl⟩)

theorem handlesCoherent_teams {teams : Dict Uuid Team} {defaultTeams : Dict String Uuid} :
    HandlesCoherent { s with teams := teams, defaultTeamByWorkspace := defaultTeams } ↔
      SameOrder s.workflows s.defaultTeamByWorkspace s.workflows defaultTeams := by
  rw [← rebuildHandleIndexes_eq_iff rfl rfl]
  constructor
  · intro good'
    exact good'.indexed.symm.trans good.indexed
  · intro order
    exact ⟨good.unique, good.indexed.trans order.symm⟩

theorem handlesCoherent_createTeam (id : Uuid) (workspaceId name slug : String) (isDefault : Bool) :
    (s.createTeam rt id workspaceId name slug isDefault).1.HandlesCoherent ↔
      s.keepsHandles rt (.createTeam id workspaceId name slug isDefault) = true := by
  cases checked : s.checkTeam rt workspaceId name slug isDefault with
  | error e => simp [createTeam, keepsHandles, checked, Except.isOk, Except.toBool, good]
  | ok team =>
    cases isDefault with
    | false =>
      simp only [createTeam, keepsHandles, checked, Bool.not_false, Bool.true_or, iff_true]
      exact ⟨good.unique, good.indexed⟩
    | true =>
      simp only [createTeam, keepsHandles, checked, Except.isOk, Except.toBool, Bool.not_true,
        Bool.false_or, decide_eq_true_iff, if_true]
      exact handlesCoherent_teams good

theorem handlesCoherent_ensureDefaultTeam (id : Uuid) (workspaceId name slug : String) :
    (s.ensureDefaultTeam rt id workspaceId name slug).1.HandlesCoherent := by
  unfold ensureDefaultTeam
  split
  case h_1 => exact good
  case h_2 =>
    unfold createTeam
    cases s.checkTeam rt workspaceId name slug true with
    | error e => exact good
    | ok team => exact handlesCoherent_rebuilt.mpr good.unique

omit good in
theorem deleteTeam_cases (team : Uuid) (workspaceId : String) :
    (s.deleteTeam team workspaceId).1 = s ∨ ∃ teams defaultTeams,
      (s.deleteTeam team workspaceId).1 =
        { s with teams := teams, defaultTeamByWorkspace := defaultTeams } ∧
      SameOrder s.workflows s.defaultTeamByWorkspace s.workflows defaultTeams := by
  unfold deleteTeam
  split
  case h_1 => exact Or.inl rfl
  case h_2 found =>
    split
    case isTrue => exact Or.inl rfl
    case isFalse =>
      split
      case isTrue => exact Or.inl rfl
      case isFalse empty =>
        refine Or.inr ⟨_, _, rfl, sameOrder_of_key ?_⟩
        intro x w stored active
        have other (workspace : w.workspaceId = some workspaceId) :
            w.teamId ≠ some (teamText team) := by
          intro same
          apply empty
          rw [List.any_eq_true]
          exact ⟨(x, w), (s.workflows.get?_eq_some_iff x w).mp stored,
            decide_eq_true ⟨workspace, same, active⟩⟩
        simp only [activeHandleSortKey, stored]
        rw [isDefaultTeamWorkflow_deleted other]

theorem handlesCoherent_deleteTeam (team : Uuid) (workspaceId : String) :
    (s.deleteTeam team workspaceId).1.HandlesCoherent := by
  obtain same | ⟨_, _, deleted, order⟩ := s.deleteTeam_cases team workspaceId
  · rwa [same]
  · rw [deleted]
    exact (handlesCoherent_teams good).mpr order

theorem handlesCoherent_step (op : RepositoryOp) :
    (s.step rt op).HandlesCoherent ↔ s.keepsHandles rt op = true := by
  cases op with
  | createWorkflow id now r => exact iff_of_true (handlesCoherent_createWorkflow good id now r) rfl
  | updateWorkflow x clock disabledAt u =>
    exact handlesCoherent_updateWorkflow good x clock disabledAt u
  | archiveWorkflow x clock disabledAt actor =>
    apply iff_of_true _ rfl
    apply (handlesCoherent_updateWorkflow good x clock disabledAt
      { isArchived := some true, actor := actor }).mpr
    simp only [keepsHandles]
    split
    case h_1 => rfl
    case h_2 =>
      rw [if_pos (by rfl), Bool.or_eq_true, Bool.or_eq_true]
      exact Or.inl (Or.inr rfl)
  | publishWorkflow x clock requireLogin actor =>
    exact handlesCoherent_publishWorkflow good x clock requireLogin actor
  | revokePublish x now actor => exact handlesCoherent_revokePublish good x now actor
  | createTeam id workspaceId name slug isDefault =>
    exact handlesCoherent_createTeam good id workspaceId name slug isDefault
  | ensureDefaultTeam id workspaceId name slug =>
    exact iff_of_true (handlesCoherent_ensureDefaultTeam good id workspaceId name slug) rfl
  | deleteTeam team workspaceId =>
    exact iff_of_true (handlesCoherent_deleteTeam good team workspaceId) rfl
  | createVersion x version compiled actor now =>
    apply iff_of_true _ rfl
    show (s.createVersion x version compiled actor now).HandlesCoherent
    unfold createVersion
    split
    case h_1 => exact good
    case h_2 => exact ⟨good.unique, good.indexed⟩
  | syncListenerSubscriptions => exact iff_of_true ⟨good.unique, good.indexed⟩ rfl
  | configureWebhookTrigger x config =>
    apply iff_of_true _ rfl
    show (s.configureWebhookTrigger x config).1.HandlesCoherent
    unfold configureWebhookTrigger
    split
    case h_1 => exact good
    case h_2 => exact ⟨good.unique, good.indexed⟩
  | configureCronTrigger x config =>
    apply iff_of_true _ rfl
    show (s.configureCronTrigger x config).1.HandlesCoherent
    unfold configureCronTrigger
    split
    case h_1 => exact good
    case h_2 => exact ⟨good.unique, good.indexed⟩
  | deleteCronTrigger x =>
    apply iff_of_true _ rfl
    show (s.deleteCronTrigger x).1.HandlesCoherent
    unfold deleteCronTrigger
    split
    case h_1 => exact good
    case h_2 => exact ⟨good.unique, good.indexed⟩
  | claimListenerSubscription => exact iff_of_true ⟨good.unique, good.indexed⟩ rfl
  | releaseListenerSubscription => exact iff_of_true ⟨good.unique, good.indexed⟩ rfl
  | updateListenerSubscriptionStatus => exact iff_of_true ⟨good.unique, good.indexed⟩ rfl

end Steps

theorem handlesCoherent_fresh : HandlesCoherent {} := by
  refine ⟨?_, rfl⟩
  intro x y w v handle found
  cases found

/-- Handles are unique among the active workflows of a team, and the indexes are exact, in
every state of a run exactly if every operation meets the condition where it starts. -/
theorem handles_coherent (rt : TextRuntime) (ops : List RepositoryOp) :
    Always (step rt) HandlesCoherent {} ops ↔
      AllSteps (step rt) (fun s op => s.keepsHandles rt op = true) {} ops :=
  always_iff_allSteps (P := HandlesCoherent) (fun _ op good => handlesCoherent_step good op)
    handlesCoherent_fresh ops

def unarchiveRun : List RepositoryOp :=
  [.createWorkflow 1 0 { name := "First", handle := some "daily" },
    .archiveWorkflow 1 ⟨1, 1⟩ 1 "owner",
    .createWorkflow 2 2 { name := "Second", handle := some "daily" },
    .updateWorkflow 1 ⟨3, 3⟩ 3 { isArchived := some false }]

theorem handles_collide : ¬ Always (step .ascii) HandlesCoherent {} unarchiveRun := by
  intro always
  have unique := always.last.unique
  let workflows := (unarchiveRun.foldl (step .ascii) {}).workflows
  have first : ∃ w, workflows.get? 1 = some w ∧ w.isArchived = false ∧
      w.handle = some "daily" ∧ w.workspaceId = none ∧ w.teamId = none :=
    ⟨_, rfl, rfl, rfl, rfl, rfl⟩
  have second : ∃ v, workflows.get? 2 = some v ∧ v.isArchived = false ∧
      v.handle = some "daily" ∧ v.workspaceId = none ∧ v.teamId = none :=
    ⟨_, rfl, rfl, rfl, rfl, rfl⟩
  obtain ⟨w, found, active, handled, workspace, team⟩ := first
  obtain ⟨v, found', active', handled', workspace', team'⟩ := second
  have same : 1 = 2 := unique 1 2 w v "daily" found found' active active' handled handled'
    (workspace.trans workspace'.symm) (team.trans team'.symm)
  cases same

end InMemoryRepositoryState

end Orcheo.Repository
