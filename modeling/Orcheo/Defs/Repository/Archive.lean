import Orcheo.Defs.Listeners.Lease
import Orcheo.Defs.Repository.HandleUniqueness

/-! Archiving takes a workflow out of service, and what brings parts of it back. -/

namespace Orcheo.Listeners

open Lib (Dict)

namespace ListenerStore

variable {b : Backend} {s : ListenerStore} {x y : Uuid} {sub : ListenerSubscription}

theorem get?_syncListenerSubscriptions {actor : String} {now : Instant}
    (compiled : Dict Uuid ListenerSubscription) :
    (s.syncListenerSubscriptions b x actor compiled.entries now).subscriptions.get? y =
      match compiled.get? y with
      | some sub => some (sub.recordEvent now actor "listener_subscription_synced")
      | none => (s.disableListenerSubscriptions b x actor now).subscriptions.get? y := by
  unfold syncListenerSubscriptions
  cases found : compiled.get? y with
  | some sub =>
    exact get?_insertCompiled_of_mem compiled.nodup ((compiled.get?_eq_some_iff y sub).mp found)
  | none => exact get?_insertCompiled x actor now ((compiled.get?_eq_none_iff y).mp found) _

end ListenerStore

end Orcheo.Listeners

namespace Orcheo.Triggers

theorem TriggerLayer.get?_removeCronConfig (s : TriggerLayer) (x y : Uuid) :
    (s.removeCronConfig x).cronStates.get? y = if y = x then none else s.cronStates.get? y := by
  unfold removeCronConfig
  split
  case h_1 absent =>
    by_cases same : y = x
    · rw [if_pos same, same, absent]
    · rw [if_neg same]
  case h_2 => exact Lib.Dict.get?_erase _ x y

end Orcheo.Triggers

namespace Orcheo.Repository

open Lib (Dict Always AllSteps always_iff_allSteps_of_invariant)
open Listeners (ListenerStore ListenerSubscription ListenerSubscriptionStatus)

namespace InMemoryRepositoryState

variable (s : InMemoryRepositoryState)

def Unpublished : Prop :=
  ∀ x w, s.workflows.get? x = some w → w.isArchived = true → w.isPublic = false

def Unscheduled : Prop :=
  ∀ x w, s.workflows.get? x = some w → w.isArchived = true →
    s.triggerLayer.cronStates.get? x = none

def served (sub : ListenerSubscription) : Bool :=
  match s.workflows.get? sub.workflowId with
  | none => true
  | some w => !w.isArchived

def Unsubscribed : Prop :=
  ∀ y sub, s.listeners.subscriptions.get? y = some sub → sub.status = .active →
    s.served sub = true

/-- Archived workflows are not public, cannot be dispatched by cron, and have no active
subscription. -/
structure Retired (s : InMemoryRepositoryState) : Prop where
  unpublished : s.Unpublished
  undispatched : ∀ x w state, s.workflows.get? x = some w → w.isArchived = true →
    s.triggerLayer.cronStates.get? x = some state → state.canDispatch = false
  unsubscribed : s.Unsubscribed

structure Dismantled (s : InMemoryRepositoryState) : Prop where
  unpublished : s.Unpublished
  unscheduled : s.Unscheduled
  unsubscribed : s.Unsubscribed

theorem Dismantled.retired {s : InMemoryRepositoryState} (h : s.Dismantled) : s.Retired where
  unpublished := h.unpublished
  undispatched x w state found archived present := by
    rw [h.unscheduled x w found archived] at present
    cases present
  unsubscribed := h.unsubscribed

/-- An operation keeps the publications and the schedules of archived workflows away, and
their subscriptions exactly under a condition. -/
structure Retires (s' : InMemoryRepositoryState) (condition : Prop) : Prop where
  unpublished : s'.Unpublished
  unscheduled : s'.Unscheduled
  unsubscribed : s'.Unsubscribed ↔ condition

variable {rt : TextRuntime} {s s' : InMemoryRepositoryState}

theorem Retires.congr {p q : Prop} (h : s'.Retires p) (same : p ↔ q) : s'.Retires q :=
  ⟨h.unpublished, h.unscheduled, h.unsubscribed.trans same⟩

theorem served_congr (workflows : s'.workflows = s.workflows) (sub : ListenerSubscription) :
    s'.served sub = s.served sub := by
  rw [served, workflows]
  rfl

def listsActive (s : InMemoryRepositoryState) (x : Uuid) : Prop :=
  ∀ y sub, s.listeners.subscriptions.get? y = some sub → sub.status = .active →
    sub.workflowId = x → y ∈ s.listeners.subscriptionsOf .inMemory x

def servesCompiled (s : InMemoryRepositoryState)
    (compiled : Option (Dict Uuid ListenerSubscription)) : Prop :=
  ∀ c, compiled = some c → ∀ y sub, c.get? y = some sub → sub.status = .active →
    s.served sub = true

def archivesCleanly (rt : TextRuntime) (s : InMemoryRepositoryState) (x : Uuid)
    (u : WorkflowUpdate) : Prop :=
  ∀ w handle, s.checkUpdate rt x u = .ok (w, handle) → u.acceptable rt w = true →
    w.isArchived = false → u.isArchived = some true → s.listsActive x

def keepsRetired (rt : TextRuntime) (s : InMemoryRepositoryState) : RepositoryOp → Prop
  | .updateWorkflow x _ _ u => s.archivesCleanly rt x u
  | .archiveWorkflow x _ _ actor =>
    s.archivesCleanly rt x { isArchived := some true, actor := actor }
  | .createVersion x _ compiled _ _ => s.workflows.contains x = true → s.servesCompiled compiled
  | .syncListenerSubscriptions _ compiled _ _ => s.servesCompiled compiled
  | .updateListenerSubscriptionStatus y status _ _ _ => status = .active →
    ∀ sub, s.listeners.subscriptions.get? y = some sub → s.served sub = true
  | _ => True

section Frames

variable (h : s.Dismantled)
include h

theorem Retires.of_frame (workflows : s'.workflows = s.workflows)
    (cron : ∀ x, s.triggerLayer.cronStates.get? x = none → s'.triggerLayer.cronStates.get? x = none)
    (listeners : ∀ y sub, s'.listeners.subscriptions.get? y = some sub → sub.status = .active →
      ∃ old, s.listeners.subscriptions.get? y = some old ∧ old.status = .active ∧
        old.workflowId = sub.workflowId) : s'.Retires True := by
  refine ⟨?_, ?_, iff_of_true ?_ trivial⟩
  · intro x w found archived
    rw [workflows] at found
    exact h.unpublished x w found archived
  · intro x w found archived
    rw [workflows] at found
    exact cron x (h.unscheduled x w found archived)
  · intro y sub found active
    obtain ⟨old, found', active', same⟩ := listeners y sub found active
    have kept := h.unsubscribed y old found' active'
    unfold served at kept ⊢
    rw [workflows, ← same]
    exact kept

theorem Retires.of_same (workflows : s'.workflows = s.workflows)
    (cron : s'.triggerLayer.cronStates = s.triggerLayer.cronStates)
    (listeners : s'.listeners = s.listeners) : s'.Retires True := by
  apply Retires.of_frame h workflows
  · intro x absent
    rw [cron]
    exact absent
  · intro y sub found active
    rw [listeners] at found
    exact ⟨sub, found, active, rfl⟩

theorem Retires.refl : s.Retires True := .of_same h rfl rfl rfl

variable {x : Uuid}

theorem Retires.of_set_unarchived {w : Workflow}
    (workflows : s'.workflows = s.workflows.set x w) (unarchived : w.isArchived = false)
    (layer : s'.triggerLayer = s.triggerLayer) (listeners : s'.listeners = s.listeners) :
    s'.Retires True := by
  have stored (y : Uuid) (v : Workflow) (found : s'.workflows.get? y = some v)
      (archived : v.isArchived = true) : s.workflows.get? y = some v := by
    rw [workflows] at found
    obtain ⟨-, rfl⟩ | ⟨-, found⟩ := Dict.of_get?_set found
    · rw [unarchived] at archived
      cases archived
    · exact found
  refine ⟨?_, ?_, iff_of_true ?_ trivial⟩
  · intro y v found archived
    exact h.unpublished y v (stored y v found archived) archived
  · intro y v found archived
    rw [layer]
    exact h.unscheduled y v (stored y v found archived) archived
  · intro y sub found active
    rw [listeners] at found
    have kept := h.unsubscribed y sub found active
    unfold served at kept ⊢
    rw [workflows, Dict.get?_set]
    by_cases same : sub.workflowId = x
    · rw [if_pos same]
      simp [unarchived]
    · rw [if_neg same]
      exact kept

theorem Retires.of_set_archived {w w' : Workflow}
    (found : s.workflows.get? x = some w) (archived : w.isArchived = true)
    (workflows : s'.workflows = s.workflows.set x w') (hidden : w'.isPublic = false)
    (layer : s'.triggerLayer = s.triggerLayer) (listeners : s'.listeners = s.listeners) :
    s'.Retires True := by
  refine ⟨?_, ?_, iff_of_true ?_ trivial⟩
  · intro y v found' archived'
    rw [workflows] at found'
    obtain ⟨-, rfl⟩ | ⟨-, found'⟩ := Dict.of_get?_set found'
    · exact hidden
    · exact h.unpublished y v found' archived'
  · intro y v found' archived'
    rw [layer]
    rw [workflows, Dict.get?_set] at found'
    split at found'
    case isTrue same => exact h.unscheduled y w (same ▸ found) archived
    case isFalse => exact h.unscheduled y v found' archived'
  · intro y sub found' active
    rw [listeners] at found'
    have kept := h.unsubscribed y sub found' active
    unfold served at kept ⊢
    rw [workflows, Dict.get?_set]
    by_cases same : sub.workflowId = x
    · rw [same, found] at kept
      simp [archived] at kept
    · rw [if_neg same]
      exact kept

theorem Retires.of_archiving {w' : Workflow} {actor : String} {now : Instant}
    (workflows : s'.workflows = s.workflows.set x w') (archived : w'.isArchived = true)
    (hidden : w'.isPublic = false) (layer : s'.triggerLayer = s.triggerLayer.removeCronConfig x)
    (listeners : s'.listeners = s.listeners.disableListenerSubscriptions .inMemory x actor now) :
    s'.Retires (s.listsActive x) := by
  have serves (sub : ListenerSubscription) : s'.served sub =
      if sub.workflowId = x then false else s.served sub := by
    unfold served
    rw [workflows, Dict.get?_set]
    by_cases same : sub.workflowId = x
    · rw [if_pos same, if_pos same]
      simp [archived]
    · rw [if_neg same, if_neg same]
  refine ⟨?_, ?_, ?_, ?_⟩
  · intro y v found archived'
    rw [workflows] at found
    obtain ⟨-, rfl⟩ | ⟨-, found⟩ := Dict.of_get?_set found
    · exact hidden
    · exact h.unpublished y v found archived'
  · intro y v found archived'
    rw [layer, Triggers.TriggerLayer.get?_removeCronConfig]
    rw [workflows, Dict.get?_set] at found
    by_cases same : y = x
    · rw [if_pos same]
    · rw [if_neg same] at found ⊢
      exact h.unscheduled y v found archived'
  · intro unsubscribed y sub found active same
    by_contra unlisted
    have left := (ListenerStore.active_disable actor now).mpr ⟨found, active, unlisted⟩
    rw [← listeners] at left
    have kept := unsubscribed y sub left.1 left.2
    rw [serves, if_pos same] at kept
    cases kept
  · intro listed y sub found active
    rw [listeners] at found
    obtain ⟨found, active, unlisted⟩ :=
      (ListenerStore.active_disable actor now).mp ⟨found, active⟩
    rw [serves, if_neg fun same => unlisted (listed y sub found active same)]
    exact h.unsubscribed y sub found active

theorem Retires.of_sync {compiled : Option (Dict Uuid ListenerSubscription)}
    {actor : String} {now : Instant} (workflows : s'.workflows = s.workflows)
    (layer : s'.triggerLayer = s.triggerLayer)
    (listeners : s'.listeners = (s.syncListenerSubscriptions x compiled actor now).listeners) :
    s'.Retires (s.servesCompiled compiled) := by
  have left (y : Uuid) (sub : ListenerSubscription)
      (found : (s.listeners.disableListenerSubscriptions .inMemory x actor now).subscriptions.get? y
        = some sub) (active : sub.status = .active) : s.served sub = true := by
    obtain ⟨found, active, _⟩ := (ListenerStore.active_disable actor now).mp ⟨found, active⟩
    exact h.unsubscribed y sub found active
  refine ⟨?_, ?_, ?_⟩
  · intro y v found archived
    rw [workflows] at found
    exact h.unpublished y v found archived
  · intro y v found archived
    rw [workflows] at found
    rw [layer]
    exact h.unscheduled y v found archived
  · unfold Unsubscribed servesCompiled
    simp only [served_congr workflows, listeners, syncListenerSubscriptions]
    cases compiled with
    | none => exact iff_of_true left nofun
    | some c =>
      simp only [ListenerStore.get?_syncListenerSubscriptions, Option.some.injEq,
        forall_eq']
      constructor
      · intro kept y sub found active
        apply kept y (sub.recordEvent now actor "listener_subscription_synced") _ active
        rw [found]
      · intro kept y sub found active
        cases fresh : c.get? y with
        | none =>
          rw [fresh] at found
          exact left y sub found active
        | some old =>
          rw [fresh] at found
          cases found
          exact kept y old fresh active

theorem retires_createWorkflow (id : Uuid) (now : Instant) (r : NewWorkflow) :
    (s.createWorkflow rt id now r).1.Retires True := by
  unfold createWorkflow
  dsimp only
  split
  case h_1 => exact .refl h
  case h_2 w created =>
    obtain ⟨handle, _, created⟩ := Lib.bind_ok_iff.mp created
    obtain ⟨_, _, created⟩ := Lib.bind_ok_iff.mp created
    exact .of_set_unarchived h rfl (Workflow.create_ok created).2.2.2 rfl rfl

theorem retires_updateWorkflow (x : Uuid) (clock : EventClock) (disabledAt : Instant)
    (u : WorkflowUpdate) :
    (s.updateWorkflow rt x clock disabledAt u).1.Retires (s.archivesCleanly rt x u) := by
  unfold archivesCleanly
  cases checked : s.checkUpdate rt x u with
  | error e =>
    simp only [updateWorkflow, checked]
    apply (Retires.refl h).congr
    apply iff_of_true trivial
    intro w handle absent
    cases absent
  | ok p =>
    obtain ⟨w, handle⟩ := p
    have found := (checkUpdate_ok checked).1
    have accepted : (w.applyUpdate rt clock u handle).isOk = u.acceptable rt w :=
      Workflow.isOk_applyUpdate
    cases updated : w.applyUpdate rt clock u handle with
    | error q =>
      obtain ⟨edited, e⟩ := q
      rw [updateWorkflow_refused checked updated]
      rw [updated] at accepted
      obtain ⟨name, left⟩ := Workflow.applyUpdate_error updated
      have kept : Retires { s with workflows := s.workflows.set x edited } True := by
        dsimp only at left
        rw [left]
        cases flag : w.isArchived with
        | true => exact .of_set_archived h found flag rfl (h.unpublished x w found flag) rfl rfl
        | false => exact .of_set_unarchived h rfl rfl rfl rfl
      apply kept.congr
      apply iff_of_true trivial
      intro v handle' same acceptable
      cases same
      rw [← accepted] at acceptable
      cases acceptable
    | ok w' =>
      rw [updateWorkflow_updated checked updated]
      have flag := Workflow.isArchived_applyUpdate updated
      have hidden := Workflow.isPublic_applyUpdate updated (h.unpublished x w found)
      by_cases archiving : u.isArchived = some true ∧ w.isArchived = false
      · rw [if_pos archiving, if_pos archiving]
        rw [archiving.1] at flag
        apply (Retires.of_archiving h rfl flag (hidden flag) rfl rfl).congr
        constructor
        · intro listed v handle' _ _ _ _
          exact listed
        · intro clean
          apply clean w handle rfl _ archiving.2 archiving.1
          rw [← accepted, updated]
          rfl
      · rw [if_neg archiving, if_neg archiving]
        have kept : Retires (rebuilt { s with workflows := s.workflows.set x w' }) True := by
          cases archived : w'.isArchived with
          | false => exact .of_set_unarchived h rfl archived rfl rfl
          | true =>
            have before : w.isArchived = true := by
              rw [archived] at flag
              cases target : u.isArchived with
              | none =>
                rw [target] at flag
                exact flag.symm
              | some archive =>
                rw [target] at flag
                cases flag
                exact Bool.of_not_eq_false fun active => archiving ⟨target, active⟩
            exact .of_set_archived h found before rfl (hidden archived) rfl rfl
        apply kept.congr
        apply iff_of_true trivial
        intro v handle' same _ active target
        cases same
        exact absurd ⟨target, active⟩ archiving

theorem retires_editUnarchived (x : Uuid) (edit : Workflow → Except WorkflowError Workflow)
    (flag : ∀ w w', edit w = .ok w' → w'.isArchived = w.isArchived) :
    (s.editUnarchived x edit).1.Retires True := by
  unfold editUnarchived
  cases edited : s.unarchived x >>= edit with
  | error e => exact .refl h
  | ok w' =>
    obtain ⟨w, unarchived, edited⟩ := Lib.bind_ok_iff.mp edited
    exact .of_set_unarchived h rfl ((flag w w' edited).trans (unarchived_ok unarchived).2) rfl rfl

theorem retires_configureCronTrigger (x : Uuid) (config : Triggers.CronTriggerConfig) :
    (s.configureCronTrigger x config).1.Retires True := by
  unfold configureCronTrigger
  cases unarchived : s.unarchived x with
  | error e => exact .refl h
  | ok w =>
    obtain ⟨found, active⟩ := unarchived_ok unarchived
    refine ⟨h.unpublished, ?_, iff_of_true h.unsubscribed trivial⟩
    intro y v found' archived
    have other : y ≠ x := by
      rintro rfl
      cases found.symm.trans found'
      rw [active] at archived
      cases archived
    have absent := h.unscheduled y v found' archived
    simp [Triggers.TriggerLayer.configureCron, other, absent]

theorem retires_updateListenerSubscriptionStatus (y : Uuid) (status : ListenerSubscriptionStatus)
    (actor : String) (lastError : Option String) (now : Instant) :
    (s.updateListenerSubscriptionStatus y status actor lastError now).Retires
      (status = .active → ∀ sub, s.listeners.subscriptions.get? y = some sub →
        s.served sub = true) := by
  refine ⟨h.unpublished, h.unscheduled, ?_⟩
  have updated (z : Uuid) : (s.updateListenerSubscriptionStatus y status actor lastError
      now).listeners.subscriptions.get? z =
        if z = y then (s.listeners.subscriptions.get? y).map
          (fun sub => sub.updateStatus status actor lastError now)
        else s.listeners.subscriptions.get? z := by
    unfold updateListenerSubscriptionStatus ListenerStore.updateListenerSubscriptionStatus
    cases found : s.listeners.subscriptions.get? y with
    | none =>
      by_cases same : z = y
      · simp [same, found]
      · simp [same]
    | some sub => simp
  constructor
  · intro kept active sub found
    have present := updated y
    rw [if_pos rfl, found] at present
    exact kept y (sub.updateStatus status actor lastError now) present active
  · intro condition z sub found active
    rw [updated] at found
    split at found
    case isTrue =>
      obtain ⟨old, present, rfl⟩ := Option.map_eq_some_iff.mp found
      exact condition active old present
    case isFalse => exact h.unsubscribed z sub found active

theorem retires_claimListenerSubscription (y : Uuid) (runtimeId : String) (leaseSeconds : Nat)
    (now : Instant) : Retires { s with listeners :=
      (s.listeners.claimListenerSubscription .inMemory y runtimeId leaseSeconds now).1 } True := by
  refine Retires.of_frame h rfl (fun _ absent => absent) ?_
  intro z sub found active
  unfold ListenerStore.claimListenerSubscription at found
  split at found
  case h_1 => exact ⟨sub, found, active, rfl⟩
  case h_2 old present =>
    split at found
    case h_1 => exact ⟨sub, found, active, rfl⟩
    case h_2 claimed claim =>
      obtain ⟨status, workflow⟩ := ListenerSubscription.claim_kept claim
      dsimp only at found
      obtain ⟨same, rfl⟩ | ⟨-, found⟩ := Dict.of_get?_set found
      · rw [same]
        exact ⟨old, present, status.symm.trans active, workflow.symm⟩
      · exact ⟨sub, found, active, rfl⟩

theorem retires_releaseListenerSubscription (y : Uuid) (runtimeId : String) (now : Instant) :
    Retires { s with listeners :=
      (s.listeners.releaseListenerSubscription y runtimeId now).1 } True := by
  refine Retires.of_frame h rfl (fun _ absent => absent) ?_
  intro z sub found active
  unfold ListenerStore.releaseListenerSubscription at found
  split at found
  case h_1 => exact ⟨sub, found, active, rfl⟩
  case h_2 old present =>
    split at found
    case h_1 => exact ⟨sub, found, active, rfl⟩
    case h_2 released release =>
      obtain ⟨status, workflow⟩ := ListenerSubscription.release_kept release
      dsimp only at found
      obtain ⟨same, rfl⟩ | ⟨-, found⟩ := Dict.of_get?_set found
      · rw [same]
        exact ⟨old, present, status.symm.trans active, workflow.symm⟩
      · exact ⟨sub, found, active, rfl⟩

theorem retires_step (op : RepositoryOp) : (s.step rt op).Retires (s.keepsRetired rt op) := by
  cases op with
  | createWorkflow id now r => exact retires_createWorkflow h id now r
  | updateWorkflow x clock disabledAt u => exact retires_updateWorkflow h x clock disabledAt u
  | archiveWorkflow x clock disabledAt actor => exact retires_updateWorkflow h x clock disabledAt _
  | publishWorkflow x clock requireLogin actor =>
    apply retires_editUnarchived h
    intro w w' published
    unfold Workflow.publish at published
    split at published
    · cases published
    · cases published
      rfl
  | revokePublish x now actor =>
    apply retires_editUnarchived h
    intro w w' revoked
    unfold Workflow.revokePublish at revoked
    split at revoked
    · cases revoked
      rfl
    · cases revoked
  | createTeam id workspaceId name slug isDefault =>
    show (s.createTeam rt id workspaceId name slug isDefault).1.Retires True
    unfold createTeam
    split
    case h_1 => exact .refl h
    case h_2 => exact .of_same h rfl rfl rfl
  | ensureDefaultTeam id workspaceId name slug =>
    show (s.ensureDefaultTeam rt id workspaceId name slug).1.Retires True
    unfold ensureDefaultTeam createTeam
    split
    case h_1 => exact .refl h
    case h_2 =>
      cases s.checkTeam rt workspaceId name slug true with
      | error e => exact .refl h
      | ok team =>
        exact .of_same h rfl rfl rfl
  | deleteTeam team workspaceId =>
    show (s.deleteTeam team workspaceId).1.Retires True
    unfold deleteTeam
    split
    case h_1 => exact .refl h
    case h_2 =>
      split
      case isTrue => exact .refl h
      case isFalse =>
        split
        case isTrue => exact .refl h
        case isFalse =>
          exact .of_same h rfl rfl rfl
  | createVersion x version compiled actor now =>
    show (s.createVersion x version compiled actor now).Retires
      (s.workflows.contains x = true → s.servesCompiled compiled)
    unfold createVersion Dict.contains
    cases s.workflows.get? x with
    | none => exact (Retires.refl h).congr (iff_of_true trivial nofun)
    | some w =>
      have synced : (syncListenerSubscriptions { s with
        workflowVersions := s.workflowVersions.set x
          ((s.workflowVersions.get? x).getD [] ++ [version]) } x compiled actor now).Retires
          (s.servesCompiled compiled) := .of_sync h rfl rfl rfl
      exact synced.congr ⟨fun served _ => served, fun served => served rfl⟩
  | syncListenerSubscriptions x compiled actor now => exact .of_sync h rfl rfl rfl
  | configureWebhookTrigger x config =>
    show (s.configureWebhookTrigger x config).1.Retires True
    unfold configureWebhookTrigger
    split
    case h_1 => exact .refl h
    case h_2 => exact .of_same h rfl rfl rfl
  | configureCronTrigger x config => exact retires_configureCronTrigger h x config
  | deleteCronTrigger x =>
    show (s.deleteCronTrigger x).1.Retires True
    unfold deleteCronTrigger
    split
    case h_1 => exact .refl h
    case h_2 =>
      refine Retires.of_frame h rfl ?_ fun _ sub found active => ⟨sub, found, active, rfl⟩
      intro y absent
      rw [Triggers.TriggerLayer.get?_removeCronConfig, absent, ite_self]
  | claimListenerSubscription y runtimeId leaseSeconds now =>
    exact retires_claimListenerSubscription h y runtimeId leaseSeconds now
  | releaseListenerSubscription y runtimeId now =>
    exact retires_releaseListenerSubscription h y runtimeId now
  | updateListenerSubscriptionStatus y status actor lastError now =>
    exact retires_updateListenerSubscriptionStatus h y status actor lastError now

end Frames

theorem dismantled_fresh : Dismantled {} where
  unpublished _ _ found := by cases found
  unscheduled _ _ found := by cases found
  unsubscribed _ _ found := by cases found

/-- Archived workflows are out of service in every state of a run exactly if every operation
meets the condition where it starts. -/
theorem archived_retired (rt : TextRuntime) (ops : List RepositoryOp) :
    Always (step rt) Retired {} ops ↔ AllSteps (step rt) (keepsRetired rt) {} ops := by
  apply always_iff_allSteps_of_invariant (I := Dismantled)
  · intro s h
    exact h.retired
  · intro s op h condition
    have retires : (s.step rt op).Retires (s.keepsRetired rt op) := retires_step h op
    exact ⟨retires.unpublished, retires.unscheduled, retires.unsubscribed.mpr condition⟩
  · intro s op h retired
    exact (retires_step h op).unsubscribed.mp retired.unsubscribed
  · exact dismantled_fresh

theorem archived_listens : ¬ Always (step .ascii) Retired {}
    [.createWorkflow 1 0 { name := "Bot" }, .archiveWorkflow 1 ⟨1, 1⟩ 1 "owner",
      .createVersion 1 7 (some (Dict.ofList [(5, { workflowId := 1, workflowVersionId := 7 })]))
        "owner" 2] := by
  intro always
  have unsubscribed := always.last.unsubscribed
  have served := unsubscribed 5 _ rfl rfl
  cases served

end InMemoryRepositoryState

end Orcheo.Repository
