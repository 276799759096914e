import Orcheo.Defs.Workspaces.RepositoryLaws
import Orcheo.Defs.Workspaces.Service

/-! What a call changes when no other call runs: some workspaces and nothing of any other.  What is
cached of a user is what is stored, but for those whose entries the call has still to drop. -/

namespace Orcheo.Workspaces

open Lib.Call (runs_andThen)
open Lib (Dict)

structure WorkspaceView where
  record : Option Workspace
  members : String → Option WorkspaceMembership
  invitations : Uuid → Option WorkspaceInvitation
  auditEvents : List WorkspaceAuditEvent

def WorkspaceStore.view (s : WorkspaceStore) (workspaceId : Uuid) : WorkspaceView where
  record := s.workspaces.get? workspaceId
  members userId := s.memberships.get? (workspaceId, userId)
  invitations invitationId :=
    (s.invitations.get? invitationId).filter (fun i => i.workspaceId = workspaceId)
  auditEvents := s.auditEvents.filter (fun e => e.workspaceId = workspaceId)

def WorkspaceStore.Holds (s : WorkspaceStore) (userId : String) (m : WorkspaceMembership) : Prop :=
  ∃ m', s.memberships.get? (m.workspaceId, userId) = some m' ∧ m'.role = m.role

def WorkspaceStore.CachedBut (s : WorkspaceStore) (users : List String) : Prop :=
  ∀ userId, userId ∉ users → ∀ entry, s.cache.get? userId = some entry →
    ∀ m ∈ entry.memberships, s.Holds userId m

def WorkspaceOp.touches (s : WorkspaceStore) : WorkspaceOp → List String
  | addMembership m | acceptInvitationAtomic m _ _ _ => [m.userId]
  | removeMembership _ userId | updateMembershipRole _ userId _ => [userId]
  | deleteWorkspace workspaceId =>
    (s.memberships.keys.filter (fun key => key.1 = workspaceId)).map (·.2)
  | _ => []

variable (W : Uuid → Prop)

def InvitationInside (s : WorkspaceStore) (invitation : WorkspaceInvitation) : Prop :=
  W invitation.workspaceId ∧
    ∀ stored, s.invitations.get? invitation.id = some stored → W stored.workspaceId

def WorkspaceOp.Inside (s : WorkspaceStore) : WorkspaceOp → Prop
  | createWorkspace workspace => W workspace.id
  | updateStatus workspaceId _ _ | deleteWorkspace workspaceId | removeMembership workspaceId _
  | updateMembershipRole workspaceId _ _ | updateMembershipIdentity workspaceId _ _ _ =>
    W workspaceId
  | addMembership m => W m.workspaceId
  | recordAuditEvent event => W event.workspaceId
  | addInvitation invitation | updateInvitation invitation => InvitationInside W s invitation
  | acceptInvitationAtomic m _ invitation _ => W m.workspaceId ∧ InvitationInside W s invitation
  | cacheSet userId ms _ => ∀ m ∈ ms, s.Holds userId m
  | _ => True

structure Within (users : List String) (s₀ s : WorkspaceStore) : Prop where
  keyed : s.Keyed
  cached : s.CachedBut users
  view : ∀ workspaceId, ¬ W workspaceId → s.view workspaceId = s₀.view workspaceId

variable {W} {rt : WorkspaceRuntime} {b : Backend} {s s₀ : WorkspaceStore} {op : WorkspaceOp}
  {users : List String} {workspaceId : Uuid} {userId : String}

variable {s' : WorkspaceStore}

theorem view_of (record : s'.workspaces.get? workspaceId = s.workspaces.get? workspaceId)
    (members : ∀ userId, s'.memberships.get? (workspaceId, userId) =
      s.memberships.get? (workspaceId, userId))
    (invitations : ∀ invitationId,
      (s'.invitations.get? invitationId).filter (fun i => i.workspaceId = workspaceId) =
        (s.invitations.get? invitationId).filter (fun i => i.workspaceId = workspaceId))
    (auditEvents : s'.auditEvents.filter (fun e => e.workspaceId = workspaceId) =
      s.auditEvents.filter (fun e => e.workspaceId = workspaceId)) :
    s'.view workspaceId = s.view workspaceId := by
  unfold WorkspaceStore.view
  rw [record, auditEvents, funext members, funext invitations]

section Outside

variable (outside : ¬ W workspaceId)
include outside

theorem apart {workspaceId' : Uuid} (inside : W workspaceId') : workspaceId ≠ workspaceId' := by
  rintro rfl
  exact outside inside

theorem member_set_outside {memberships : Dict (Uuid × String) WorkspaceMembership}
    {m : WorkspaceMembership} {key : Uuid × String} (inside : W key.1) :
    (memberships.set key m).get? (workspaceId, userId) =
      memberships.get? (workspaceId, userId) := by
  rw [Dict.get?_set, if_neg]
  rintro rfl
  exact outside inside

theorem invitation_set_outside {invitations : Dict Uuid WorkspaceInvitation}
    {invitation : WorkspaceInvitation} {key invitationId : Uuid} (inside : W invitation.workspaceId)
    (stored : ∀ stored, invitations.get? key = some stored → W stored.workspaceId) :
    ((invitations.set key invitation).get? invitationId).filter
        (fun i => i.workspaceId = workspaceId) =
      (invitations.get? invitationId).filter (fun i => i.workspaceId = workspaceId) := by
  have other {i : WorkspaceInvitation} (inside : W i.workspaceId) : i.workspaceId ≠ workspaceId :=
    Ne.symm (apart outside inside)
  rw [Dict.get?_set]
  split
  next same =>
    rw [same]
    cases found : invitations.get? key with
    | none => simp [Option.filter, other inside]
    | some i => simp [Option.filter, other inside, other (stored i found)]
  next => rfl

theorem view_exec (inside : op.Inside W s) :
    (s.exec rt b op).2.view workspaceId = s.view workspaceId := by
  cases s.exec_cases rt b op with
  | inl same => rw [same.1]
  | inr changed =>
    obtain ⟨-, effect⟩ := changed
    generalize (s.exec rt b op).2 = after at effect ⊢
    cases effect with
    | createWorkspace =>
      exact view_of ((Dict.get?_set _ _ _ _).trans (if_neg (apart outside inside)))
        (fun _ => rfl) (fun _ => rfl) rfl
    | updateStatus =>
      exact view_of ((Dict.get?_set _ _ _ _).trans (if_neg (apart outside inside)))
        (fun _ => rfl) (fun _ => rfl) rfl
    | @deleteWorkspace deleted =>
      have other : workspaceId ≠ deleted := apart outside inside
      refine view_of ((Dict.get?_erase _ _ _).trans (if_neg other)) (fun userId => ?members)
        (fun invitationId => ?invitations) ?auditEvents
      case members =>
        rw [Dict.get?_filter]
        cases s.memberships.get? (workspaceId, userId) with
        | none => rfl
        | some m => simp [Option.filter, other]
      case invitations =>
        rw [Dict.get?_filter]
        cases s.invitations.get? invitationId with
        | none => rfl
        | some i =>
          by_cases here : i.workspaceId = workspaceId
          · simp [Option.filter, here, other]
          · by_cases there : i.workspaceId = deleted <;>
              simp [Option.filter, here, there, Ne.symm other]
      case auditEvents =>
        rw [List.filter_filter]
        apply List.filter_congr
        intro e _
        by_cases here : e.workspaceId = workspaceId
        · simp [here, other]
        · simp [here]
    | addMembership =>
      exact view_of rfl (fun _ => member_set_outside outside inside) (fun _ => rfl) rfl
    | @removeMembership removed userId' =>
      refine view_of rfl (fun userId => ?_) (fun _ => rfl) rfl
      refine (Dict.get?_erase _ _ _).trans (if_neg (fun same => ?_))
      exact apart outside inside (congrArg Prod.fst same)
    | updateMembershipRole =>
      exact view_of rfl (fun _ => member_set_outside outside inside) (fun _ => rfl) rfl
    | updateMembershipIdentity =>
      exact view_of rfl (fun _ => member_set_outside outside inside) (fun _ => rfl) rfl
    | @recordAuditEvent event =>
      refine view_of rfl (fun _ => rfl) (fun _ => rfl) ?_
      have other : event.workspaceId ≠ workspaceId := Ne.symm (apart outside inside)
      rw [List.filter_append, List.filter_cons_of_neg (by simpa using other)]
      exact List.append_nil _
    | addInvitation =>
      exact view_of rfl (fun _ => rfl)
        (fun _ => invitation_set_outside outside inside.1 inside.2) rfl
    | @updateInvitation invitation stored found =>
      refine view_of rfl (fun _ => rfl)
        (fun _ => invitation_set_outside outside ?_ inside.2) rfl
      cases b with
      | inMemory => exact inside.1
      | postgres => exact inside.2 stored found
    | acceptInMemory =>
      exact view_of rfl (fun _ => member_set_outside outside inside.1)
        (fun _ => invitation_set_outside outside inside.2.1 inside.2.2) rfl
    | @acceptInPostgres _ _ _ _ stored _ found =>
      exact view_of rfl (fun _ => member_set_outside outside inside.1)
        (fun _ => invitation_set_outside outside (inside.2.2 stored found) inside.2.2) rfl
    | _ => rfl

end Outside

theorem holds_of_set {key : Uuid × String} {m written : WorkspaceMembership}
    (set : s'.memberships = s.memberships.set key written) (holds : s.Holds userId m)
    (same : key = (m.workspaceId, userId) → ∀ m', s.memberships.get? key = some m' →
      written.role = m'.role) : s'.Holds userId m := by
  obtain ⟨m', found, role⟩ := holds
  unfold WorkspaceStore.Holds
  rw [set, Dict.get?_set]
  by_cases here : (m.workspaceId, userId) = key
  · rw [if_pos here]
    exact ⟨written, rfl, (same here.symm m' (by rw [← here]; exact found)).trans role⟩
  · rw [if_neg here]
    exact ⟨m', found, role⟩

theorem holds_of_set_other {key : Uuid × String}
    {m written : WorkspaceMembership} (set : s'.memberships = s.memberships.set key written)
    (other : userId ≠ key.2) (holds : s.Holds userId m) : s'.Holds userId m :=
  holds_of_set set holds (fun same => absurd (congrArg Prod.snd same).symm other)

theorem WorkspaceStore.CachedBut.of {users' : List String}
    (cached : s.CachedBut users) (more : ∀ userId ∈ users, userId ∈ users')
    (kept : ∀ userId m, userId ∉ users' → s.Holds userId m → s'.Holds userId m)
    (entries : ∀ userId entry, userId ∉ users' → s'.cache.get? userId = some entry →
      s.cache.get? userId = some entry ∨ ∀ m ∈ entry.memberships, s.Holds userId m) :
    s'.CachedBut users' := by
  intro userId outside entry found m mem
  apply kept userId m outside
  cases entries userId entry outside found with
  | inl before => exact cached userId (fun mem => outside (more _ mem)) entry before m mem
  | inr now => exact now m mem

theorem cached_exec (inside : op.Inside W s) (cached : s.CachedBut users) :
    (s.exec rt b op).2.CachedBut (op.touches s ++ users) := by
  have more : ∀ userId ∈ users, userId ∈ op.touches s ++ users :=
    fun _ mem => List.mem_append_right _ mem
  cases s.exec_cases rt b op with
  | inl same =>
    rw [same.1]
    exact cached.of more (fun _ _ _ holds => holds) (fun _ _ _ found => Or.inl found)
  | inr changed =>
    obtain ⟨-, effect⟩ := changed
    generalize (s.exec rt b op).2 = after at effect ⊢
    have first {u userId : String} {us : List String} (outside : userId ∉ [u] ++ us) :
        userId ≠ u := by
      rintro rfl
      exact outside List.mem_cons_self
    cases effect with
    | @deleteWorkspace deleted =>
      refine cached.of more (fun userId m outside holds => ?_) (fun _ _ _ found => Or.inl found)
      obtain ⟨m', found, role⟩ := holds
      have kept : m.workspaceId ≠ deleted := by
        rintro rfl
        have listed : (m.workspaceId, userId) ∈ s.memberships.keys :=
          (Dict.mem_keys_iff _ _).mpr ⟨m', found⟩
        exact outside (List.mem_append_left _ (List.mem_map.mpr
          ⟨_, List.mem_filter.mpr ⟨listed, decide_eq_true rfl⟩, rfl⟩))
      refine ⟨m', ?_, role⟩
      rw [Dict.get?_filter, found]
      simp [Option.filter, kept]
    | addMembership =>
      exact cached.of more (fun _ _ outside => holds_of_set_other rfl (first outside))
        (fun _ _ _ found => Or.inl found)
    | acceptInMemory =>
      exact cached.of more (fun _ _ outside => holds_of_set_other rfl (first outside))
        (fun _ _ _ found => Or.inl found)
    | acceptInPostgres =>
      exact cached.of more (fun _ _ outside => holds_of_set_other rfl (first outside))
        (fun _ _ _ found => Or.inl found)
    | updateMembershipRole =>
      exact cached.of more (fun _ _ outside => holds_of_set_other rfl (first outside))
        (fun _ _ _ found => Or.inl found)
    | removeMembership =>
      refine cached.of more (fun userId m outside holds => ?_) (fun _ _ _ found => Or.inl found)
      obtain ⟨m', found, role⟩ := holds
      refine ⟨m', ?_, role⟩
      refine ((Dict.get?_erase _ _ _).trans (if_neg (fun same => ?_))).trans found
      exact first outside (congrArg Prod.snd same)
    | @updateMembershipIdentity _ _ stored _ _ there =>
      refine cached.of more (fun userId m outside holds => ?_) (fun _ _ _ found => Or.inl found)
      refine holds_of_set rfl holds (fun _ m' found => ?_)
      cases there.symm.trans found
      rfl
    | expire =>
      refine cached.of more (fun _ _ _ holds => holds) (fun userId entry _ found => Or.inl ?_)
      rw [Dict.get?_erase] at found
      split at found
      next => cases found
      next => exact found
    | @cacheSet userId' ms now =>
      refine cached.of more (fun _ _ _ holds => holds) (fun userId entry _ found => ?_)
      rw [WorkspaceStore.cacheSet] at found
      obtain ⟨same, rfl⟩ | ⟨-, found⟩ := Dict.of_get?_set found
      · rw [same]
        exact Or.inr inside
      · exact Or.inl found
    | invalidate =>
      refine cached.of more (fun _ _ _ holds => holds) (fun userId entry _ found => Or.inl ?_)
      rw [WorkspaceStore.invalidate, Dict.get?_erase] at found
      split at found
      next => cases found
      next => exact found
    | _ => exact cached.of more (fun _ _ _ holds => holds) (fun _ _ _ found => Or.inl found)

theorem within_refl (keyed : s.Keyed) (cached : s.CachedBut users) : Within W users s s :=
  ⟨keyed, cached, fun _ _ => rfl⟩

namespace Within

theorem mono (within : Within W users s₀ s) {W' : Uuid → Prop} {users' : List String}
    (wider : ∀ workspaceId, W workspaceId → W' workspaceId)
    (more : ∀ userId ∈ users, userId ∈ users') : Within W' users' s₀ s where
  keyed := within.keyed
  cached userId outside := within.cached userId (fun mem => outside (more _ mem))
  view workspaceId outside := within.view workspaceId (fun inside => outside (wider _ inside))

variable (rt b op) in
theorem exec (within : Within W users s₀ s) (inside : op.Inside W s) :
    Within W (op.touches s ++ users) s₀ (s.exec rt b op).2 where
  keyed := within.keyed.exec op
  cached := cached_exec inside within.cached
  view _ outside := (view_exec outside inside).trans (within.view _ outside)

theorem invalidate (within : Within W (userId :: users) s₀ s) :
    Within W users s₀ (s.invalidate userId) where
  keyed := ⟨within.keyed.workspaces, within.keyed.memberships, within.keyed.invitations⟩
  cached u outside entry found := by
    rw [WorkspaceStore.invalidate, Dict.get?_erase] at found
    split at found
    next => cases found
    next other =>
      refine within.cached u ?_ entry found
      rw [List.mem_cons, not_or]
      exact ⟨other, outside⟩
  view := within.view

end Within

section Runs

variable {α : Type} {C : Except WorkspaceError α → WorkspaceStore → Prop}

theorem runs_run {next : op.Result → WorkspaceCall α}
    (fails : ∀ e, (s.exec rt b op).1 = .error e → C (.error e) s)
    (goes : ∀ a, (s.exec rt b op).1 = .ok a →
      (next a).Runs (WorkspaceStore.exec rt b) C (s.exec rt b op).2) :
    (run op next).Runs (WorkspaceStore.exec rt b) C s := by
  unfold run
  rw [Lib.Call.runs_ask]
  cases answered : (s.exec rt b op).1 with
  | error e =>
    rw [s.exec_error rt b answered]
    exact fails e answered
  | ok a => exact goes a answered

theorem runs_bestEffort {next : WorkspaceCall α}
    (goes : next.Runs (WorkspaceStore.exec rt b) C (s.exec rt b op).2) :
    (bestEffort op next).Runs (WorkspaceStore.exec rt b) C s := goes

theorem runs_invalidate {next : Unit → WorkspaceCall α}
    (goes : (next ()).Runs (WorkspaceStore.exec rt b) C (s.invalidate userId)) :
    (run (.invalidate userId) next).Runs (WorkspaceStore.exec rt b) C s := goes

end Runs

/-- The call has changed nothing but what is inside, and that holds of its result. -/
structure Stays {ε α : Type} (W : Uuid → Prop) (s₀ : WorkspaceStore) (P : α → Prop)
    (r : Except ε α) (s : WorkspaceStore) : Prop where
  within : Within W [] s₀ s
  result : ∀ a, r = .ok a → P a

abbrev Keeps {ε α : Type} (rt : WorkspaceRuntime) (b : Backend) (W : Uuid → Prop)
    (s₀ s : WorkspaceStore) (P : α → Prop) (call : Lib.Call WorkspaceOp.Answer (Except ε α)) :
    Prop := call.Runs (WorkspaceStore.exec rt b) (Stays W s₀ P) s

section Calls

variable {ε α β : Type} {P : α → Prop} {C : Except WorkspaceError α → WorkspaceStore → Prop}

theorem Stays.failed {e : ε} (within : Within W [] s₀ s) : Stays W s₀ P (.error e) s :=
  ⟨within, nofun⟩

theorem stays_run {op : WorkspaceOp} {next : op.Result → WorkspaceCall α}
    (within : Within W [] s₀ s)
    (goes : ∀ a, (s.exec rt b op).1 = .ok a →
      (next a).Runs (WorkspaceStore.exec rt b) (Stays W s₀ P) (s.exec rt b op).2) :
    (run op next).Runs (WorkspaceStore.exec rt b) (Stays W s₀ P) s :=
  runs_run (fun _ _ => Stays.failed within) goes

theorem Stays.done {a : α} (within : Within W [] s₀ s) (holds : P a) :
    Stays (ε := ε) W s₀ P (.ok a) s := by
  refine ⟨within, fun _ same => ?_⟩
  cases same
  exact holds

theorem runs_ensureMembershipCapacity {owned : Option Uuid}
    {C : Except WorkspaceError Unit → WorkspaceStore → Prop} (fails : ∀ e, C (.error e) s)
    (goes : C (.ok ()) s) :
    (ensureMembershipCapacity userId owned).Runs (WorkspaceStore.exec rt b) C s := by
  refine runs_run (fun e _ => fails e) (fun memberships _ => ?_)
  split
  next => exact goes
  next =>
    split
    next => exact fails _
    next => exact goes

/-! What an operation answers with, of what it was asked to write. -/

variable {workspace : Workspace} {invitation : WorkspaceInvitation} {now setAt : Instant}
  {role : Role} {actorRole : Option Role}

theorem createWorkspace_answer {created : Workspace}
    (answered : (s.exec rt b (.createWorkspace workspace)).1 = .ok created) :
    created = workspace := by
  have answered : (s.createWorkspace b workspace).1 = .ok created := answered
  unfold WorkspaceStore.createWorkspace at answered
  split at answered
  next => cases answered
  next =>
    split at answered
    next => cases answered
    next =>
      cases answered
      rfl

theorem memberships_createWorkspace :
    (s.exec rt b (.createWorkspace workspace)).2.memberships = s.memberships := by
  show (s.createWorkspace b workspace).2.memberships = _
  unfold WorkspaceStore.createWorkspace
  split
  next => rfl
  next => split <;> rfl

theorem addMembership_answer {m added : WorkspaceMembership}
    (answered : (s.exec rt b (.addMembership m)).1 = .ok added) : added = m := by
  have answered : (s.addMembership m).1 = .ok added := answered
  unfold WorkspaceStore.addMembership at answered
  split at answered
  next => cases answered
  next =>
    split at answered
    next => cases answered
    next =>
      cases answered
      rfl

theorem addInvitation_answer {added : WorkspaceInvitation}
    (answered : (s.exec rt b (.addInvitation invitation)).1 = .ok added) : added = invitation := by
  have answered : (s.addInvitation b invitation).1 = .ok added := answered
  unfold WorkspaceStore.addInvitation at answered
  split at answered
  next => cases answered
  next =>
    split at answered
    next => cases answered
    next =>
      split at answered
      next => cases answered
      next =>
        cases answered
        rfl

theorem updateInvitation_answer {updated : WorkspaceInvitation}
    (answered : (s.exec rt b (.updateInvitation invitation)).1 = .ok updated) :
    updated = invitation := by
  have answered : (s.updateInvitation b invitation).1 = .ok updated := answered
  unfold WorkspaceStore.updateInvitation at answered
  split at answered
  next => cases answered
  next =>
    cases answered
    rfl

theorem getInvitation_answer {invitationId : Uuid}
    (answered : (s.exec rt b (.getInvitation invitationId)).1 = .ok invitation) :
    s.invitations.get? invitationId = some invitation := by
  have answered : s.getInvitation invitationId = .ok invitation := answered
  unfold WorkspaceStore.getInvitation at answered
  split at answered
  next => cases answered
  next found =>
    cases answered
    exact found

theorem getWorkspace_answer
    (answered : (s.exec rt b (.getWorkspace workspaceId)).1 = .ok workspace) :
    s.workspaces.get? workspaceId = some workspace := by
  have answered : s.getWorkspace workspaceId = .ok workspace := answered
  unfold WorkspaceStore.getWorkspace at answered
  split at answered
  next => cases answered
  next found =>
    cases answered
    exact found

theorem updateStatus_answer {status : WorkspaceStatus} (keyed : s.Keyed)
    (answered : (s.exec rt b (.updateStatus workspaceId status now)).1 = .ok workspace) :
    workspace.id = workspaceId := by
  have answered : (s.updateStatus workspaceId status now).1 = .ok workspace := answered
  unfold WorkspaceStore.updateStatus at answered
  split at answered
  next => cases answered
  next stored found =>
    cases answered
    exact keyed.workspaces _ stored found

theorem updateMembershipRole_answer {m : WorkspaceMembership} (keyed : s.Keyed)
    (answered : (s.exec rt b (.updateMembershipRole workspaceId userId role)).1 = .ok m) :
    m.workspaceId = workspaceId := by
  have answered : (s.rewriteMembership workspaceId userId _).1 = .ok m := answered
  unfold WorkspaceStore.rewriteMembership at answered
  split at answered
  next => cases answered
  next stored found =>
    cases answered
    exact congrArg Prod.fst (keyed.memberships _ stored found)

theorem touches_deleteWorkspace
    (empty : ∀ userId, s.memberships.get? (workspaceId, userId) = none) :
    WorkspaceOp.touches s (.deleteWorkspace workspaceId) = [] := by
  show (s.memberships.keys.filter _).map _ = []
  rw [List.map_eq_nil_iff, List.filter_eq_nil_iff]
  rintro ⟨w, userId⟩ mem here
  have same : w = workspaceId := by simpa using here
  rw [same] at mem
  obtain ⟨m, found⟩ := (Dict.mem_keys_iff _ _).mp mem
  cases (empty userId).symm.trans found

theorem addOwner_runs {owner : WorkspaceMembership} (within : Within W [] s₀ s)
    (inside : W owner.workspaceId)
    (empty : ∀ userId, s.memberships.get? (owner.workspaceId, userId) = none) :
    (addOwner owner).Runs (WorkspaceStore.exec rt b) (fun r s => match r with
      | .error _ => Within W [] s₀ s
      | .ok _ => Within W [owner.userId] s₀ s) s := by
  unfold addOwner
  rw [Lib.Call.runs_bind, runs_andThen]
  have deleted (e : WorkspaceError) :
      (run (.deleteWorkspace owner.workspaceId) (fun _ => .raise e) :
        WorkspaceCall WorkspaceMembership).Runs (WorkspaceStore.exec rt b) (fun r s => match r with
          | .error _ => Within W [] s₀ s
          | .ok _ => Within W [owner.userId] s₀ s) s := by
    refine runs_run (fun _ _ => within) (fun _ _ => ?_)
    have gone := within.exec rt b (.deleteWorkspace owner.workspaceId) inside
    rw [touches_deleteWorkspace empty] at gone
    exact gone
  refine runs_ensureMembershipCapacity (fun e => deleted e) ?_
  exact runs_run (fun e _ => deleted e) (fun _ _ => within.exec rt b (.addMembership owner) inside)

theorem createWorkspace_runs {slug name owner : String} {ownerEmail ownerName : Option String}
    {newId : Uuid} (within : Within W [] s₀ s) (inside : W newId)
    (empty : ∀ userId, s.memberships.get? (newId, userId) = none) :
    Keeps rt b W s₀ s (fun workspace => workspace.id = newId)
      (createWorkspace rt slug name owner ownerEmail ownerName newId) := by
  unfold createWorkspace
  split
  next => exact Stays.failed within
  next normalized _ =>
    dsimp only
    split
    next => exact Stays.failed within
    next =>
      refine stays_run within (fun created answered => ?_)
      have same := createWorkspace_answer answered
      subst same
      have made := within.exec rt b
        (.createWorkspace { id := newId, slug := normalized, name := rt.strip name }) inside
      rw [runs_andThen]
      refine (addOwner_runs made inside ?_).mono (fun r s owned => ?_)
      · intro userId
        rw [memberships_createWorkspace]
        exact empty userId
      · cases r with
        | error e => exact Stays.failed owned
        | ok m =>
          refine runs_bestEffort (runs_invalidate (Stays.done (Within.invalidate ?_) rfl))
          exact owned.exec rt b (.recordAuditEvent _) inside

section Inside

variable (within : Within W [] s₀ s) (inside : W workspaceId)
include within inside

theorem changeStatus_runs {action : String} {status : WorkspaceStatus} :
    Keeps rt b W s₀ s (fun workspace => workspace.id = workspaceId)
      (changeStatus rt action workspaceId status now) := by
  refine stays_run within (fun workspace answered => ?_)
  have named : workspace.id = workspaceId := updateStatus_answer within.keyed answered
  rw [named]
  have changed := within.exec rt b (.updateStatus workspaceId status now) inside
  exact runs_bestEffort (Stays.done (changed.exec rt b (.recordAuditEvent _) inside) named)

theorem inviteMember_runs :
    Keeps rt b W s₀ s (fun m => m.workspaceId = workspaceId)
      (inviteMember workspaceId userId role actorRole) := by
  unfold Keeps inviteMember
  split
  next => exact Stays.failed within
  next =>
    rw [runs_andThen]
    refine runs_ensureMembershipCapacity (fun _ => Stays.failed within) ?_
    refine stays_run within (fun added answered => ?_)
    have same := addMembership_answer answered
    have joined := within.exec rt b (.addMembership ⟨workspaceId, userId, none, none, role⟩) inside
    exact runs_invalidate
      (Stays.done joined.invalidate (congrArg WorkspaceMembership.workspaceId same))

theorem removeMember_runs :
    Keeps rt b W s₀ s (fun _ => True) (removeMember workspaceId userId actorRole) := by
  unfold removeMember
  split
  next => exact Stays.failed within
  next =>
    refine stays_run within (fun _ _ => ?_)
    have removed := within.exec rt b (.removeMembership workspaceId userId) inside
    refine runs_bestEffort (runs_invalidate (Stays.done (Within.invalidate ?_) trivial))
    exact removed.exec rt b (.recordAuditEvent _) inside

theorem updateMemberRole_runs :
    Keeps rt b W s₀ s (fun m => m.workspaceId = workspaceId)
      (updateMemberRole workspaceId userId role actorRole) := by
  unfold updateMemberRole
  split
  next => exact Stays.failed within
  next =>
    refine stays_run within (fun updated answered => ?_)
    have named := updateMembershipRole_answer within.keyed answered
    have changed := within.exec rt b (.updateMembershipRole workspaceId userId role) inside
    refine runs_bestEffort (runs_invalidate (Stays.done (Within.invalidate ?_) named))
    exact changed.exec rt b (.recordAuditEvent _) inside

theorem createInvitation_runs {config : WorkspaceConfig} {email rawToken : String}
    {invitedBy workspaceName : Option String} {newId : Uuid}
    (fresh : s.invitations.get? newId = none) :
    Keeps rt b W s₀ s (fun invitation => invitation.workspaceId = workspaceId)
      (createInvitation rt config workspaceId email role invitedBy actorRole workspaceName newId
        rawToken now) := by
  unfold createInvitation
  split
  next => exact Stays.failed within
  next =>
    split
    next => exact Stays.failed within
    next normalized _ =>
      refine stays_run within (fun created answered => ?_)
      have named := congrArg WorkspaceInvitation.workspaceId (addInvitation_answer answered)
      have new : InvitationInside W s
          (newInvitation rt config workspaceId normalized role invitedBy newId rawToken now) :=
        ⟨inside, fun stored found => by cases fresh.symm.trans found⟩
      have added := within.exec rt b (.addInvitation _) new
      have recorded := added.exec rt b (.recordAuditEvent (invitationEvent rt workspaceId
        "workspace.invitation.created" invitedBy created
        [("role", role.value), ("email", normalized)])) inside
      cases workspaceName with
      | none => exact Stays.done recorded named
      | some _ => exact Stays.done recorded named

theorem revokeInvitation_runs {invitationId : Uuid} {actor : Option String} :
    Keeps rt b W s₀ s (fun invitation => invitation.workspaceId = workspaceId)
      (revokeInvitation rt workspaceId invitationId actorRole actor) := by
  unfold revokeInvitation
  split
  next => exact Stays.failed within
  next =>
    refine stays_run within (fun invitation answered => ?_)
    have found := getInvitation_answer answered
    have named : invitation.id = invitationId := within.keyed.invitations _ invitation found
    split
    next => exact Stays.failed within
    next own =>
      rw [not_or, not_not, not_not] at own
      have here : InvitationInside W s (revokedInvitation invitation) := by
        have there : W invitation.workspaceId := by
          rw [own.1]
          exact inside
        refine ⟨there, fun stored found' => ?_⟩
        have found' : s.invitations.get? invitation.id = some stored := found'
        rw [named] at found'
        cases found.symm.trans found'
        exact there
      refine stays_run within (fun updated answered => ?_)
      have same := congrArg WorkspaceInvitation.workspaceId (updateInvitation_answer answered)
      have revoked := within.exec rt b (.updateInvitation _) here
      exact runs_bestEffort (Stays.done (revoked.exec rt b (.recordAuditEvent _) inside)
        (same.trans own.1))

theorem recordMemberIdentity_runs {email userName : Option String} :
    Keeps rt b W s₀ s (fun _ => True) (recordMemberIdentity workspaceId userId email userName) := by
  unfold recordMemberIdentity
  split
  next => exact Stays.done within trivial
  next =>
    exact runs_bestEffort (Stays.done
      (within.exec rt b (.updateMembershipIdentity workspaceId userId email userName) inside)
      trivial)

end Inside

theorem redeem_runs {acceptedAt : Instant}
    (within : Within W [] s₀ s) (inside : InvitationInside W s invitation) :
    Keeps rt b W s₀ s (fun _ => True) (redeem rt invitation userId acceptedAt) := by
  unfold Keeps redeem
  rw [runs_andThen]
  refine runs_ensureMembershipCapacity (fun _ => Stays.failed within) ?_
  refine stays_run within (fun accepted _ => ?_)
  have joined := within.exec rt b (.acceptInvitationAtomic (invitedMembership invitation userId)
    invitation.email invitation acceptedAt) ⟨inside.1, inside⟩
  refine runs_bestEffort (runs_invalidate (Stays.done (Within.invalidate ?_) trivial))
  exact joined.exec rt b (.recordAuditEvent _) inside.1

theorem acceptInvitation_runs {rawToken : String} {email : Option String} {emailVerified : Bool}
    {acceptedAt : Instant} (within : Within W [] s₀ s) (all : ∀ w, W w) :
    Keeps rt b W s₀ s (fun _ => True)
      (acceptInvitation rt rawToken userId email emailVerified now acceptedAt) := by
  refine stays_run within (fun invitation _ => ?_)
  split
  next => exact Stays.failed within
  next =>
    split
    next => exact stays_run within (fun _ _ => Stays.done within trivial)
    next => exact Stays.failed within
  next =>
    split
    next => exact Stays.failed within
    next =>
      split
      next => exact Stays.failed within
      next =>
        split
        next => exact Stays.failed within
        next => exact redeem_runs within ⟨all _, fun _ _ => all _⟩

variable {after : WorkspaceCall α}

theorem runs_invalidateAll {userIds : List String} (within : Within W userIds s₀ s)
    (goes : ∀ s', Within W [] s₀ s' → s'.workspaces = s.workspaces →
      after.Runs (WorkspaceStore.exec rt b) C s') :
    (invalidateAll after userIds).Runs (WorkspaceStore.exec rt b) C s := by
  induction userIds generalizing s with
  | nil => exact goes s within rfl
  | cons userId userIds ih => exact runs_invalidate (ih within.invalidate goes)

theorem deleteWorkspace_deletes {a : Unit}
    (answered : (s.exec rt b (.deleteWorkspace workspaceId)).1 = .ok a) :
    s.workspaces.get? workspaceId ≠ none ∧
      (s.exec rt b (.deleteWorkspace workspaceId)).2.workspaces =
        s.workspaces.erase workspaceId := by
  have answered : (s.deleteWorkspace workspaceId).1 = .ok a := answered
  show _ ∧ (s.deleteWorkspace workspaceId).2.workspaces = _
  unfold WorkspaceStore.deleteWorkspace at answered ⊢
  split at answered
  next => cases answered
  next _ found =>
    refine ⟨?_, rfl⟩
    rw [found]
    exact Option.some_ne_none _

theorem deleteWorkspace_fails {e : WorkspaceError}
    (answered : (s.exec rt b (.deleteWorkspace workspaceId)).1 = .error e) :
    e = .workspaceNotFound ∧ s.workspaces.get? workspaceId = none := by
  have answered : (s.deleteWorkspace workspaceId).1 = .error e := answered
  unfold WorkspaceStore.deleteWorkspace at answered
  split at answered
  next absent =>
    cases answered
    exact ⟨rfl, absent⟩
  next => cases answered

theorem touches_of_listed {s' : WorkspaceStore} (keyed : s.Keyed)
    (same : s'.memberships = s.memberships) :
    ∀ userId ∈ WorkspaceOp.touches s' (.deleteWorkspace workspaceId),
      userId ∈ (s.listMembershipsForWorkspace workspaceId).map (·.userId) := by
  intro userId mem
  obtain ⟨⟨w, u⟩, listed, rfl⟩ := List.mem_map.mp mem
  rw [List.mem_filter, same, Dict.mem_keys_iff] at listed
  obtain ⟨⟨m, found⟩, here⟩ := listed
  have named : (m.workspaceId, m.userId) = (w, u) := keyed.memberships _ m found
  cases named
  refine List.mem_map.mpr ⟨m, List.mem_filter.mpr ⟨?_, here⟩, rfl⟩
  exact (Dict.mem_values_iff _ _).mpr ⟨_, found⟩

variable (rt b s) in
theorem recordAuditEvent_keeps (event : WorkspaceAuditEvent) :
    (s.exec rt b (.recordAuditEvent event)).2.workspaces = s.workspaces ∧
      (s.exec rt b (.recordAuditEvent event)).2.memberships = s.memberships := by
  show (s.recordAuditEvent b event).2.workspaces = _ ∧ (s.recordAuditEvent b event).2.memberships = _
  unfold WorkspaceStore.recordAuditEvent
  split <;> exact ⟨rfl, rfl⟩

theorem runs_hardDeleteThen (within : Within W [] s₀ s) (inside : W workspaceId)
    (fails : ∀ s', Within W [] s₀ s' → s.workspaces.get? workspaceId = none →
      C (.error .workspaceNotFound) s')
    (goes : ∀ s', Within W [] s₀ s' → s.workspaces.get? workspaceId ≠ none →
      s'.workspaces = s.workspaces.erase workspaceId →
      after.Runs (WorkspaceStore.exec rt b) C s') :
    (hardDeleteThen rt after workspaceId).Runs (WorkspaceStore.exec rt b) C s := by
  refine runs_run nofun (fun members listed => ?_)
  have listed : s.listMembershipsForWorkspace workspaceId = members := Except.ok.inj listed
  refine runs_bestEffort ?_
  generalize hevent : workspaceEvent rt workspaceId "workspace.purged" "system" = event
  have here : W event.workspaceId := by
    rw [← hevent]
    exact inside
  have recorded : Within W [] s₀ (s.exec rt b (.recordAuditEvent event)).2 :=
    within.exec rt b (.recordAuditEvent event) here
  obtain ⟨sameWorkspaces, sameMembers⟩ := recordAuditEvent_keeps rt b s event
  have entries : ∀ userId ∈ WorkspaceOp.touches _ (.deleteWorkspace workspaceId), _ :=
    touches_of_listed within.keyed sameMembers
  rw [listed] at entries
  refine runs_run (fun e failed => ?_) (fun _ deleted => ?_)
  · obtain ⟨rfl, absent⟩ := deleteWorkspace_fails failed
    exact fails _ recorded (by rw [← sameWorkspaces]; exact absent)
  · have removed := recorded.exec rt b (.deleteWorkspace workspaceId) inside
    refine runs_invalidateAll (removed.mono (fun _ inside => inside) ?_) (fun s' within same => ?_)
    · intro userId mem
      rw [List.append_nil] at mem
      exact entries userId mem
    · obtain ⟨there, erased⟩ : s.workspaces.get? workspaceId ≠ none ∧
          _ = s.workspaces.erase workspaceId := by
        rw [← sameWorkspaces]
        exact deleteWorkspace_deletes deleted
      exact goes s' within there (same.trans erased)

theorem purge_runs {purged : List Workspace} (within : Within W [] s₀ s)
    (inside : ∀ workspace ∈ purged, W workspace.id) :
    (purged.foldr (fun workspace after => hardDeleteThen rt after workspace.id)
        (WorkspaceCall.ok ())).Runs (WorkspaceStore.exec rt b)
      (fun r s' => Within W [] s₀ s' ∧
        ((purged.map (·.id)).Nodup → (∀ x ∈ purged, s.workspaces.get? x.id ≠ none) → r = .ok () ∧
          ∀ w, w ∈ purged.map (·.id) ∨ s.workspaces.get? w = none → s'.workspaces.get? w = none))
      s := by
  induction purged generalizing s with
  | nil =>
    refine ⟨within, fun _ _ => ⟨rfl, fun w gone => ?_⟩⟩
    cases gone with
    | inl mem => cases mem
    | inr gone => exact gone
  | cons workspace purged ih =>
    refine runs_hardDeleteThen within (inside workspace List.mem_cons_self)
      (fun s' within absent => ⟨within, fun _ there => ?_⟩) (fun s' within _ erased => ?_)
    · exact absurd absent (there workspace List.mem_cons_self)
    · refine (ih within (fun x mem => inside x (List.mem_cons_of_mem _ mem))).mono
        (fun r s'' rest => ⟨rest.1, fun nodup there => ?_⟩)
      rw [List.map_cons, List.nodup_cons] at nodup
      have still : ∀ x ∈ purged, s'.workspaces.get? x.id ≠ none := by
        intro x mem
        rw [erased, Dict.get?_erase, if_neg]
        · exact there x (List.mem_cons_of_mem _ mem)
        · intro same
          exact nodup.1 (List.mem_map.mpr ⟨x, mem, same⟩)
      obtain ⟨ended, gone⟩ := rest.2 nodup.2 still
      refine ⟨ended, fun w here => gone w ?_⟩
      rw [erased, Dict.get?_erase]
      cases here with
      | inl mem =>
        cases List.mem_cons.mp mem with
        | inl same => exact Or.inr (if_pos same)
        | inr later => exact Or.inl later
      | inr absent =>
        right
        split
        next => rfl
        next => exact absent

theorem listMemberships_runs (keyed : s.Keyed) (cached : s.CachedBut []) :
    Keeps rt b W s s (fun ms => ∀ m ∈ ms, s.Holds userId m) (listMemberships userId now setAt) := by
  have within : Within W [] s s := within_refl keyed cached
  refine stays_run within (fun found answered => ?_)
  have read := within.exec rt b (.cacheGet userId now) trivial
  have answered : (s.cacheGet userId now).1 = found := Except.ok.inj answered
  cases found with
  | some ms =>
    refine Stays.done read ?_
    unfold WorkspaceStore.cacheGet at answered
    split at answered
    next => cases answered
    next entry there =>
      split at answered
      next => cases answered
      next =>
        cases answered
        exact cached userId (List.not_mem_nil) entry there
  | none =>
    refine stays_run read
      (fun (memberships : List WorkspaceMembership) listed => ?_)
    refine stays_run read (fun _ _ => ?_)
    have listed : (s.exec rt b (.cacheGet userId now)).2.listMembershipsForUser userId =
      memberships := Except.ok.inj listed
    have held : ∀ m ∈ memberships, (s.exec rt b (.cacheGet userId now)).2.Holds userId m := by
      intro m mem
      rw [← listed, WorkspaceStore.listMembershipsForUser, List.mem_filter] at mem
      obtain ⟨key, stored⟩ := (Dict.mem_values_iff _ _).mp mem.1
      have named : m.key = key := read.keyed.memberships _ m stored
      have own : m.userId = userId := by simpa using mem.2
      rw [← named, WorkspaceMembership.key, own] at stored
      exact ⟨m, stored, rfl⟩
    have same : (s.exec rt b (.cacheGet userId now)).2.memberships = s.memberships := by
      show (s.cacheGet userId now).2.memberships = _
      unfold WorkspaceStore.cacheGet
      split
      next => rfl
      next => split <;> rfl
    refine Stays.done (read.exec rt b (.cacheSet userId memberships setAt) held) (fun m mem => ?_)
    obtain ⟨m', stored, role⟩ := held m mem
    rw [same] at stored
    exact ⟨m', stored, role⟩

theorem resolve_runs {slug : Option String} (keyed : s.Keyed) (cached : s.CachedBut []) :
    Keeps rt b W s s (fun context => ∃ m, s.memberships.get? (context.workspaceId, userId) =
        some m ∧ m.role = context.role)
      (resolve userId slug now setAt) := by
  unfold Keeps resolve
  rw [runs_andThen]
  refine (listMemberships_runs (W := W) keyed cached).mono (fun r s' listed => ?_)
  have stays := listed.within
  cases r with
  | error e => exact Stays.failed stays
  | ok ms =>
    have active {workspace : Workspace} {m : WorkspaceMembership} (mem : m ∈ ms)
        (named : workspace.id = m.workspaceId) :
        Keeps rt b W s s' (fun context => ∃ m, s.memberships.get? (context.workspaceId, userId) =
            some m ∧ m.role = context.role)
          (activeContext workspace m) := by
      unfold activeContext
      split
      next => exact Stays.failed stays
      next =>
        refine Stays.done stays ?_
        obtain ⟨m', stored, role⟩ := listed.result ms rfl m mem
        rw [← named] at stored
        exact ⟨m', stored, role⟩
    dsimp only
    split
    next => exact Stays.failed stays
    next =>
      refine stays_run stays (fun workspace _ => ?_)
      split
      next => exact Stays.failed stays
      next m selected =>
        have named : m.workspaceId = workspace.id := by simpa using List.find?_some selected
        exact active (List.mem_of_find?_eq_some selected) named.symm
    next m =>
      refine stays_run stays (fun workspace answered => ?_)
      have stored := getWorkspace_answer answered
      exact active List.mem_cons_self (stays.keyed.workspaces _ workspace stored)
    next => exact Stays.failed stays

theorem membershipsFor_runs (keyed : s.Keyed) (cached : s.CachedBut []) :
    Keeps rt b W s s (fun _ => True) (membershipsFor userId now setAt) := by
  unfold Keeps membershipsFor
  rw [runs_andThen]
  refine (listMemberships_runs (W := W) keyed cached).mono (fun r s' listed => ?_)
  have stays := listed.within
  cases r with
  | error e => exact Stays.failed stays
  | ok ms =>
    dsimp only
    split
    next => exact Stays.done stays trivial
    next =>
      refine stays_run stays (fun workspaces _ => ?_)
      split
      next => exact Stays.failed stays
      next => exact Stays.done stays trivial

end Calls

end Orcheo.Workspaces
