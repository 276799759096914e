import Orcheo.Defs.Workspaces.Repository

/-! What an operation leaves.  Records are stored under their identifiers, and answers fit what was
asked. -/

namespace Orcheo.Workspaces

open Lib (Dict)

def WorkspaceMembership.key (m : WorkspaceMembership) : Uuid × String := (m.workspaceId, m.userId)

/-- Reads, the cache and audit events. -/
def WorkspaceOp.Neutral : WorkspaceOp → Prop
  | createWorkspace _ | updateStatus _ _ _ | deleteWorkspace _ | addMembership _
  | removeMembership _ _ | updateMembershipRole _ _ _ | updateMembershipIdentity _ _ _ _
  | addInvitation _ | updateInvitation _ | acceptInvitationAtomic _ _ _ _ => False
  | _ => True

variable (rt : WorkspaceRuntime) (b : Backend)

namespace WorkspaceStore

inductive Effect (s : WorkspaceStore) : WorkspaceOp → WorkspaceStore → Prop
  | createWorkspace (free : s.slugTaken b workspace.slug = false) :
    Effect s (.createWorkspace workspace) { s with
      workspaces := s.workspaces.set workspace.id workspace
      slugIndex := s.slugIndex.set workspace.slug workspace.id }
  | updateStatus {workspace : Workspace} (found : s.workspaces.get? workspaceId = some workspace) :
    Effect s (.updateStatus workspaceId status now) { s with
      workspaces := s.workspaces.set workspaceId { workspace with
        status := status
        deletedAt := if status = .deleted then some now else none } }
  | deleteWorkspace {workspace : Workspace}
      (found : s.workspaces.get? workspaceId = some workspace) :
    Effect s (.deleteWorkspace workspaceId) { s with
      workspaces := s.workspaces.erase workspaceId
      slugIndex := s.slugIndex.erase workspace.slug
      memberships := s.memberships.filter (fun key _ => key.1 ≠ workspaceId)
      auditEvents := s.auditEvents.filter (fun e => e.workspaceId ≠ workspaceId)
      invitations := s.invitations.filter (fun _ i => i.workspaceId ≠ workspaceId) }
  | addMembership {m : WorkspaceMembership} (there : s.workspaces.contains m.workspaceId = true)
      (absent : s.memberships.get? m.key = none) :
    Effect s (.addMembership m) { s with memberships := s.memberships.set m.key m }
  | removeMembership (there : s.memberships.contains (workspaceId, userId) = true) :
    Effect s (.removeMembership workspaceId userId) { s with
      memberships := s.memberships.erase (workspaceId, userId) }
  | updateMembershipRole {m : WorkspaceMembership}
      (found : s.memberships.get? (workspaceId, userId) = some m) :
    Effect s (.updateMembershipRole workspaceId userId role) { s with
      memberships := s.memberships.set (workspaceId, userId) { m with role := role } }
  | updateMembershipIdentity {m : WorkspaceMembership} {email userName : Option String}
      (found : s.memberships.get? (workspaceId, userId) = some m) :
    Effect s (.updateMembershipIdentity workspaceId userId email userName) { s with
      memberships := s.memberships.set (workspaceId, userId) { m with
        email := email.or m.email
        userName := userName.or m.userName } }
  | recordAuditEvent : Effect s (.recordAuditEvent event) { s with
      auditEvents := s.auditEvents ++ [event] }
  | addInvitation {invitation : WorkspaceInvitation}
      (there : s.workspaces.contains invitation.workspaceId = true) :
    Effect s (.addInvitation invitation) { s with
      invitations := s.invitations.set invitation.id invitation }
  | updateInvitation {invitation stored : WorkspaceInvitation}
      (found : s.invitations.get? invitation.id = some stored) :
    Effect s (.updateInvitation invitation) { s with
      invitations := s.invitations.set invitation.id (updatedInvitation b stored invitation) }
  | acceptInMemory {m : WorkspaceMembership} {invitation : WorkspaceInvitation}
      (memory : b = .inMemory) :
    Effect s (.acceptInvitationAtomic m invitedEmail invitation now) { s with
      memberships := s.memberships.set m.key (s.upsertedMembership b m invitedEmail)
      invitations := s.invitations.set invitation.id
        (acceptedInvitation invitation m.userId now) }
  | acceptInPostgres {m : WorkspaceMembership} {invitation stored : WorkspaceInvitation}
      (there : s.workspaces.contains m.workspaceId = true)
      (found : s.invitations.get? invitation.id = some stored) :
    Effect s (.acceptInvitationAtomic m invitedEmail invitation now) { s with
      memberships := s.memberships.set m.key (s.upsertedMembership b m invitedEmail)
      invitations := s.invitations.set invitation.id
        (acceptedInvitation stored m.userId now) }
  | expire : Effect s (.cacheGet userId now) { s with cache := s.cache.erase userId }
  | cacheSet : Effect s (.cacheSet userId ms now) (s.cacheSet userId ms now)
  | invalidate : Effect s (.invalidate userId) (s.invalidate userId)

variable (s : WorkspaceStore)

/-- The operation fails or only reads, or it has its effect. -/
def Outcome (op : WorkspaceOp) (done : Except WorkspaceError α × WorkspaceStore) : Prop :=
  done.2 = s ∧ ((∃ e, done.1 = .error e) ∨ op.Neutral) ∨
    (∃ a, done.1 = .ok a) ∧ Effect b s op done.2

variable {b s} {op : WorkspaceOp}

theorem Outcome.failed {e : WorkspaceError} :
    s.Outcome b op ((.error e : Except WorkspaceError α), s) :=
  Or.inl ⟨rfl, Or.inl ⟨_, rfl⟩⟩

theorem Outcome.done {a : α} {after : WorkspaceStore}
    (effect : Effect b s op after) : s.Outcome b op (.ok a, after) :=
  Or.inr ⟨⟨_, rfl⟩, effect⟩

variable (b s)

theorem exec_cases (op : WorkspaceOp) : s.Outcome b op (s.exec rt b op) := by
  cases op with
  | createWorkspace workspace =>
    show s.Outcome b _ (s.createWorkspace b workspace)
    unfold WorkspaceStore.createWorkspace
    split
    next => exact .failed
    next free =>
      split
      next => exact .failed
      next => exact .done (.createWorkspace (by simpa using free))
  | updateStatus workspaceId status now =>
    show s.Outcome b _ (s.updateStatus workspaceId status now)
    unfold WorkspaceStore.updateStatus
    split
    next => exact .failed
    next workspace found => exact .done (.updateStatus found)
  | deleteWorkspace workspaceId =>
    show s.Outcome b _ (s.deleteWorkspace workspaceId)
    unfold WorkspaceStore.deleteWorkspace
    split
    next => exact .failed
    next workspace found => exact .done (.deleteWorkspace found)
  | addMembership m =>
    show s.Outcome b _ (s.addMembership m)
    unfold WorkspaceStore.addMembership
    split
    next => exact .failed
    next there =>
      split
      next => exact .failed
      next absent =>
        refine .done (.addMembership (by simpa using there) ?_)
        simpa [Dict.contains, WorkspaceMembership.key] using absent
  | removeMembership workspaceId userId =>
    show s.Outcome b _ (s.removeMembership workspaceId userId)
    unfold WorkspaceStore.removeMembership
    split
    next => exact .failed
    next there => exact .done (.removeMembership (by simpa using there))
  | updateMembershipRole workspaceId userId role =>
    show s.Outcome b _ (s.rewriteMembership workspaceId userId _)
    unfold WorkspaceStore.rewriteMembership
    split
    next => exact .failed
    next m found => exact .done (.updateMembershipRole found)
  | updateMembershipIdentity workspaceId userId email userName =>
    show s.Outcome b _ (s.rewriteMembership workspaceId userId _)
    unfold WorkspaceStore.rewriteMembership
    split
    next => exact .failed
    next m found => exact .done (.updateMembershipIdentity found)
  | recordAuditEvent event =>
    show s.Outcome b _ (s.recordAuditEvent b event)
    unfold WorkspaceStore.recordAuditEvent
    split
    next => exact .failed
    next => exact .done .recordAuditEvent
  | addInvitation invitation =>
    show s.Outcome b _ (s.addInvitation b invitation)
    unfold WorkspaceStore.addInvitation
    split
    next => exact .failed
    next there =>
      split
      next => exact .failed
      next =>
        split
        next => exact .failed
        next => exact .done (.addInvitation (by simpa using there))
  | updateInvitation invitation =>
    show s.Outcome b _ (s.updateInvitation b invitation)
    unfold WorkspaceStore.updateInvitation
    split
    next => exact .failed
    next stored found => exact .done (.updateInvitation found)
  | acceptInvitationAtomic m invitedEmail invitation now =>
    show s.Outcome b _ (s.acceptInvitationAtomic b m invitedEmail invitation now)
    unfold WorkspaceStore.acceptInvitationAtomic
    cases b with
    | inMemory => exact .done (.acceptInMemory rfl)
    | postgres =>
      dsimp only
      split
      next => exact .failed
      next there =>
        split
        next => exact .failed
        next stored found =>
          exact .done (.acceptInPostgres (by simpa using there) found)
  | cacheGet userId now =>
    show (s.cacheGet userId now).2 = s ∧ _ ∨ _ ∧ Effect b s _ (s.cacheGet userId now).2
    unfold WorkspaceStore.cacheGet
    split
    next => exact Or.inl ⟨rfl, Or.inr trivial⟩
    next =>
      split
      next => exact Or.inr ⟨⟨_, rfl⟩, .expire⟩
      next => exact Or.inl ⟨rfl, Or.inr trivial⟩
  | cacheSet userId memberships now => exact .done .cacheSet
  | invalidate userId => exact .done .invalidate
  | _ => exact Or.inl ⟨rfl, Or.inr trivial⟩

theorem accepted_membership {m : WorkspaceMembership} {invitedEmail : String}
    {invitation : WorkspaceInvitation} {now : Instant}
    {a : WorkspaceMembership × WorkspaceInvitation}
    (accepted : (s.acceptInvitationAtomic b m invitedEmail invitation now).1 = .ok a) :
    a.1 = s.upsertedMembership b m invitedEmail := by
  unfold WorkspaceStore.acceptInvitationAtomic at accepted
  cases b with
  | inMemory =>
    cases accepted
    rfl
  | postgres =>
    dsimp only at accepted
    split at accepted
    next => cases accepted
    next =>
      split at accepted
      next => cases accepted
      next =>
        cases accepted
        rfl

theorem exec_error {e : WorkspaceError}
    (failed : (s.exec rt b op).1 = .error e) : (s.exec rt b op).2 = s := by
  cases s.exec_cases rt b op with
  | inl same => exact same.1
  | inr succeeded =>
    obtain ⟨⟨a, answered⟩, -⟩ := succeeded
    cases failed.symm.trans answered

end WorkspaceStore

structure WorkspaceStore.Keyed (s : WorkspaceStore) : Prop where
  workspaces : s.workspaces.KeyedBy Workspace.id
  memberships : s.memberships.KeyedBy WorkspaceMembership.key
  invitations : s.invitations.KeyedBy WorkspaceInvitation.id

variable {rt : WorkspaceRuntime} {b : Backend} {s : WorkspaceStore}

theorem key_upsertedMembership (keyed : s.Keyed) (m : WorkspaceMembership) (invitedEmail : String) :
    (s.upsertedMembership b m invitedEmail).key = m.key := by
  unfold WorkspaceStore.upsertedMembership
  split
  next => rfl
  next existing found =>
    have same : existing.key = m.key := keyed.memberships _ existing found
    split
    next => exact same
    next => exact same

theorem WorkspaceStore.Effect.keyed {op : WorkspaceOp} {s' : WorkspaceStore} (keyed : s.Keyed)
    (effect : Effect b s op s') : s'.Keyed := by
  cases effect with
  | createWorkspace => exact { keyed with workspaces := keyed.workspaces.set rfl }
  | @updateStatus _ _ _ workspace found =>
    have named : workspace.id = _ := keyed.workspaces _ workspace found
    exact { keyed with workspaces := keyed.workspaces.set named }
  | deleteWorkspace =>
    exact ⟨keyed.workspaces.filter, keyed.memberships.filter, keyed.invitations.filter⟩
  | addMembership => exact { keyed with memberships := keyed.memberships.set rfl }
  | removeMembership => exact { keyed with memberships := keyed.memberships.filter }
  | @updateMembershipRole _ _ _ m found =>
    have named : m.key = _ := keyed.memberships _ m found
    exact { keyed with memberships := keyed.memberships.set named }
  | @updateMembershipIdentity _ _ m _ _ found =>
    have named : m.key = _ := keyed.memberships _ m found
    exact { keyed with memberships := keyed.memberships.set named }
  | addInvitation => exact { keyed with invitations := keyed.invitations.set rfl }
  | @updateInvitation _ stored found =>
    have named : stored.id = _ := keyed.invitations _ stored found
    refine { keyed with invitations := keyed.invitations.set ?_ }
    cases b with
    | inMemory => rfl
    | postgres => exact named
  | acceptInMemory =>
    exact { keyed with
      memberships := keyed.memberships.set (key_upsertedMembership keyed _ _)
      invitations := keyed.invitations.set rfl }
  | @acceptInPostgres _ _ _ _ stored there found =>
    have named : stored.id = _ := keyed.invitations _ stored found
    exact { keyed with
      memberships := keyed.memberships.set (key_upsertedMembership keyed _ _)
      invitations := keyed.invitations.set named }
  | _ => exact { keyed with }

theorem WorkspaceStore.Keyed.exec (keyed : s.Keyed) (op : WorkspaceOp) :
    (s.exec rt b op).2.Keyed := by
  cases s.exec_cases rt b op with
  | inl same =>
    rw [same.1]
    exact keyed
  | inr changed => exact changed.2.keyed keyed

def Fits : (op : WorkspaceOp) → op.Answer → Prop
  | .getWorkspace workspaceId, .ok (workspace : Workspace) => workspace.id = workspaceId
  | .getInvitation invitationId, .ok (invitation : WorkspaceInvitation) =>
    invitation.id = invitationId
  | _, _ => True

theorem fits_exec (keyed : s.Keyed) (op : WorkspaceOp) : Fits op (s.exec rt b op).1 := by
  cases op with
  | getWorkspace workspaceId =>
    show Fits (.getWorkspace workspaceId) (s.getWorkspace workspaceId)
    unfold WorkspaceStore.getWorkspace
    split
    next => trivial
    next workspace found => exact keyed.workspaces _ workspace found
  | getInvitation invitationId =>
    show Fits (.getInvitation invitationId) (s.getInvitation invitationId)
    unfold WorkspaceStore.getInvitation
    split
    next => trivial
    next invitation found => exact keyed.invitations _ invitation found
  | _ => trivial

namespace WorkspaceStore

def Slugged (s : WorkspaceStore) : Prop := ∀ workspaceId workspace,
  s.workspaces.get? workspaceId = some workspace → s.slugIndex.get? workspace.slug = some workspaceId

section

variable (slugged : s.Slugged) {workspaceId : Uuid} {workspace : Workspace}
  (found : s.workspaces.get? workspaceId = some workspace)
include slugged found

theorem bySlug_slug : s.bySlug b workspace.slug = some workspace := by
  have indexed := slugged _ _ found
  cases b with
  | inMemory => simp [bySlug, indexed, found]
  | postgres =>
    have stored := (s.workspaces.mem_values_iff _).mpr ⟨_, found⟩
    unfold bySlug
    cases first : s.workspaces.values.find? (fun w => w.slug = workspace.slug) with
    | none => simpa using List.find?_eq_none.mp first workspace stored
    | some other =>
      obtain ⟨_, there⟩ := (s.workspaces.mem_values_iff _).mp (List.mem_of_find?_eq_some first)
      have named : other.slug = workspace.slug := by simpa using List.find?_some first
      have same := slugged _ _ there
      rw [named, indexed] at same
      cases same
      exact there.symm.trans found

theorem slugTaken_slug : s.slugTaken b workspace.slug = true := by
  cases b with
  | inMemory => simp [slugTaken, Dict.contains, slugged _ _ found]
  | postgres =>
    have stored := (s.workspaces.mem_values_iff _).mpr ⟨_, found⟩
    exact List.any_eq_true.mpr ⟨workspace, stored, by simp⟩

end

theorem Slugged.exec (slugged : s.Slugged) (op : WorkspaceOp) : (s.exec rt b op).2.Slugged := by
  obtain ⟨same, -⟩ | ⟨-, effect⟩ := s.exec_cases rt b op
  · rwa [same]
  generalize (s.exec rt b op).2 = s' at effect
  cases effect with
  | createWorkspace | updateStatus | deleteWorkspace =>
    grind [Slugged, slugTaken_slug, Dict.get?_set, Dict.get?_erase]
  | _ => exact slugged

/-- Whatever calls run at once, workspaces are found by their identifiers and by their slugs. -/
theorem slugs_unique {R α : Type} (rt : WorkspaceRuntime) (b : Backend)
    (program : R → Lib.Call WorkspaceOp.Answer α) (turns : List (Lib.Turn R)) :
    let s := (turns.foldl (Lib.Server.step (exec rt b) program) { store := {} }).store
    s.Keyed ∧ ∀ workspace ∈ s.workspaces.values, s.bySlug b workspace.slug = some workspace := by
  intro s
  have inv : s.Keyed ∧ s.Slugged :=
    Lib.Server.store_invariant (I := fun s : WorkspaceStore => s.Keyed ∧ s.Slugged)
      (fun op s inv => ⟨inv.1.exec op, inv.2.exec op⟩)
      ⟨⟨Dict.keyedBy_empty, Dict.keyedBy_empty, Dict.keyedBy_empty⟩, fun _ _ found => by cases found⟩
      turns
  refine ⟨inv.1, fun workspace stored => ?_⟩
  obtain ⟨_, found⟩ := (Dict.mem_values_iff _ _).mp stored
  exact bySlug_slug inv.2 found

end WorkspaceStore

end Orcheo.Workspaces
