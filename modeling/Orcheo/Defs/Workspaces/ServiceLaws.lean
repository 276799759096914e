import Orcheo.Defs.Workspaces.RepositoryLaws
import Orcheo.Defs.Workspaces.Service

/-! What each call may ask after what it has asked so far, and what it gives in the end. -/

namespace Orcheo.Workspaces

open Lib.Call (meets_andThen)
open Lib (Asked)

abbrev Past := List (Asked WorkspaceOp.Answer)

def WorkspaceOp.Manages : WorkspaceOp → Prop
  | createWorkspace _ | updateStatus _ _ _ | deleteWorkspace _ | addMembership _
  | updateMembershipIdentity _ _ _ _ => True
  | _ => False

def WorkspaceRequest.Manages : WorkspaceRequest → Prop
  | createWorkspace _ _ _ _ _ _ | deactivateWorkspace _ _ | reactivateWorkspace _ _
  | softDeleteWorkspace _ _ | hardDeleteWorkspace _ | purgeDeletedWorkspaces _ _
  | inviteMember _ _ _ _ | recordMemberIdentity _ _ _ _ => True
  | _ => False

inductive Listed (userId : String) (ms : List WorkspaceMembership) :
    Asked WorkspaceOp.Answer → Prop
  | cached : Listed userId ms ⟨.cacheGet userId now, .ok (some ms)⟩
  | stored : Listed userId ms ⟨.listMembershipsForUser userId, .ok ms⟩

inductive FoundWorkspace (workspace : Workspace) : Asked WorkspaceOp.Answer → Prop
  | byId : FoundWorkspace workspace ⟨.getWorkspace workspaceId, .ok workspace⟩
  | bySlug : FoundWorkspace workspace ⟨.getWorkspaceBySlug slug, .ok workspace⟩

section

variable (rt : WorkspaceRuntime) (config : WorkspaceConfig)

inductive Asks : WorkspaceRequest → Past → WorkspaceOp → Prop
  | neutral (quiet : op.Neutral) : Asks r past op
  | manage (managing : r.Manages) (manages : op.Manages) : Asks r past op
  | remove : Asks (.removeMember workspaceId userId actorRole) []
      (.removeMembership workspaceId userId)
  | changeRole : Asks (.updateMemberRole workspaceId userId role actorRole) []
      (.updateMembershipRole workspaceId userId role)
  | invite : Asks (.createInvitation workspaceId email role invitedBy actorRole workspaceName newId
        rawToken now) []
      (.addInvitation (newInvitation rt config workspaceId normalized role invitedBy newId rawToken
        now))
  | revoke {invitation : WorkspaceInvitation} (named : invitation.id = invitationId)
      (pending : invitation.status = .pending) :
    Asks (.revokeInvitation workspaceId invitationId actorRole actor)
      [⟨.getInvitation invitationId, .ok invitation⟩]
      (.updateInvitation (revokedInvitation invitation))
  | accept {invitation : WorkspaceInvitation} (pending : invitation.status = .pending)
      (live : invitation.isExpired now = false)
      (invited : redeemerEmail rt email emailVerified = .ok invitation.email) :
    Asks (.acceptInvitation rawToken userId email emailVerified now acceptedAt)
      [⟨.listMembershipsForUser userId, .ok memberships⟩,
        ⟨.getInvitationByTokenHash (rt.hashInvitationToken rawToken), .ok invitation⟩]
      (.acceptInvitationAtomic (invitedMembership invitation userId) invitation.email invitation
        acceptedAt)

inductive Gives : WorkspaceRequest → Past → Except WorkspaceError WorkspaceReply → Prop
  | failed : Gives r past (.error e)
  | removed (removed : ⟨.removeMembership workspaceId userId, .ok ()⟩ ∈ past)
      (dropped : ⟨.invalidate userId, .ok ()⟩ ∈ past) :
    Gives (.removeMember workspaceId userId actorRole) past (.ok reply)
  | changedRole {m : WorkspaceMembership}
      (changed : ⟨.updateMembershipRole workspaceId userId role, .ok m⟩ ∈ past)
      (dropped : ⟨.invalidate userId, .ok ()⟩ ∈ past) :
    Gives (.updateMemberRole workspaceId userId role actorRole) past (.ok reply)
  | deleted (deleted : ⟨.deleteWorkspace workspaceId, .ok ()⟩ ∈ past) :
    Gives (.hardDeleteWorkspace workspaceId) past (.ok reply)
  | resolved {ms : List WorkspaceMembership} {m : WorkspaceMembership} {workspace : Workspace}
      {list found : Asked WorkspaceOp.Answer} (listed : Listed userId ms list)
      (inList : list ∈ past) (mem : m ∈ ms) (isFound : FoundWorkspace workspace found)
      (inFound : found ∈ past) (named : workspace.id = m.workspaceId) :
    Gives (.resolve userId slug now setAt) past (.ok (.context (makeContext workspace m)))
  | other (quiet : match r with
        | .removeMember _ _ _ | .updateMemberRole _ _ _ _ | .hardDeleteWorkspace _
        | .resolve _ _ _ _ => False
        | _ => True) : Gives r past (.ok reply)

end

variable {rt : WorkspaceRuntime} {config : WorkspaceConfig}

section Rules

variable {α β : Type} {P : Past → WorkspaceOp → Prop} {Q : Past → Except WorkspaceError α → Prop}
  {past : Past} {op : WorkspaceOp}

theorem meets_run {next : op.Result → WorkspaceCall α} (asks : P past op)
    (fails : ∀ past e, Q past (.error e))
    (goes : ∀ a, Fits op (.ok a) → (next a).Meets Fits P Q (⟨op, .ok a⟩ :: past)) :
    (run op next).Meets Fits P Q past := by
  refine ⟨asks, fun answer fits => ?_⟩
  cases answer with
  | error e => exact fails _ e
  | ok a => exact goes a fits

theorem meets_bestEffort {next : WorkspaceCall α} (asks : P past op)
    (goes : ∀ answer, next.Meets Fits P Q (⟨op, answer⟩ :: past)) :
    (bestEffort op next).Meets Fits P Q past :=
  ⟨asks, fun answer _ => goes answer⟩

def Through (reply : α → WorkspaceReply) (R : Past → Except WorkspaceError WorkspaceReply → Prop)
    (past : Past) : Except WorkspaceError α → Prop
  | .error e => R past (.error e)
  | .ok a => R past (.ok (reply a))

theorem meets_replied {reply : α → WorkspaceReply} {call : WorkspaceCall α}
    {R : Past → Except WorkspaceError WorkspaceReply → Prop}
    (meets : call.Meets Fits P (Through reply R) past) :
    (replied reply call).Meets Fits P R past := by
  unfold replied
  rw [meets_andThen]
  refine meets.mono (fun _ _ asks => asks) (fun past r through => ?_)
  cases r with
  | error e => exact through
  | ok a => exact through

theorem meets_ensureMembershipCapacity {userId : String} {workspaceId : Option Uuid}
    {Q : Past → Except WorkspaceError Unit → Prop} (asks : P past (.listMembershipsForUser userId))
    (fails : ∀ past e, Q past (.error e))
    (goes : ∀ memberships, Q (⟨.listMembershipsForUser userId, .ok memberships⟩ :: past) (.ok ())) :
    (ensureMembershipCapacity userId workspaceId).Meets Fits P Q past := by
  refine meets_run asks fails (fun memberships _ => ?_)
  split
  next => exact goes memberships
  next =>
    split
    next => exact fails _ _
    next => exact goes memberships

theorem meets_listMemberships {userId : String} {now setAt : Instant}
    {Q : Past → Except WorkspaceError (List WorkspaceMembership) → Prop}
    (neutral : ∀ past op, op.Neutral → P past op) (fails : ∀ past e, Q past (.error e))
    (goes : ∀ past ms list, Listed userId ms list → list ∈ past → Q past (.ok ms)) :
    (listMemberships userId now setAt).Meets Fits P Q past := by
  refine meets_run (neutral _ _ trivial) fails (fun found _ => ?_)
  cases found with
  | some cached => exact goes _ _ _ Listed.cached List.mem_cons_self
  | none =>
    refine meets_run (neutral _ _ trivial) fails (fun memberships _ => ?_)
    refine meets_run (neutral _ _ trivial) fails (fun _ _ => ?_)
    exact goes _ _ _ Listed.stored (List.mem_cons_of_mem _ List.mem_cons_self)

end Rules

abbrev Plain {α : Type} (call : WorkspaceCall α) (past : Past) : Prop :=
  call.Meets Fits (fun _ op => op.Neutral ∨ op.Manages) (fun _ _ => True) past

section Plain

variable {α β : Type} {past : Past}

theorem plain_run {op : WorkspaceOp} {next : op.Result → WorkspaceCall α}
    (plain : op.Neutral ∨ op.Manages) (goes : ∀ past a, Plain (next a) past) :
    Plain (run op next) past :=
  meets_run plain (fun _ _ => trivial) (fun a _ => goes _ a)

theorem plain_bestEffort {op : WorkspaceOp} {next : WorkspaceCall α}
    (plain : op.Neutral ∨ op.Manages) (goes : ∀ past, Plain next past) :
    Plain (bestEffort op next) past :=
  meets_bestEffort plain (fun _ => goes _)

theorem plain_andThen {call : WorkspaceCall α} {f : α → WorkspaceCall β} (plain : Plain call past)
    (goes : ∀ past a, Plain (f a) past) : Plain (call.andThen f) past := by
  rw [Plain, meets_andThen]
  refine plain.mono (fun _ _ asks => asks) (fun past r _ => ?_)
  cases r with
  | error e => trivial
  | ok a => exact goes past a

theorem plain_capacity (userId : String) (workspaceId : Option Uuid) :
    Plain (ensureMembershipCapacity userId workspaceId) past :=
  meets_ensureMembershipCapacity (Or.inl trivial) (fun _ _ => trivial) (fun _ => trivial)

theorem plain_addOwner (owner : WorkspaceMembership) : Plain (addOwner owner) past := by
  unfold addOwner
  rw [Plain, Lib.Call.meets_bind]
  have added : Plain ((ensureMembershipCapacity owner.userId none).andThen fun _ =>
      run (.addMembership owner) WorkspaceCall.ok) past :=
    plain_andThen (plain_capacity _ _)
      (fun _ _ => plain_run (Or.inr trivial) (fun _ _ => trivial))
  refine added.mono (fun _ _ asks => asks) (fun _ r _ => ?_)
  cases r with
  | ok m => trivial
  | error e => exact plain_run (Or.inr trivial) (fun _ _ => trivial)

theorem plain_createWorkspace (slug name ownerUserId : String)
    (ownerEmail ownerName : Option String) (newId : Uuid) :
    Plain (createWorkspace rt slug name ownerUserId ownerEmail ownerName newId) past := by
  unfold createWorkspace
  split
  next => trivial
  next =>
    dsimp only
    split
    next => trivial
    next =>
      refine plain_run (Or.inr trivial) (fun _ created => ?_)
      refine plain_andThen (plain_addOwner _) (fun _ _ => ?_)
      exact plain_bestEffort (Or.inl trivial)
        (fun _ => plain_run (Or.inl trivial) (fun _ _ => trivial))

theorem plain_changeStatus (action : String) (workspaceId : Uuid) (status : WorkspaceStatus)
    (now : Instant) : Plain (changeStatus rt action workspaceId status now) past :=
  plain_run (Or.inr trivial) (fun _ _ => plain_bestEffort (Or.inl trivial) (fun _ => trivial))

variable {after : WorkspaceCall α}

theorem plain_invalidateAll (plain : ∀ past, Plain after past)
    (userIds : List String) : Plain (invalidateAll after userIds) past := by
  induction userIds generalizing past with
  | nil => exact plain past
  | cons userId userIds ih => exact plain_run (Or.inl trivial) (fun _ _ => ih)

theorem plain_hardDeleteThen (plain : ∀ past, Plain after past)
    (workspaceId : Uuid) : Plain (hardDeleteThen rt after workspaceId) past := by
  refine plain_run (Or.inl trivial) (fun _ members => ?_)
  refine plain_bestEffort (Or.inl trivial) (fun _ => ?_)
  exact plain_run (Or.inr trivial) (fun _ _ => plain_invalidateAll plain _)

theorem plain_purgeDeletedWorkspaces (retentionDays : Int) (now : Instant) :
    Plain (purgeDeletedWorkspaces rt retentionDays now) past := by
  have each (purged : List Workspace) : ∀ past, Plain (purged.foldr
      (fun workspace after => hardDeleteThen rt after workspace.id) (WorkspaceCall.ok ())) past := by
    induction purged with
    | nil => exact fun _ => trivial
    | cons workspace purged ih => exact fun _ => plain_hardDeleteThen ih workspace.id
  exact plain_run (Or.inl trivial) (fun _ _ => each _ _)

theorem plain_inviteMember (workspaceId : Uuid) (userId : String) (role : Role)
    (actorRole : Option Role) : Plain (inviteMember workspaceId userId role actorRole) past := by
  unfold inviteMember
  split
  next => trivial
  next =>
    refine plain_andThen (plain_capacity _ _) (fun _ _ => ?_)
    exact plain_run (Or.inr trivial)
      (fun _ _ => plain_run (Or.inl trivial) (fun _ _ => trivial))

theorem plain_recordMemberIdentity (workspaceId : Uuid) (userId : String)
    (email userName : Option String) :
    Plain (recordMemberIdentity workspaceId userId email userName) past := by
  unfold recordMemberIdentity
  split
  next => trivial
  next => exact plain_bestEffort (Or.inr trivial) (fun _ => trivial)

theorem manages_meets {r : WorkspaceRequest} {reply : α → WorkspaceReply}
    {call : WorkspaceCall α} (managing : r.Manages) (plain : Plain call [])
    (gives : ∀ past reply, Gives r past (.ok reply)) :
    (replied reply call).Meets Fits (Asks rt config r) (Gives r) [] := by
  apply meets_replied
  refine plain.mono (fun _ _ asks => ?_) (fun past r _ => ?_)
  · cases asks with
    | inl quiet => exact Asks.neutral quiet
    | inr manages => exact Asks.manage managing manages
  · cases r with
    | error e => exact Gives.failed
    | ok a => exact gives past _

end Plain

def Met (rt : WorkspaceRuntime) (config : WorkspaceConfig) (r : WorkspaceRequest) : Prop :=
  (r.call rt config).Meets Fits (Asks rt config r) (Gives r) []

theorem meets_asking {α : Type} {r : WorkspaceRequest} {reply : α → WorkspaceReply} {past : Past}
    {op : WorkspaceOp} {next : op.Result → WorkspaceCall α} (asks : Asks rt config r past op)
    (goes : ∀ a, Fits op (.ok a) →
      (next a).Meets Fits (Asks rt config r) (Through reply (Gives r)) (⟨op, .ok a⟩ :: past)) :
    (run op next).Meets Fits (Asks rt config r) (Through reply (Gives r)) past :=
  meets_run asks (fun _ _ => Gives.failed) goes

variable (workspaceId : Uuid)

theorem hardDeleteWorkspace_meets :
    Met rt config (.hardDeleteWorkspace workspaceId) := by
  show (replied (fun _ => WorkspaceReply.done) (hardDeleteWorkspace rt workspaceId)).Meets _ _ _ _
  apply meets_replied
  refine meets_asking (Asks.neutral trivial) (fun members _ => ?_)
  refine meets_bestEffort (Asks.neutral trivial) (fun _ => ?_)
  refine meets_asking (Asks.manage trivial trivial) (fun _ _ => ?_)
  generalize (members : List WorkspaceMembership).map (·.userId) = userIds
  have rest {past : Past} (deleted : ⟨.deleteWorkspace workspaceId, .ok ()⟩ ∈ past) :
      (invalidateAll (WorkspaceCall.ok ()) userIds).Meets Fits
        (Asks rt config (.hardDeleteWorkspace workspaceId))
        (Through (fun _ => .done) (Gives (.hardDeleteWorkspace workspaceId))) past := by
    induction userIds generalizing past with
    | nil => exact Gives.deleted deleted
    | cons userId userIds ih =>
      exact meets_asking (Asks.neutral trivial) (fun _ _ => ih (List.mem_cons_of_mem _ deleted))
  exact rest List.mem_cons_self

variable (userId : String)

theorem removeMember_meets (actorRole : Option Role) :
    Met rt config (.removeMember workspaceId userId actorRole) := by
  show (replied (fun _ => WorkspaceReply.done) (removeMember workspaceId userId actorRole)).Meets
    _ _ _ _
  apply meets_replied
  unfold removeMember
  split
  next => exact Gives.failed
  next =>
    refine meets_asking Asks.remove (fun _ _ => ?_)
    refine meets_bestEffort (Asks.neutral trivial) (fun _ => ?_)
    refine meets_asking (Asks.neutral trivial) (fun _ _ => ?_)
    exact Gives.removed (List.mem_cons_of_mem _ (List.mem_cons_of_mem _ List.mem_cons_self))
      List.mem_cons_self

theorem updateMemberRole_meets (role : Role) (actorRole : Option Role) :
    Met rt config (.updateMemberRole workspaceId userId role actorRole) := by
  show (replied .membership (updateMemberRole workspaceId userId role actorRole)).Meets _ _ _ _
  apply meets_replied
  unfold updateMemberRole
  split
  next => exact Gives.failed
  next =>
    refine meets_asking Asks.changeRole (fun updated _ => ?_)
    refine meets_bestEffort (Asks.neutral trivial) (fun _ => ?_)
    refine meets_asking (Asks.neutral trivial) (fun _ _ => ?_)
    exact Gives.changedRole (m := updated)
      (List.mem_cons_of_mem _ (List.mem_cons_of_mem _ List.mem_cons_self)) List.mem_cons_self

theorem createInvitation_meets (email : String) (role : Role)
    (invitedBy : Option String) (actorRole : Option Role) (workspaceName : Option String)
    (newId : Uuid) (rawToken : String) (now : Instant) :
    Met rt config (.createInvitation workspaceId email role invitedBy actorRole
      workspaceName newId rawToken now) := by
  show (replied .invitation (createInvitation rt config workspaceId email role invitedBy actorRole
    workspaceName newId rawToken now)).Meets _ _ _ _
  apply meets_replied
  unfold createInvitation
  split
  next => exact Gives.failed
  next =>
    split
    next => exact Gives.failed
    next normalized =>
      refine meets_asking Asks.invite (fun created _ => ?_)
      refine meets_bestEffort (Asks.neutral trivial) (fun _ => ?_)
      cases workspaceName with
      | none => exact meets_bestEffort (Asks.neutral trivial) (fun _ => Gives.other trivial)
      | some _ => exact Gives.other trivial

theorem revokeInvitation_meets (workspaceId invitationId : Uuid) (actorRole : Option Role)
    (actor : Option String) :
    Met rt config (.revokeInvitation workspaceId invitationId actorRole actor) := by
  show (replied .invitation (revokeInvitation rt workspaceId invitationId actorRole actor)).Meets
    _ _ _ _
  apply meets_replied
  unfold revokeInvitation
  split
  next => exact Gives.failed
  next =>
    refine meets_asking (Asks.neutral trivial) (fun invitation named => ?_)
    split
    next => exact Gives.failed
    next open' =>
      rw [not_or, not_not, not_not] at open'
      refine meets_asking (Asks.revoke named open'.2) (fun _ _ => ?_)
      exact meets_bestEffort (Asks.neutral trivial) (fun _ => Gives.other trivial)

theorem acceptInvitation_meets (rawToken userId : String) (email : Option String)
    (emailVerified : Bool) (now acceptedAt : Instant) :
    Met rt config (.acceptInvitation rawToken userId email emailVerified now acceptedAt) := by
  show (replied .membership (acceptInvitation rt rawToken userId email emailVerified now
    acceptedAt)).Meets _ _ _ _
  apply meets_replied
  refine meets_asking (Asks.neutral trivial) (fun invitation _ => ?_)
  split
  next => exact Gives.failed
  next =>
    split
    next =>
      exact meets_asking (Asks.neutral trivial) (fun _ _ => Gives.other trivial)
    next => exact Gives.failed
  next pending =>
    split
    next => exact Gives.failed
    next live =>
      split
      next => exact Gives.failed
      next normalized read =>
        split
        next => exact Gives.failed
        next same =>
          rw [not_not.mp same] at read
          unfold redeem
          rw [meets_andThen]
          refine meets_ensureMembershipCapacity (Asks.neutral trivial) (fun _ _ => Gives.failed)
            (fun memberships => ?_)
          refine meets_asking (Asks.accept pending (by simpa using live) read) (fun accepted _ => ?_)
          refine meets_bestEffort (Asks.neutral trivial) (fun _ => ?_)
          exact meets_asking (Asks.neutral trivial) (fun _ _ => Gives.other trivial)

theorem resolve_meets (slug : Option String) (now setAt : Instant) :
    Met rt config (.resolve userId slug now setAt) := by
  show (replied .context (resolve userId slug now setAt)).Meets _ _ _ _
  apply meets_replied
  unfold resolve
  rw [meets_andThen]
  refine meets_listMemberships (fun _ _ => Asks.neutral) (fun _ _ => Gives.failed)
    (fun past ms list listed inList => ?_)
  have active {workspace : Workspace} {m : WorkspaceMembership} {found : Asked WorkspaceOp.Answer}
      (mem : m ∈ ms) (isFound : FoundWorkspace workspace found)
      (named : workspace.id = m.workspaceId) :
      (activeContext workspace m).Meets Fits (Asks rt config (.resolve userId slug now setAt))
        (Through .context (Gives (.resolve userId slug now setAt))) (found :: past) := by
    unfold activeContext
    split
    next => exact Gives.failed
    next =>
      exact Gives.resolved listed (List.mem_cons_of_mem _ inList) mem isFound List.mem_cons_self
        named
  dsimp only
  split
  next => exact Gives.failed
  next slug _ =>
    refine meets_asking (Asks.neutral trivial) (fun workspace _ => ?_)
    split
    next => exact Gives.failed
    next m selected =>
      have named : m.workspaceId = workspace.id := by simpa using List.find?_some selected
      exact active (List.mem_of_find?_eq_some selected) FoundWorkspace.bySlug named.symm
  next m =>
    refine meets_asking (Asks.neutral trivial) (fun workspace named => ?_)
    exact active List.mem_cons_self FoundWorkspace.byId named
  next => exact Gives.failed

theorem calls_meet (r : WorkspaceRequest) : Met rt config r := by
  cases r with
  | createWorkspace slug name ownerUserId ownerEmail ownerName newId =>
    exact manages_meets trivial (plain_createWorkspace _ _ _ _ _ _)
      (fun _ _ => Gives.other trivial)
  | deactivateWorkspace workspaceId now =>
    exact manages_meets trivial (plain_changeStatus _ _ _ _) (fun _ _ => Gives.other trivial)
  | reactivateWorkspace workspaceId now =>
    exact manages_meets trivial (plain_changeStatus _ _ _ _) (fun _ _ => Gives.other trivial)
  | softDeleteWorkspace workspaceId now =>
    exact manages_meets trivial (plain_changeStatus _ _ _ _) (fun _ _ => Gives.other trivial)
  | hardDeleteWorkspace workspaceId => exact hardDeleteWorkspace_meets workspaceId
  | purgeDeletedWorkspaces retentionDays now =>
    exact manages_meets trivial (plain_purgeDeletedWorkspaces _ _) (fun _ _ => Gives.other trivial)
  | inviteMember workspaceId userId role actorRole =>
    exact manages_meets trivial (plain_inviteMember _ _ _ _) (fun _ _ => Gives.other trivial)
  | removeMember workspaceId userId actorRole =>
    exact removeMember_meets workspaceId userId actorRole
  | updateMemberRole workspaceId userId role actorRole =>
    exact updateMemberRole_meets workspaceId userId role actorRole
  | recordMemberIdentity workspaceId userId email userName =>
    exact manages_meets trivial (plain_recordMemberIdentity _ _ _ _)
      (fun _ _ => Gives.other trivial)
  | createInvitation workspaceId email role invitedBy actorRole workspaceName newId rawToken now =>
    exact createInvitation_meets workspaceId email role invitedBy actorRole workspaceName newId
      rawToken now
  | revokeInvitation workspaceId invitationId actorRole actor =>
    exact revokeInvitation_meets workspaceId invitationId actorRole actor
  | acceptInvitation rawToken userId email emailVerified now acceptedAt =>
    exact acceptInvitation_meets rawToken userId email emailVerified now acceptedAt
  | listMemberships userId now setAt =>
    show (replied .memberships (listMemberships userId now setAt)).Meets _ _ _ _
    apply meets_replied
    exact meets_listMemberships (fun _ _ => Asks.neutral) (fun _ _ => Gives.failed)
      (fun _ _ _ _ _ => Gives.other trivial)
  | membershipsFor userId now setAt =>
    show (replied .paired (membershipsFor userId now setAt)).Meets _ _ _ _
    apply meets_replied
    unfold membershipsFor
    rw [meets_andThen]
    refine meets_listMemberships (fun _ _ => Asks.neutral) (fun _ _ => Gives.failed)
      (fun past ms _ _ _ => ?_)
    dsimp only
    split
    next => exact Gives.other trivial
    next =>
      refine meets_asking (Asks.neutral trivial) (fun workspaces _ => ?_)
      split
      next => exact Gives.failed
      next => exact Gives.other trivial
  | resolve userId slug now setAt => exact resolve_meets userId slug now setAt

def contract (rt : WorkspaceRuntime) (config : WorkspaceConfig) :
    Lib.Server.Contract WorkspaceOp.Answer WorkspaceRequest
      (Except WorkspaceError WorkspaceReply) where
  fits := Fits
  asks := Asks rt config
  gives := Gives

structure Valid (rt : WorkspaceRuntime) (config : WorkspaceConfig) (s : WorkspaceServer) :
    Prop where
  keyed : s.store.Keyed
  sound : Lib.Server.Sound (contract rt config) s

theorem valid_fresh {store : WorkspaceStore} (keyed : store.Keyed) :
    Valid rt config { store := store } := ⟨keyed, Lib.Server.sound_fresh⟩

theorem keep_step {b : Backend} {J : WorkspaceServer → Prop}
    {G : WorkspaceServer → WorkspaceTurn → Prop}
    (starts : ∀ (s : WorkspaceServer) r, Valid rt config s → J s → G s (.begin r) →
      J (s.started (WorkspaceRequest.call rt config) r))
    (answers : ∀ (s : WorkspaceServer) i r past op next, Valid rt config s → J s →
      s.threads[i]? = some ⟨r, past, .ask op next⟩ → Asks rt config r past op →
      G s (.advance i) → J (s.answered (WorkspaceStore.exec rt b) i r past op next))
    (s : WorkspaceServer) (turn : WorkspaceTurn) (good : Valid rt config s ∧ J s)
    (guard : G s turn) :
    Valid rt config (s.step rt config b turn) ∧ J (s.step rt config b turn) := by
  have kept := Lib.Server.keep_step (WorkspaceStore.exec rt b) (WorkspaceRequest.call rt config)
    (contract rt config) (I := fun s => s.store.Keyed ∧ J s) calls_meet
    (fun s op good => fits_exec good.1 op)
    (fun s r good sound guard => ⟨good.1, starts s r ⟨good.1, sound⟩ good.2 guard⟩)
    (fun s i r past op next good sound there asks guard =>
      ⟨good.1.exec op, answers s i r past op next ⟨good.1, sound⟩ good.2 there asks guard⟩)
    s turn ⟨⟨good.1.keyed, good.2⟩, good.1.sound⟩ guard
  exact ⟨⟨kept.1.1, kept.2⟩, kept.1.2⟩

end Orcheo.Workspaces
