import Orcheo.Defs.Workspaces.Frames
import Orcheo.Defs.Workspaces.Routes

/-! Whose workspaces a request for administrators reads and changes. -/

namespace Orcheo.Workspaces

open Lib.Call (runs_andThen)
open Lib (AllSteps Dict)
open WorkspaceStore (exec getWorkspace listAuditEvents listInvitations
  listMembershipsForWorkspace listWorkspaces updateStatus)

def RouteReply.workspaceIds : RouteReply → List Uuid
  | noContent => []
  | workspace w => [w.id]
  | workspaces ws => ws.map (·.id)
  | auditEvents es => es.map (·.workspaceId)
  | membership m => [m.workspaceId]
  | memberships ms => ms.map (·.workspaceId)
  | invitation i => [i.workspaceId]
  | invitations is => is.map (·.workspaceId)
  | mine entries => entries.map (·.1.id)
  | joined w _ => [w.id]

namespace Administration

def Administers (rt : WorkspaceRuntime) (s : WorkspaceStore) (p : Principal) (workspaceId : Uuid) :
    Prop :=
  if p.usesToken then workspaceId ∈ p.workspaceIds.filterMap rt.uuid
  else ∃ m, s.memberships.get? (workspaceId, p.subject) = some m ∧ m.role.includes .admin = true

def administrative : WorkspaceRoute → Bool
  | .getActiveWorkspace | .createOwnWorkspace _ _ _ _ | .listMyMemberships
  | .acceptWorkspaceInvitation _ _ _ => false
  | _ => true

def creates : WorkspaceRoute → Option Uuid
  | .createWorkspace _ _ _ newId | .createOwnWorkspace _ _ _ newId => some newId
  | _ => none

variable (rt : WorkspaceRuntime) (config : WorkspaceConfig) (b : Backend) (s : WorkspaceStore)
  (request : ApiRequest)

def step : WorkspaceStore := (serve rt config b s request).2

/-- A request that succeeds reads and changes workspaces that the principal administers, and no
other but the one that it creates. -/
def Contained : Prop :=
  administrative request.route = true → ∀ reply, (serve rt config b s request).1 = .ok reply →
    ∀ w, creates request.route ≠ some w →
      w ∈ reply.workspaceIds ∨ (serve rt config b s request).2.view w ≠ s.view w →
      Administers rt s request.principal w

def unused (newId : Uuid) : Bool :=
  !s.workspaces.contains newId && !s.invitations.contains newId &&
    s.memberships.keys.all (fun key => key.1 ≠ newId)

def drawsFresh : Bool :=
  match request.route with
  | .createWorkspace _ _ _ newId | .createOwnWorkspace _ _ _ newId
  | .createWorkspaceInvitation _ _ _ newId _ _ => unused s newId
  | _ => true

def LetIn : Prop :=
  ∃ context, ((request.context rt).run (exec rt b) s).1 = .ok context ∧
    context.hasRole .admin = true

def concerns (w : Uuid) : WorkspaceRoute → Prop
  | .getWorkspace workspaceId | .updateWorkspaceStatus workspaceId _ _
  | .deleteWorkspace workspaceId => workspaceId = w ∧ s.workspaces.contains w = true
  | .listWorkspaceAuditEvents workspaceId limit => workspaceId = w ∧ s.workspaces.contains w = true ∧
    (1 ≤ limit ∧ limit ≤ 500) ∧ ∃ e ∈ s.auditEvents, e.workspaceId = w
  | .listWorkspaces includeInactive => ∃ workspace, s.workspaces.get? w = some workspace ∧
    (includeInactive = true ∨ workspace.status = .active)
  | .purgeDeletedWorkspaces retentionDays now => ∃ workspace, s.workspaces.get? w = some workspace ∧
    purgeable (now - seconds (retentionDays * 86400)) workspace = true
  | _ => False

def AboutOwn : Prop :=
  LetIn rt b s request → ∀ w, concerns s w request.route → Administers rt s request.principal w

variable {rt} {config} {b} {s} {request} {W : Uuid → Prop}

section Rules

variable {α β : Type} {P : α → Prop} {P' : β → Prop} {s₀ : WorkspaceStore}

variable {call : WorkspaceCall α} {handler : WorkspaceError → RouteError}

theorem runs_handled {C : Except RouteError α → WorkspaceStore → Prop} :
    (handled handler call).Runs (exec rt b) C s ↔
      call.Runs (exec rt b) (fun r s' => match r with
        | .error e => C (.error (handler e)) s'
        | .ok a => C (.ok a) s') s := by
  unfold handled
  rw [Lib.Call.runs_bind]
  apply iff_of_eq
  congr
  funext r s'
  cases r <;> rfl

theorem stays_handled (stays : Keeps rt b W s₀ s P call) :
    Keeps rt b W s₀ s P (handled handler call) := by
  unfold Keeps
  rw [runs_handled]
  refine stays.mono (fun r s' stays => ?_)
  cases r with
  | error e => exact Stays.failed stays.within
  | ok a => exact Stays.done stays.within (stays.result a rfl)

theorem stays_andThen {call : RouteCall α} {next : α → RouteCall β}
    (stays : Keeps rt b W s₀ s P call)
    (goes : ∀ a s', P a → Within W [] s₀ s' → Keeps rt b W s₀ s' P' (next a)) :
    Keeps rt b W s₀ s P' (call.andThen next) := by
  unfold Keeps
  rw [runs_andThen]
  refine stays.mono (fun r s' stays => ?_)
  cases r with
  | error e => exact Stays.failed stays.within
  | ok a => exact goes a s' (stays.result a rfl) stays.within

theorem stays_replied {reply : α → β} (stays : Keeps rt b W s₀ s P call)
    (shows : ∀ a, P a → P' (reply a)) :
    Keeps rt b W s₀ s P' ((handled handler call).andThen (fun a => .done (.ok (reply a)))) :=
  stays_andThen (stays_handled stays) (fun a _ holds within => Stays.done within (shows a holds))

end Rules

abbrev Nothing : Uuid → Prop := fun _ => False

theorem authorizedWorkspaces_runs {s₀ : WorkspaceStore} {wids : List String}
    (within : Within W [] s₀ s) :
    Keeps rt b W s₀ s (fun workspaces => ∀ w ∈ workspaces, w.id ∈ wids.filterMap rt.uuid)
      (authorizedWorkspaces rt wids) := by
  induction wids with
  | nil => exact Stays.done within nofun
  | cons wid wids ih =>
    unfold Keeps authorizedWorkspaces
    split
    next => exact Stays.failed within
    next workspaceId parsed =>
      rw [Lib.Call.runs_ask, List.filterMap_cons_some parsed]
      have rest : Keeps rt b W s₀ s
          (fun workspaces => ∀ w ∈ workspaces, w.id ∈ workspaceId :: wids.filterMap rt.uuid)
          (authorizedWorkspaces rt wids) :=
        ih.mono (fun _ _ stays => ⟨stays.within, fun workspaces same w mem =>
          List.mem_cons_of_mem _ (stays.result workspaces same w mem)⟩)
      cases answered : (s.exec rt b (.getWorkspace workspaceId)).1 with
      | ok workspace =>
        have named : workspace.id = workspaceId :=
          within.keyed.workspaces _ workspace (getWorkspace_answer answered)
        refine stays_andThen rest (fun workspaces s' own within => Stays.done within ?_)
        intro w mem
        cases List.mem_cons.mp mem with
        | inl first =>
          rw [first, named]
          exact List.mem_cons_self
        | inr later => exact own w later
      | error e =>
        cases e with
        | workspaceNotFound => exact rest
        | _ => exact Stays.failed within

theorem selectAuthorized_mem {slug : Option String} {workspaces : List Workspace}
    {selected : Workspace} (found : selectAuthorized slug workspaces = .ok selected) :
    selected ∈ workspaces := by
  unfold selectAuthorized at found
  split at found
  next => cases found
  next =>
    split at found
    next => cases found
    next here =>
      cases found
      exact List.mem_of_find?_eq_some here
  next =>
    cases found
    exact List.mem_cons_self
  next => cases found

variable {w : Uuid}

theorem administers_of_token {p : Principal} (token : p.usesToken = true)
    (named : w ∈ p.workspaceIds.filterMap rt.uuid) : Administers rt s p w := by
  unfold Administers
  rw [if_pos token]
  exact named

theorem administers_of_member {p : Principal} {m : WorkspaceMembership}
    (user : p.usesToken = false) (stored : s.memberships.get? (w, p.subject) = some m)
    (role : m.role.includes .admin = true) : Administers rt s p w := by
  unfold Administers
  rw [if_neg (by simp [user])]
  exact ⟨m, stored, role⟩

theorem context_runs (keyed : s.Keyed) (cached : s.CachedBut []) :
    Keeps rt b W s s (fun context => context.hasRole .admin = true →
        Administers rt s request.principal context.workspaceId)
      (request.context rt) := by
  have within : Within W [] s s := within_refl keyed cached
  unfold ApiRequest.context resolveWorkspaceContext
  dsimp only
  refine stays_andThen (P := fun context => context.hasRole .admin = true →
    Administers rt s request.principal context.workspaceId) ?_ (fun context s' own within => ?_)
  · cases token : request.principal.usesToken with
    | true =>
      rw [if_pos rfl]
      unfold resolveFromAuthorizedWorkspaces
      refine stays_andThen (authorizedWorkspaces_runs within) (fun workspaces s' own within => ?_)
      split
      next => exact Stays.failed within
      next selected found =>
        split
        next => exact Stays.failed within
        next =>
          exact Stays.done within
            (fun _ => administers_of_token token (own selected (selectAuthorized_mem found)))
    | false =>
      rw [if_neg Bool.false_ne_true]
      refine stays_handled ((resolve_runs (W := W) keyed cached).mono (fun r s' stays => ?_))
      refine ⟨stays.within, fun context same role => ?_⟩
      obtain ⟨m, stored, sameRole⟩ := stays.result context same
      refine administers_of_member token stored ?_
      rw [sameRole]
      exact role
  · split
    next => exact Stays.done within own
    next => exact Stays.failed within

theorem runs_asAdmin {handler : WorkspaceContext → RouteCall RouteReply}
    {C : Except RouteError RouteReply → WorkspaceStore → Prop} (keyed : s.Keyed)
    (cached : s.CachedBut [])
    (fails : ∀ e s', Within Nothing [] s s' →
      ¬ (LetIn rt b s request ∧ request.route.wellFormed = true) → C (.error e) s')
    (goes : ∀ context s', Within Nothing [] s s' → LetIn rt b s request →
      Administers rt s request.principal context.workspaceId → request.route.wellFormed = true →
      (handler context).Runs (exec rt b) C s') :
    (asAdmin rt request handler).Runs (exec rt b) C s := by
  unfold asAdmin
  rw [runs_andThen, runs_andThen]
  have stays : (request.context rt).Runs (exec rt b) (Stays Nothing s _) s :=
    context_runs keyed cached
  unfold Lib.Call.Runs at stays ⊢
  generalize found : (request.context rt).run (exec rt b) s = left at stays ⊢
  have found := congrArg Prod.fst found
  cases answered : left.1 with
  | error e =>
    refine fails e _ stays.within (fun letIn => ?_)
    obtain ⟨context, same, -⟩ := letIn.1
    rw [found, answered] at same
    cases same
  | ok context =>
    have same : ((request.context rt).run (exec rt b) s).1 = .ok context := by
      rw [found, answered]
    dsimp only
    unfold requireRole
    by_cases role : context.hasRole .admin = true
    · rw [if_pos role]
      change (validated request (handler context)).Runs (exec rt b) C left.2
      have letIn : LetIn rt b s request := ⟨context, same, role⟩
      unfold validated
      split
      next formed =>
        exact goes context left.2 stays.within letIn (stays.result context answered role) formed
      next malformed => exact fails _ _ stays.within (fun both => malformed both.2)
    · rw [if_neg role]
      refine fails _ _ stays.within (fun letIn => ?_)
      obtain ⟨context', same', role'⟩ := letIn.1
      cases same.symm.trans same'
      exact role role'

section Unchanged

variable {users : List String} {s' : WorkspaceStore} (same : Within Nothing users s s')
include same

theorem record_unchanged (w : Uuid) : s'.workspaces.get? w = s.workspaces.get? w :=
  congrArg WorkspaceView.record (same.view w (fun inside => inside))

theorem member_unchanged (w : Uuid) (userId : String) :
    s'.memberships.get? (w, userId) = s.memberships.get? (w, userId) :=
  congrFun (congrArg WorkspaceView.members (same.view w (fun inside => inside))) userId

theorem auditEvents_unchanged (w : Uuid) :
    s'.auditEvents.filter (fun e => e.workspaceId = w) =
      s.auditEvents.filter (fun e => e.workspaceId = w) :=
  congrArg WorkspaceView.auditEvents (same.view w (fun inside => inside))

theorem invitation_unchanged (invitationId : Uuid) :
    s'.invitations.get? invitationId = s.invitations.get? invitationId := by
  have shown (w : Uuid) : (s'.invitations.get? invitationId).filter (fun i => i.workspaceId = w) =
      (s.invitations.get? invitationId).filter (fun i => i.workspaceId = w) :=
    congrFun (congrArg WorkspaceView.invitations (same.view w (fun inside => inside))) invitationId
  apply Option.ext
  intro i
  have here := shown i.workspaceId
  constructor
  · intro found
    rw [found] at here
    have kept : (s.invitations.get? invitationId).filter
        (fun i' => i'.workspaceId = i.workspaceId) = some i := by
      rw [← here]
      simp [Option.filter]
    exact (Option.filter_eq_some_iff.mp kept).1
  · intro found
    rw [found] at here
    have kept : (s'.invitations.get? invitationId).filter
        (fun i' => i'.workspaceId = i.workspaceId) = some i := by
      rw [here]
      simp [Option.filter]
    exact (Option.filter_eq_some_iff.mp kept).1

theorem within_of_unchanged : Within W users s s' :=
  same.mono (fun _ inside => absurd inside id) (fun _ mem => mem)

end Unchanged

def target : WorkspaceRoute → Option Uuid
  | .getWorkspace workspaceId | .updateWorkspaceStatus workspaceId _ _
  | .deleteWorkspace workspaceId | .listWorkspaceAuditEvents workspaceId _ => some workspaceId
  | _ => none

structure Covers (rt : WorkspaceRuntime) (b : Backend) (s : WorkspaceStore) (request : ApiRequest)
    (W : Uuid → Prop) : Prop where
  own : ∀ w, Administers rt s request.principal w → W w
  created : ∀ w, creates request.route = some w → W w
  concerned : LetIn rt b s request → ∀ w, concerns s w request.route → W w
  absent : ∀ w, target request.route = some w → s.workspaces.get? w = none → W w
  others : administrative request.route = false → ∀ w, W w

abbrev Shown (W : Uuid → Prop) (reply : RouteReply) : Prop := ∀ w ∈ reply.workspaceIds, W w

section Handlers

variable {s₀ : WorkspaceStore} {context : WorkspaceContext} {slug userId : String}

theorem shown_single {w : Uuid} {reply : RouteReply} (single : reply.workspaceIds = [w])
    (inside : W w) : Shown W reply := by
  intro w' mem
  rw [single, List.mem_singleton] at mem
  rw [mem]
  exact inside

theorem runs_scopedWorkspace {next : Workspace → RouteCall RouteReply}
    {C : Except RouteError RouteReply → WorkspaceStore → Prop} (fails : ∀ e, C (.error e) s)
    (goes : ∀ workspace, workspace.id = context.workspaceId →
      (next workspace).Runs (exec rt b) C s) :
    ((scopedWorkspace context slug).andThen next).Runs (exec rt b) C s := by
  unfold scopedWorkspace
  rw [runs_andThen, runs_andThen, runs_handled]
  refine runs_run (fun e _ => fails _) (fun (workspace : Workspace) _ => ?_)
  unfold WorkspaceCall.ok
  rw [Lib.Call.runs_done]
  dsimp only
  split
  next => exact fails _
  next same => exact goes workspace (not_not.mp same).symm

theorem scoped_runs {α : Type} {P : α → Prop} {handler : WorkspaceError → RouteError}
    {call : Workspace → WorkspaceCall α} {reply : α → RouteReply} (within : Within W [] s₀ s)
    (stays : ∀ workspace, workspace.id = context.workspaceId → Keeps rt b W s₀ s P (call workspace))
    (shows : ∀ a, P a → Shown W (reply a)) :
    Keeps rt b W s₀ s (Shown W)
      ((scopedWorkspace context slug).andThen (fun workspace =>
        (handled handler (call workspace)).andThen (fun a => .done (.ok (reply a))))) :=
  runs_scopedWorkspace (fun _ => Stays.failed within)
    (fun workspace named => stays_replied (stays workspace named) shows)

variable {role : Role} {now : Instant} {p : Principal} (within : Within W [] s₀ s)
include within

section Scoped

variable (inside : W context.workspaceId)
include inside

theorem addWorkspaceMember_runs :
    Keeps rt b W s₀ s (Shown W) (addWorkspaceMember context slug userId role) :=
  scoped_runs (P := fun m : WorkspaceMembership => m.workspaceId = context.workspaceId) within
    (fun workspace named => by
      rw [named]
      exact inviteMember_runs within inside)
    (fun m named => shown_single rfl (by rw [named]; exact inside))

theorem updateWorkspaceMemberRole_runs :
    Keeps rt b W s₀ s (Shown W) (updateWorkspaceMemberRole context slug userId role) :=
  scoped_runs (P := fun m : WorkspaceMembership => m.workspaceId = context.workspaceId) within
    (fun workspace named => by
      rw [named]
      exact updateMemberRole_runs within inside)
    (fun m named => shown_single rfl (by rw [named]; exact inside))

theorem removeWorkspaceMember_runs :
    Keeps rt b W s₀ s (Shown W) (removeWorkspaceMember context slug userId) :=
  scoped_runs (P := fun _ => True) within
    (fun workspace named => by
      rw [named]
      exact removeMember_runs within inside)
    nofun

theorem createWorkspaceInvitation_runs {email rawToken : String} {newId : Uuid}
    (fresh : s.invitations.get? newId = none) :
    Keeps rt b W s₀ s (Shown W)
      (createWorkspaceInvitation rt config p context slug email role newId rawToken now) :=
  scoped_runs (P := fun i : WorkspaceInvitation => i.workspaceId = context.workspaceId) within
    (fun workspace named => by
      rw [named]
      exact createInvitation_runs within inside fresh)
    (fun i named => shown_single rfl (by rw [toInvitationResponse, named]; exact inside))

theorem revokeWorkspaceInvitation_runs {invitationId : Uuid} :
    Keeps rt b W s₀ s (Shown W) (revokeWorkspaceInvitation rt p context slug invitationId) :=
  scoped_runs (P := fun i : WorkspaceInvitation => i.workspaceId = context.workspaceId) within
    (fun workspace named => by
      rw [named]
      exact revokeInvitation_runs within inside)
    (fun i named => shown_single rfl (by rw [toInvitationResponse, named]; exact inside))

theorem listWorkspaceMembers_runs :
    Keeps rt b W s₀ s (Shown W) (listWorkspaceMembers context slug) := by
  refine runs_scopedWorkspace (fun _ => Stays.failed within) (fun workspace named => ?_)
  refine stays_handled (stays_run within (fun members listed => ?_))
  have listed : s.listMembershipsForWorkspace workspace.id = members := Except.ok.inj listed
  refine Stays.done within (fun w mem => ?_)
  obtain ⟨m, inList, rfl⟩ := List.mem_map.mp mem
  rw [← listed, listMembershipsForWorkspace, List.mem_filter] at inList
  have here : m.workspaceId = workspace.id := by simpa using inList.2
  rw [here, named]
  exact inside

theorem listWorkspaceInvitations_runs :
    Keeps rt b W s₀ s (Shown W) (listWorkspaceInvitations context slug) := by
  refine runs_scopedWorkspace (fun _ => Stays.failed within) (fun workspace named => ?_)
  refine stays_handled (stays_run within
    (fun (invitations : List WorkspaceInvitation) listed => ?_))
  have listed : s.listInvitations rt workspace.id true = invitations := Except.ok.inj listed
  refine Stays.done within (fun w mem => ?_)
  obtain ⟨response, inReply, rfl⟩ := List.mem_map.mp mem
  obtain ⟨i, inList, rfl⟩ := List.mem_map.mp inReply
  rw [← listed, listInvitations, (rt.orderInvitations_perm _).mem_iff,
    List.mem_filter] at inList
  have here : i.workspaceId = workspace.id := by simpa using inList.2
  rw [toInvitationResponse, here, named]
  exact inside

end Scoped

/-! Routes that name their workspace. -/

theorem getWorkspaceRoute_runs {w : Uuid} (inside : s.workspaces.get? w ≠ none → W w) :
    Keeps rt b W s₀ s (Shown W) (getWorkspaceRoute w) := by
  refine stays_handled (stays_run within (fun workspace answered => ?_))
  have found := getWorkspace_answer answered
  have named : workspace.id = w := within.keyed.workspaces _ workspace found
  refine Stays.done within (shown_single rfl ?_)
  rw [named]
  exact inside (by rw [found]; exact Option.some_ne_none _)

theorem updateWorkspaceStatus_runs {w : Uuid} {status : WorkspaceStatus} (inside : W w) :
    Keeps rt b W s₀ s (Shown W) (updateWorkspaceStatus rt w status now) := by
  have shows (workspace : Workspace) (named : workspace.id = w) :
      Shown W (.workspace workspace) := shown_single rfl (by rw [named]; exact inside)
  cases status with
  | active => exact stays_replied (changeStatus_runs within inside) shows
  | suspended => exact stays_replied (changeStatus_runs within inside) shows
  | deleted => exact stays_replied (changeStatus_runs within inside) shows

theorem deleteWorkspaceRoute_runs {w : Uuid} (inside : W w) :
    Keeps rt b W s₀ s (Shown W) (deleteWorkspaceRoute rt w) := by
  refine stays_replied (P := fun _ => True) ?_ nofun
  exact runs_hardDeleteThen within inside (fun s' within _ => Stays.failed within)
    (fun s' within _ _ => Stays.done within trivial)

theorem listWorkspaceAuditEvents_runs {w : Uuid} {limit : Nat}
    (inside : s.workspaces.get? w ≠ none → (∃ e ∈ s.auditEvents, e.workspaceId = w) → W w) :
    Keeps rt b W s₀ s (Shown W) (listWorkspaceAuditEvents w limit) := by
  refine stays_handled (stays_run within (fun workspace answered => ?_))
  have found := getWorkspace_answer answered
  refine stays_run within (fun events listed => ?_)
  have listed : s.listAuditEvents w limit = events := Except.ok.inj listed
  refine Stays.done within (fun w' mem => ?_)
  obtain ⟨e, inList, rfl⟩ := List.mem_map.mp mem
  rw [← listed] at inList
  have inList := List.mem_filter.mp (List.mem_reverse.mp (List.mem_of_mem_take inList))
  have here : e.workspaceId = w := by simpa using inList.2
  rw [here]
  exact inside (by rw [found]; exact Option.some_ne_none _) ⟨e, inList.1, here⟩

theorem listWorkspacesRoute_runs {includeInactive : Bool}
    (inside : ∀ w workspace, s.workspaces.get? w = some workspace →
      includeInactive = true ∨ workspace.status = .active → W w) :
    Keeps rt b W s₀ s (Shown W) (listWorkspacesRoute includeInactive) := by
  refine stays_handled (stays_run within
    (fun (workspaces : List Workspace) listed => ?_))
  have listed : s.listWorkspaces rt includeInactive = workspaces := Except.ok.inj listed
  refine Stays.done within (fun w mem => ?_)
  obtain ⟨workspace, inList, rfl⟩ := List.mem_map.mp mem
  rw [← listed, listWorkspaces, (rt.orderWorkspaces_perm _).mem_iff,
    List.mem_filter, Dict.mem_values_iff] at inList
  obtain ⟨⟨key, found⟩, shown⟩ := inList
  have named : workspace.id = key := within.keyed.workspaces _ workspace found
  rw [named]
  exact inside key workspace found (by simpa using shown)

theorem purgeDeletedWorkspacesRoute_runs {retentionDays : Int}
    (inside : ∀ w workspace, s.workspaces.get? w = some workspace →
      purgeable (now - seconds (retentionDays * 86400)) workspace = true → W w) :
    Keeps rt b W s₀ s (Shown W) (purgeDeletedWorkspacesRoute rt retentionDays now) := by
  refine stays_replied (P := fun _ => True) ?_ nofun
  refine stays_run within (fun (workspaces : List Workspace) listed => ?_)
  have listed : s.listWorkspaces rt true = workspaces := Except.ok.inj listed
  refine (purge_runs within (fun workspace mem => ?_)).mono
    (fun _ _ purged => ⟨purged.1, fun _ _ => trivial⟩)
  rw [List.mem_filter, ← listed, listWorkspaces,
    (rt.orderWorkspaces_perm _).mem_iff, List.mem_filter, Dict.mem_values_iff] at mem
  obtain ⟨⟨⟨key, found⟩, -⟩, due⟩ := mem
  have named : workspace.id = key := within.keyed.workspaces _ workspace found
  rw [named]
  exact inside key workspace found due

/-! Routes for anyone. -/

theorem getActiveWorkspace_runs (all : ∀ w, W w) :
    Keeps rt b W s₀ s (Shown W) (getActiveWorkspace p context) := by
  refine stays_handled (stays_run within (fun workspace _ => ?_))
  rw [runs_andThen]
  refine (recordMemberIdentity_runs within (all _)).mono (fun r s' stays => ?_)
  cases r with
  | error e => exact Stays.failed stays.within
  | ok _ => exact Stays.done stays.within (fun w _ => all w)

theorem acceptWorkspaceInvitation_runs {token : String} {acceptedAt : Instant} (all : ∀ w, W w) :
    Keeps rt b W s₀ s (Shown W) (acceptWorkspaceInvitation rt p token now acceptedAt) := by
  refine stays_andThen (stays_handled (acceptInvitation_runs within all))
    (fun m s' _ within => ?_)
  refine stays_handled (stays_run within (fun workspace _ => ?_))
  exact Stays.done within (fun w _ => all w)

end Handlers

theorem unused_iff {newId : Uuid} : unused s newId = true ↔ s.workspaces.get? newId = none ∧
    s.invitations.get? newId = none ∧ ∀ userId, s.memberships.get? (newId, userId) = none := by
  unfold unused
  rw [Bool.and_eq_true, Bool.and_eq_true, and_assoc, List.all_eq_true]
  refine and_congr (by simp [Dict.contains]) (and_congr (by simp [Dict.contains]) ?_)
  constructor
  · intro apart userId
    rw [Dict.get?_eq_none_iff]
    intro mem
    simpa using apart _ mem
  · rintro empty ⟨w, userId⟩ mem
    refine decide_eq_true ?_
    rintro rfl
    exact (Dict.get?_eq_none_iff _ _).mp (empty userId) mem

theorem stays_validated {call : RouteCall RouteReply} {s₀ : WorkspaceStore}
    (within : Within W [] s₀ s) (stays : Keeps rt b W s₀ s (Shown W) call) :
    Keeps rt b W s₀ s (Shown W) (validated request call) := by
  unfold validated
  split
  next => exact stays
  next => exact Stays.failed within

theorem call_runs (keyed : s.Keyed) (cached : s.CachedBut []) (fresh : drawsFresh s request = true)
    (covers : Covers rt b s request W) :
    Keeps rt b W s s (Shown W) (request.call rt config) := by
  have admin {handler : WorkspaceContext → RouteCall RouteReply}
      (stays : ∀ context s', Within Nothing [] s s' → Within W [] s s' → LetIn rt b s request →
        W context.workspaceId ∧ request.route.wellFormed = true →
        Keeps rt b W s s' (Shown W) (handler context)) :
      Keeps rt b W s s (Shown W) (asAdmin rt request handler) :=
    runs_asAdmin keyed cached
      (fun _ _ same _ => Stays.failed (within_of_unchanged same))
      (fun context s' same letIn own formed =>
        stays context s' same (within_of_unchanged same) letIn ⟨covers.own _ own, formed⟩)
  have named {w : Uuid} (isTarget : target request.route = some w) (letIn : LetIn rt b s request)
      (about : s.workspaces.contains w = true → concerns s w request.route) : W w := by
    by_cases there : s.workspaces.contains w = true
    · exact covers.concerned letIn w (about there)
    · exact covers.absent w isTarget (by simpa [Dict.contains] using there)
  have within : Within W [] s s := within_refl keyed cached
  unfold ApiRequest.call
  split
  next slug name owner newId route =>
    refine admin (fun context s' same within _ _ => ?_)
    rw [drawsFresh, route] at fresh
    obtain ⟨-, -, empty⟩ := unused_iff.mp fresh
    have inside : W newId := covers.created newId (by rw [route]; rfl)
    refine stays_replied (createWorkspace_runs within inside (fun userId => ?_)) (fun workspace here =>
      shown_single rfl (by rw [here]; exact inside))
    rw [member_unchanged same]
    exact empty userId
  next includeInactive route =>
    refine admin (fun context s' same within letIn _ => ?_)
    refine listWorkspacesRoute_runs within (fun w workspace found shown => ?_)
    rw [record_unchanged same] at found
    refine covers.concerned letIn w ?_
    rw [route]
    exact ⟨workspace, found, shown⟩
  next workspaceId route =>
    refine admin (fun context s' same within letIn _ => ?_)
    refine getWorkspaceRoute_runs within (fun _ => named (by rw [route]; rfl) letIn (fun there => ?_))
    rw [route]
    exact ⟨rfl, there⟩
  next workspaceId status now route =>
    refine admin (fun context s' same within letIn _ => ?_)
    refine updateWorkspaceStatus_runs within (named (by rw [route]; rfl) letIn (fun there => ?_))
    rw [route]
    exact ⟨rfl, there⟩
  next workspaceId route =>
    refine admin (fun context s' same within letIn _ => ?_)
    refine deleteWorkspaceRoute_runs within (named (by rw [route]; rfl) letIn (fun there => ?_))
    rw [route]
    exact ⟨rfl, there⟩
  next workspaceId limit route =>
    refine admin (fun context s' same within letIn both => ?_)
    refine listWorkspaceAuditEvents_runs within (fun _ events =>
      named (by rw [route]; rfl) letIn (fun there => ?_))
    have formed := both.2
    rw [route] at formed ⊢
    obtain ⟨e, mem, here⟩ := events
    have shown : e ∈ s.auditEvents.filter (fun e => e.workspaceId = workspaceId) := by
      rw [← auditEvents_unchanged same]
      exact List.mem_filter.mpr ⟨mem, decide_eq_true here⟩
    exact ⟨rfl, there, of_decide_eq_true formed, e, (List.mem_filter.mp shown).1, here⟩
  next retentionDays now route =>
    refine admin (fun context s' same within letIn _ => ?_)
    refine purgeDeletedWorkspacesRoute_runs within (fun w workspace found due => ?_)
    rw [record_unchanged same] at found
    refine covers.concerned letIn w ?_
    rw [route]
    exact ⟨workspace, found, due⟩
  next slug route =>
    exact admin (fun _ _ _ within _ own => listWorkspaceMembers_runs within own.1)
  next slug userId role route =>
    exact admin (fun _ _ _ within _ own => addWorkspaceMember_runs within own.1)
  next slug userId role route =>
    exact admin (fun _ _ _ within _ own => updateWorkspaceMemberRole_runs within own.1)
  next slug userId route =>
    exact admin (fun _ _ _ within _ own => removeWorkspaceMember_runs within own.1)
  next slug route =>
    exact admin (fun _ _ _ within _ own => listWorkspaceInvitations_runs within own.1)
  next slug email role newId rawToken now route =>
    refine admin (fun context s' same within _ own => ?_)
    rw [drawsFresh, route] at fresh
    obtain ⟨-, absent, -⟩ := unused_iff.mp fresh
    refine createWorkspaceInvitation_runs within own.1 ?_
    rw [invitation_unchanged same]
    exact absent
  next slug invitationId route =>
    exact admin (fun _ _ _ within _ own => revokeWorkspaceInvitation_runs within own.1)
  next route =>
    have all := covers.others (by rw [route]; rfl)
    exact stays_andThen (context_runs keyed cached)
      (fun _ _ _ within => getActiveWorkspace_runs within all)
  next slug name owner newId route =>
    have all := covers.others (by rw [route]; rfl)
    rw [drawsFresh, route] at fresh
    obtain ⟨-, -, empty⟩ := unused_iff.mp fresh
    refine stays_validated within ?_
    unfold createOwnWorkspace
    split
    next => exact Stays.failed within
    next => exact stays_replied (createWorkspace_runs within (all _) empty) (fun _ _ w _ => all w)
  next route =>
    have all := covers.others (by rw [route]; rfl)
    exact stays_replied (membershipsFor_runs keyed cached) (fun _ _ w _ => all w)
  next token now acceptedAt route =>
    have all := covers.others (by rw [route]; rfl)
    exact stays_validated within (acceptWorkspaceInvitation_runs within all)

section Failing

variable {α β : Type}

abbrev Fails (r : Except RouteError α) (_ : WorkspaceStore) : Prop := ∃ e, r = .error e

theorem fails_andThen {call : RouteCall α} {next : α → RouteCall β}
    (fails : call.Runs (exec rt b) Fails s) :
    (call.andThen next).Runs (exec rt b) Fails s := by
  rw [runs_andThen]
  refine fails.mono (fun r _ failed => ?_)
  obtain ⟨e, rfl⟩ := failed
  exact ⟨e, rfl⟩

theorem fails_handled {handler : WorkspaceError → RouteError} {call : WorkspaceCall α}
    (fails : call.Runs (exec rt b) (fun r _ => ∃ e, r = .error e) s) :
    (handled handler call).Runs (exec rt b) Fails s := by
  rw [runs_handled]
  refine fails.mono (fun r _ failed => ?_)
  obtain ⟨e, rfl⟩ := failed
  exact ⟨handler e, rfl⟩

end Failing

theorem updateStatus_found {status : WorkspaceStatus} {now : Instant} {workspace : Workspace}
    (answered : (s.exec rt b (.updateStatus w status now)).1 = .ok workspace) :
    s.workspaces.get? w ≠ none := by
  have answered : (s.updateStatus w status now).1 = .ok workspace := answered
  unfold updateStatus at answered
  split at answered
  next => cases answered
  next found =>
    rw [found]
    exact Option.some_ne_none _

theorem absent_fails (keyed : s.Keyed) (cached : s.CachedBut [])
    (isTarget : target request.route = some w) (absent : s.workspaces.get? w = none) :
    (request.call rt config).Runs (exec rt b) Fails s := by
  have admin {handler : WorkspaceContext → RouteCall RouteReply}
      (fails : ∀ context s', Within Nothing [] s s' → s'.workspaces.get? w = none →
        (handler context).Runs (exec rt b) Fails s') :
      (asAdmin rt request handler).Runs (exec rt b) Fails s :=
    runs_asAdmin keyed cached (fun e _ _ _ => ⟨e, rfl⟩)
      (fun context s' same _ _ _ => fails context s' same
        ((record_unchanged same w).trans absent))
  have unread {s' : WorkspaceStore} {α : Type} {next : Workspace → WorkspaceCall α}
      (absent : s'.workspaces.get? w = none) :
      (run (.getWorkspace w) next).Runs (exec rt b) (fun r _ => ∃ e, r = .error e)
        s' := by
    refine runs_run (fun e _ => ⟨e, rfl⟩) (fun workspace answered => ?_)
    cases absent.symm.trans (getWorkspace_answer answered)
  have unchanged {s' : WorkspaceStore} {action : String} {status : WorkspaceStatus} {now : Instant}
      (absent : s'.workspaces.get? w = none) :
      (changeStatus rt action w status now).Runs (exec rt b)
        (fun r _ => ∃ e, r = .error e) s' :=
    runs_run (fun e _ => ⟨e, rfl⟩)
      (fun _ answered => absurd absent (updateStatus_found answered))
  unfold ApiRequest.call
  cases route : request.route with
  | getWorkspace workspaceId =>
    rw [route] at isTarget
    cases isTarget
    exact admin (fun _ _ _ absent => fails_handled (unread absent))
  | updateWorkspaceStatus workspaceId status now =>
    rw [route] at isTarget
    cases isTarget
    refine admin (fun _ s' _ absent => fails_andThen (fails_handled ?_))
    cases status with
    | active => exact unchanged absent
    | suspended => exact unchanged absent
    | deleted => exact unchanged absent
  | deleteWorkspace workspaceId =>
    rw [route] at isTarget
    cases isTarget
    refine admin (fun _ s' same absent => fails_andThen (fails_handled ?_))
    exact runs_hardDeleteThen (W := fun _ => True) (within_of_unchanged same) trivial
      (fun _ _ _ => ⟨_, rfl⟩) (fun _ _ there _ => absurd absent there)
  | listWorkspaceAuditEvents workspaceId limit =>
    rw [route] at isTarget
    cases isTarget
    exact admin (fun _ _ _ absent => fails_handled (unread absent))
  | _ =>
    rw [route] at isTarget
    cases isTarget

theorem administrative_of_concerns {route : WorkspaceRoute} (concerned : concerns s w route) :
    administrative route = true ∧ ∀ w, creates route ≠ some w := by
  cases route with
  | getWorkspace | updateWorkspaceStatus | deleteWorkspace | listWorkspaceAuditEvents
  | listWorkspaces | purgeDeletedWorkspaces => exact ⟨rfl, nofun⟩
  | _ => cases concerned

section Reaching

variable {s₀ : WorkspaceStore} {w : Uuid}

abbrev Reaches (s₀ : WorkspaceStore) (w : Uuid) (r : Except RouteError RouteReply)
    (s : WorkspaceStore) : Prop :=
  ∃ reply, r = .ok reply ∧ (w ∈ reply.workspaceIds ∨ s.view w ≠ s₀.view w)

theorem changed_of_erased (there : s₀.workspaces.get? w ≠ none)
    (erased : s.workspaces.get? w = none) : s.view w ≠ s₀.view w := by
  intro same
  have record : s.workspaces.get? w = s₀.workspaces.get? w := congrArg WorkspaceView.record same
  exact there (record.symm.trans erased)

theorem getWorkspaceRoute_reaches (keyed : s.Keyed) (there : s.workspaces.get? w ≠ none) :
    (getWorkspaceRoute w).Runs (exec rt b) (Reaches s₀ w) s := by
  unfold getWorkspaceRoute
  rw [runs_handled]
  refine runs_run (fun e failed => ?_) (fun (workspace : Workspace) answered => ?_)
  · have failed : s.getWorkspace w = .error e := failed
    unfold getWorkspace at failed
    split at failed
    next absent => exact absurd absent there
    next => cases failed
  · have named : workspace.id = w := keyed.workspaces _ workspace (getWorkspace_answer answered)
    refine ⟨.workspace workspace, rfl, Or.inl ?_⟩
    rw [← named]
    exact List.mem_singleton_self _

variable {now : Instant}

theorem changeStatus_reaches {action : String} {status : WorkspaceStatus}
    (keyed : s.Keyed) (there : s.workspaces.get? w ≠ none) :
    (changeStatus rt action w status now).Runs (exec rt b)
      (fun r _ => ∃ workspace, r = .ok workspace ∧ workspace.id = w) s := by
  refine runs_run (fun e failed => ?_) (fun workspace answered => ?_)
  · have failed : (s.updateStatus w status now).1 = .error e := failed
    unfold updateStatus at failed
    split at failed
    next absent => exact absurd absent there
    next => cases failed
  · exact ⟨workspace, rfl, updateStatus_answer keyed answered⟩

theorem updateWorkspaceStatus_reaches {status : WorkspaceStatus} (keyed : s.Keyed)
    (there : s.workspaces.get? w ≠ none) :
    (updateWorkspaceStatus rt w status now).Runs (exec rt b) (Reaches s₀ w) s := by
  have changed {action : String} :
      ((handled missingWorkspace (changeStatus rt action w status now)).andThen
        (fun workspace => .done (.ok (.workspace workspace)))).Runs (exec rt b)
          (Reaches s₀ w) s := by
    rw [runs_andThen, runs_handled]
    refine (changeStatus_reaches keyed there).mono (fun r s' done => ?_)
    obtain ⟨workspace, rfl, rfl⟩ := done
    exact ⟨_, rfl, Or.inl (List.mem_singleton_self _)⟩
  cases status with
  | active => exact changed
  | suspended => exact changed
  | deleted => exact changed

theorem deleteWorkspaceRoute_reaches (keyed : s.Keyed) (cached : s.CachedBut [])
    (there : s.workspaces.get? w ≠ none) (before : s₀.workspaces.get? w ≠ none) :
    (deleteWorkspaceRoute rt w).Runs (exec rt b) (Reaches s₀ w) s := by
  unfold deleteWorkspaceRoute
  rw [runs_andThen, runs_handled]
  refine runs_hardDeleteThen (W := fun _ => True) (within_refl keyed cached) trivial
    (fun _ _ absent => absurd absent there) (fun s' _ _ erased => ?_)
  have erased : s'.workspaces.get? w = none := by
    rw [erased]
    exact (Dict.get?_erase _ _ _).trans (if_pos rfl)
  exact ⟨_, rfl, Or.inr (changed_of_erased before erased)⟩

theorem listWorkspaceAuditEvents_reaches {limit : Nat} {e : WorkspaceAuditEvent}
    (there : s.workspaces.get? w ≠ none) (some' : 1 ≤ limit) (mem : e ∈ s.auditEvents)
    (here : e.workspaceId = w) :
    (listWorkspaceAuditEvents w limit).Runs (exec rt b) (Reaches s₀ w) s := by
  unfold listWorkspaceAuditEvents
  rw [runs_handled]
  refine runs_run (fun e failed => ?_) (fun _ _ => ?_)
  · have failed : s.getWorkspace w = .error e := failed
    unfold getWorkspace at failed
    split at failed
    next absent => exact absurd absent there
    next => cases failed
  · refine runs_run nofun
      (fun (events : List WorkspaceAuditEvent) listed => ?_)
    have listed : s.listAuditEvents w limit = events := Except.ok.inj listed
    refine ⟨.auditEvents events, rfl, Or.inl ?_⟩
    have kept : e ∈ (s.auditEvents.filter (fun e => e.workspaceId = w)).reverse :=
      List.mem_reverse.mpr (List.mem_filter.mpr ⟨mem, decide_eq_true here⟩)
    obtain ⟨first, rest, shape⟩ := List.exists_cons_of_ne_nil (List.ne_nil_of_mem kept)
    have own : first ∈ (s.auditEvents.filter (fun e => e.workspaceId = w)).reverse := by
      rw [shape]
      exact List.mem_cons_self
    have own := of_decide_eq_true (List.mem_filter.mp (List.mem_reverse.mp own)).2
    refine List.mem_map.mpr ⟨first, ?_, own⟩
    rw [← listed, listAuditEvents, shape]
    obtain ⟨n, rfl⟩ := Nat.exists_eq_add_of_le' some'
    exact List.mem_cons_self

theorem listWorkspacesRoute_reaches {includeInactive : Bool} {workspace : Workspace}
    (keyed : s.Keyed) (found : s.workspaces.get? w = some workspace)
    (shown : includeInactive = true ∨ workspace.status = .active) :
    (listWorkspacesRoute includeInactive).Runs (exec rt b) (Reaches s₀ w) s := by
  unfold listWorkspacesRoute
  rw [runs_handled]
  refine runs_run nofun (fun (workspaces : List Workspace) listed => ?_)
  have listed : s.listWorkspaces rt includeInactive = workspaces := Except.ok.inj listed
  refine ⟨_, rfl, Or.inl (List.mem_map.mpr ⟨workspace, ?_, keyed.workspaces _ workspace found⟩)⟩
  rw [← listed, listWorkspaces, (rt.orderWorkspaces_perm _).mem_iff,
    List.mem_filter, Dict.mem_values_iff]
  exact ⟨⟨w, found⟩, by simpa using shown⟩

theorem purgeDeletedWorkspacesRoute_reaches {retentionDays : Int} {workspace : Workspace}
    (keyed : s.Keyed) (cached : s.CachedBut []) (found : s.workspaces.get? w = some workspace)
    (due : purgeable (now - seconds (retentionDays * 86400)) workspace = true)
    (before : s₀.workspaces.get? w ≠ none) :
    (purgeDeletedWorkspacesRoute rt retentionDays now).Runs (exec rt b)
      (Reaches s₀ w) s := by
  unfold purgeDeletedWorkspacesRoute
  rw [runs_andThen, runs_handled]
  refine runs_run nofun (fun (workspaces : List Workspace) listed => ?_)
  have listed : s.listWorkspaces rt true = workspaces := Except.ok.inj listed
  have perm : workspaces.Perm s.workspaces.values := by
    rw [← listed]
    simpa [listWorkspaces] using rt.orderWorkspaces_perm s.workspaces.values
  refine (purge_runs (W := fun _ => True) (within_refl keyed cached) (fun _ _ => trivial)).mono
    (fun r s' purged => ?_)
  have nodup : ((workspaces.filter (purgeable (now - seconds (retentionDays * 86400)))).map
      (·.id)).Nodup :=
    ((perm.map _).nodup_iff.mpr keyed.workspaces.nodup_values).sublist
      (List.filter_sublist.map _)
  have stored : ∀ x ∈ workspaces.filter (purgeable (now - seconds (retentionDays * 86400))),
      s.workspaces.get? x.id ≠ none := by
    intro x mem
    obtain ⟨key, found⟩ := (Dict.mem_values_iff _ _).mp (perm.mem_iff.mp (List.mem_filter.mp mem).1)
    have named : x.id = key := keyed.workspaces _ x found
    rw [named, found]
    exact Option.some_ne_none _
  obtain ⟨rfl, gone⟩ := purged.2 nodup stored
  refine ⟨_, rfl, Or.inr (changed_of_erased before (gone w (Or.inl ?_)))⟩
  have mem : workspace ∈ workspaces := perm.mem_iff.mpr ((Dict.mem_values_iff _ _).mpr ⟨w, found⟩)
  exact List.mem_map.mpr
    ⟨workspace, List.mem_filter.mpr ⟨mem, due⟩, keyed.workspaces _ workspace found⟩

theorem concerned_reached (keyed : s.Keyed) (cached : s.CachedBut []) (letIn : LetIn rt b s request)
    (concerned : concerns s w request.route) :
    (request.call rt config).Runs (exec rt b) (Reaches s w) s := by
  have admin {handler : WorkspaceContext → RouteCall RouteReply}
      (formed : request.route.wellFormed = true)
      (reaches : ∀ context s', Within Nothing [] s s' →
        (handler context).Runs (exec rt b) (Reaches s w) s') :
      (asAdmin rt request handler).Runs (exec rt b) (Reaches s w) s :=
    runs_asAdmin keyed cached (fun _ _ _ refused => absurd ⟨letIn, formed⟩ refused)
      (fun context s' same _ _ _ => reaches context s' same)
  have found {s' : WorkspaceStore} (same : Within Nothing [] s s')
      (there : s.workspaces.contains w = true) : s'.workspaces.get? w ≠ none := by
    rw [record_unchanged same]
    intro absent
    simp [Dict.contains, absent] at there
  have same : Within Nothing [] s s := within_refl keyed cached
  unfold ApiRequest.call
  cases route : request.route with
  | getWorkspace workspaceId =>
    rw [route] at concerned
    obtain ⟨rfl, there⟩ := concerned
    exact admin (by rw [route]; rfl)
      (fun _ _ same => getWorkspaceRoute_reaches same.keyed (found same there))
  | updateWorkspaceStatus workspaceId status now =>
    rw [route] at concerned
    obtain ⟨rfl, there⟩ := concerned
    exact admin (by rw [route]; rfl)
      (fun _ _ same => updateWorkspaceStatus_reaches same.keyed (found same there))
  | deleteWorkspace workspaceId =>
    rw [route] at concerned
    obtain ⟨rfl, there⟩ := concerned
    exact admin (by rw [route]; rfl) (fun _ _ same' =>
      deleteWorkspaceRoute_reaches same'.keyed same'.cached (found same' there) (found same there))
  | listWorkspaceAuditEvents workspaceId limit =>
    rw [route] at concerned
    obtain ⟨rfl, there, bounds, e, mem, here⟩ := concerned
    refine admin (by rw [route]; exact decide_eq_true bounds) (fun _ s' same => ?_)
    have mem : e ∈ s'.auditEvents.filter (fun e => e.workspaceId = workspaceId) := by
      rw [auditEvents_unchanged same]
      exact List.mem_filter.mpr ⟨mem, decide_eq_true here⟩
    exact listWorkspaceAuditEvents_reaches (found same there) bounds.1 (List.mem_filter.mp mem).1 here
  | listWorkspaces includeInactive =>
    rw [route] at concerned
    obtain ⟨workspace, there, shown⟩ := concerned
    exact admin (by rw [route]; rfl) (fun _ s' same =>
      listWorkspacesRoute_reaches same.keyed ((record_unchanged same w).trans there) shown)
  | purgeDeletedWorkspaces retentionDays now =>
    rw [route] at concerned
    obtain ⟨workspace, there, due⟩ := concerned
    refine admin (by rw [route]; rfl) (fun _ s' same => ?_)
    refine purgeDeletedWorkspacesRoute_reaches same.keyed same.cached
      ((record_unchanged same w).trans there) due ?_
    rw [there]
    exact Option.some_ne_none _
  | _ =>
    rw [route] at concerned
    cases concerned

end Reaching

theorem covers_all : Covers rt b s request (fun _ => True) :=
  ⟨fun _ _ => trivial, fun _ _ => trivial, fun _ _ _ => trivial, fun _ _ _ => trivial,
    fun _ _ => trivial⟩

theorem step_kept (keyed : s.Keyed) (cached : s.CachedBut [])
    (fresh : drawsFresh s request = true) :
    (step rt config b s request).Keyed ∧ (step rt config b s request).CachedBut [] := by
  have stays : Stays (fun _ => True) s (Shown fun _ => True) (serve rt config b s request).1
      (step rt config b s request) := call_runs keyed cached fresh covers_all
  exact ⟨stays.within.keyed, stays.within.cached⟩

theorem contained_iff (keyed : s.Keyed) (cached : s.CachedBut [])
    (fresh : drawsFresh s request = true) :
    Contained rt config b s request ↔ AboutOwn rt b s request := by
  constructor
  · intro contained letIn w concerned
    have reached : Reaches s w (serve rt config b s request).1 (serve rt config b s request).2 :=
      concerned_reached keyed cached letIn concerned
    obtain ⟨reply, served, reached⟩ := reached
    obtain ⟨admin, uncreated⟩ := administrative_of_concerns concerned
    exact contained admin reply served w (uncreated w) reached
  · intro own admin reply served w uncreated reached
    let W := fun w => Administers rt s request.principal w ∨ creates request.route = some w ∨
      target request.route = some w ∧ s.workspaces.get? w = none
    have covers : Covers rt b s request W := {
      own := fun _ administers => Or.inl administers
      created := fun _ created => Or.inr (Or.inl created)
      concerned := fun letIn w concerned => Or.inl (own letIn w concerned)
      absent := fun _ isTarget absent => Or.inr (Or.inr ⟨isTarget, absent⟩)
      others := fun other => by rw [admin] at other; cases other }
    have stays : Stays W s (Shown W) (serve rt config b s request).1 (serve rt config b s request).2 :=
      call_runs keyed cached fresh covers
    have inside : W w := by
      by_contra outside
      cases reached with
      | inl read => exact outside (stays.result reply served w read)
      | inr changed => exact changed (stays.within.view w outside)
    rcases inside with administers | created | ⟨isTarget, absent⟩
    · exact administers
    · exact absurd created uncreated
    · have fails : Fails (serve rt config b s request).1 (serve rt config b s request).2 :=
        absent_fails keyed cached isTarget absent
      obtain ⟨e, failed⟩ := fails
      cases served.symm.trans failed

theorem contained_along {requests : List ApiRequest} (keyed : s.Keyed) (cached : s.CachedBut [])
    (fresh : AllSteps (step rt config b) (fun s request => drawsFresh s request = true) s
      requests) :
    AllSteps (step rt config b) (Contained rt config b) s requests ↔
      AllSteps (step rt config b) (AboutOwn rt b) s requests := by
  induction requests generalizing s with
  | nil => exact Iff.rfl
  | cons request requests ih =>
    have kept : (step rt config b s request).Keyed ∧ _ := step_kept keyed cached fresh.1
    obtain ⟨keyed', cached'⟩ := kept
    exact and_congr (contained_iff keyed cached fresh.1) (ih keyed' cached' fresh.2)

/-- In every run of requests, from any workspaces and members, each request stays in the workspaces
that its principal administers exactly where each that is let in is about none but those. -/
theorem administration_contained {store : WorkspaceStore} {requests : List ApiRequest}
    (keyed : store.Keyed) (uncached : store.cache = ∅)
    (fresh : AllSteps (step rt config b) (fun s request => drawsFresh s request = true) store
      requests) :
    AllSteps (step rt config b) (Contained rt config b) store requests ↔
      AllSteps (step rt config b) (AboutOwn rt b) store requests := by
  refine contained_along keyed (fun userId _ entry found => ?_) fresh
  rw [uncached] at found
  cases found

def storeWithOwner : WorkspaceStore where
  workspaces := Dict.set ∅ 1 { id := 1, slug := "acme", name := "Acme" }
  slugIndex := Dict.set ∅ "acme" 1
  memberships := Dict.set ∅ (1, "owner") { workspaceId := 1, userId := "owner", role := .owner }

theorem keyed_storeWithOwner : storeWithOwner.Keyed where
  workspaces := by
    apply Dict.KeyedBy.set
    · exact Dict.keyedBy_empty
    · rfl
  memberships := by
    apply Dict.KeyedBy.set
    · exact Dict.keyedBy_empty
    · rfl
  invitations := Dict.keyedBy_empty

def stranger : Principal := { subject := "stranger", identityType := "user" }

def ownRequest : ApiRequest where
  principal := stranger
  route := .createOwnWorkspace "own" "Own" none 2

def deleteRequest : ApiRequest where
  principal := stranger
  route := .deleteWorkspace 1

def readRequest : ApiRequest where
  principal := stranger
  route := .getWorkspace 2

theorem administration_contained_deleted :
    let step := step .plain {} .postgres
    (step (step storeWithOwner ownRequest) deleteRequest).workspaces.keys = [2] ∧
      ¬ AllSteps step (Contained .plain {} .postgres) storeWithOwner
        [ownRequest, deleteRequest] := by
  intro step
  refine ⟨by decide +kernel, fun contained => ?_⟩
  have administers := contained.2.1 rfl .noContent (by decide +kernel) 1 (by decide +kernel)
    (Or.inr (changed_of_erased (by decide +kernel) (by decide +kernel)))
  unfold Administers at administers
  rw [if_neg (by decide +kernel)] at administers
  obtain ⟨m, stored, -⟩ := administers
  have absent : (step storeWithOwner ownRequest).memberships.get? (1, "stranger") = none := by
    decide +kernel
  cases absent.symm.trans stored

theorem administration_contained_own :
    AllSteps (step .plain {} .postgres) (Contained .plain {} .postgres) storeWithOwner
        [ownRequest, readRequest] ↔
      AllSteps (step .plain {} .postgres) (AboutOwn .plain .postgres) storeWithOwner
        [ownRequest, readRequest] :=
  administration_contained keyed_storeWithOwner rfl (by decide +kernel)

end Administration

end Orcheo.Workspaces
