import Orcheo.Defs.Workspaces.Repository

/-! The workspace service and its resolver: one repository or cache access after another. -/

namespace Orcheo.Workspaces

structure WorkspaceConfig where
  invitationTtl : Duration := seconds (72 * 3600)

def maxWorkspaceMembershipsPerUser : Nat := 3

inductive WorkspaceReply
  | done
  | workspace (workspace : Workspace)
  | workspaces (workspaces : List Workspace)
  | auditEvents (events : List WorkspaceAuditEvent)
  | membership (m : WorkspaceMembership)
  | memberships (ms : List WorkspaceMembership)
  | invitation (invitation : WorkspaceInvitation)
  | invitations (invitations : List WorkspaceInvitation)
  | context (context : WorkspaceContext)
  | paired (pairs : List (Workspace × WorkspaceMembership))
  deriving DecidableEq

abbrev WorkspaceCall (α : Type) := Lib.Call WorkspaceOp.Answer (Except WorkspaceError α)

namespace WorkspaceCall

variable {α : Type}

def ok (a : α) : WorkspaceCall α := .done (.ok a)

def raise (e : WorkspaceError) : WorkspaceCall α := .done (.error e)

end WorkspaceCall

section Calls

open WorkspaceCall

variable {α : Type}

def run (op : WorkspaceOp) (next : op.Result → WorkspaceCall α) : WorkspaceCall α :=
  .ask op (fun
    | .error e => raise e
    | .ok a => next a)

def bestEffort (op : WorkspaceOp) (next : WorkspaceCall α) : WorkspaceCall α :=
  .ask op (fun _ => next)

variable (rt : WorkspaceRuntime) (config : WorkspaceConfig)

def listMemberships (userId : String) (now setAt : Instant) :
    WorkspaceCall (List WorkspaceMembership) :=
  run (.cacheGet userId now) (fun
    | some cached => ok cached
    | none => run (.listMembershipsForUser userId) (fun (memberships : List WorkspaceMembership) =>
      run (.cacheSet userId memberships setAt) (fun _ => ok memberships)))

def makeContext (workspace : Workspace) (m : WorkspaceMembership) : WorkspaceContext where
  workspaceId := workspace.id
  workspaceSlug := workspace.slug
  userId := m.userId
  role := m.role

def activeContext (workspace : Workspace) (m : WorkspaceMembership) :
    WorkspaceCall WorkspaceContext :=
  if workspace.status ≠ .active then raise .permission else ok (makeContext workspace m)

def selectMembership (memberships : List WorkspaceMembership) (workspaceId : Uuid) :
    Option WorkspaceMembership :=
  memberships.find? (fun m => m.workspaceId = workspaceId)

def resolve (userId : String) (slug : Option String) (now setAt : Instant) :
    WorkspaceCall WorkspaceContext :=
  (listMemberships userId now setAt).andThen (fun memberships =>
    match memberships, slug with
    | [], _ => raise .membership
    | memberships, some slug => run (.getWorkspaceBySlug slug) (fun (workspace : Workspace) =>
      match selectMembership memberships workspace.id with
      | none => raise .permission
      | some m => activeContext workspace m)
    | [m], none => run (.getWorkspace m.workspaceId) (fun workspace => activeContext workspace m)
    | _, none => raise .permission)

def workspaceEvent (workspaceId : Uuid) (action actor : String) : WorkspaceAuditEvent where
  workspaceId := workspaceId
  action := action
  actor := some actor
  resourceType := some "workspace"
  resourceId := some (rt.showUuid workspaceId)

def ensureMembershipCapacity (userId : String) (workspaceId : Option Uuid) : WorkspaceCall Unit :=
  run (.listMembershipsForUser userId) (fun (memberships : List WorkspaceMembership) =>
    if workspaceId.any (fun w => memberships.any (fun m => m.workspaceId = w)) then ok ()
    else if maxWorkspaceMembershipsPerUser ≤ memberships.length then raise .membershipLimit
    else ok ())

def addOwner (owner : WorkspaceMembership) : WorkspaceCall WorkspaceMembership :=
  ((ensureMembershipCapacity owner.userId none).andThen (fun _ =>
    run (.addMembership owner) ok)).bind (fun
      | .ok m => ok m
      | .error e => run (.deleteWorkspace owner.workspaceId) (fun _ => raise e))

def createWorkspace (slug name ownerUserId : String) (ownerEmail ownerName : Option String)
    (newId : Uuid) : WorkspaceCall Workspace :=
  match normalizeSlug rt.toTextRuntime slug with
  | none => raise .value
  | some normalized =>
    let name := rt.strip name
    if name = "" then raise .value
    else run (.createWorkspace { id := newId, slug := normalized, name := name })
      (fun (created : Workspace) =>
        (addOwner {
          workspaceId := created.id
          userId := ownerUserId
          email := ownerEmail
          userName := ownerName
          role := .owner }).andThen (fun _ =>
            bestEffort (.recordAuditEvent { workspaceEvent rt created.id "workspace.created"
                ownerUserId with subject := some ownerUserId })
              (run (.invalidate ownerUserId) (fun _ => ok created))))

def changeStatus (action : String) (workspaceId : Uuid) (status : WorkspaceStatus) (now : Instant) :
    WorkspaceCall Workspace :=
  run (.updateStatus workspaceId status now) (fun (workspace : Workspace) =>
    bestEffort (.recordAuditEvent (workspaceEvent rt workspace.id action "system")) (ok workspace))

def deactivateWorkspace (workspaceId : Uuid) (now : Instant) : WorkspaceCall Workspace :=
  changeStatus rt "workspace.suspended" workspaceId .suspended now

def reactivateWorkspace (workspaceId : Uuid) (now : Instant) : WorkspaceCall Workspace :=
  changeStatus rt "workspace.reactivated" workspaceId .active now

def softDeleteWorkspace (workspaceId : Uuid) (now : Instant) : WorkspaceCall Workspace :=
  changeStatus rt "workspace.deleted" workspaceId .deleted now

def invalidateAll (after : WorkspaceCall α) : List String → WorkspaceCall α
  | [] => after
  | userId :: userIds => run (.invalidate userId) (fun _ => invalidateAll after userIds)

def hardDeleteThen (after : WorkspaceCall α) (workspaceId : Uuid) : WorkspaceCall α :=
  run (.listMembershipsForWorkspace workspaceId) (fun (members : List WorkspaceMembership) =>
    bestEffort (.recordAuditEvent (workspaceEvent rt workspaceId "workspace.purged" "system"))
      (run (.deleteWorkspace workspaceId) (fun _ =>
        invalidateAll after (members.map (·.userId)))))

def hardDeleteWorkspace (workspaceId : Uuid) : WorkspaceCall Unit :=
  hardDeleteThen rt (ok ()) workspaceId

def purgeable (cutoff : Instant) (workspace : Workspace) : Bool :=
  workspace.status = .deleted && workspace.deletedAt.any (fun at' => decide (at' ≤ cutoff))

def purgeDeletedWorkspaces (retentionDays : Int) (now : Instant) : WorkspaceCall Unit :=
  let cutoff := now - seconds (retentionDays * 86400)
  run (.listWorkspaces true) (fun (workspaces : List Workspace) =>
    (workspaces.filter (purgeable cutoff)).foldr
      (fun workspace after => hardDeleteThen rt after workspace.id) (ok ()))

def mayAdminister (actorRole : Option Role) : Bool := actorRole.all (fun r => r.includes .admin)

def memberEvent (workspaceId : Uuid) (action userId : String) (actorRole : Option Role)
    (details : List (String × String)) : WorkspaceAuditEvent where
  workspaceId := workspaceId
  action := action
  actor := some ((actorRole.map Role.value).getD "system")
  subject := some userId
  resourceType := some "membership"
  resourceId := some userId
  details := details

def inviteMember (workspaceId : Uuid) (userId : String) (role : Role) (actorRole : Option Role) :
    WorkspaceCall WorkspaceMembership :=
  if !mayAdminister actorRole then raise .permission
  else (ensureMembershipCapacity userId (some workspaceId)).andThen (fun _ =>
    run (.addMembership { workspaceId := workspaceId, userId := userId, role := role })
      (fun added => run (.invalidate userId) (fun _ => ok added)))

def removeMember (workspaceId : Uuid) (userId : String) (actorRole : Option Role) :
    WorkspaceCall Unit :=
  if !mayAdminister actorRole then raise .permission
  else run (.removeMembership workspaceId userId) (fun _ =>
    bestEffort (.recordAuditEvent
        (memberEvent workspaceId "workspace.membership.removed" userId actorRole []))
      (run (.invalidate userId) (fun _ => ok ())))

def updateMemberRole (workspaceId : Uuid) (userId : String) (role : Role)
    (actorRole : Option Role) : WorkspaceCall WorkspaceMembership :=
  if !mayAdminister actorRole then raise .permission
  else run (.updateMembershipRole workspaceId userId role) (fun updated =>
    bestEffort (.recordAuditEvent
        (memberEvent workspaceId "workspace.membership.updated" userId actorRole
          [("role", role.value)]))
      (run (.invalidate userId) (fun _ => ok updated)))

def recordMemberIdentity (workspaceId : Uuid) (userId : String) (email userName : Option String) :
    WorkspaceCall Unit :=
  if email.isNone && userName.isNone then ok ()
  else bestEffort (.updateMembershipIdentity workspaceId userId email userName) (ok ())

def membershipsFor (userId : String) (now setAt : Instant) :
    WorkspaceCall (List (Workspace × WorkspaceMembership)) :=
  (listMemberships userId now setAt).andThen (fun
    | [] => ok []
    | memberships => run (.getWorkspaces (memberships.map (·.workspaceId)))
        (fun (workspaces : List Workspace) =>
          match memberships.mapM (fun m =>
            (workspaces.find? (fun w => w.id = m.workspaceId)).map (fun w => (w, m))) with
          | none => raise .workspaceNotFound
          | some pairs => ok pairs))

def invitationEvent (workspaceId : Uuid) (action : String) (actor : Option String)
    (invitation : WorkspaceInvitation) (details : List (String × String)) :
    WorkspaceAuditEvent where
  workspaceId := workspaceId
  action := action
  actor := some ((actor.filter (fun a => a ≠ "")).getD "system")
  subject := some invitation.email
  resourceType := some "invitation"
  resourceId := some (rt.showUuid invitation.id)
  details := details

def newInvitation (workspaceId : Uuid) (email : String) (role : Role) (invitedBy : Option String)
    (newId : Uuid) (rawToken : String) (now : Instant) : WorkspaceInvitation where
  id := newId
  workspaceId := workspaceId
  email := email
  role := role
  tokenHash := rt.hashInvitationToken rawToken
  invitedBy := invitedBy
  createdAt := now
  expiresAt := now + config.invitationTtl

def createInvitation (workspaceId : Uuid) (email : String) (role : Role)
    (invitedBy : Option String) (actorRole : Option Role) (workspaceName : Option String)
    (newId : Uuid) (rawToken : String) (now : Instant) : WorkspaceCall WorkspaceInvitation :=
  if !mayAdminister actorRole then raise .permission
  else match normalizeEmail rt.toTextRuntime email with
  | none => raise .value
  | some normalized =>
    run (.addInvitation
        (newInvitation rt config workspaceId normalized role invitedBy newId rawToken now))
      (fun (created : WorkspaceInvitation) =>
        bestEffort (.recordAuditEvent (invitationEvent rt workspaceId
            "workspace.invitation.created" invitedBy created
            [("role", role.value), ("email", normalized)]))
          (match workspaceName with
          | none => bestEffort (.getWorkspace created.workspaceId) (ok created)
          | some _ => ok created))

def revokedInvitation (invitation : WorkspaceInvitation) : WorkspaceInvitation :=
  { invitation with status := .revoked }

def revokeInvitation (workspaceId invitationId : Uuid) (actorRole : Option Role)
    (actor : Option String) : WorkspaceCall WorkspaceInvitation :=
  if !mayAdminister actorRole then raise .permission
  else run (.getInvitation invitationId) (fun (invitation : WorkspaceInvitation) =>
    if invitation.workspaceId ≠ workspaceId ∨ invitation.status ≠ .pending then raise .invitation
    else run (.updateInvitation (revokedInvitation invitation))
      (fun (stored : WorkspaceInvitation) =>
        bestEffort (.recordAuditEvent (invitationEvent rt workspaceId
            "workspace.invitation.revoked" actor stored []))
          (ok stored)))

/-- The address that is compared with the invited one: nothing is read from an empty one. -/
def redeemerEmail (email : Option String) (emailVerified : Bool) : Except WorkspaceError String :=
  match email.filter (fun e => e ≠ "") with
  | none => .error .invitationEmailMismatch
  | some email => match normalizeEmail rt.toTextRuntime email with
    | none => .error .value
    | some normalized =>
      if !emailVerified then .error .invitationEmailMismatch else .ok normalized

def invitedMembership (invitation : WorkspaceInvitation) (userId : String) :
    WorkspaceMembership where
  workspaceId := invitation.workspaceId
  userId := userId
  role := invitation.role

def redeem (invitation : WorkspaceInvitation) (userId : String) (acceptedAt : Instant) :
    WorkspaceCall WorkspaceMembership :=
  (ensureMembershipCapacity userId (some invitation.workspaceId)).andThen (fun _ =>
    run (.acceptInvitationAtomic (invitedMembership invitation userId) invitation.email invitation
        acceptedAt)
      (fun (accepted : WorkspaceMembership × WorkspaceInvitation) =>
        bestEffort (.recordAuditEvent (invitationEvent rt invitation.workspaceId
            "workspace.invitation.accepted" (some userId) accepted.2 []))
          (run (.invalidate userId) (fun _ => ok accepted.1))))

def acceptInvitation (rawToken userId : String) (email : Option String) (emailVerified : Bool)
    (now acceptedAt : Instant) : WorkspaceCall WorkspaceMembership :=
  run (.getInvitationByTokenHash (rt.hashInvitationToken rawToken))
    (fun (invitation : WorkspaceInvitation) =>
      match invitation.status with
      | .revoked => raise .invitation
      | .accepted =>
        if invitation.acceptedBy = some userId then
          run (.getMembership invitation.workspaceId userId) ok
        else raise .invitationNotFound
      | .pending =>
        if invitation.isExpired now then raise .invitationExpired
        else match redeemerEmail rt email emailVerified with
          | .error e => raise e
          | .ok normalized =>
            if normalized ≠ invitation.email then raise .invitationEmailMismatch
            else redeem rt invitation userId acceptedAt)

inductive WorkspaceRequest
  | createWorkspace (slug name ownerUserId : String) (ownerEmail ownerName : Option String)
      (newId : Uuid)
  | deactivateWorkspace (workspaceId : Uuid) (now : Instant)
  | reactivateWorkspace (workspaceId : Uuid) (now : Instant)
  | softDeleteWorkspace (workspaceId : Uuid) (now : Instant)
  | hardDeleteWorkspace (workspaceId : Uuid)
  | purgeDeletedWorkspaces (retentionDays : Int) (now : Instant)
  | inviteMember (workspaceId : Uuid) (userId : String) (role : Role) (actorRole : Option Role)
  | removeMember (workspaceId : Uuid) (userId : String) (actorRole : Option Role)
  | updateMemberRole (workspaceId : Uuid) (userId : String) (role : Role) (actorRole : Option Role)
  | recordMemberIdentity (workspaceId : Uuid) (userId : String) (email userName : Option String)
  | createInvitation (workspaceId : Uuid) (email : String) (role : Role)
      (invitedBy : Option String) (actorRole : Option Role) (workspaceName : Option String)
      (newId : Uuid) (rawToken : String) (now : Instant)
  | revokeInvitation (workspaceId invitationId : Uuid) (actorRole : Option Role)
      (actor : Option String)
  | acceptInvitation (rawToken userId : String) (email : Option String) (emailVerified : Bool)
      (now acceptedAt : Instant)
  | listMemberships (userId : String) (now setAt : Instant)
  | membershipsFor (userId : String) (now setAt : Instant)
  | resolve (userId : String) (slug : Option String) (now setAt : Instant)
  deriving DecidableEq

def replied (reply : α → WorkspaceReply) (call : WorkspaceCall α) : WorkspaceCall WorkspaceReply :=
  call.andThen (fun a => ok (reply a))

def WorkspaceRequest.call : WorkspaceRequest → WorkspaceCall WorkspaceReply
  | createWorkspace slug name ownerUserId ownerEmail ownerName newId => replied .workspace
    (Workspaces.createWorkspace rt slug name ownerUserId ownerEmail ownerName newId)
  | deactivateWorkspace workspaceId now =>
    replied .workspace (Workspaces.deactivateWorkspace rt workspaceId now)
  | reactivateWorkspace workspaceId now =>
    replied .workspace (Workspaces.reactivateWorkspace rt workspaceId now)
  | softDeleteWorkspace workspaceId now =>
    replied .workspace (Workspaces.softDeleteWorkspace rt workspaceId now)
  | hardDeleteWorkspace workspaceId =>
    replied (fun _ => .done) (Workspaces.hardDeleteWorkspace rt workspaceId)
  | purgeDeletedWorkspaces retentionDays now =>
    replied (fun _ => .done) (Workspaces.purgeDeletedWorkspaces rt retentionDays now)
  | inviteMember workspaceId userId role actorRole =>
    replied .membership (Workspaces.inviteMember workspaceId userId role actorRole)
  | removeMember workspaceId userId actorRole =>
    replied (fun _ => .done) (Workspaces.removeMember workspaceId userId actorRole)
  | updateMemberRole workspaceId userId role actorRole =>
    replied .membership (Workspaces.updateMemberRole workspaceId userId role actorRole)
  | recordMemberIdentity workspaceId userId email userName =>
    replied (fun _ => .done) (Workspaces.recordMemberIdentity workspaceId userId email userName)
  | createInvitation workspaceId email role invitedBy actorRole workspaceName newId rawToken now =>
    replied .invitation (Workspaces.createInvitation rt config workspaceId email role invitedBy
      actorRole workspaceName newId rawToken now)
  | revokeInvitation workspaceId invitationId actorRole actor =>
    replied .invitation (Workspaces.revokeInvitation rt workspaceId invitationId actorRole actor)
  | acceptInvitation rawToken userId email emailVerified now acceptedAt => replied .membership
    (Workspaces.acceptInvitation rt rawToken userId email emailVerified now acceptedAt)
  | listMemberships userId now setAt =>
    replied .memberships (Workspaces.listMemberships userId now setAt)
  | membershipsFor userId now setAt =>
    replied .paired (Workspaces.membershipsFor userId now setAt)
  | resolve userId slug now setAt =>
    replied .context (Workspaces.resolve userId slug now setAt)

end Calls

abbrev WorkspaceServer :=
  Lib.Server WorkspaceStore WorkspaceRequest WorkspaceOp.Answer (Except WorkspaceError WorkspaceReply)

abbrev WorkspaceTurn := Lib.Turn WorkspaceRequest

abbrev WorkspaceThread :=
  Lib.Thread WorkspaceRequest WorkspaceOp.Answer (Except WorkspaceError WorkspaceReply)

def WorkspaceServer.step (rt : WorkspaceRuntime) (config : WorkspaceConfig) (b : Backend)
    (s : WorkspaceServer) (turn : WorkspaceTurn) : WorkspaceServer :=
  Lib.Server.step (WorkspaceStore.exec rt b) (WorkspaceRequest.call rt config) s turn

end Orcheo.Workspaces
