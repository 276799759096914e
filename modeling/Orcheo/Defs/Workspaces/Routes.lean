import Orcheo.Defs.Workspaces.Service

/-! The routes of the workspaces: who is calling and in which workspace, the role that a route asks
for, and what it then does. -/

namespace Orcheo.Workspaces

structure Principal where
  subject : String
  identityType : String
  workspaceIds : List String := []
  email : Option String := none
  userName : Option String := none
  emailVerified : Bool := false
  deriving DecidableEq

structure RouteError where
  statusCode : Nat
  code : Option String := none
  deriving DecidableEq, Repr

namespace RouteError

def notFound : RouteError := ⟨404, some "workspace.not_found"⟩

def forbidden (code : String) : RouteError := ⟨403, some code⟩

def required : RouteError := ⟨400, some "workspace.required"⟩

def conflict (code : String) : RouteError := ⟨409, some code⟩

def rateLimited : RouteError := ⟨429, some "workspace.rate_limited"⟩

def validation : RouteError := ⟨422, none⟩

def unhandled : RouteError := ⟨500, none⟩

end RouteError

structure InvitationResponse where
  id : Uuid
  workspaceId : Uuid
  email : String
  role : Role
  status : InvitationStatus
  invitedBy : Option String
  acceptedBy : Option String
  createdAt : Instant
  expiresAt : Instant
  acceptedAt : Option Instant
  deriving DecidableEq

def toInvitationResponse (invitation : WorkspaceInvitation) : InvitationResponse where
  id := invitation.id
  workspaceId := invitation.workspaceId
  email := invitation.email
  role := invitation.role
  status := invitation.status
  invitedBy := invitation.invitedBy
  acceptedBy := invitation.acceptedBy
  createdAt := invitation.createdAt
  expiresAt := invitation.expiresAt
  acceptedAt := invitation.acceptedAt

inductive RouteReply
  | noContent
  | workspace (workspace : Workspace)
  | workspaces (workspaces : List Workspace)
  | auditEvents (events : List WorkspaceAuditEvent)
  | membership (m : WorkspaceMembership)
  | memberships (ms : List WorkspaceMembership)
  | invitation (invitation : InvitationResponse)
  | invitations (invitations : List InvitationResponse)
  | mine (entries : List (Workspace × WorkspaceMembership))
  /-- a workspace with the caller's role in it -/
  | joined (workspace : Workspace) (role : Role)
  deriving DecidableEq

abbrev RouteCall (α : Type) := Lib.Call WorkspaceOp.Answer (Except RouteError α)

def handled {α : Type} (handler : WorkspaceError → RouteError) (call : WorkspaceCall α) :
    RouteCall α :=
  call.bind (fun
    | .error e => .done (.error (handler e))
    | .ok a => .done (.ok a))

section Context

variable (rt : WorkspaceRuntime) (p : Principal)

def readWorkspaceHeader (raw : Option String) : Option String :=
  raw.bind (fun raw =>
    let candidate := rt.strip raw
    if candidate = "" then none else some candidate)

def authorizedWorkspaces : List String → RouteCall (List Workspace)
  | [] => .done (.ok [])
  | wid :: wids => match rt.uuid wid with
    | none => .done (.error .unhandled)
    | some workspaceId => .ask (.getWorkspace workspaceId) (fun
      | .ok workspace => (authorizedWorkspaces wids).andThen (fun workspaces =>
        .done (.ok (workspace :: workspaces)))
      | .error .workspaceNotFound => authorizedWorkspaces wids
      | .error _ => .done (.error .unhandled))

def selectAuthorized (requestedSlug : Option String) (workspaces : List Workspace) :
    Except RouteError Workspace :=
  match workspaces, requestedSlug with
  | [], _ => .error (.forbidden "workspace.membership_required")
  | workspaces, some slug => match workspaces.find? (fun w => w.slug = slug) with
    | none => .error .notFound
    | some workspace => .ok workspace
  | [workspace], none => .ok workspace
  | _, none => .error .required

/-- A token acts as an owner. -/
def resolveFromAuthorizedWorkspaces (requestedSlug : Option String) : RouteCall WorkspaceContext :=
  (authorizedWorkspaces rt p.workspaceIds).andThen (fun workspaces =>
    match selectAuthorized requestedSlug workspaces with
    | .error e => .done (.error e)
    | .ok selected =>
      if selected.status ≠ .active then .done (.error (.forbidden "workspace.forbidden"))
      else .done (.ok {
        workspaceId := selected.id
        workspaceSlug := selected.slug
        userId := "service"
        role := .owner }))

def Principal.usesToken : Bool := !p.workspaceIds.isEmpty && p.identityType ≠ "user"

def resolverError : WorkspaceError → RouteError
  | .workspaceNotFound => .notFound
  | .permission => .forbidden "workspace.forbidden"
  | .membership | .membershipLimit => .forbidden "workspace.membership_required"
  | _ => .unhandled

/-- What the rate limiter says is an input. -/
def resolveWorkspaceContext (header : Option String) (allowed : Bool) (now setAt : Instant) :
    RouteCall WorkspaceContext :=
  let requestedSlug := readWorkspaceHeader rt header
  let context := if p.usesToken then resolveFromAuthorizedWorkspaces rt p requestedSlug
    else handled resolverError (resolve p.subject requestedSlug now setAt)
  context.andThen (fun context =>
    if allowed then .done (.ok context) else .done (.error .rateLimited))

def requireRole (role : Role) (context : WorkspaceContext) : RouteCall WorkspaceContext :=
  if context.hasRole role then .done (.ok context)
  else .done (.error (.forbidden "workspace.role_required"))

end Context

section Handlers

variable (rt : WorkspaceRuntime) (config : WorkspaceConfig) (p : Principal)
  (context : WorkspaceContext)

def creationError : WorkspaceError → RouteError
  | .slugConflict => .conflict "workspace.slug_conflict"
  | .membershipLimit => .conflict "workspace.membership_limit_reached"
  | .membership => .conflict "workspace.membership_conflict"
  | _ => .unhandled

def createWorkspaceRoute (slug name : String) (ownerUserId : Option String) (newId : Uuid) :
    RouteCall RouteReply :=
  (handled creationError (createWorkspace rt slug name
      ((ownerUserId.filter (fun o => o ≠ "")).getD context.userId) none none newId)).andThen
    (fun workspace => .done (.ok (.workspace workspace)))

def createOwnWorkspace (slug name : String) (ownerUserId : Option String) (newId : Uuid) :
    RouteCall RouteReply :=
  if ownerUserId.any (fun owner => owner ≠ p.subject) then
    .done (.error (.forbidden "workspace.owner_mismatch"))
  else (handled creationError (createWorkspace rt slug name p.subject p.email p.userName
      newId)).andThen (fun workspace => .done (.ok (.workspace workspace)))

def missingWorkspace : WorkspaceError → RouteError
  | .workspaceNotFound => .notFound
  | _ => .unhandled

def listWorkspacesRoute (includeInactive : Bool) : RouteCall RouteReply :=
  handled (fun _ => .unhandled) (run (.listWorkspaces includeInactive)
    (fun (workspaces : List Workspace) => .ok (.workspaces workspaces)))

def getWorkspaceRoute (workspaceId : Uuid) : RouteCall RouteReply :=
  handled missingWorkspace (run (.getWorkspace workspaceId)
    (fun (workspace : Workspace) => .ok (.workspace workspace)))

def updateWorkspaceStatus (workspaceId : Uuid) (status : WorkspaceStatus) (now : Instant) :
    RouteCall RouteReply :=
  (handled missingWorkspace (match status with
    | .suspended => deactivateWorkspace rt workspaceId now
    | .active => reactivateWorkspace rt workspaceId now
    | .deleted => softDeleteWorkspace rt workspaceId now)).andThen
      (fun workspace => .done (.ok (.workspace workspace)))

def deleteWorkspaceRoute (workspaceId : Uuid) : RouteCall RouteReply :=
  (handled missingWorkspace (hardDeleteWorkspace rt workspaceId)).andThen
    (fun _ => .done (.ok .noContent))

def listWorkspaceAuditEvents (workspaceId : Uuid) (limit : Nat) : RouteCall RouteReply :=
  handled missingWorkspace (run (.getWorkspace workspaceId) (fun _ =>
    run (.listAuditEvents workspaceId limit) (fun (events : List WorkspaceAuditEvent) =>
      .ok (.auditEvents events))))

def purgeDeletedWorkspacesRoute (retentionDays : Int) (now : Instant) : RouteCall RouteReply :=
  (handled (fun _ => .unhandled) (purgeDeletedWorkspaces rt retentionDays now)).andThen
    (fun _ => .done (.ok .noContent))

def listMyMemberships (now setAt : Instant) : RouteCall RouteReply :=
  (handled (fun _ => .unhandled) (membershipsFor p.subject now setAt)).andThen
    (fun pairs => .done (.ok (.mine pairs)))

def getActiveWorkspace : RouteCall RouteReply :=
  handled (fun _ => .unhandled) (run (.getWorkspace context.workspaceId)
    (fun (workspace : Workspace) =>
      (recordMemberIdentity context.workspaceId context.userId p.email p.userName).andThen
        (fun _ => WorkspaceCall.ok (.joined workspace context.role))))

def scopedWorkspace (slug : String) : RouteCall Workspace :=
  (handled missingWorkspace (run (.getWorkspaceBySlug slug)
    (fun (workspace : Workspace) => .ok workspace))).andThen (fun workspace =>
      if context.workspaceId ≠ workspace.id then
        .done (.error (.forbidden "workspace.scope_mismatch"))
      else .done (.ok workspace))

def listWorkspaceMembers (slug : String) : RouteCall RouteReply :=
  (scopedWorkspace context slug).andThen (fun workspace =>
    handled (fun _ => .unhandled) (run (.listMembershipsForWorkspace workspace.id)
      (fun (members : List WorkspaceMembership) => .ok (.memberships members))))

def additionError : WorkspaceError → RouteError
  | .membershipLimit => .conflict "workspace.membership_limit_reached"
  | .membership => .conflict "workspace.membership_conflict"
  | .permission => .forbidden "workspace.forbidden"
  | _ => .unhandled

def addWorkspaceMember (slug userId : String) (role : Role) : RouteCall RouteReply :=
  (scopedWorkspace context slug).andThen (fun workspace =>
    (handled additionError (inviteMember workspace.id userId role (some context.role))).andThen
      (fun m => .done (.ok (.membership m))))

def missingMember : WorkspaceError → RouteError
  | .membership | .membershipLimit => .notFound
  | .permission => .forbidden "workspace.forbidden"
  | _ => .unhandled

def updateWorkspaceMemberRole (slug userId : String) (role : Role) : RouteCall RouteReply :=
  (scopedWorkspace context slug).andThen (fun workspace =>
    (handled missingMember (updateMemberRole workspace.id userId role (some context.role))).andThen
      (fun m => .done (.ok (.membership m))))

def removeWorkspaceMember (slug userId : String) : RouteCall RouteReply :=
  (scopedWorkspace context slug).andThen (fun workspace =>
    (handled missingMember (removeMember workspace.id userId (some context.role))).andThen
      (fun _ => .done (.ok .noContent)))

def listWorkspaceInvitations (slug : String) : RouteCall RouteReply :=
  (scopedWorkspace context slug).andThen (fun workspace =>
    handled (fun _ => .unhandled) (run (.listInvitations workspace.id true)
      (fun (invitations : List WorkspaceInvitation) =>
        .ok (.invitations (invitations.map toInvitationResponse)))))

def invitationCreationError : WorkspaceError → RouteError
  | .value => ⟨422, some "workspace.invitation_invalid_email"⟩
  | .invitation | .invitationNotFound | .invitationExpired | .invitationEmailMismatch =>
    .conflict "workspace.invitation_conflict"
  | .permission => .forbidden "workspace.forbidden"
  | _ => .unhandled

def createWorkspaceInvitation (slug email : String) (role : Role) (newId : Uuid)
    (rawToken : String) (now : Instant) : RouteCall RouteReply :=
  (scopedWorkspace context slug).andThen (fun workspace =>
    (handled invitationCreationError (createInvitation rt config workspace.id email role
        (some p.subject) (some context.role) (some workspace.name) newId rawToken now)).andThen
      (fun invitation => .done (.ok (.invitation (toInvitationResponse invitation)))))

def revocationError : WorkspaceError → RouteError
  | .invitationNotFound => .notFound
  | .invitation | .invitationExpired | .invitationEmailMismatch =>
    .conflict "workspace.invitation_conflict"
  | .permission => .forbidden "workspace.forbidden"
  | _ => .unhandled

def revokeWorkspaceInvitation (slug : String) (invitationId : Uuid) : RouteCall RouteReply :=
  (scopedWorkspace context slug).andThen (fun workspace =>
    (handled revocationError (revokeInvitation rt workspace.id invitationId (some context.role)
        (some p.subject))).andThen
      (fun invitation => .done (.ok (.invitation (toInvitationResponse invitation)))))

def verifiedEmail : Option String × Bool :=
  if p.email.isSome && p.emailVerified then (p.email, true)
  else if p.identityType = "developer" ∧ p.subject.toList.contains '@' then (some p.subject, true)
  else (p.email, p.emailVerified)

def acceptanceError : WorkspaceError → RouteError
  | .invitationNotFound => .notFound
  | .invitationEmailMismatch => .forbidden "workspace.invitation_email"
  | .invitationExpired => ⟨410, some "workspace.invitation_expired"⟩
  | .membershipLimit => .conflict "workspace.membership_limit_reached"
  | .invitation => .conflict "workspace.invitation_conflict"
  | _ => .unhandled

def acceptWorkspaceInvitation (token : String) (now acceptedAt : Instant) : RouteCall RouteReply :=
  (handled acceptanceError (acceptInvitation rt token p.subject (verifiedEmail p).1
      (verifiedEmail p).2 now acceptedAt)).andThen (fun m =>
    handled (fun _ => .unhandled) (run (.getWorkspace m.workspaceId)
      (fun (workspace : Workspace) => .ok (.joined workspace m.role))))

end Handlers

inductive WorkspaceRoute
  | createWorkspace (slug name : String) (ownerUserId : Option String) (newId : Uuid)
  | listWorkspaces (includeInactive : Bool)
  | getWorkspace (workspaceId : Uuid)
  | updateWorkspaceStatus (workspaceId : Uuid) (status : WorkspaceStatus) (now : Instant)
  | deleteWorkspace (workspaceId : Uuid)
  | listWorkspaceAuditEvents (workspaceId : Uuid) (limit : Nat)
  | purgeDeletedWorkspaces (retentionDays : Int) (now : Instant)
  | listWorkspaceMembers (slug : String)
  | addWorkspaceMember (slug userId : String) (role : Role)
  | updateWorkspaceMemberRole (slug userId : String) (role : Role)
  | removeWorkspaceMember (slug userId : String)
  | listWorkspaceInvitations (slug : String)
  | createWorkspaceInvitation (slug email : String) (role : Role) (newId : Uuid)
      (rawToken : String) (now : Instant)
  | revokeWorkspaceInvitation (slug : String) (invitationId : Uuid)
  | getActiveWorkspace
  | createOwnWorkspace (slug name : String) (ownerUserId : Option String) (newId : Uuid)
  | listMyMemberships
  | acceptWorkspaceInvitation (token : String) (now acceptedAt : Instant)
  deriving DecidableEq

/-- The clock is read when the cache is, and when it is filled. -/
structure ApiRequest where
  principal : Principal
  header : Option String := none
  allowed : Bool := true
  now : Instant := 0
  setAt : Instant := 0
  route : WorkspaceRoute
  deriving DecidableEq

def lengthWithin (text : String) (least most : Nat) : Bool :=
  decide (least ≤ text.length ∧ text.length ≤ most)

def WorkspaceRoute.wellFormed : WorkspaceRoute → Bool
  | createWorkspace slug name ownerUserId _ | createOwnWorkspace slug name ownerUserId _ =>
    lengthWithin slug 1 64 && lengthWithin name 1 255 && ownerUserId.all (fun o => o ≠ "")
  | listWorkspaceAuditEvents _ limit => decide (1 ≤ limit ∧ limit ≤ 500)
  | addWorkspaceMember _ userId _ => userId ≠ ""
  | createWorkspaceInvitation _ email _ _ _ _ => lengthWithin email 3 320
  | acceptWorkspaceInvitation token _ _ => token ≠ ""
  | _ => true

section Call

variable (rt : WorkspaceRuntime) (config : WorkspaceConfig) (request : ApiRequest)

def validated (call : RouteCall RouteReply) : RouteCall RouteReply :=
  if request.route.wellFormed then call else .done (.error .validation)

def ApiRequest.context : RouteCall WorkspaceContext :=
  resolveWorkspaceContext rt request.principal request.header request.allowed request.now
    request.setAt

def asAdmin (handler : WorkspaceContext → RouteCall RouteReply) : RouteCall RouteReply :=
  ((request.context rt).andThen (requireRole .admin)).andThen (fun context =>
    validated request (handler context))

def ApiRequest.call : RouteCall RouteReply :=
  match request.route with
  | .createWorkspace slug name ownerUserId newId => asAdmin rt request (fun context =>
    createWorkspaceRoute rt context slug name ownerUserId newId)
  | .listWorkspaces includeInactive =>
    asAdmin rt request (fun _ => listWorkspacesRoute includeInactive)
  | .getWorkspace workspaceId => asAdmin rt request (fun _ => getWorkspaceRoute workspaceId)
  | .updateWorkspaceStatus workspaceId status now =>
    asAdmin rt request (fun _ => updateWorkspaceStatus rt workspaceId status now)
  | .deleteWorkspace workspaceId =>
    asAdmin rt request (fun _ => deleteWorkspaceRoute rt workspaceId)
  | .listWorkspaceAuditEvents workspaceId limit =>
    asAdmin rt request (fun _ => listWorkspaceAuditEvents workspaceId limit)
  | .purgeDeletedWorkspaces retentionDays now =>
    asAdmin rt request (fun _ => purgeDeletedWorkspacesRoute rt retentionDays now)
  | .listWorkspaceMembers slug =>
    asAdmin rt request (fun context => listWorkspaceMembers context slug)
  | .addWorkspaceMember slug userId role =>
    asAdmin rt request (fun context => addWorkspaceMember context slug userId role)
  | .updateWorkspaceMemberRole slug userId role =>
    asAdmin rt request (fun context => updateWorkspaceMemberRole context slug userId role)
  | .removeWorkspaceMember slug userId =>
    asAdmin rt request (fun context => removeWorkspaceMember context slug userId)
  | .listWorkspaceInvitations slug =>
    asAdmin rt request (fun context => listWorkspaceInvitations context slug)
  | .createWorkspaceInvitation slug email role newId rawToken now =>
    asAdmin rt request (fun context => createWorkspaceInvitation rt config request.principal context
      slug email role newId rawToken now)
  | .revokeWorkspaceInvitation slug invitationId => asAdmin rt request (fun context =>
    revokeWorkspaceInvitation rt request.principal context slug invitationId)
  | .getActiveWorkspace => (request.context rt).andThen (fun context =>
    getActiveWorkspace request.principal context)
  | .createOwnWorkspace slug name ownerUserId newId => validated request
    (createOwnWorkspace rt request.principal slug name ownerUserId newId)
  | .listMyMemberships => listMyMemberships request.principal request.now request.setAt
  | .acceptWorkspaceInvitation token now acceptedAt => validated request
    (acceptWorkspaceInvitation rt request.principal token now acceptedAt)

end Call

def serve (rt : WorkspaceRuntime) (config : WorkspaceConfig) (b : Backend) (s : WorkspaceStore)
    (request : ApiRequest) : Except RouteError RouteReply × WorkspaceStore :=
  (request.call rt config).run (WorkspaceStore.exec rt b) s

end Orcheo.Workspaces
