import Orcheo.Defs.Workspaces.Models
import Orcheo.Lib.Calls

/-! The workspace repositories, in memory and in Postgres, and the cache of the resolver, one
atomic operation after another. -/

namespace Orcheo.Workspaces

open Lib (Dict)
open Repository (TextRuntime)

inductive Backend
  | inMemory | postgres
  deriving DecidableEq, Repr

structure WorkspaceRuntime extends TextRuntime where
  hashInvitationToken : String → String
  showUuid : Uuid → String
  orderWorkspaces : List Workspace → List Workspace
  orderWorkspaces_perm (ws : List Workspace) : (orderWorkspaces ws).Perm ws
  orderInvitations : List WorkspaceInvitation → List WorkspaceInvitation
  orderInvitations_perm (is : List WorkspaceInvitation) : (orderInvitations is).Perm is

def WorkspaceRuntime.plain : WorkspaceRuntime where
  toTextRuntime := .ascii
  hashInvitationToken token := token
  showUuid := toString
  orderWorkspaces ws := ws
  orderWorkspaces_perm _ := List.Perm.refl _
  orderInvitations is := is
  orderInvitations_perm _ := List.Perm.refl _

structure CacheEntry where
  memberships : List WorkspaceMembership
  expiresAt : Instant
  deriving DecidableEq

structure WorkspaceStore where
  workspaces : Dict Uuid Workspace := ∅
  slugIndex : Dict String Uuid := ∅
  memberships : Dict (Uuid × String) WorkspaceMembership := ∅
  auditEvents : List WorkspaceAuditEvent := []
  invitations : Dict Uuid WorkspaceInvitation := ∅
  cache : Dict String CacheEntry := ∅

variable (rt : WorkspaceRuntime) (b : Backend)

namespace WorkspaceStore

variable (s : WorkspaceStore)

def bySlug (slug : String) : Option Workspace :=
  match b with
  | .inMemory => (s.slugIndex.get? slug).bind s.workspaces.get?
  | .postgres => s.workspaces.values.find? (fun w => w.slug = slug)

def slugTaken (slug : String) : Bool :=
  match b with
  | .inMemory => s.slugIndex.contains slug
  | .postgres => s.workspaces.values.any (fun w => w.slug = slug)

def createWorkspace (workspace : Workspace) : Except WorkspaceError Workspace × WorkspaceStore :=
  if s.slugTaken b workspace.slug then (.error .slugConflict, s)
  else if b = .postgres ∧ s.workspaces.contains workspace.id then (.error .integrity, s)
  else (.ok workspace, { s with
    workspaces := s.workspaces.set workspace.id workspace
    slugIndex := s.slugIndex.set workspace.slug workspace.id })

def getWorkspace (workspaceId : Uuid) : Except WorkspaceError Workspace :=
  match s.workspaces.get? workspaceId with
  | none => .error .workspaceNotFound
  | some workspace => .ok workspace

def getWorkspaces (workspaceIds : List Uuid) : List Workspace :=
  workspaceIds.eraseDups.filterMap s.workspaces.get?

def getWorkspaceBySlug (slug : String) : Except WorkspaceError Workspace :=
  match normalizeSlug rt.toTextRuntime slug with
  | none => .error .value
  | some normalized => match s.bySlug b normalized with
    | none => .error .workspaceNotFound
    | some workspace => .ok workspace

def listWorkspaces (includeInactive : Bool) : List Workspace :=
  rt.orderWorkspaces (s.workspaces.values.filter (fun w => includeInactive || w.status = .active))

def updateStatus (workspaceId : Uuid) (status : WorkspaceStatus) (now : Instant) :
    Except WorkspaceError Workspace × WorkspaceStore :=
  match s.workspaces.get? workspaceId with
  | none => (.error .workspaceNotFound, s)
  | some workspace =>
    let updated := { workspace with
      status := status
      deletedAt := if status = .deleted then some now else none }
    (.ok updated, { s with workspaces := s.workspaces.set workspaceId updated })

/-- Members, audit events and invitations go with the workspace. -/
def deleteWorkspace (workspaceId : Uuid) : Except WorkspaceError Unit × WorkspaceStore :=
  match s.workspaces.get? workspaceId with
  | none => (.error .workspaceNotFound, s)
  | some workspace => (.ok (), { s with
    workspaces := s.workspaces.erase workspaceId
    slugIndex := s.slugIndex.erase workspace.slug
    memberships := s.memberships.filter (fun key _ => key.1 ≠ workspaceId)
    auditEvents := s.auditEvents.filter (fun e => e.workspaceId ≠ workspaceId)
    invitations := s.invitations.filter (fun _ i => i.workspaceId ≠ workspaceId) })

def setMembership (m : WorkspaceMembership) : WorkspaceStore :=
  { s with memberships := s.memberships.set (m.workspaceId, m.userId) m }

def addMembership (m : WorkspaceMembership) :
    Except WorkspaceError WorkspaceMembership × WorkspaceStore :=
  if !s.workspaces.contains m.workspaceId then (.error .workspaceNotFound, s)
  else if s.memberships.contains (m.workspaceId, m.userId) then (.error .membership, s)
  else (.ok m, s.setMembership m)

def removeMembership (workspaceId : Uuid) (userId : String) :
    Except WorkspaceError Unit × WorkspaceStore :=
  if !s.memberships.contains (workspaceId, userId) then (.error .membership, s)
  else (.ok (), { s with memberships := s.memberships.erase (workspaceId, userId) })

def getMembership (workspaceId : Uuid) (userId : String) :
    Except WorkspaceError WorkspaceMembership :=
  match s.memberships.get? (workspaceId, userId) with
  | none => .error .membership
  | some m => .ok m

def rewriteMembership (workspaceId : Uuid) (userId : String)
    (f : WorkspaceMembership → WorkspaceMembership) :
    Except WorkspaceError WorkspaceMembership × WorkspaceStore :=
  match s.memberships.get? (workspaceId, userId) with
  | none => (.error .membership, s)
  | some m => (.ok (f m), { s with
    memberships := s.memberships.set (workspaceId, userId) (f m) })

def updateMembershipRole (workspaceId : Uuid) (userId : String) (role : Role) :
    Except WorkspaceError WorkspaceMembership × WorkspaceStore :=
  s.rewriteMembership workspaceId userId (fun m => { m with role := role })

def updateMembershipIdentity (workspaceId : Uuid) (userId : String)
    (email userName : Option String) : Except WorkspaceError WorkspaceMembership × WorkspaceStore :=
  s.rewriteMembership workspaceId userId (fun m => { m with
    email := email.or m.email
    userName := userName.or m.userName })

def listMembershipsForUser (userId : String) : List WorkspaceMembership :=
  s.memberships.values.filter (fun m => m.userId = userId)

def listMembershipsForWorkspace (workspaceId : Uuid) : List WorkspaceMembership :=
  s.memberships.values.filter (fun m => m.workspaceId = workspaceId)

def recordAuditEvent (event : WorkspaceAuditEvent) : Except WorkspaceError Unit × WorkspaceStore :=
  if b = .postgres ∧ s.workspaces.contains event.workspaceId = false then (.error .integrity, s)
  else (.ok (), { s with auditEvents := s.auditEvents ++ [event] })

def listAuditEvents (workspaceId : Uuid) (limit : Nat) : List WorkspaceAuditEvent :=
  ((s.auditEvents.filter (fun e => e.workspaceId = workspaceId)).reverse).take limit

def findPendingInvitation (workspaceId : Uuid) (email : String) : Option WorkspaceInvitation :=
  s.invitations.values.find? (fun i =>
    i.workspaceId = workspaceId ∧ i.email = email ∧ i.status = .pending)

def setInvitation (invitation : WorkspaceInvitation) : WorkspaceStore :=
  { s with invitations := s.invitations.set invitation.id invitation }

def invitationTaken (invitation : WorkspaceInvitation) : Bool :=
  s.invitations.contains invitation.id ||
    s.invitations.values.any (fun i => i.tokenHash = invitation.tokenHash)

def addInvitation (invitation : WorkspaceInvitation) :
    Except WorkspaceError WorkspaceInvitation × WorkspaceStore :=
  if !s.workspaces.contains invitation.workspaceId then (.error .workspaceNotFound, s)
  else if invitation.status = .pending ∧
      (s.findPendingInvitation invitation.workspaceId invitation.email).isSome then
    (.error .invitation, s)
  else if b = .postgres ∧ s.invitationTaken invitation then (.error .integrity, s)
  else (.ok invitation, s.setInvitation invitation)

def getInvitation (invitationId : Uuid) : Except WorkspaceError WorkspaceInvitation :=
  match s.invitations.get? invitationId with
  | none => .error .invitationNotFound
  | some invitation => .ok invitation

def getInvitationByTokenHash (tokenHash : String) : Except WorkspaceError WorkspaceInvitation :=
  match s.invitations.values.find? (fun i => i.tokenHash = tokenHash) with
  | none => .error .invitationNotFound
  | some invitation => .ok invitation

def listInvitations (workspaceId : Uuid) (includeInactive : Bool) : List WorkspaceInvitation :=
  rt.orderInvitations (s.invitations.values.filter (fun i =>
    i.workspaceId = workspaceId ∧ (includeInactive || i.status = .pending)))

def updatedInvitation (stored invitation : WorkspaceInvitation) : WorkspaceInvitation :=
  match b with
  | .inMemory => invitation
  | .postgres => { stored with
    status := invitation.status
    role := invitation.role
    tokenHash := invitation.tokenHash
    acceptedBy := invitation.acceptedBy
    expiresAt := invitation.expiresAt
    acceptedAt := invitation.acceptedAt }

def updateInvitation (invitation : WorkspaceInvitation) :
    Except WorkspaceError WorkspaceInvitation × WorkspaceStore :=
  match s.invitations.get? invitation.id with
  | none => (.error .invitationNotFound, s)
  | some stored => (.ok invitation, { s with
    invitations := s.invitations.set invitation.id (updatedInvitation b stored invitation) })

def upsertedMembership (m : WorkspaceMembership) (invitedEmail : String) : WorkspaceMembership :=
  match s.memberships.get? (m.workspaceId, m.userId) with
  | none => { m with email := some invitedEmail }
  | some existing =>
    if b = .inMemory ∧ invitedEmail = "" then existing
    else { existing with email := some invitedEmail }

def acceptedInvitation (invitation : WorkspaceInvitation) (userId : String) (now : Instant) :
    WorkspaceInvitation :=
  { invitation with
    status := .accepted
    acceptedBy := some userId
    acceptedAt := some now }

/-- In memory both records are written whatever is stored.  Postgres needs the workspace, through
its foreign key, and the invitation, of which it writes what acceptance changes. -/
def acceptInvitationAtomic (m : WorkspaceMembership) (invitedEmail : String)
    (invitation : WorkspaceInvitation) (now : Instant) :
    Except WorkspaceError (WorkspaceMembership × WorkspaceInvitation) × WorkspaceStore :=
  let accepted := acceptedInvitation invitation m.userId now
  let member := s.upsertedMembership b m invitedEmail
  let joined := { s with memberships := s.memberships.set (m.workspaceId, m.userId) member }
  match b with
  | .inMemory => (.ok (member, accepted), joined.setInvitation accepted)
  | .postgres =>
    if !s.workspaces.contains m.workspaceId then (.error .integrity, s)
    else match s.invitations.get? invitation.id with
      | none => (.error .invitationNotFound, s)
      | some stored => (.ok (member, accepted), { joined with
        invitations := s.invitations.set invitation.id
          (acceptedInvitation stored m.userId now) })

def cacheGet (userId : String) (now : Instant) :
    Option (List WorkspaceMembership) × WorkspaceStore :=
  match s.cache.get? userId with
  | none => (none, s)
  | some entry =>
    if entry.expiresAt ≤ now then (none, { s with cache := s.cache.erase userId })
    else (some entry.memberships, s)

def cacheTtl : Duration := seconds 60

def cacheSet (userId : String) (memberships : List WorkspaceMembership) (now : Instant) :
    WorkspaceStore :=
  { s with cache := s.cache.set userId ⟨memberships, now + cacheTtl⟩ }

def invalidate (userId : String) : WorkspaceStore :=
  { s with cache := s.cache.erase userId }

end WorkspaceStore

inductive WorkspaceOp
  | createWorkspace (workspace : Workspace)
  | getWorkspace (workspaceId : Uuid)
  | getWorkspaces (workspaceIds : List Uuid)
  | getWorkspaceBySlug (slug : String)
  | listWorkspaces (includeInactive : Bool)
  | updateStatus (workspaceId : Uuid) (status : WorkspaceStatus) (now : Instant)
  | deleteWorkspace (workspaceId : Uuid)
  | addMembership (m : WorkspaceMembership)
  | removeMembership (workspaceId : Uuid) (userId : String)
  | updateMembershipRole (workspaceId : Uuid) (userId : String) (role : Role)
  | updateMembershipIdentity (workspaceId : Uuid) (userId : String)
      (email userName : Option String)
  | getMembership (workspaceId : Uuid) (userId : String)
  | listMembershipsForUser (userId : String)
  | listMembershipsForWorkspace (workspaceId : Uuid)
  | recordAuditEvent (event : WorkspaceAuditEvent)
  | listAuditEvents (workspaceId : Uuid) (limit : Nat)
  | addInvitation (invitation : WorkspaceInvitation)
  | getInvitation (invitationId : Uuid)
  | getInvitationByTokenHash (tokenHash : String)
  | listInvitations (workspaceId : Uuid) (includeInactive : Bool)
  | updateInvitation (invitation : WorkspaceInvitation)
  | acceptInvitationAtomic (m : WorkspaceMembership) (invitedEmail : String)
      (invitation : WorkspaceInvitation) (now : Instant)
  | cacheGet (userId : String) (now : Instant)
  | cacheSet (userId : String) (memberships : List WorkspaceMembership) (now : Instant)
  | invalidate (userId : String)
  deriving DecidableEq

namespace WorkspaceOp

def Result : WorkspaceOp → Type
  | createWorkspace _ | getWorkspace _ | getWorkspaceBySlug _ | updateStatus _ _ _ => Workspace
  | getWorkspaces _ | listWorkspaces _ => List Workspace
  | deleteWorkspace _ | removeMembership _ _ | recordAuditEvent _ => Unit
  | addMembership _ | updateMembershipRole _ _ _ | updateMembershipIdentity _ _ _ _
  | getMembership _ _ => WorkspaceMembership
  | listMembershipsForUser _ | listMembershipsForWorkspace _ => List WorkspaceMembership
  | listAuditEvents _ _ => List WorkspaceAuditEvent
  | addInvitation _ | getInvitation _ | getInvitationByTokenHash _ | updateInvitation _ =>
    WorkspaceInvitation
  | listInvitations _ _ => List WorkspaceInvitation
  | acceptInvitationAtomic _ _ _ _ => WorkspaceMembership × WorkspaceInvitation
  | cacheGet _ _ => Option (List WorkspaceMembership)
  | cacheSet _ _ _ | invalidate _ => Unit

abbrev Answer (op : WorkspaceOp) : Type := Except WorkspaceError op.Result

end WorkspaceOp

def WorkspaceStore.exec : (op : WorkspaceOp) → WorkspaceStore → op.Answer × WorkspaceStore
  | .createWorkspace workspace, s => s.createWorkspace b workspace
  | .getWorkspace workspaceId, s => (s.getWorkspace workspaceId, s)
  | .getWorkspaces workspaceIds, s => (.ok (s.getWorkspaces workspaceIds), s)
  | .getWorkspaceBySlug slug, s => (s.getWorkspaceBySlug rt b slug, s)
  | .listWorkspaces includeInactive, s => (.ok (s.listWorkspaces rt includeInactive), s)
  | .updateStatus workspaceId status now, s => s.updateStatus workspaceId status now
  | .deleteWorkspace workspaceId, s => s.deleteWorkspace workspaceId
  | .addMembership m, s => s.addMembership m
  | .removeMembership workspaceId userId, s => s.removeMembership workspaceId userId
  | .updateMembershipRole workspaceId userId role, s =>
    s.updateMembershipRole workspaceId userId role
  | .updateMembershipIdentity workspaceId userId email userName, s =>
    s.updateMembershipIdentity workspaceId userId email userName
  | .getMembership workspaceId userId, s => (s.getMembership workspaceId userId, s)
  | .listMembershipsForUser userId, s => (.ok (s.listMembershipsForUser userId), s)
  | .listMembershipsForWorkspace workspaceId, s =>
    (.ok (s.listMembershipsForWorkspace workspaceId), s)
  | .recordAuditEvent event, s => s.recordAuditEvent b event
  | .listAuditEvents workspaceId limit, s => (.ok (s.listAuditEvents workspaceId limit), s)
  | .addInvitation invitation, s => s.addInvitation b invitation
  | .getInvitation invitationId, s => (s.getInvitation invitationId, s)
  | .getInvitationByTokenHash tokenHash, s => (s.getInvitationByTokenHash tokenHash, s)
  | .listInvitations workspaceId includeInactive, s =>
    (.ok (s.listInvitations rt workspaceId includeInactive), s)
  | .updateInvitation invitation, s => s.updateInvitation b invitation
  | .acceptInvitationAtomic m invitedEmail invitation now, s =>
    s.acceptInvitationAtomic b m invitedEmail invitation now
  | .cacheGet userId now, s =>
    let (answer, s) := s.cacheGet userId now
    (.ok answer, s)
  | .cacheSet userId memberships now, s => (.ok (), s.cacheSet userId memberships now)
  | .invalidate userId, s => (.ok (), s.invalidate userId)

end Orcheo.Workspaces
