import Orcheo.Defs.Identity.Models

/-! Workspaces, their members and the invitations to them. -/

namespace Orcheo.Workspaces

open Repository (TextRuntime)

inductive Role
  | owner | admin | editor | viewer
  deriving DecidableEq, Repr

namespace Role

def rank : Role → Nat
  | viewer => 0
  | editor => 1
  | admin => 2
  | owner => 3

def includes (role other : Role) : Bool := decide (other.rank ≤ role.rank)

def value : Role → String
  | owner => "owner"
  | admin => "admin"
  | editor => "editor"
  | viewer => "viewer"

end Role

inductive WorkspaceStatus
  | active | suspended | deleted
  deriving DecidableEq, Repr

inductive InvitationStatus
  | pending | accepted | revoked
  deriving DecidableEq, Repr

structure Workspace where
  id : Uuid
  slug : String
  name : String
  status : WorkspaceStatus := .active
  deletedAt : Option Instant := none
  deriving DecidableEq

structure WorkspaceMembership where
  workspaceId : Uuid
  userId : String
  email : Option String := none
  userName : Option String := none
  role : Role := .viewer
  deriving DecidableEq

structure WorkspaceInvitation where
  id : Uuid
  workspaceId : Uuid
  email : String
  role : Role := .editor
  tokenHash : String
  status : InvitationStatus := .pending
  invitedBy : Option String := none
  acceptedBy : Option String := none
  createdAt : Instant
  expiresAt : Instant
  acceptedAt : Option Instant := none
  deriving DecidableEq

def WorkspaceInvitation.isExpired (invitation : WorkspaceInvitation) (now : Instant) : Bool :=
  decide (invitation.expiresAt ≤ now)

structure WorkspaceAuditEvent where
  workspaceId : Uuid
  action : String
  actor : Option String := none
  subject : Option String := none
  resourceType : Option String := none
  resourceId : Option String := none
  details : List (String × String) := []
  deriving DecidableEq

structure WorkspaceContext where
  workspaceId : Uuid
  workspaceSlug : String
  userId : String
  role : Role
  deriving DecidableEq

def WorkspaceContext.hasRole (context : WorkspaceContext) (required : Role) : Bool :=
  context.role.includes required

inductive WorkspaceError
  | workspaceNotFound
  | slugConflict
  | membership
  | membershipLimit
  | permission
  | invitation
  | invitationNotFound
  | invitationExpired
  | invitationEmailMismatch
  /-- a `ValueError` -/
  | value
  /-- an error of the database driver that is not translated -/
  | integrity
  deriving DecidableEq, Repr

def normalizeSlug (rt : TextRuntime) (value : String) : Option String :=
  let candidate := rt.lower (rt.strip value)
  if candidate = "" then none
  else if candidate.toList.all (fun ch => rt.isAlnum ch || ch = '-' || ch = '_') then some candidate
  else none

end Orcheo.Workspaces
