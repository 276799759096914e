import Orcheo.Defs.Repository.Workflow

/-! Users, sign-in codes, sessions, OAuth grants and passkeys. -/

namespace Orcheo

open Repository (TextRuntime)

def normalizeEmail (rt : TextRuntime) (value : String) : Option String :=
  let candidate := rt.lower (rt.strip value)
  let chars := candidate.toList
  let localPart := chars.takeWhile (fun c => c != '@')
  let domain := (chars.dropWhile (fun c => c != '@')).drop 1
  if chars.count '@' ≠ 1 ∨ localPart.isEmpty ∨ !domain.contains '.' ∨
      domain.getLast? = some '.' then none
  else some candidate

namespace Identity

def isEmailDomainAllowed (rt : TextRuntime) (email : String) (allowedDomains : List String) :
    Bool :=
  allowedDomains.isEmpty ||
    (email.toList.contains '@' && allowedDomains.contains
      (rt.lower (String.ofList (email.toList.reverse.takeWhile (fun c => c != '@')).reverse)))

inductive UserStatus
  | active | disabled
  deriving DecidableEq, Repr

structure User where
  id : Uuid
  email : String
  emailVerified : Bool := false
  name : Option String := none
  status : UserStatus := .active
  createdAt : Instant
  lastLoginAt : Option Instant := none
  deriving DecidableEq

structure AuthEmailChallenge where
  id : Uuid
  email : String
  codeHash : String
  attempts : Nat := 0
  createdAt : Instant
  expiresAt : Instant
  consumedAt : Option Instant := none
  deriving DecidableEq

namespace AuthEmailChallenge

variable (c : AuthEmailChallenge)

def isExpired (now : Instant) : Bool := decide (c.expiresAt ≤ now)

def isConsumed : Bool := c.consumedAt.isSome

end AuthEmailChallenge

/-- Studio sessions have no `oauthClientId`. -/
structure AuthSession where
  id : Uuid
  userId : Uuid
  refreshTokenHash : String
  createdAt : Instant
  expiresAt : Instant
  revokedAt : Option Instant := none
  oauthClientId : Option String := none
  scopes : Option (List String) := none
  deriving DecidableEq

namespace AuthSession

variable (s : AuthSession)

def isExpired (now : Instant) : Bool := decide (s.expiresAt ≤ now)

def isActive (now : Instant) : Bool := s.revokedAt.isNone && !s.isExpired now

end AuthSession

structure OAuthClient where
  clientId : String
  scope : Option String := none
  deriving DecidableEq

structure OAuthAuthorizationRequest where
  id : String
  clientId : String
  redirectUri : String
  redirectUriProvidedExplicitly : Bool
  codeChallenge : String
  state : Option String := none
  scopes : List String := []
  resource : Option String := none
  createdAt : Instant
  expiresAt : Instant
  userId : Option Uuid := none
  decidedAt : Option Instant := none
  codeHash : Option String := none
  codeExpiresAt : Option Instant := none
  consumedAt : Option Instant := none
  deriving DecidableEq

def OAuthAuthorizationRequest.isPending (r : OAuthAuthorizationRequest) (now : Instant) : Bool :=
  r.decidedAt.isNone && decide (now < r.expiresAt)

inductive PasskeyCeremony
  | registration | authentication
  deriving DecidableEq, Repr

structure PasskeyChallenge where
  id : Uuid
  ceremony : PasskeyCeremony
  challenge : String
  userId : Option Uuid := none
  createdAt : Instant
  expiresAt : Instant
  deriving DecidableEq

def PasskeyChallenge.isExpired (c : PasskeyChallenge) (now : Instant) : Bool :=
  decide (c.expiresAt ≤ now)

structure Passkey where
  id : Uuid
  userId : Uuid
  credentialId : String
  publicKey : String
  signCount : Nat := 0
  backedUp : Bool := false
  lastUsedAt : Option Instant := none
  deriving DecidableEq

/-- A browser's assertion: the decoded `rawId` and user handle, absent where they do not decode. -/
structure Credential where
  rawId : Option String
  userHandle : Option Uuid
  response : String

inductive IdentityError
  /-- a `ValueError` of `normalize_email` -/
  | invalidEmail
  | userNotFound
  /-- a `ValueError`: a user already exists for the email -/
  | userExists
  | emailDomainNotAllowed
  | challenge
  | challengeNotFound
  | challengeExpired
  | challengeLocked
  | sessionNotFound
  | clientNotFound
  | requestNotFound
  /-- an `AuthorizeError` or a `TokenError` -/
  | invalidRequest
  | invalidGrant
  | passkeysUnavailable
  | passkeyChallengeNotFound
  | passkeyNotFound
  | passkeyRejected (message : String)
  /-- a `UniqueViolation` that is not translated -/
  | uniqueViolation
  deriving DecidableEq, Repr

end Identity

end Orcheo
