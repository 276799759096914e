import Mathlib.Data.List.MinMax
import Orcheo.Defs.Identity.Models
import Orcheo.Lib.Calls

/-! The identity repositories, in memory and in Postgres, one atomic operation after another. -/

namespace Orcheo.Identity

open Lib (Dict)
open Repository (TextRuntime)

inductive Backend
  | inMemory | postgres
  deriving DecidableEq, Repr

/-- SHA-256, the WebAuthn library, `str.split`, the path of a URL without its last slashes, and
the order in which a query reads the challenges. -/
structure IdentityRuntime extends TextRuntime where
  hashSecret : String → String
  /-- the new sign count and whether the credential is backed up -/
  verifyAssertion : Credential → PasskeyChallenge → Passkey → Option (Nat × Bool)
  words : String → List String
  urlPath : String → String
  scan : List AuthEmailChallenge → List AuthEmailChallenge
  scan_perm (cs : List AuthEmailChallenge) : (scan cs).Perm cs

def IdentityRuntime.plain : IdentityRuntime where
  toTextRuntime := .ascii
  hashSecret secret := secret
  verifyAssertion _ _ _ := none
  words text := [text]
  urlPath url := url
  scan challenges := challenges
  scan_perm _ := List.Perm.refl _

structure Accounts where
  users : Dict Uuid User := ∅
  emailIndex : Dict String Uuid := ∅

structure IdentityStore where
  accounts : Accounts := {}
  challenges : Dict Uuid AuthEmailChallenge := ∅
  sessions : Dict Uuid AuthSession := ∅
  clients : Dict String OAuthClient := ∅
  requests : Dict String OAuthAuthorizationRequest := ∅
  passkeys : Dict Uuid Passkey := ∅
  passkeyChallenges : Dict Uuid PasskeyChallenge := ∅

variable (rt : IdentityRuntime) (b : Backend)

namespace Accounts

variable (a : Accounts)

def byEmail (email : String) : Option User :=
  match b with
  | .inMemory => (a.emailIndex.get? email).bind a.users.get?
  | .postgres => a.users.values.find? (fun u => u.email = email)

def taken (user : User) (email : String) : Bool :=
  match b with
  | .inMemory => a.emailIndex.contains email
  | .postgres => a.users.contains user.id || a.users.values.any (fun u => u.email = email)

def createUser (user : User) : Except IdentityError User × Accounts :=
  match normalizeEmail rt.toTextRuntime user.email with
  | none => (.error .invalidEmail, a)
  | some email =>
    if a.taken b user email then (.error .userExists, a)
    else (.ok user, ⟨a.users.set user.id user, a.emailIndex.set email user.id⟩)

def getUser (userId : Uuid) : Except IdentityError User :=
  match a.users.get? userId with
  | none => .error .userNotFound
  | some user => .ok user

def getUserByEmail (email : String) : Except IdentityError (Option User) :=
  match normalizeEmail rt.toTextRuntime email with
  | none => .error .invalidEmail
  | some email => .ok (a.byEmail b email)

/-- The whole record is written.  Postgres leaves `created_at`, which no operation changes. -/
def updateUser (user : User) : Except IdentityError User × Accounts :=
  match a.users.get? user.id, normalizeEmail rt.toTextRuntime user.email with
  | none, _ => (.error .userNotFound, a)
  | some _, none => (.error .invalidEmail, a)
  | some _, some email =>
    (.ok user, ⟨a.users.set user.id user, a.emailIndex.set email user.id⟩)

def setStatus (userId : Uuid) (status : UserStatus) : Except IdentityError Unit × Accounts :=
  match a.users.get? userId with
  | none => (.error .userNotFound, a)
  | some user => (.ok (), { a with users := a.users.set userId { user with status := status } })

end Accounts

section Challenges

variable (challenges : Dict Uuid AuthEmailChallenge)

def addChallenge (challenge : AuthEmailChallenge) :
    Except IdentityError AuthEmailChallenge × Dict Uuid AuthEmailChallenge :=
  if b = .postgres ∧ challenges.contains challenge.id then (.error .uniqueViolation, challenges)
  else (.ok challenge, challenges.set challenge.id challenge)

/-- The newest one; of several that are equally new, the first one that is read. -/
def findActiveChallengeForEmail (email : String) (now : Instant) :
    Except IdentityError (Option AuthEmailChallenge) :=
  match normalizeEmail rt.toTextRuntime email with
  | none => .error .invalidEmail
  | some email =>
    let candidates := challenges.values.filter
      (fun c => c.email = email ∧ !c.isConsumed ∧ !c.isExpired now)
    let rows := match b with
      | .inMemory => candidates
      | .postgres => rt.scan candidates
    -- named, for only this one of the orders on the integers can be run
    .ok (@List.argmax _ _ Int.instLinearOrder.toPreorder Int.instLinearOrder.toDecidableLT
      AuthEmailChallenge.createdAt rows)

/-- The record to redeem or to count on: neither consumed, expired nor locked. -/
def openChallenge (id : Uuid) (now : Instant) (maxAttempts : Nat) :
    Except IdentityError AuthEmailChallenge :=
  match challenges.get? id with
  | none => .error .challengeNotFound
  | some current =>
    if current.isConsumed || current.isExpired now then .error .challengeNotFound
    else if maxAttempts ≤ current.attempts then .error .challengeLocked
    else .ok current

/-- Postgres answers with the caller's own record. -/
def consumeChallenge (challenge : AuthEmailChallenge) (consumedAt : Instant) (maxAttempts : Nat) :
    Except IdentityError AuthEmailChallenge × Dict Uuid AuthEmailChallenge :=
  match openChallenge challenges challenge.id consumedAt maxAttempts with
  | .error e => (.error e, challenges)
  | .ok current =>
    (.ok { (match b with
      | .inMemory => current
      | .postgres => challenge) with consumedAt := some consumedAt },
      challenges.set challenge.id { current with consumedAt := some consumedAt })

def incrementChallengeAttempts (id : Uuid) (now : Instant) (maxAttempts : Nat) :
    Except IdentityError AuthEmailChallenge × Dict Uuid AuthEmailChallenge :=
  match openChallenge challenges id now maxAttempts with
  | .error e => (.error e, challenges)
  | .ok current =>
    let updated := { current with attempts := current.attempts + 1 }
    (.ok updated, challenges.set id updated)

end Challenges

section Sessions

variable (sessions : Dict Uuid AuthSession)

def hashTaken (hash : String) (self : Uuid) : Bool :=
  sessions.entries.any (fun e => e.1 ≠ self ∧ e.2.refreshTokenHash = hash)

def addSession (session : AuthSession) :
    Except IdentityError AuthSession × Dict Uuid AuthSession :=
  if b = .postgres ∧ (sessions.contains session.id ∨
      hashTaken sessions session.refreshTokenHash session.id) then
    (.error .uniqueViolation, sessions)
  else (.ok session, sessions.set session.id session)

def getSessionByRefreshHash (hash : String) : Except IdentityError AuthSession :=
  match sessions.values.find? (fun s => s.refreshTokenHash = hash) with
  | none => .error .sessionNotFound
  | some session => .ok session

/-- Revocation is permanent.  In memory the whole record is written, in Postgres its token, its
expiry, its revocation and its scopes. -/
def updatedRow (current session : AuthSession) : AuthSession :=
  match b with
  | .inMemory => { session with revokedAt := current.revokedAt.or session.revokedAt }
  | .postgres => { current with
      refreshTokenHash := session.refreshTokenHash
      expiresAt := session.expiresAt
      revokedAt := current.revokedAt.or session.revokedAt
      scopes := session.scopes }

def updateSession (session : AuthSession) :
    Except IdentityError AuthSession × Dict Uuid AuthSession :=
  match sessions.get? session.id with
  | none => (.error .sessionNotFound, sessions)
  | some current =>
    if b = .postgres ∧ hashTaken sessions session.refreshTokenHash session.id then
      (.error .uniqueViolation, sessions)
    else
      (.ok (match b with
        | .inMemory => updatedRow b current session
        | .postgres => session), sessions.set session.id (updatedRow b current session))

def revokeSessionsForUser (userId : Uuid) (now : Instant) :
    Except IdentityError Nat × Dict Uuid AuthSession :=
  (.ok (sessions.values.countP (fun s => s.userId = userId ∧ s.revokedAt = none)),
    sessions.mapValues (fun _ s =>
      if s.userId = userId ∧ s.revokedAt = none then { s with revokedAt := some now } else s))

def rotatable (id : Uuid) (previousRefreshHash : String) (now : Instant) :
    Except IdentityError AuthSession :=
  match sessions.get? id with
  | none => .error .sessionNotFound
  | some current =>
    if current.refreshTokenHash = previousRefreshHash ∧ current.isActive now then .ok current
    else .error .sessionNotFound

def rotatedRow (current session : AuthSession) : AuthSession :=
  match b with
  | .inMemory => session
  | .postgres => { current with
      refreshTokenHash := session.refreshTokenHash
      expiresAt := session.expiresAt
      scopes := session.scopes }

def rotateSession (session : AuthSession) (previousRefreshHash : String) (now : Instant) :
    Except IdentityError AuthSession × Dict Uuid AuthSession :=
  match rotatable sessions session.id previousRefreshHash now with
  | .error e => (.error e, sessions)
  | .ok current =>
    if b = .postgres ∧ hashTaken sessions session.refreshTokenHash session.id then
      (.error .uniqueViolation, sessions)
    else (.ok session, sessions.set session.id (rotatedRow b current session))

end Sessions

section Grants

variable (clients : Dict String OAuthClient) (requests : Dict String OAuthAuthorizationRequest)

def addOauthClient (client : OAuthClient) :
    Except IdentityError OAuthClient × Dict String OAuthClient :=
  if b = .postgres ∧ clients.contains client.clientId then (.error .uniqueViolation, clients)
  else (.ok client, clients.set client.clientId client)

def getOauthClient (clientId : String) : Except IdentityError OAuthClient :=
  match clients.get? clientId with
  | none => .error .clientNotFound
  | some client => .ok client

def addAuthorizationRequest (request : OAuthAuthorizationRequest) :
    Except IdentityError OAuthAuthorizationRequest × Dict String OAuthAuthorizationRequest :=
  if b = .postgres ∧ requests.contains request.id then (.error .uniqueViolation, requests)
  else (.ok request, requests.set request.id request)

def getAuthorizationRequest (requestId : String) : Except IdentityError OAuthAuthorizationRequest :=
  match requests.get? requestId with
  | none => .error .requestNotFound
  | some request => .ok request

def getAuthorizationRequestByCodeHash (hash : String) :
    Except IdentityError OAuthAuthorizationRequest :=
  match requests.values.find? (fun r => r.codeHash = some hash) with
  | none => .error .requestNotFound
  | some request => .ok request

def codeTaken (request : OAuthAuthorizationRequest) : Bool :=
  request.codeHash.isSome &&
    requests.entries.any (fun e => e.1 ≠ request.id ∧ e.2.codeHash = request.codeHash)

def decidedRow (current request : OAuthAuthorizationRequest) : OAuthAuthorizationRequest :=
  match b with
  | .inMemory => request
  | .postgres => { current with
      userId := request.userId
      decidedAt := request.decidedAt
      codeHash := request.codeHash
      codeExpiresAt := request.codeExpiresAt }

def updateAuthorizationRequest (request : OAuthAuthorizationRequest) :
    Except IdentityError OAuthAuthorizationRequest × Dict String OAuthAuthorizationRequest :=
  match requests.get? request.id with
  | none => (.error .requestNotFound, requests)
  | some current =>
    if current.decidedAt.isSome then (.error .requestNotFound, requests)
    else if b = .postgres ∧ codeTaken requests request then (.error .uniqueViolation, requests)
    else (.ok request, requests.set request.id (decidedRow b current request))

def consumeAuthorizationCode (requestId : String) (consumedAt : Instant) :
    Except IdentityError OAuthAuthorizationRequest × Dict String OAuthAuthorizationRequest :=
  match requests.get? requestId with
  | none => (.error .requestNotFound, requests)
  | some current =>
    if current.consumedAt.isSome then (.error .requestNotFound, requests)
    else
      let consumed := { current with consumedAt := some consumedAt }
      (.ok consumed, requests.set requestId consumed)

end Grants

section Passkeys

variable (passkeys : Dict Uuid Passkey) (challenges : Dict Uuid PasskeyChallenge)

def getPasskeyByCredentialId (credentialId : String) : Option Passkey :=
  passkeys.values.find? (fun p => p.credentialId = credentialId)

def recordPasskeyUse (passkeyId : Uuid) (signCount : Nat) (backedUp : Bool) (usedAt : Instant) :
    Except IdentityError Passkey × Dict Uuid Passkey :=
  match passkeys.get? passkeyId with
  | none => (.error .passkeyNotFound, passkeys)
  | some current =>
    let updated := { current with
      signCount := max current.signCount signCount
      backedUp := backedUp
      lastUsedAt := some usedAt }
    (.ok updated, passkeys.set passkeyId updated)

def addPasskeyChallenge (challenge : PasskeyChallenge) :
    Except IdentityError PasskeyChallenge × Dict Uuid PasskeyChallenge :=
  let kept := challenges.filter (fun _ c => !c.isExpired challenge.createdAt)
  if b = .postgres ∧ kept.contains challenge.id then (.error .uniqueViolation, challenges)
  else (.ok challenge, kept.set challenge.id challenge)

def consumePasskeyChallenge (challengeId : Uuid) (ceremony : PasskeyCeremony)
    (userId : Option Uuid) (now : Instant) :
    Except IdentityError PasskeyChallenge × Dict Uuid PasskeyChallenge :=
  match challenges.get? challengeId with
  | none => (.error .passkeyChallengeNotFound, challenges)
  | some c =>
    if c.ceremony ≠ ceremony ∨ c.userId ≠ userId ∨ c.isExpired now then
      (.error .passkeyChallengeNotFound, challenges)
    else (.ok c, challenges.erase challengeId)

end Passkeys

inductive IdentityOp
  | createUser (user : User)
  | getUser (userId : Uuid)
  | getUserByEmail (email : String)
  | updateUser (user : User)
  | setStatus (userId : Uuid) (status : UserStatus)
  | addChallenge (challenge : AuthEmailChallenge)
  | findActiveChallengeForEmail (email : String) (now : Instant)
  | consumeChallenge (challenge : AuthEmailChallenge) (consumedAt : Instant) (maxAttempts : Nat)
  | incrementChallengeAttempts (id : Uuid) (now : Instant) (maxAttempts : Nat)
  | addSession (session : AuthSession)
  | getSessionByRefreshHash (hash : String)
  | updateSession (session : AuthSession)
  | revokeSessionsForUser (userId : Uuid) (now : Instant)
  | rotateSession (session : AuthSession) (previousRefreshHash : String) (now : Instant)
  | addOauthClient (client : OAuthClient)
  | getOauthClient (clientId : String)
  | addAuthorizationRequest (request : OAuthAuthorizationRequest)
  | getAuthorizationRequest (requestId : String)
  | getAuthorizationRequestByCodeHash (hash : String)
  | updateAuthorizationRequest (request : OAuthAuthorizationRequest)
  | consumeAuthorizationCode (requestId : String) (consumedAt : Instant)
  | getPasskeyByCredentialId (credentialId : String)
  | recordPasskeyUse (passkeyId : Uuid) (signCount : Nat) (backedUp : Bool) (usedAt : Instant)
  | addPasskeyChallenge (challenge : PasskeyChallenge)
  | consumePasskeyChallenge (challengeId : Uuid) (ceremony : PasskeyCeremony)
      (userId : Option Uuid) (now : Instant)
  deriving DecidableEq

namespace IdentityOp

def Result : IdentityOp → Type
  | createUser _ | getUser _ | updateUser _ => User
  | getUserByEmail _ => Option User
  | setStatus _ _ => Unit
  | addChallenge _ | consumeChallenge _ _ _ | incrementChallengeAttempts _ _ _ =>
    AuthEmailChallenge
  | findActiveChallengeForEmail _ _ => Option AuthEmailChallenge
  | addSession _ | getSessionByRefreshHash _ | updateSession _ | rotateSession _ _ _ => AuthSession
  | revokeSessionsForUser _ _ => Nat
  | addOauthClient _ | getOauthClient _ => OAuthClient
  | addAuthorizationRequest _ | getAuthorizationRequest _ | getAuthorizationRequestByCodeHash _
  | updateAuthorizationRequest _ | consumeAuthorizationCode _ _ => OAuthAuthorizationRequest
  | getPasskeyByCredentialId _ => Option Passkey
  | recordPasskeyUse _ _ _ _ => Passkey
  | addPasskeyChallenge _ | consumePasskeyChallenge _ _ _ _ => PasskeyChallenge

abbrev Answer (op : IdentityOp) : Type := Except IdentityError op.Result

end IdentityOp

def IdentityStore.exec : (op : IdentityOp) → IdentityStore → op.Answer × IdentityStore
  | .createUser user, s =>
    let (answer, accounts) := s.accounts.createUser rt b user
    (answer, { s with accounts := accounts })
  | .getUser userId, s => (s.accounts.getUser userId, s)
  | .getUserByEmail email, s => (s.accounts.getUserByEmail rt b email, s)
  | .updateUser user, s =>
    let (answer, accounts) := s.accounts.updateUser rt user
    (answer, { s with accounts := accounts })
  | .setStatus userId status, s =>
    let (answer, accounts) := s.accounts.setStatus userId status
    (answer, { s with accounts := accounts })
  | .addChallenge challenge, s =>
    let (answer, challenges) := addChallenge b s.challenges challenge
    (answer, { s with challenges := challenges })
  | .findActiveChallengeForEmail email now, s =>
    (findActiveChallengeForEmail rt b s.challenges email now, s)
  | .consumeChallenge challenge consumedAt maxAttempts, s =>
    let (answer, challenges) := consumeChallenge b s.challenges challenge consumedAt maxAttempts
    (answer, { s with challenges := challenges })
  | .incrementChallengeAttempts id now maxAttempts, s =>
    let (answer, challenges) := incrementChallengeAttempts s.challenges id now maxAttempts
    (answer, { s with challenges := challenges })
  | .addSession session, s =>
    let (answer, sessions) := addSession b s.sessions session
    (answer, { s with sessions := sessions })
  | .getSessionByRefreshHash hash, s => (getSessionByRefreshHash s.sessions hash, s)
  | .updateSession session, s =>
    let (answer, sessions) := updateSession b s.sessions session
    (answer, { s with sessions := sessions })
  | .revokeSessionsForUser userId now, s =>
    let (answer, sessions) := revokeSessionsForUser s.sessions userId now
    (answer, { s with sessions := sessions })
  | .rotateSession session previousRefreshHash now, s =>
    let (answer, sessions) := rotateSession b s.sessions session previousRefreshHash now
    (answer, { s with sessions := sessions })
  | .addOauthClient client, s =>
    let (answer, clients) := addOauthClient b s.clients client
    (answer, { s with clients := clients })
  | .getOauthClient clientId, s => (getOauthClient s.clients clientId, s)
  | .addAuthorizationRequest request, s =>
    let (answer, requests) := addAuthorizationRequest b s.requests request
    (answer, { s with requests := requests })
  | .getAuthorizationRequest requestId, s => (getAuthorizationRequest s.requests requestId, s)
  | .getAuthorizationRequestByCodeHash hash, s =>
    (getAuthorizationRequestByCodeHash s.requests hash, s)
  | .updateAuthorizationRequest request, s =>
    let (answer, requests) := updateAuthorizationRequest b s.requests request
    (answer, { s with requests := requests })
  | .consumeAuthorizationCode requestId consumedAt, s =>
    let (answer, requests) := consumeAuthorizationCode s.requests requestId consumedAt
    (answer, { s with requests := requests })
  | .getPasskeyByCredentialId credentialId, s =>
    (.ok (getPasskeyByCredentialId s.passkeys credentialId), s)
  | .recordPasskeyUse passkeyId signCount backedUp usedAt, s =>
    let (answer, passkeys) := recordPasskeyUse s.passkeys passkeyId signCount backedUp usedAt
    (answer, { s with passkeys := passkeys })
  | .addPasskeyChallenge challenge, s =>
    let (answer, challenges) := addPasskeyChallenge b s.passkeyChallenges challenge
    (answer, { s with passkeyChallenges := challenges })
  | .consumePasskeyChallenge challengeId ceremony userId now, s =>
    let (answer, challenges) :=
      consumePasskeyChallenge s.passkeyChallenges challengeId ceremony userId now
    (answer, { s with passkeyChallenges := challenges })

end Orcheo.Identity
