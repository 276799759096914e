import Orcheo.Defs.Identity.Repository

/-! Records are stored under their identifiers, and answers fit what was asked. -/

namespace Orcheo.Identity

structure IdentityStore.Keyed (s : IdentityStore) : Prop where
  users : s.accounts.users.KeyedBy User.id
  challenges : s.challenges.KeyedBy AuthEmailChallenge.id
  sessions : s.sessions.KeyedBy AuthSession.id
  requests : s.requests.KeyedBy OAuthAuthorizationRequest.id

variable {rt : IdentityRuntime} {b : Backend} {s : IdentityStore}

variable (rt) (b) in
theorem keyed_users {a : Accounts} (keyed : a.users.KeyedBy User.id) :
    (∀ user, (a.createUser rt b user).2.users.KeyedBy User.id) ∧
      (∀ user, (a.updateUser rt user).2.users.KeyedBy User.id) ∧
      ∀ userId status, (a.setStatus userId status).2.users.KeyedBy User.id := by
  refine ⟨fun user => ?_, fun user => ?_, fun userId status => ?_⟩
  · unfold Accounts.createUser
    split
    next => exact keyed
    next =>
      split
      next => exact keyed
      next => exact keyed.set rfl
  · unfold Accounts.updateUser
    split
    next => exact keyed
    next => exact keyed
    next => exact keyed.set rfl
  · unfold Accounts.setStatus
    split
    next => exact keyed
    next user found => exact keyed.set (keyed userId user found)

variable {challenges : Lib.Dict Uuid AuthEmailChallenge}

theorem openChallenge_ok {id : Uuid} {now : Instant} {maxAttempts : Nat} {c : AuthEmailChallenge}
    (opened : openChallenge challenges id now maxAttempts = .ok c) :
    challenges.get? id = some c ∧ c.isConsumed = false ∧ c.isExpired now = false ∧
      c.attempts < maxAttempts := by
  unfold openChallenge at opened
  split at opened
  next => cases opened
  next current found =>
    split at opened
    next => cases opened
    next live =>
      split at opened
      next => cases opened
      next below =>
        cases opened
        simp only [Bool.or_eq_true, not_or, Bool.not_eq_true] at live
        exact ⟨found, live.1, live.2, Nat.lt_of_not_le below⟩

variable (b) in
theorem keyed_challenges (keyed : challenges.KeyedBy AuthEmailChallenge.id) :
    (∀ c, (addChallenge b challenges c).2.KeyedBy AuthEmailChallenge.id) ∧
      (∀ c at' max, (consumeChallenge b challenges c at' max).2.KeyedBy AuthEmailChallenge.id) ∧
      ∀ id now max,
        (incrementChallengeAttempts challenges id now max).2.KeyedBy AuthEmailChallenge.id := by
  refine ⟨fun c => ?_, fun c at' max => ?_, fun id now max => ?_⟩
  · unfold addChallenge
    split
    next => exact keyed
    next => exact keyed.set rfl
  · unfold consumeChallenge
    split
    next => exact keyed
    next current opened => exact keyed.set (keyed _ current (openChallenge_ok opened).1)
  · unfold incrementChallengeAttempts
    split
    next => exact keyed
    next current opened => exact keyed.set (keyed _ current (openChallenge_ok opened).1)

variable {sessions : Lib.Dict Uuid AuthSession}

theorem rotatable_ok {id : Uuid} {hash : String} {now : Instant} {current : AuthSession}
    (rotates : rotatable sessions id hash now = .ok current) :
    sessions.get? id = some current ∧ current.refreshTokenHash = hash ∧
      current.revokedAt = none := by
  unfold rotatable at rotates
  split at rotates
  next => cases rotates
  next stored found =>
    split at rotates
    next fresh =>
      cases rotates
      simp only [AuthSession.isActive, Bool.and_eq_true, Option.isNone_iff_eq_none] at fresh
      exact ⟨found, fresh.1, fresh.2.1⟩
    next => cases rotates

variable (b) in
theorem keyed_sessions (keyed : sessions.KeyedBy AuthSession.id) :
    (∀ a, (addSession b sessions a).2.KeyedBy AuthSession.id) ∧
      (∀ a, (updateSession b sessions a).2.KeyedBy AuthSession.id) ∧
      (∀ userId now, (revokeSessionsForUser sessions userId now).2.KeyedBy AuthSession.id) ∧
      ∀ a hash now, (rotateSession b sessions a hash now).2.KeyedBy AuthSession.id := by
  refine ⟨fun a => ?_, fun a => ?_, fun userId now => ?_, fun a hash now => ?_⟩
  · unfold addSession
    split
    next => exact keyed
    next => exact keyed.set rfl
  · unfold updateSession
    split
    next => exact keyed
    next current found =>
      split
      next => exact keyed
      next =>
        apply keyed.set
        cases b with
        | inMemory => rfl
        | postgres => exact keyed _ current found
  · apply keyed.mapValues
    intro id a
    split
    next => rfl
    next => rfl
  · unfold rotateSession
    split
    next => exact keyed
    next current rotates =>
      split
      next => exact keyed
      next =>
        apply keyed.set
        cases b with
        | inMemory => rfl
        | postgres => exact keyed _ current (rotatable_ok rotates).1

variable (b) in
theorem keyed_requests {requests : Lib.Dict String OAuthAuthorizationRequest}
    (keyed : requests.KeyedBy OAuthAuthorizationRequest.id) :
    (∀ r, (addAuthorizationRequest b requests r).2.KeyedBy OAuthAuthorizationRequest.id) ∧
      (∀ r, (updateAuthorizationRequest b requests r).2.KeyedBy OAuthAuthorizationRequest.id) ∧
      ∀ id at',
        (consumeAuthorizationCode requests id at').2.KeyedBy OAuthAuthorizationRequest.id := by
  refine ⟨fun r => ?_, fun r => ?_, fun id at' => ?_⟩
  · unfold addAuthorizationRequest
    split
    next => exact keyed
    next => exact keyed.set rfl
  · unfold updateAuthorizationRequest
    split
    next => exact keyed
    next current found =>
      split
      next => exact keyed
      next =>
        split
        next => exact keyed
        next =>
          apply keyed.set
          cases b with
          | inMemory => rfl
          | postgres => exact keyed _ current found
  · unfold consumeAuthorizationCode
    split
    next => exact keyed
    next current found =>
      split
      next => exact keyed
      next => exact keyed.set (keyed _ current found)

theorem IdentityStore.Keyed.exec (keyed : s.Keyed) (op : IdentityOp) :
    (s.exec rt b op).2.Keyed := by
  have users := keyed_users rt b keyed.users
  cases op with
  | createUser user => exact { keyed with users := users.1 user }
  | updateUser user => exact { keyed with users := users.2.1 user }
  | setStatus userId status => exact { keyed with users := users.2.2 userId status }
  | addChallenge c =>
    exact { keyed with challenges := (keyed_challenges b keyed.challenges).1 c }
  | consumeChallenge c at' max =>
    exact { keyed with challenges := (keyed_challenges b keyed.challenges).2.1 c at' max }
  | incrementChallengeAttempts id now max =>
    exact { keyed with
      challenges := (keyed_challenges b keyed.challenges).2.2 id now max }
  | addSession a => exact { keyed with sessions := (keyed_sessions b keyed.sessions).1 a }
  | updateSession a => exact { keyed with sessions := (keyed_sessions b keyed.sessions).2.1 a }
  | revokeSessionsForUser userId now =>
    exact { keyed with sessions := (keyed_sessions b keyed.sessions).2.2.1 userId now }
  | rotateSession a hash now =>
    exact { keyed with sessions := (keyed_sessions b keyed.sessions).2.2.2 a hash now }
  | addAuthorizationRequest r =>
    exact { keyed with requests := (keyed_requests b keyed.requests).1 r }
  | updateAuthorizationRequest r =>
    exact { keyed with requests := (keyed_requests b keyed.requests).2.1 r }
  | consumeAuthorizationCode id at' =>
    exact { keyed with requests := (keyed_requests b keyed.requests).2.2 id at' }
  | getUser _ | getUserByEmail _ | findActiveChallengeForEmail _ _ | getSessionByRefreshHash _
  | getOauthClient _ | getAuthorizationRequest _ | getAuthorizationRequestByCodeHash _
  | getPasskeyByCredentialId _ => exact keyed
  | addOauthClient _ | recordPasskeyUse _ _ _ _ | addPasskeyChallenge _
  | consumePasskeyChallenge _ _ _ _ => exact { keyed with }

def Fits : (op : IdentityOp) → op.Answer → Prop
  | .createUser user, .ok created => created = user
  | .getUser userId, .ok (user : User) => user.id = userId
  | .updateUser user, .ok updated => updated = user
  | .getSessionByRefreshHash hash, .ok (session : AuthSession) => session.refreshTokenHash = hash
  | .getAuthorizationRequest requestId, .ok (request : OAuthAuthorizationRequest) =>
    request.id = requestId
  | .getAuthorizationRequestByCodeHash hash, .ok (request : OAuthAuthorizationRequest) =>
    request.codeHash = some hash
  | _, _ => True

theorem fits_exec (keyed : s.Keyed) (op : IdentityOp) : Fits op (s.exec rt b op).1 := by
  cases op with
  | createUser user =>
    show Fits (.createUser user) (s.accounts.createUser rt b user).1
    unfold Accounts.createUser
    split
    next => trivial
    next =>
      split
      next => trivial
      next => rfl
  | getUser userId =>
    show Fits (.getUser userId) (s.accounts.getUser userId)
    unfold Accounts.getUser
    split
    next => trivial
    next user found => exact keyed.users userId user found
  | updateUser user =>
    show Fits (.updateUser user) (s.accounts.updateUser rt user).1
    unfold Accounts.updateUser
    split
    next => trivial
    next => trivial
    next => rfl
  | getSessionByRefreshHash hash =>
    show Fits (.getSessionByRefreshHash hash) (getSessionByRefreshHash s.sessions hash)
    unfold getSessionByRefreshHash
    split
    next => trivial
    next session found =>
      have carries : session.refreshTokenHash = hash := by simpa using List.find?_some found
      exact carries
  | getAuthorizationRequest requestId =>
    show Fits (.getAuthorizationRequest requestId) (getAuthorizationRequest s.requests requestId)
    unfold getAuthorizationRequest
    split
    next => trivial
    next request found => exact keyed.requests requestId request found
  | getAuthorizationRequestByCodeHash hash =>
    show Fits (.getAuthorizationRequestByCodeHash hash)
      (getAuthorizationRequestByCodeHash s.requests hash)
    unfold getAuthorizationRequestByCodeHash
    split
    next => trivial
    next request found =>
      have carries : request.codeHash = some hash := by simpa using List.find?_some found
      exact carries
  | _ =>
    unfold Fits
    trivial

end Orcheo.Identity
