import Orcheo.Defs.Identity.RepositoryLaws
import Orcheo.Defs.Identity.Service

/-! What each call may ask after what it has asked so far, and what it gives in the end. -/

namespace Orcheo.Identity

open Lib.Call (meets_andThen)
open Lib (Asked)

/-- What a refresh presents: `refresh` is Studio's, without a client. -/
structure Presented where
  token : String
  client : Option String
  now : Instant
  revokedAt : Instant
  scopes : Option (List String)
  rawRefresh : String

def IdentityRequest.presented : IdentityRequest → Option Presented
  | refresh token now revokedAt rawRefresh =>
    some ⟨token, none, now, revokedAt, none, rawRefresh⟩
  | exchangeRefreshToken clientId token scopes _ now revokedAt rawRefresh =>
    some ⟨token, some clientId, now, revokedAt, some scopes, rawRefresh⟩
  | _ => none

def IdentityRequest.Issues : IdentityRequest → Prop
  | verifyCode _ _ _ _ _ _ _ | refresh _ _ _ _ | finishAuthentication _ _ _ _ _ _
  | exchangeAuthorizationCode _ _ _ _ _ | exchangeRefreshToken _ _ _ _ _ _ _ => True
  | _ => False

def Reply.Plain : Reply → Prop
  | verified _ _ | issued _ | approved _ _ _ | authorizationCode (some _) => False
  | _ => True

abbrev Past := List (Asked IdentityOp.Answer)

section Pasts

variable (normalized : String) (now redeemedAt : Instant) (maxAttempts : Nat)
  (challenge consumed : AuthEmailChallenge)

abbrev foundChallenge : Past :=
  [⟨.findActiveChallengeForEmail normalized now, .ok (some challenge)⟩]

abbrev redeemedChallenge : Past :=
  ⟨.consumeChallenge challenge redeemedAt maxAttempts, .ok consumed⟩ ::
    foundChallenge normalized now challenge

variable (challengeId : Uuid) (ceremony : PasskeyChallenge) (rawId : String) (passkey : Passkey)
  (user : User)

abbrev foundPasskey : Past :=
  [⟨.getPasskeyByCredentialId rawId, .ok (some passkey)⟩,
    ⟨.consumePasskeyChallenge challengeId .authentication none now, .ok ceremony⟩]

abbrev foundHolder : Past :=
  ⟨.getUser passkey.userId, .ok user⟩ :: foundPasskey now challengeId ceremony rawId passkey

variable (hash : String) (session : AuthSession)

abbrev foundSessionUser : Past :=
  [⟨.getUser session.userId, .ok user⟩, ⟨.getSessionByRefreshHash hash, .ok session⟩]

variable (requestId : String) (request : OAuthAuthorizationRequest) (client : OAuthClient)

abbrev foundRequest : Past :=
  [⟨.getOauthClient request.clientId, .ok client⟩,
    ⟨.getAuthorizationRequest requestId, .ok request⟩]

end Pasts

variable (rt : IdentityRuntime) (config : IdentityConfig)

inductive Asks : IdentityRequest → Past → IdentityOp → Prop
  | addChallenge : Asks (.startChallenge email drawn rawCode createdAt now) []
      (.addChallenge (newChallenge rt config normalized drawn rawCode createdAt now))
  | findChallenge : Asks (.verifyCode email code now redeemedAt newUser createdAt draw) []
      (.findActiveChallengeForEmail normalized now)
  | count (wrong : rt.hashSecret code ≠ challenge.codeHash) :
    Asks (.verifyCode email code now redeemedAt newUser createdAt draw)
      (foundChallenge normalized now challenge)
      (.incrementChallengeAttempts challenge.id now config.otpMaxAttempts)
  | redeem (right : rt.hashSecret code = challenge.codeHash) :
    Asks (.verifyCode email code now redeemedAt newUser createdAt draw)
      (foundChallenge normalized now challenge)
      (.consumeChallenge challenge redeemedAt config.otpMaxAttempts)
  | findOwner : Asks (.verifyCode email code now redeemedAt newUser createdAt draw)
      (redeemedChallenge normalized now redeemedAt config.otpMaxAttempts challenge consumed)
      (.getUserByEmail consumed.email)
  | signUp : Asks (.verifyCode email code now redeemedAt newUser createdAt draw)
      (⟨.getUserByEmail consumed.email, .ok none⟩ ::
        redeemedChallenge normalized now redeemedAt config.otpMaxAttempts challenge consumed)
      (.createUser (newUserFor consumed.email redeemedAt newUser createdAt))
  | markVerified : Asks (.verifyCode email code now redeemedAt newUser createdAt draw)
      (⟨.getUserByEmail consumed.email, .ok (some existing)⟩ ::
        redeemedChallenge normalized now redeemedAt config.otpMaxAttempts challenge consumed)
      (.updateUser (verifiedUser existing redeemedAt))
  | issueNew : Asks (.verifyCode email code now redeemedAt newUser createdAt draw)
      (⟨.createUser (newUserFor consumed.email redeemedAt newUser createdAt),
          .ok (newUserFor consumed.email redeemedAt newUser createdAt)⟩ ::
        ⟨.getUserByEmail consumed.email, .ok none⟩ ::
        redeemedChallenge normalized now redeemedAt config.otpMaxAttempts challenge consumed)
      (.addSession (newSession rt config newUser redeemedAt draw))
  | issueVerified : Asks (.verifyCode email code now redeemedAt newUser createdAt draw)
      (⟨.updateUser (verifiedUser existing redeemedAt), .ok (verifiedUser existing redeemedAt)⟩ ::
        ⟨.getUserByEmail consumed.email, .ok (some existing)⟩ ::
        redeemedChallenge normalized now redeemedAt config.otpMaxAttempts challenge consumed)
      (.addSession (newSession rt config existing.id redeemedAt draw))
  | findSession (presents : r.presented = some p) :
    Asks r [] (.getSessionByRefreshHash (rt.hashSecret p.token))
  | findSessionUser (presents : r.presented = some p) (bound : session.oauthClientId = p.client)
      (carries : session.refreshTokenHash = rt.hashSecret p.token) :
    Asks r [⟨.getSessionByRefreshHash (rt.hashSecret p.token), .ok session⟩]
      (.getUser session.userId)
  | endSessions (presents : r.presented = some p) (named : user.id = session.userId) :
    Asks r (foundSessionUser user (rt.hashSecret p.token) session)
      (.revokeSessionsForUser user.id p.revokedAt)
  | rotate {r : IdentityRequest} {p : Presented} {user : User} {session : AuthSession}
      (presents : r.presented = some p) (bound : session.oauthClientId = p.client)
      (carries : session.refreshTokenHash = rt.hashSecret p.token)
      (named : user.id = session.userId) (active : p.client.isSome → user.status = .active) :
    Asks r (foundSessionUser user (rt.hashSecret p.token) session)
      (.rotateSession (rotated rt config session p.now p.scopes p.rawRefresh)
        session.refreshTokenHash p.now)
  | beginCeremony (purpose : ceremony.ceremony = .authentication) :
    Asks (.beginAuthentication drawn challenge now) [] (.addPasskeyChallenge ceremony)
  | consumeCeremony :
    Asks (.finishAuthentication challengeId credential now usedAt startedAt draw) []
      (.consumePasskeyChallenge challengeId .authentication none now)
  | findPasskey (raw : credential.rawId = some rawId) :
    Asks (.finishAuthentication challengeId credential now usedAt startedAt draw)
      [⟨.consumePasskeyChallenge challengeId .authentication none now, .ok ceremony⟩]
      (.getPasskeyByCredentialId rawId)
  | findHolder (holder : credential.userHandle = some passkey.userId)
      (verified : rt.verifyAssertion credential ceremony passkey = some (signCount, backedUp)) :
    Asks (.finishAuthentication challengeId credential now usedAt startedAt draw)
      (foundPasskey now challengeId ceremony rawId passkey) (.getUser passkey.userId)
  | recordUse (named : user.id = passkey.userId) (active : user.status = .active) :
    Asks (.finishAuthentication challengeId credential now usedAt startedAt draw)
      (foundHolder now challengeId ceremony rawId passkey user)
      (.recordPasskeyUse passkey.id signCount backedUp usedAt)
  | markSignedIn (named : user.id = passkey.userId) (active : user.status = .active) :
    Asks (.finishAuthentication challengeId credential now usedAt startedAt draw)
      (⟨.recordPasskeyUse passkey.id signCount backedUp usedAt, .ok used⟩ ::
        foundHolder now challengeId ceremony rawId passkey user)
      (.updateUser (signedInUser user startedAt))
  | issueSignedIn (named : user.id = passkey.userId) (active : user.status = .active) :
    Asks (.finishAuthentication challengeId credential now usedAt startedAt draw)
      (⟨.updateUser (signedInUser user startedAt), .ok (signedInUser user startedAt)⟩ ::
        ⟨.recordPasskeyUse passkey.id signCount backedUp usedAt, .ok used⟩ ::
        foundHolder now challengeId ceremony rawId passkey user)
      (.addSession (newSession rt config user.id startedAt draw))
  | logout : Asks (.logout userId now) [] (.revokeSessionsForUser userId now)
  | registerClient : Asks (.registerClient client) [] (.addOauthClient client)
  | authorize : Asks (.authorize client params drawn now) []
      (.addAuthorizationRequest (newRequest rt client params drawn now))
  | findRequest : Asks (.decide requestId userId approve checkedAt decidedAt code) []
      (.getAuthorizationRequest requestId)
  | findClient : Asks (.decide requestId userId approve checkedAt decidedAt code)
      [⟨.getAuthorizationRequest requestId, .ok request⟩] (.getOauthClient request.clientId)
  | deny {requestId : String} {userId : Uuid} {checkedAt decidedAt : Instant} {code : String}
      {request : OAuthAuthorizationRequest} {client : OAuthClient}
      (named : request.id = requestId) (pending : request.isPending checkedAt = true) :
    Asks (.decide requestId userId false checkedAt decidedAt code)
      (foundRequest requestId request client)
      (.updateAuthorizationRequest (denial request decidedAt))
  | approve {requestId : String} {userId : Uuid} {checkedAt decidedAt : Instant} {code : String}
      {request : OAuthAuthorizationRequest} {client : OAuthClient}
      (named : request.id = requestId) (pending : request.isPending checkedAt = true) :
    Asks (.decide requestId userId true checkedAt decidedAt code)
      (foundRequest requestId request client)
      (.updateAuthorizationRequest (approval rt request decidedAt userId code))
  | findCode : Asks (.loadAuthorizationCode clientId code) []
      (.getAuthorizationRequestByCodeHash (rt.hashSecret code))
  | consumeCode : Asks (.exchangeAuthorizationCode clientId granted consumedAt now draw) []
      (.consumeAuthorizationCode granted.requestId consumedAt)
  | findApprover : Asks (.exchangeAuthorizationCode clientId granted consumedAt now draw)
      [⟨.consumeAuthorizationCode granted.requestId consumedAt, .ok request⟩]
      (.getUser granted.userId)
  | grant (named : user.id = granted.userId) (active : user.status = .active) :
    Asks (.exchangeAuthorizationCode clientId granted consumedAt now draw)
      [⟨.getUser granted.userId, .ok user⟩,
        ⟨.consumeAuthorizationCode granted.requestId consumedAt, .ok request⟩]
      (.addSession (oauthSession rt config user.id clientId granted.scopes now draw))
  | findGrant : Asks (.loadRefreshToken clientId token now) []
      (.getSessionByRefreshHash (rt.hashSecret token))
  | findRevoked : Asks (.revokeToken clientId token foundAt revokedAt) []
      (.getSessionByRefreshHash (rt.hashSecret token))
  | revokeGrant {clientId token : String} {foundAt revokedAt : Instant} {session : AuthSession}
      (bound : session.oauthClientId = some clientId) :
    Asks (.revokeToken clientId token foundAt revokedAt)
      [⟨.getSessionByRefreshHash (rt.hashSecret token), .ok session⟩]
      (.updateSession { session with revokedAt := some revokedAt })
  | changeStatus : Asks (.changeStatus userId status) [] (.setStatus userId status)

inductive Gives : IdentityRequest → Past → Except IdentityError Reply → Prop
  | failed : Gives r past (.error e)
  | plain (quiet : ¬ r.Issues) (plain : reply.Plain) : Gives r past (.ok reply)
  | signedIn (asked : Asks rt config r past (.addSession session))
      (carried : reply.tokens = some tokens) (subject : tokens.accessToken.sub = session.userId) :
    Gives r (⟨.addSession session, .ok added⟩ :: past) (.ok reply)
  | refreshed {r : IdentityRequest} {past : Past} {session stored : AuthSession}
      {previous : String} {now : Instant} {tokens : IssuedTokens}
      (asked : Asks rt config r past (.rotateSession session previous now))
      (subject : tokens.accessToken.sub = session.userId) :
    Gives r (⟨.rotateSession session previous now, .ok stored⟩ :: past) (.ok (.issued tokens))
  | approved (asked : Asks rt config (.decide requestId userId true checkedAt decidedAt code) past
        (.updateAuthorizationRequest request)) :
    Gives (.decide requestId userId true checkedAt decidedAt code)
      (⟨.updateAuthorizationRequest request, .ok stored⟩ :: past)
      (.ok (.approved redirectUri code state))
  | loaded {request : OAuthAuthorizationRequest} {code clientId : String}
      (carries : request.codeHash = some (rt.hashSecret code)) :
    Gives (.loadAuthorizationCode clientId code)
      [⟨.getAuthorizationRequestByCodeHash (rt.hashSecret code), .ok request⟩]
      (.ok (.authorizationCode (grantedCode clientId code request)))

variable {rt} {config}

section Rules

variable {α β : Type} {P : Past → IdentityOp → Prop} {Q : Past → Except IdentityError α → Prop}
  {past : Past}

theorem meets_run {op : IdentityOp} {next : op.Result → IdentityCall α} (asks : P past op)
    (fails : ∀ past e, Q past (.error e))
    (goes : ∀ a, Fits op (.ok a) → (next a).Meets Fits P Q (⟨op, .ok a⟩ :: past)) :
    (run op next).Meets Fits P Q past := by
  refine ⟨asks, fun answer fits => ?_⟩
  cases answer with
  | error e => exact fails _ e
  | ok a => exact goes a fits

theorem meets_runAs {op : IdentityOp} {caught raised : IdentityError}
    {next : op.Result → IdentityCall α} (asks : P past op) (fails : ∀ past e, Q past (.error e))
    (goes : ∀ a, Fits op (.ok a) → (next a).Meets Fits P Q (⟨op, .ok a⟩ :: past)) :
    (runAs op caught raised next).Meets Fits P Q past := by
  refine ⟨asks, fun answer fits => ?_⟩
  cases answer with
  | error e => exact fails _ _
  | ok a => exact goes a fits

end Rules

def Met (rt : IdentityRuntime) (config : IdentityConfig) (r : IdentityRequest) : Prop :=
  (r.call rt config).Meets Fits (Asks rt config r) (Gives rt config r) []

variable {r : IdentityRequest}

theorem meets_asking {past : Past} {op : IdentityOp}
    {next : op.Result → IdentityCall Reply} (asks : Asks rt config r past op)
    (goes : ∀ a, Fits op (.ok a) →
      (next a).Meets Fits (Asks rt config r) (Gives rt config r) (⟨op, .ok a⟩ :: past)) :
    (run op next).Meets Fits (Asks rt config r) (Gives rt config r) past :=
  meets_run asks (fun _ _ => Gives.failed) goes

theorem meets_issueSession {past : Past} {user : User} {now : Instant}
    {draw : SessionDraw} {carry : IssuedTokens → Reply}
    (asks : Asks rt config r past (.addSession (newSession rt config user.id now draw)))
    (carried : ∀ tokens, (carry tokens).tokens = some tokens) :
    ((issueSession rt config user now draw).andThen (fun tokens => IdentityCall.ok
      (carry tokens))).Meets Fits (Asks rt config r) (Gives rt config r) past := by
  rw [meets_andThen]
  refine meets_run asks (fun _ _ => Gives.failed) (fun added _ => ?_)
  exact Gives.signedIn asks (carried _) rfl

theorem startChallenge_meets (email : String) (drawn : Uuid) (rawCode : String)
    (createdAt now : Instant) :
    Met rt config (.startChallenge email drawn rawCode createdAt now) := by
  show (startChallenge rt config email drawn rawCode createdAt now).Meets _ _ _ _
  unfold startChallenge
  split
  next => exact Gives.failed
  next =>
    split
    next => exact Gives.failed
    next =>
      exact meets_asking Asks.addChallenge (fun _ _ => Gives.plain not_false trivial)

theorem verifyCode_meets (email code : String) (now redeemedAt : Instant) (newUser : Uuid)
    (createdAt : Instant) (draw : SessionDraw) :
    Met rt config (.verifyCode email code now redeemedAt newUser createdAt draw) := by
  show (verifyCode rt config email code now redeemedAt newUser createdAt draw).Meets _ _ _ _
  unfold verifyCode
  split
  next => exact Gives.failed
  next normalized _ =>
    refine meets_asking Asks.findChallenge (fun found _ => ?_)
    cases found with
    | none => exact Gives.failed
    | some challenge =>
      dsimp only
      split
      next => exact Gives.failed
      next =>
        split
        next wrong =>
          refine meets_asking (Asks.count wrong) (fun updated _ => ?_)
          split
          next => exact Gives.failed
          next => exact Gives.failed
        next right =>
          unfold redeem
          split
          next => exact Gives.failed
          next =>
            refine meets_runAs (Asks.redeem (not_not.mp right)) (fun _ _ => Gives.failed)
              (fun consumed _ => ?_)
            rw [meets_andThen]
            unfold findOrCreateUser
            refine meets_run Asks.findOwner (fun _ _ => Gives.failed) (fun owner _ => ?_)
            cases owner with
            | none =>
              refine meets_run Asks.signUp (fun _ _ => Gives.failed) (fun user same => ?_)
              cases same
              exact meets_issueSession Asks.issueNew (fun _ => rfl)
            | some existing =>
              refine meets_run Asks.markVerified (fun _ _ => Gives.failed) (fun user same => ?_)
              cases same
              exact meets_issueSession Asks.issueVerified (fun _ => rfl)

theorem rotate_meets {p : Presented} {session : AuthSession}
    (presents : r.presented = some p) (bound : session.oauthClientId = p.client)
    (carries : session.refreshTokenHash = rt.hashSecret p.token)
    {Q : Past → Except IdentityError Reply → Prop} (fails : ∀ past e, Q past (.error e))
    (gives : ∀ past reply, Gives rt config r past (.ok reply) → Q past (.ok reply)) :
    (rotate rt config session p.now p.revokedAt p.scopes p.rawRefresh).Meets Fits
      (Asks rt config r) Q
      [⟨.getSessionByRefreshHash (rt.hashSecret p.token), .ok session⟩] := by
  unfold rotate
  refine meets_run (Asks.findSessionUser presents bound carries) fails (fun user named => ?_)
  split
  next => exact fails _ _
  next eligible =>
    split
    next =>
      exact meets_run (Asks.endSessions presents named) fails (fun _ _ => fails _ _)
    next =>
      have active : p.client.isSome → user.status = .active := by
        intro client
        rw [← bound] at client
        exact not_not.mp (fun other => eligible ⟨client, other⟩)
      refine meets_run (Asks.rotate presents bound carries named active) fails (fun _ _ => ?_)
      exact gives _ _ (Gives.refreshed (Asks.rotate presents bound carries named active) named)

theorem refresh_meets (token : String) (now revokedAt : Instant) (rawRefresh : String) :
    Met rt config (.refresh token now revokedAt rawRefresh) := by
  show (refresh rt config token now revokedAt rawRefresh).Meets _ _ _ _
  unfold refresh
  have presents : (IdentityRequest.refresh token now revokedAt rawRefresh).presented =
    some ⟨token, none, now, revokedAt, none, rawRefresh⟩ := rfl
  refine meets_asking (Asks.findSession presents) (fun session carries => ?_)
  split
  next => exact Gives.failed
  next studio =>
    have bound : session.oauthClientId = none := by
      simpa using fun client => studio (Or.inr client)
    exact rotate_meets presents bound carries (fun _ _ => Gives.failed) (fun _ _ given => given)

theorem finishAuthentication_meets (challengeId : Uuid) (credential : Credential)
    (now usedAt startedAt : Instant) (draw : SessionDraw) :
    Met rt config (.finishAuthentication challengeId credential now usedAt startedAt draw) := by
  show (finishAuthentication rt config challengeId credential now usedAt startedAt draw).Meets
    _ _ _ _
  unfold finishAuthentication
  split
  next => exact Gives.failed
  next =>
    refine meets_asking Asks.consumeCeremony (fun ceremony _ => ?_)
    split
    next => exact Gives.failed
    next rawId raw =>
      refine meets_asking (Asks.findPasskey raw) (fun found _ => ?_)
      cases found with
      | none => exact Gives.failed
      | some passkey =>
        dsimp only
        split
        next => exact Gives.failed
        next holder =>
          split
          next => exact Gives.failed
          next signCount backedUp verified =>
            refine meets_asking (Asks.findHolder (not_not.mp holder) verified) (fun user named => ?_)
            split
            next => exact Gives.failed
            next active =>
              have active : user.status = .active := not_not.mp active
              split
              next => exact Gives.failed
              next =>
                refine meets_asking (Asks.recordUse named active) (fun used _ => ?_)
                refine meets_asking (Asks.markSignedIn named active) (fun signedIn same => ?_)
                cases same
                exact meets_issueSession (Asks.issueSignedIn named active) (fun _ => rfl)

theorem authorize_meets (client : OAuthClient) (params : AuthorizationParams) (drawn : String)
    (now : Instant) :
    Met rt config (.authorize client params drawn now) := by
  show (authorize rt client params drawn now).Meets _ _ _ _
  unfold authorize
  split
  next => exact Gives.failed
  next =>
    exact meets_asking Asks.authorize (fun _ _ => Gives.plain not_false trivial)

theorem decide_meets (requestId : String) (userId : Uuid) (approve : Bool)
    (checkedAt decidedAt : Instant) (code : String) :
    Met rt config (.decide requestId userId approve checkedAt decidedAt code) := by
  show (decide rt requestId userId approve checkedAt decidedAt code).Meets _ _ _ _
  unfold decide pendingRequest
  rw [meets_andThen]
  refine meets_run Asks.findRequest (fun _ _ => Gives.failed) (fun request named => ?_)
  refine meets_runAs Asks.findClient (fun _ _ => Gives.failed) (fun client _ => ?_)
  cases pending : request.isPending checkedAt with
  | false => exact Gives.failed
  | true =>
    cases approve with
    | false =>
      exact meets_asking (Asks.deny named pending) (fun _ _ => Gives.plain not_false trivial)
    | true =>
      refine meets_asking (Asks.approve named pending) (fun _ _ => ?_)
      exact Gives.approved (Asks.approve named pending)

theorem loadAuthorizationCode_meets (clientId code : String) :
    Met rt config (.loadAuthorizationCode clientId code) := by
  show (loadAuthorizationCode rt clientId code).Meets _ _ _ _
  refine ⟨Asks.findCode, fun answer fits => ?_⟩
  cases answer with
  | ok request => exact Gives.loaded fits
  | error e =>
    dsimp only
    split
    next => cases ‹Except.error _ = Except.ok _›
    next => exact Gives.plain not_false trivial
    next => exact Gives.failed

theorem exchangeAuthorizationCode_meets (clientId : String) (granted : OrcheoAuthorizationCode)
    (consumedAt now : Instant) (draw : SessionDraw) :
    Met rt config (.exchangeAuthorizationCode clientId granted consumedAt now draw) := by
  show (exchangeAuthorizationCode rt config clientId granted consumedAt now draw).Meets _ _ _ _
  unfold exchangeAuthorizationCode
  refine meets_runAs Asks.consumeCode (fun _ _ => Gives.failed) (fun request _ => ?_)
  unfold raisedAs issueOauthSession
  rw [meets_andThen, Lib.Call.meets_bind]
  refine meets_run Asks.findApprover (fun _ _ => Gives.failed) (fun user named => ?_)
  split
  next => exact Gives.failed
  next eligible =>
    have active : user.status = .active := not_not.mp (fun other => eligible (Or.inl other))
    refine meets_run (Asks.grant named active) (fun _ _ => Gives.failed) (fun _ _ => ?_)
    exact Gives.signedIn (Asks.grant named active) rfl rfl

theorem meets_findOauthSession {token clientId : String} {now : Instant}
    {P : Past → IdentityOp → Prop} {Q : Past → Except IdentityError (Option AuthSession) → Prop}
    {past : Past} (asks : P past (.getSessionByRefreshHash (rt.hashSecret token)))
    (fails : ∀ past e, Q past (.error e)) (absent : ∀ past, Q past (.ok none))
    (found : ∀ session : AuthSession, session.refreshTokenHash = rt.hashSecret token →
      session.oauthClientId = some clientId →
      Q (⟨.getSessionByRefreshHash (rt.hashSecret token), .ok session⟩ :: past)
        (.ok (some session))) :
    (findOauthSession rt token clientId now).Meets Fits P Q past := by
  refine ⟨asks, fun answer fits => ?_⟩
  cases answer with
  | ok session =>
    show Q _ (.ok (if _ then none else some session))
    split
    next => exact absent _
    next bound => exact found session fits (not_not.mp (fun other => bound (Or.inl other)))
  | error e =>
    dsimp only
    split
    next => cases ‹Except.error _ = Except.ok _›
    next => exact absent _
    next => exact fails _ _

variable (clientId token : String)

theorem loadRefreshToken_meets (now : Instant) :
    Met rt config (.loadRefreshToken clientId token now) := by
  show (loadRefreshToken rt clientId token now).Meets _ _ _ _
  unfold loadRefreshToken
  rw [meets_andThen]
  exact meets_findOauthSession Asks.findGrant (fun _ _ => Gives.failed)
    (fun _ => Gives.plain not_false trivial) (fun _ _ _ => Gives.plain not_false trivial)

theorem exchangeRefreshToken_meets (scopes : List String)
    (foundAt now revokedAt : Instant) (rawRefresh : String) :
    Met rt config (.exchangeRefreshToken clientId token scopes foundAt now revokedAt rawRefresh) := by
  show (exchangeRefreshToken rt config clientId token scopes foundAt now revokedAt
    rawRefresh).Meets _ _ _ _
  unfold exchangeRefreshToken raisedAs refreshOauthSession
  rw [Lib.Call.meets_bind, meets_andThen]
  have presents : (IdentityRequest.exchangeRefreshToken clientId token scopes foundAt now revokedAt
    rawRefresh).presented = some ⟨token, some clientId, now, revokedAt, some scopes, rawRefresh⟩ := rfl
  refine meets_findOauthSession (Asks.findSession presents) (fun _ _ => Gives.failed)
    (fun _ => Gives.failed) (fun session carries bound => ?_)
  exact rotate_meets presents bound carries (fun _ _ => Gives.failed) (fun _ _ given => given)

theorem revokeToken_meets (foundAt revokedAt : Instant) :
    Met rt config (.revokeToken clientId token foundAt revokedAt) := by
  show (revokeToken rt clientId token foundAt revokedAt).Meets _ _ _ _
  unfold revokeToken
  rw [meets_andThen]
  refine meets_findOauthSession Asks.findRevoked (fun _ _ => Gives.failed)
    (fun _ => Gives.plain not_false trivial) (fun session carries bound => ?_)
  exact meets_asking (Asks.revokeGrant bound) (fun _ _ => Gives.plain not_false trivial)

theorem calls_meet (r : IdentityRequest) : Met rt config r := by
  have plain {op : IdentityOp} {r : IdentityRequest} {next : op.Result → IdentityCall Reply}
      (quiet : ¬ r.Issues) (asks : Asks rt config r [] op)
      (gives : ∀ a, ∃ reply, reply.Plain ∧ next a = .ok reply) :
      (run op next).Meets Fits (Asks rt config r) (Gives rt config r) [] := by
    refine meets_asking asks (fun a _ => ?_)
    obtain ⟨reply, handsOutNone, same⟩ := gives a
    rw [same]
    exact Gives.plain quiet handsOutNone
  cases r with
  | startChallenge email drawn rawCode createdAt now =>
    exact startChallenge_meets email drawn rawCode createdAt now
  | verifyCode email code now redeemedAt newUser createdAt draw =>
    exact verifyCode_meets email code now redeemedAt newUser createdAt draw
  | refresh token now revokedAt rawRefresh => exact refresh_meets token now revokedAt rawRefresh
  | beginAuthentication drawn challenge now =>
    show (beginAuthentication config drawn challenge now).Meets _ _ _ _
    unfold beginAuthentication
    split
    next => exact Gives.failed
    next => exact plain not_false (Asks.beginCeremony rfl) (fun _ => ⟨.ceremony drawn, trivial, rfl⟩)
  | finishAuthentication challengeId credential now usedAt startedAt draw =>
    exact finishAuthentication_meets challengeId credential now usedAt startedAt draw
  | logout userId now => exact plain not_false Asks.logout (fun count => ⟨.revoked count, trivial, rfl⟩)
  | registerClient client => exact plain not_false Asks.registerClient (fun _ => ⟨.done, trivial, rfl⟩)
  | authorize client params drawn now => exact authorize_meets client params drawn now
  | decide requestId userId approve checkedAt decidedAt code =>
    exact decide_meets requestId userId approve checkedAt decidedAt code
  | loadAuthorizationCode clientId code => exact loadAuthorizationCode_meets clientId code
  | exchangeAuthorizationCode clientId granted consumedAt now draw =>
    exact exchangeAuthorizationCode_meets clientId granted consumedAt now draw
  | loadRefreshToken clientId token now => exact loadRefreshToken_meets clientId token now
  | exchangeRefreshToken clientId token scopes foundAt now revokedAt rawRefresh =>
    exact exchangeRefreshToken_meets clientId token scopes foundAt now revokedAt rawRefresh
  | revokeToken clientId token foundAt revokedAt =>
    exact revokeToken_meets clientId token foundAt revokedAt
  | changeStatus userId status =>
    exact plain not_false Asks.changeStatus (fun _ => ⟨.done, trivial, rfl⟩)

def contract (rt : IdentityRuntime) (config : IdentityConfig) :
    Lib.Server.Contract IdentityOp.Answer IdentityRequest (Except IdentityError Reply) where
  fits := Fits
  asks := Asks rt config
  gives := Gives rt config

structure Valid (rt : IdentityRuntime) (config : IdentityConfig) (s : IdentityServer) : Prop where
  keyed : s.store.Keyed
  sound : Lib.Server.Sound (contract rt config) s

theorem valid_fresh {store : IdentityStore} (keyed : store.Keyed) :
    Valid rt config { store := store } := ⟨keyed, Lib.Server.sound_fresh⟩

section Runs

variable {b : Backend} {J : IdentityServer → Prop} {G : IdentityServer → IdentityTurn → Prop}
    (starts : ∀ (s : IdentityServer) r, Valid rt config s → J s → G s (.begin r) →
      J (s.started (IdentityRequest.call rt config) r))
    (answers : ∀ (s : IdentityServer) i r past op next, Valid rt config s → J s →
      s.threads[i]? = some ⟨r, past, .ask op next⟩ → Asks rt config r past op →
      G s (.advance i) → J (s.answered (IdentityStore.exec rt b) i r past op next))

include starts answers

theorem keep_step (s : IdentityServer) (turn : IdentityTurn) (good : Valid rt config s ∧ J s)
    (guard : G s turn) :
    Valid rt config (s.step rt config b turn) ∧ J (s.step rt config b turn) := by
  have kept := Lib.Server.keep_step (IdentityStore.exec rt b) (IdentityRequest.call rt config)
    (contract rt config) (I := fun s => s.store.Keyed ∧ J s) calls_meet
    (fun s op good => fits_exec good.1 op)
    (fun s r good sound guard => ⟨good.1, starts s r ⟨good.1, sound⟩ good.2 guard⟩)
    (fun s i r past op next good sound there asks guard =>
      ⟨good.1.exec op, answers s i r past op next ⟨good.1, sound⟩ good.2 there asks guard⟩)
    s turn ⟨⟨good.1.keyed, good.2⟩, good.1.sound⟩ guard
  exact ⟨⟨kept.1.1, kept.2⟩, kept.1.2⟩

theorem keep_run {s : IdentityServer} (good : Valid rt config s ∧ J s) {turns : List IdentityTurn}
    (guarded : Lib.AllSteps (IdentityServer.step rt config b) G s turns) :
    Valid rt config (turns.foldl (IdentityServer.step rt config b) s) ∧
      J (turns.foldl (IdentityServer.step rt config b) s) :=
  (guarded.always (I := fun s => Valid rt config s ∧ J s) (fun _ good => good)
    (keep_step starts answers) good).last

end Runs

end Orcheo.Identity
