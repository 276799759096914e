import Orcheo.Defs.Identity.Repository

/-! The calls of the identity service, the passkey service and the OAuth provider. -/

namespace Orcheo.Identity

structure IdentityConfig where
  issuer : String := "https://auth.orcheo.cloud"
  audience : Option String := none
  accessTtl : Duration := seconds 900
  challengeTtl : Duration := seconds (15 * 60)
  sessionTtl : Duration := seconds (30 * 24 * 3600)
  otpMaxAttempts : Nat := 5
  allowedEmailDomains : List String := []
  webauthnRpId : Option String := none
  passkeyChallengeTtl : Duration := seconds 300

def authorizationRequestTtl : Duration := seconds (10 * 60)

def authorizationCodeTtl : Duration := seconds (5 * 60)

def mcpResourcePath : String := "/api/mcp"

def defaultUserScopes : List String :=
  ["workflows:read", "workflows:write", "workflows:execute", "vault:read", "vault:write",
    "workspaces:read", "admin:tokens:read"]

structure AccessToken where
  sub : Uuid
  email : String
  emailVerified : Bool
  name : Option String
  scopes : List String
  iss : String
  iat : Instant
  exp : Instant
  aud : Option String
  authTime : Instant
  clientId : Option String
  deriving DecidableEq

structure IssuedTokens where
  accessToken : AccessToken
  refreshToken : String
  expiresIn : Duration
  deriving DecidableEq

structure OrcheoAuthorizationCode where
  code : String
  scopes : List String
  expiresAt : Instant
  clientId : String
  codeChallenge : String
  redirectUri : String
  redirectUriProvidedExplicitly : Bool
  resource : Option String
  requestId : String
  userId : Uuid
  deriving DecidableEq

structure AuthorizationParams where
  redirectUri : String
  redirectUriProvidedExplicitly : Bool
  codeChallenge : String
  state : Option String := none
  scopes : Option (List String) := none
  resource : Option String := none

structure SessionDraw where
  id : Uuid
  refreshToken : String
  deriving DecidableEq

inductive IdentityRequest
  | startChallenge (email : String) (id : Uuid) (rawCode : String) (createdAt now : Instant)
  | verifyCode (email code : String) (now redeemedAt : Instant) (newUser : Uuid)
      (createdAt : Instant) (draw : SessionDraw)
  | refresh (refreshToken : String) (now revokedAt : Instant) (rawRefresh : String)
  | beginAuthentication (id : Uuid) (challenge : String) (now : Instant)
  | finishAuthentication (challengeId : Uuid) (credential : Credential)
      (now usedAt startedAt : Instant) (draw : SessionDraw)
  | logout (userId : Uuid) (now : Instant)
  | registerClient (client : OAuthClient)
  | authorize (client : OAuthClient) (params : AuthorizationParams) (id : String) (now : Instant)
  | decide (requestId : String) (userId : Uuid) (approve : Bool) (checkedAt decidedAt : Instant)
      (code : String)
  | loadAuthorizationCode (clientId authorizationCode : String)
  | exchangeAuthorizationCode (clientId : String) (authorizationCode : OrcheoAuthorizationCode)
      (consumedAt now : Instant) (draw : SessionDraw)
  | loadRefreshToken (clientId refreshToken : String) (now : Instant)
  | exchangeRefreshToken (clientId refreshToken : String) (scopes : List String)
      (foundAt now revokedAt : Instant) (rawRefresh : String)
  | revokeToken (clientId refreshToken : String) (foundAt revokedAt : Instant)
  /-- by an administrator -/
  | changeStatus (userId : Uuid) (status : UserStatus)

inductive Reply
  | done
  | verified (user : User) (tokens : IssuedTokens)
  | issued (tokens : IssuedTokens)
  | ceremony (challengeId : Uuid)
  | revoked (count : Nat)
  | consent (requestId : String)
  | denied (redirectUri : String) (state : Option String)
  | approved (redirectUri code : String) (state : Option String)
  | authorizationCode (code : Option OrcheoAuthorizationCode)
  | refreshToken (session : Option AuthSession)
  deriving DecidableEq

def Reply.tokens : Reply → Option IssuedTokens
  | verified _ tokens | issued tokens => some tokens
  | _ => none

abbrev IdentityCall (α : Type) := Lib.Call IdentityOp.Answer (Except IdentityError α)

namespace IdentityCall

variable {α : Type}

def ok (a : α) : IdentityCall α := .done (.ok a)

def raise (e : IdentityError) : IdentityCall α := .done (.error e)

end IdentityCall

section Calls

open IdentityCall

variable {α : Type}

def run (op : IdentityOp) (next : op.Result → IdentityCall α) : IdentityCall α :=
  .ask op (fun
    | .error e => raise e
    | .ok a => next a)

def runAs (op : IdentityOp) (caught raised : IdentityError) (next : op.Result → IdentityCall α) :
    IdentityCall α :=
  .ask op (fun
    | .error e => raise (if e = caught then raised else e)
    | .ok a => next a)

def raisedAs (caught raised : IdentityError) (call : IdentityCall α) : IdentityCall α :=
  call.bind (fun
    | .error e => raise (if e = caught then raised else e)
    | .ok a => ok a)

variable (rt : IdentityRuntime) (config : IdentityConfig)

def isEmailAllowed (email : String) : Bool :=
  isEmailDomainAllowed rt.toTextRuntime email config.allowedEmailDomains

def newChallenge (email : String) (id : Uuid) (rawCode : String) (createdAt now : Instant) :
    AuthEmailChallenge where
  id := id
  email := email
  codeHash := rt.hashSecret rawCode
  createdAt := createdAt
  expiresAt := now + config.challengeTtl

def startChallenge (email : String) (id : Uuid) (rawCode : String) (createdAt now : Instant) :
    IdentityCall Reply :=
  match normalizeEmail rt.toTextRuntime email with
  | none => raise .invalidEmail
  | some normalized =>
    if !isEmailAllowed rt config normalized then raise .emailDomainNotAllowed
    else run (.addChallenge (newChallenge rt config normalized id rawCode createdAt now))
      (fun _ => ok .done)

variable (user : User)

def mintAccess (now : Instant) (session : AuthSession) : AccessToken where
  sub := user.id
  email := user.email
  emailVerified := user.emailVerified
  name := user.name
  scopes := match session.oauthClientId with
    | none => defaultUserScopes
    | some _ => session.scopes.getD []
  iss := config.issuer
  iat := now
  exp := now + config.accessTtl
  aud := config.audience.filter (fun a => a ≠ "")
  authTime := session.createdAt
  clientId := session.oauthClientId

def issuedTokens (now : Instant) (session : AuthSession) (rawRefresh : String) :
    IssuedTokens where
  accessToken := mintAccess config user now session
  refreshToken := rawRefresh
  expiresIn := config.accessTtl

def newSession (userId : Uuid) (now : Instant) (draw : SessionDraw) : AuthSession where
  id := draw.id
  userId := userId
  refreshTokenHash := rt.hashSecret draw.refreshToken
  createdAt := now
  expiresAt := now + config.sessionTtl

def issueSession (now : Instant) (draw : SessionDraw) : IdentityCall IssuedTokens :=
  let session := newSession rt config user.id now draw
  run (.addSession session) (fun _ => ok (issuedTokens config user now session draw.refreshToken))

def newUserFor (email : String) (now : Instant) (newUser : Uuid) (createdAt : Instant) : User where
  id := newUser
  email := email
  emailVerified := true
  createdAt := createdAt
  lastLoginAt := some now

def verifiedUser (existing : User) (now : Instant) : User :=
  { existing with emailVerified := true, lastLoginAt := some now }

def findOrCreateUser (email : String) (now : Instant) (newUser : Uuid) (createdAt : Instant) :
    IdentityCall User :=
  run (.getUserByEmail email) (fun
    | none => run (.createUser (newUserFor email now newUser createdAt)) ok
    | some existing => run (.updateUser (verifiedUser existing now)) ok)

def redeem (challenge : AuthEmailChallenge) (redeemedAt : Instant) (newUser : Uuid)
    (createdAt : Instant) (draw : SessionDraw) : IdentityCall Reply :=
  if !isEmailAllowed rt config challenge.email then raise .emailDomainNotAllowed
  else runAs (.consumeChallenge challenge redeemedAt config.otpMaxAttempts)
    .challengeNotFound .challengeExpired (fun consumed =>
      (findOrCreateUser consumed.email redeemedAt newUser createdAt).andThen (fun user =>
        (issueSession rt config user redeemedAt draw).andThen (fun tokens =>
          ok (.verified user tokens))))

def verifyCode (email code : String) (now redeemedAt : Instant) (newUser : Uuid)
    (createdAt : Instant) (draw : SessionDraw) : IdentityCall Reply :=
  match normalizeEmail rt.toTextRuntime email with
  | none => raise .invalidEmail
  | some normalized => run (.findActiveChallengeForEmail normalized now) (fun
    | none => raise .challenge
    | some challenge =>
      if config.otpMaxAttempts ≤ challenge.attempts then raise .challengeLocked
      else if rt.hashSecret code ≠ challenge.codeHash then
        run (.incrementChallengeAttempts challenge.id now config.otpMaxAttempts) (fun updated =>
          if config.otpMaxAttempts ≤ updated.attempts then raise .challengeLocked
          else raise .challenge)
      else redeem rt config challenge redeemedAt newUser createdAt draw)

def signedInUser (now : Instant) : User := { user with lastLoginAt := some now }

def startSession (now : Instant) (draw : SessionDraw) : IdentityCall Reply :=
  run (.updateUser (signedInUser user now)) (fun signedIn =>
    (issueSession rt config signedIn now draw).andThen (fun tokens =>
      ok (.verified signedIn tokens)))

def rotated (session : AuthSession) (now : Instant) (scopes : Option (List String))
    (rawRefresh : String) : AuthSession :=
  { session with
    refreshTokenHash := rt.hashSecret rawRefresh
    expiresAt := now + config.sessionTtl
    scopes := scopes.or session.scopes }

def rotate (session : AuthSession) (now revokedAt : Instant) (scopes : Option (List String))
    (rawRefresh : String) : IdentityCall Reply :=
  run (.getUser session.userId) (fun (user : User) =>
    if session.oauthClientId.isSome ∧ user.status ≠ .active then raise .sessionNotFound
    else if !isEmailAllowed rt config user.email then
      run (.revokeSessionsForUser user.id revokedAt) (fun _ => raise .sessionNotFound)
    else
      let rotated := rotated rt config session now scopes rawRefresh
      run (.rotateSession rotated session.refreshTokenHash now) (fun _ =>
        ok (.issued (issuedTokens config user now rotated rawRefresh))))

def refresh (refreshToken : String) (now revokedAt : Instant) (rawRefresh : String) :
    IdentityCall Reply :=
  run (.getSessionByRefreshHash (rt.hashSecret refreshToken)) (fun (session : AuthSession) =>
    if !session.isActive now ∨ session.oauthClientId.isSome then raise .sessionNotFound
    else rotate rt config session now revokedAt none rawRefresh)

def logout (userId : Uuid) (now : Instant) : IdentityCall Reply :=
  run (.revokeSessionsForUser userId now) (fun count => ok (.revoked count))

def beginAuthentication (id : Uuid) (challenge : String) (now : Instant) : IdentityCall Reply :=
  match config.webauthnRpId with
  | none => raise .passkeysUnavailable
  | some _ => run (.addPasskeyChallenge {
      id := id
      ceremony := .authentication
      challenge := challenge
      createdAt := now
      expiresAt := now + config.passkeyChallengeTtl }) (fun _ => ok (.ceremony id))

def signInFailed : IdentityError := .passkeyRejected "auth.passkey_invalid"

def finishAuthentication (challengeId : Uuid) (credential : Credential)
    (now usedAt startedAt : Instant) (draw : SessionDraw) : IdentityCall Reply :=
  match config.webauthnRpId with
  | none => raise .passkeysUnavailable
  | some _ => run (.consumePasskeyChallenge challengeId .authentication none now) (fun challenge =>
    match credential.rawId with
    | none => raise signInFailed
    | some rawId => run (.getPasskeyByCredentialId rawId) (fun
      | none => raise (.passkeyRejected "auth.passkey_unknown")
      | some passkey =>
        if credential.userHandle ≠ some passkey.userId then raise signInFailed
        else match rt.verifyAssertion credential challenge passkey with
          | none => raise signInFailed
          | some (signCount, backedUp) => run (.getUser passkey.userId) (fun (user : User) =>
            if user.status ≠ .active then raise (.passkeyRejected "auth.account_disabled")
            else if !isEmailAllowed rt config user.email then raise .emailDomainNotAllowed
            else run (.recordPasskeyUse passkey.id signCount backedUp usedAt) (fun _ =>
              startSession rt config user startedAt draw))))

def newRequest (client : OAuthClient) (params : AuthorizationParams) (id : String)
    (now : Instant) : OAuthAuthorizationRequest where
  id := id
  clientId := client.clientId
  redirectUri := params.redirectUri
  redirectUriProvidedExplicitly := params.redirectUriProvidedExplicitly
  codeChallenge := params.codeChallenge
  state := params.state
  scopes := match params.scopes with
    | some (scope :: scopes) => scope :: scopes
    | _ => rt.words (client.scope.getD "")
  resource := params.resource
  createdAt := now
  expiresAt := now + authorizationRequestTtl

def authorize (client : OAuthClient) (params : AuthorizationParams) (id : String) (now : Instant) :
    IdentityCall Reply :=
  if params.resource.any (fun r => rt.urlPath r != mcpResourcePath) then raise .invalidRequest
  else run (.addAuthorizationRequest (newRequest rt client params id now))
    (fun _ => ok (.consent id))

def pendingRequest (requestId : String) (checkedAt : Instant) :
    IdentityCall OAuthAuthorizationRequest :=
  run (.getAuthorizationRequest requestId) (fun (request : OAuthAuthorizationRequest) =>
    runAs (.getOauthClient request.clientId) .clientNotFound .requestNotFound (fun _ =>
      if !request.isPending checkedAt then raise .requestNotFound else ok request))

def denial (request : OAuthAuthorizationRequest) (now : Instant) : OAuthAuthorizationRequest :=
  { request with decidedAt := some now }

def approval (request : OAuthAuthorizationRequest) (now : Instant) (userId : Uuid)
    (code : String) : OAuthAuthorizationRequest :=
  { request with
    decidedAt := some now
    userId := some userId
    codeHash := some (rt.hashSecret code)
    codeExpiresAt := some (now + authorizationCodeTtl) }

def decide (requestId : String) (userId : Uuid) (approve : Bool) (checkedAt decidedAt : Instant)
    (code : String) : IdentityCall Reply :=
  (pendingRequest requestId checkedAt).andThen (fun request =>
    if !approve then
      run (.updateAuthorizationRequest (denial request decidedAt)) (fun _ =>
        ok (.denied request.redirectUri request.state))
    else
      run (.updateAuthorizationRequest (approval rt request decidedAt userId code)) (fun _ =>
        ok (.approved request.redirectUri code request.state)))

def grantedCode (clientId authorizationCode : String) (request : OAuthAuthorizationRequest) :
    Option OrcheoAuthorizationCode :=
  match request.userId, request.codeExpiresAt with
  | some userId, some expiresAt =>
    if request.clientId ≠ clientId ∨ request.consumedAt.isSome then none
    else some {
      code := authorizationCode
      scopes := request.scopes
      expiresAt := expiresAt
      clientId := request.clientId
      codeChallenge := request.codeChallenge
      redirectUri := request.redirectUri
      redirectUriProvidedExplicitly := request.redirectUriProvidedExplicitly
      resource := request.resource
      requestId := request.id
      userId := userId }
  | _, _ => none

def loadAuthorizationCode (clientId authorizationCode : String) : IdentityCall Reply :=
  .ask (.getAuthorizationRequestByCodeHash (rt.hashSecret authorizationCode)) (fun
    | .ok request => ok (.authorizationCode (grantedCode clientId authorizationCode request))
    | .error .requestNotFound => ok (.authorizationCode none)
    | .error e => raise e)

def oauthSession (userId : Uuid) (clientId : String) (scopes : List String) (now : Instant)
    (draw : SessionDraw) : AuthSession :=
  { newSession rt config userId now draw with
    oauthClientId := some clientId
    scopes := some scopes }

def issueOauthSession (userId : Uuid) (clientId : String) (scopes : List String) (now : Instant)
    (draw : SessionDraw) : IdentityCall IssuedTokens :=
  run (.getUser userId) (fun (user : User) =>
    if user.status ≠ .active ∨ !isEmailAllowed rt config user.email then raise .sessionNotFound
    else
      let session := oauthSession rt config user.id clientId scopes now draw
      run (.addSession session) (fun _ =>
        ok (issuedTokens config user now session draw.refreshToken)))

def exchangeAuthorizationCode (clientId : String) (authorizationCode : OrcheoAuthorizationCode)
    (consumedAt now : Instant) (draw : SessionDraw) : IdentityCall Reply :=
  runAs (.consumeAuthorizationCode authorizationCode.requestId consumedAt)
    .requestNotFound .invalidGrant (fun _ =>
      (raisedAs .sessionNotFound .invalidGrant (issueOauthSession rt config
        authorizationCode.userId clientId authorizationCode.scopes now draw)).andThen (fun tokens =>
          ok (.issued tokens)))

def findOauthSession (refreshToken clientId : String) (now : Instant) :
    IdentityCall (Option AuthSession) :=
  .ask (.getSessionByRefreshHash (rt.hashSecret refreshToken)) (fun
    | .ok session => ok (if session.oauthClientId ≠ some clientId ∨ !session.isActive now then none
        else some session)
    | .error .sessionNotFound => ok none
    | .error e => raise e)

def loadRefreshToken (clientId refreshToken : String) (now : Instant) : IdentityCall Reply :=
  (findOauthSession rt refreshToken clientId now).andThen (fun session =>
    ok (.refreshToken session))

def refreshOauthSession (refreshToken clientId : String) (scopes : List String)
    (foundAt now revokedAt : Instant) (rawRefresh : String) : IdentityCall Reply :=
  (findOauthSession rt refreshToken clientId foundAt).andThen (fun
    | none => raise .sessionNotFound
    | some session => rotate rt config session now revokedAt (some scopes) rawRefresh)

def exchangeRefreshToken (clientId refreshToken : String) (scopes : List String)
    (foundAt now revokedAt : Instant) (rawRefresh : String) : IdentityCall Reply :=
  raisedAs .sessionNotFound .invalidGrant
    (refreshOauthSession rt config refreshToken clientId scopes foundAt now revokedAt rawRefresh)

def revokeToken (clientId refreshToken : String) (foundAt revokedAt : Instant) :
    IdentityCall Reply :=
  (findOauthSession rt refreshToken clientId foundAt).andThen (fun
    | none => ok .done
    | some session =>
      run (.updateSession { session with revokedAt := some revokedAt }) (fun _ => ok .done))

def IdentityRequest.call : IdentityRequest → IdentityCall Reply
  | startChallenge email id rawCode createdAt now =>
    Identity.startChallenge rt config email id rawCode createdAt now
  | verifyCode email code now redeemedAt newUser createdAt draw =>
    Identity.verifyCode rt config email code now redeemedAt newUser createdAt draw
  | refresh refreshToken now revokedAt rawRefresh =>
    Identity.refresh rt config refreshToken now revokedAt rawRefresh
  | beginAuthentication id challenge now => Identity.beginAuthentication config id challenge now
  | finishAuthentication challengeId credential now usedAt startedAt draw =>
    Identity.finishAuthentication rt config challengeId credential now usedAt startedAt draw
  | logout userId now => Identity.logout userId now
  | registerClient client => run (.addOauthClient client) (fun _ => ok .done)
  | authorize client params id now => Identity.authorize rt client params id now
  | decide requestId userId approve checkedAt decidedAt code =>
    Identity.decide rt requestId userId approve checkedAt decidedAt code
  | loadAuthorizationCode clientId authorizationCode =>
    Identity.loadAuthorizationCode rt clientId authorizationCode
  | exchangeAuthorizationCode clientId authorizationCode consumedAt now draw =>
    Identity.exchangeAuthorizationCode rt config clientId authorizationCode consumedAt now draw
  | loadRefreshToken clientId refreshToken now =>
    Identity.loadRefreshToken rt clientId refreshToken now
  | exchangeRefreshToken clientId refreshToken scopes foundAt now revokedAt rawRefresh =>
    Identity.exchangeRefreshToken rt config clientId refreshToken scopes foundAt now revokedAt
      rawRefresh
  | revokeToken clientId refreshToken foundAt revokedAt =>
    Identity.revokeToken rt clientId refreshToken foundAt revokedAt
  | changeStatus userId status => run (.setStatus userId status) (fun _ => ok .done)

end Calls

abbrev IdentityServer :=
  Lib.Server IdentityStore IdentityRequest IdentityOp.Answer (Except IdentityError Reply)

abbrev IdentityTurn := Lib.Turn IdentityRequest

abbrev IdentityThread := Lib.Thread IdentityRequest IdentityOp.Answer (Except IdentityError Reply)

def IdentityServer.step (rt : IdentityRuntime) (config : IdentityConfig) (b : Backend)
    (s : IdentityServer) (turn : IdentityTurn) : IdentityServer :=
  Lib.Server.step (IdentityStore.exec rt b) (IdentityRequest.call rt config) s turn

end Orcheo.Identity
