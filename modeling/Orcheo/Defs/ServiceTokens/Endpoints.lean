import Mathlib.Data.List.Sort
import Orcheo.Defs.Routers.Authentication
import Orcheo.Defs.Workspaces.RepositoryLaws
import Orcheo.Defs.Workspaces.Routes

/-! Service tokens: how a request that carries one is authenticated, and how they are minted,
listed, read and revoked. -/

namespace Orcheo.ServiceTokens

open Lib (Dict)
open Routers (AuthRuntime AuthSettings AuthState AuthenticationError LimitKind RequestContext)
open Workspaces (Backend Principal RouteError WorkspaceContext WorkspaceRuntime WorkspaceStore)

structure TokenRecord extends Routers.ServiceTokenRecord where
  name : Option String := none
  secretPreview : Option String := none
  issuedAt : Option Instant := none
  rotationExpiresAt : Option Instant := none
  revocationReason : Option String := none
  rotatedTo : Option String := none
  lastUsedAt : Option Instant := none
  useCount : Nat := 0
  workspaceId : Option String := none
  deriving DecidableEq

namespace TokenRecord

variable (record : TokenRecord)

def isRevoked : Bool := record.revokedAt.isSome

def isExpired (now : Instant) : Bool :=
  record.expiresAt.any (fun expires => decide (expires ≤ now))

def isActive (now : Instant) : Bool := !record.isRevoked && !record.isExpired now

end TokenRecord

def frozenset (items : List String) : List String := items.dedup

def sorted (items : List String) : List String := items.insertionSort (· ≤ ·)

abbrev TokenStore := Dict String TokenRecord

namespace TokenStore

variable (b : Backend) (s : TokenStore)

def toRecord (record : TokenRecord) : TokenRecord :=
  match b with
  | .inMemory => record
  | .postgres => { record with lastUsedAt := none, useCount := 0 }

def findByHash (secretHash : String) : Option TokenRecord :=
  (s.values.find? (fun record => record.secretHash = secretHash)).map (toRecord b)

def findById (identifier : String) : Option TokenRecord :=
  (s.get? identifier).map (toRecord b)

def listForWorkspace (workspaceId : String) (now : Instant) : List TokenRecord :=
  let active := s.values.filter (fun record =>
    record.isActive now && record.workspaceId = some workspaceId)
  match b with
  | .inMemory => active
  | .postgres => (active.map (toRecord b)).reverse

def create (record : TokenRecord) : Bool × TokenStore :=
  match b with
  | .inMemory => (true, s.set record.identifier record)
  | .postgres =>
    if s.contains record.identifier then (false, s) else (true, s.set record.identifier record)

def update (record : TokenRecord) : TokenStore :=
  match b with
  | .inMemory => s.set record.identifier record
  | .postgres => match s.get? record.identifier with
    | none => s
    | some row => s.set record.identifier { record with
        name := row.name
        secretPreview := row.secretPreview
        lastUsedAt := row.lastUsedAt
        useCount := row.useCount }

def recordUsage (tokenId : String) (now : Instant) : TokenStore :=
  match s.get? tokenId with
  | none => s
  | some record =>
    s.set tokenId { record with lastUsedAt := some now, useCount := record.useCount + 1 }

end TokenStore

inductive Identity
  | token (record : TokenRecord)
  | other (context : RequestContext)

def Identity.context : Identity → RequestContext
  | token record => Routers.Authentication.serviceRecordToContext record.toServiceTokenRecord
  | other context => context

structure Directory where
  store : WorkspaceStore
  keyed : store.workspaces.KeyedBy Workspaces.Workspace.id

/-- What the resolution of the workspace reads.  What the rate limiter says is an input. -/
structure WorkspaceQuery where
  header : Option String := none
  allowed : Bool := true
  now : Instant := 0
  setAt : Instant := 0
  directory : Directory

structure Deployment where
  auth : AuthRuntime
  workspaces : WorkspaceRuntime
  uuid_showUuid (x : Uuid) : workspaces.uuid (workspaces.showUuid x) = some x
  settings : AuthSettings
  tokens : Backend
  directory : Backend

inductive TokenOp
  | findByHash (secretHash : String)
  | recordUsage (tokenId : String) (now : Instant)
  /-- the workspace of the request, which no token is read for -/
  | resolve (identity : Identity) (query : WorkspaceQuery)
  | create (record : TokenRecord)
  | findById (identifier : String)
  | update (record : TokenRecord)
  | listForWorkspace (workspaceId : String) (now : Instant)
  | recordAuditEvent (tokenId action : String)

abbrev TokenOp.Answer : TokenOp → Type
  | findByHash _ | findById _ => Option TokenRecord
  | resolve _ _ => Except RouteError WorkspaceContext
  | create _ => Bool
  | listForWorkspace _ _ => List TokenRecord
  | recordUsage _ _ | update _ | recordAuditEvent _ _ => Unit

variable (d : Deployment)

def principal (context : RequestContext) : Principal where
  subject := context.subject
  identityType := context.identityType
  workspaceIds := context.workspaceIds

def resolution (identity : Identity) (query : WorkspaceQuery) :
    Except RouteError WorkspaceContext :=
  ((Workspaces.resolveWorkspaceContext d.workspaces (principal identity.context) query.header
    query.allowed query.now query.setAt).run (WorkspaceStore.exec d.workspaces d.directory)
      query.directory.store).1

def TokenStore.exec : (op : TokenOp) → TokenStore → op.Answer × TokenStore
  | .findByHash secretHash, s => (findByHash d.tokens s secretHash, s)
  | .recordUsage tokenId now, s => ((), recordUsage s tokenId now)
  | .resolve identity query, s => (resolution d identity query, s)
  | .create record, s => create d.tokens s record
  | .findById identifier, s => (findById d.tokens s identifier, s)
  | .update record, s => ((), update d.tokens s record)
  | .listForWorkspace workspaceId now, s => (listForWorkspace d.tokens s workspaceId now, s)
  | .recordAuditEvent _ _, s => ((), s)

abbrev TokenCall (ε α : Type) := Lib.Call TokenOp.Answer (Except ε α)

structure Clock where
  checkTime : Instant := 0
  usedAt : Instant := 0
  usageTime : Instant := 0
  bootstrapTime : Instant := 0

section Authentication

variable (clock : Clock)

def tryAuthenticateServiceToken (token : String) :
    TokenCall AuthenticationError (Option TokenRecord) :=
  .ask (.findByHash (d.auth.sha256 token)) (fun
    | none => .done (.ok none)
    | some record =>
      if record.secretHash ≠ d.auth.sha256 token then .done (.ok none)
      else if record.isRevoked then .done (.error ⟨"auth.token_revoked", 403⟩)
      else if record.isExpired clock.checkTime then .done (.error ⟨"auth.token_expired", 403⟩)
      else .ask (.recordUsage record.identifier clock.usedAt) (fun _ =>
        .done (.ok (some { record with
          lastUsedAt := some clock.usageTime
          useCount := record.useCount + 1 }))))

def authenticateServiceToken (token : String) : TokenCall AuthenticationError (Option Identity) :=
  (tryAuthenticateServiceToken d clock token).andThen (fun
    | some record => .done (.ok (some (.token record)))
    | none => .done ((Routers.Authentication.authenticateBootstrapToken { settings := d.settings }
        token clock.bootstrapTime).map (fun context => context.map .other)))

def authenticate (token : String) : TokenCall AuthenticationError Identity :=
  if token = "" then .done (.error ⟨"auth.missing_token", 401⟩)
  else
    let jwt := if d.settings.jwtConfigured ∧ token.toList.count '.' = 2 then
      some (Routers.Authentication.authenticateJwt d.auth token) else none
    match jwt with
    | some (.ok context) => .done (.ok (.other context))
    | _ => (authenticateServiceToken d clock token).andThen (fun
      | some identity => .done (.ok identity)
      | none => match jwt with
        | some (.error e) => .done (.error e)
        | _ =>
          if d.settings.jwtConfigured then
            .done ((Routers.Authentication.authenticateJwt d.auth token).map .other)
          else .done (.error ⟨"auth.invalid_token", 401⟩))

end Authentication

inductive Caller
  | bearer (token : String) (session : Option RequestContext)
  | context (context : RequestContext)

structure TokenDraw where
  secret : String
  identifier : String
  now : Instant := 0

/-- Any other request of the API may be made in a workspace, or without one. -/
inductive TokenRoute
  | createServiceToken (name : Option String) (scopes : List String)
      (expiresInSeconds : Option { n : Int // 60 ≤ n }) (draw : TokenDraw)
  | listServiceTokens (now : Instant)
  | getServiceToken (tokenId : String)
  | revokeServiceToken (tokenId reason : String) (now : Instant)
  | other (inWorkspace : Bool)

structure TokenRequest where
  caller : Caller
  host : Option String := none
  /-- what the rate limiters of authentication say -/
  admits : LimitKind → String → Bool := fun _ _ => true
  clock : Clock := {}
  query : WorkspaceQuery
  route : TokenRoute

structure ServiceTokenResponse where
  identifier : String
  name : Option String
  secret : Option String
  secretPreview : Option String
  scopes : List String
  workspaceIds : List String
  issuedAt : Option Instant
  expiresAt : Option Instant
  lastUsedAt : Option Instant
  useCount : Nat
  revokedAt : Option Instant
  revocationReason : Option String
  rotatedTo : Option String
  deriving DecidableEq

def recordToResponse (record : TokenRecord) (secret : Option String := none) :
    ServiceTokenResponse where
  identifier := record.identifier
  name := record.name
  secret := secret
  secretPreview := record.secretPreview
  scopes := sorted record.scopes
  workspaceIds := sorted record.workspaceIds
  issuedAt := record.issuedAt
  expiresAt := record.expiresAt
  lastUsedAt := record.lastUsedAt
  useCount := record.useCount
  revokedAt := record.revokedAt
  revocationReason := record.revocationReason
  rotatedTo := record.rotatedTo

/-- What another route answers is left out. -/
inductive TokenReply
  | token (response : ServiceTokenResponse)
  | tokens (responses : List ServiceTokenResponse)
  | noContent
  | served
  deriving DecidableEq

def TokenReply.shown : TokenReply → List ServiceTokenResponse
  | token response => [response]
  | tokens responses => responses
  | noContent | served => []

/-- `as_http_exception` -/
def httpError (e : AuthenticationError) : RouteError := ⟨e.statusCode, some e.code⟩

def asHttp {α : Type} : Except AuthenticationError α → Except RouteError α
  | .error e => .error (httpError e)
  | .ok a => .ok a

section Request

variable (request : TokenRequest)

def TokenRequest.limits : AuthState := { settings := d.settings, admits := request.admits }

def attemptBearerAuth (token : String) (session : Option RequestContext) :
    TokenCall RouteError Identity :=
  (authenticate d request.clock token).bind (fun
    | .error e =>
      if d.settings.enforce then .done (.error (httpError e))
      else match session with
        | some context => .done (.ok (.other context))
        | none => .done (.error (httpError ⟨"auth.invalid_token", 401⟩))
    | .ok identity => .done (asHttp (do
      Routers.Authentication.limitIdentity (request.limits d) identity.context
      Routers.Authentication.rejectOauthClientToken identity.context
      return identity)))

def authenticateRequest : TokenCall RouteError Identity :=
  (Lib.Call.done (asHttp (Routers.Authentication.checkLimit (request.limits d) .ip request.host
    "auth.rate_limited.ip")) : TokenCall RouteError Unit).andThen (fun _ =>
      match request.caller with
      | .bearer token session => attemptBearerAuth d request token session
      | .context context => .done (.ok (.other context)))

variable (identity : Identity)

def resolveWorkspace : TokenCall RouteError WorkspaceContext :=
  .ask (.resolve identity request.query) .done

def requireAuthenticated : Except RouteError Unit :=
  if identity.context.isAuthenticated then .ok ()
  else .error ⟨401, some "auth.authentication_required"⟩

/-- `ensure_scopes` -/
def requireScopes (scopes : List String) : Except RouteError Unit :=
  let missing := scopes.filter (fun scope =>
    scope ≠ "" && !identity.context.scopes.contains scope)
  if missing.isEmpty then .ok () else .error ⟨403, some "auth.missing_scope"⟩

def mint (name : Option String) (scopes workspaceIds : List String)
    (expiresIn : Option { n : Int // 60 ≤ n }) (workspaceId : Option String) (draw : TokenDraw) :
    TokenCall RouteError TokenRecord :=
  let record : TokenRecord := {
    identifier := draw.identifier
    name := name
    secretHash := d.auth.sha256 draw.secret
    secretPreview := some (String.ofList (draw.secret.toList.drop (draw.secret.length - 4)))
    scopes := frozenset scopes
    workspaceIds := frozenset workspaceIds
    issuedAt := some draw.now
    expiresAt := expiresIn.map (fun n => draw.now + seconds n.val)
    workspaceId := workspaceId }
  .ask (.create record) (fun
    | false => .done (.error .unhandled)
    | true => .ask (.recordAuditEvent record.identifier "created") (fun _ => .done (.ok record)))

/-- A token that is not there raises a `KeyError`. -/
def revoke (identifier reason : String) (now : Instant) : TokenCall RouteError TokenRecord :=
  .ask (.findById identifier) (fun
    | none => .done (.error .unhandled)
    | some record =>
      let updated := { record with revokedAt := some now, revocationReason := some reason }
      .ask (.update updated) (fun _ =>
        .ask (.recordAuditEvent identifier "revoked") (fun _ => .done (.ok updated))))

def tokenNotFound : RouteError := ⟨404, some "token.not_found"⟩

def requireWorkspaceToken (tokenId : String) (context : WorkspaceContext) :
    TokenCall RouteError TokenRecord :=
  .ask (.findById tokenId) (fun
    | none => .done (.error tokenNotFound)
    | some record =>
      if record.workspaceId ≠ some (d.workspaces.showUuid context.workspaceId) then
        .done (.error tokenNotFound)
      else .done (.ok record))

def createServiceToken (name : Option String) (scopes : List String)
    (expiresInSeconds : Option { n : Int // 60 ≤ n }) (draw : TokenDraw) (identity : Identity)
    (context : WorkspaceContext) : TokenCall RouteError TokenReply :=
  match requireAuthenticated identity, requireScopes identity scopes with
  | .error e, _ | .ok _, .error e => .done (.error e)
  | .ok _, .ok _ =>
    let workspaceId := d.workspaces.showUuid context.workspaceId
    (mint d name scopes [workspaceId] expiresInSeconds (some workspaceId) draw).andThen (fun
      record => .done (.ok (.token (recordToResponse record (some draw.secret)))))

def listServiceTokens (now : Instant) (identity : Identity) (context : WorkspaceContext) :
    TokenCall RouteError TokenReply :=
  match requireAuthenticated identity with
  | .error e => .done (.error e)
  | .ok _ => .ask (.listForWorkspace (d.workspaces.showUuid context.workspaceId) now)
    (fun records => .done (.ok (.tokens (records.map (fun record => recordToResponse record)))))

def getServiceToken (tokenId : String) (identity : Identity) (context : WorkspaceContext) :
    TokenCall RouteError TokenReply :=
  match requireAuthenticated identity with
  | .error e => .done (.error e)
  | .ok _ => (requireWorkspaceToken d tokenId context).andThen (fun record =>
    .done (.ok (.token (recordToResponse record))))

def revokeServiceToken (tokenId reason : String) (now : Instant) (identity : Identity)
    (context : WorkspaceContext) : TokenCall RouteError TokenReply :=
  match requireAuthenticated identity with
  | .error e => .done (.error e)
  | .ok _ => (requireWorkspaceToken d tokenId context).andThen (fun _ =>
    (revoke tokenId reason now).andThen (fun _ => .done (.ok .noContent)))

def TokenRequest.handler (context : WorkspaceContext) :
    TokenCall RouteError TokenReply :=
  match request.route with
  | .createServiceToken name scopes expiresInSeconds draw =>
    createServiceToken d name scopes expiresInSeconds draw identity context
  | .listServiceTokens now => listServiceTokens d now identity context
  | .getServiceToken tokenId => getServiceToken d tokenId identity context
  | .revokeServiceToken tokenId reason now =>
    revokeServiceToken d tokenId reason now identity context
  | .other _ => .done (.ok .served)

def TokenRequest.call : TokenCall RouteError TokenReply :=
  (authenticateRequest d request).andThen (fun identity =>
    match request.route with
    | .other false => .done (.ok .served)
    | _ => (resolveWorkspace request identity).andThen (request.handler d identity))

end Request

end Orcheo.ServiceTokens
