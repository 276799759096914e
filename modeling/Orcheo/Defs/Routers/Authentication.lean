import Orcheo.Defs.Routers.Webhook

/-! Who is calling: bearer tokens, service tokens and the local development session. -/

namespace Orcheo.Routers

open Lib (Dict)

structure AuthenticationError where
  code : String
  statusCode : Nat := 401
  deriving DecidableEq, Repr

abbrev Claims := List (String × Json)

structure AuthRuntime extends RouterRuntime where
  split : String → List String
  sha256 : String → String
  decodeJwt : String → Except AuthenticationError Claims
  decodeChatkitJwt : String → Option Claims
  inNetwork : String → String → Bool

def AuthRuntime.ascii : AuthRuntime where
  toRouterRuntime := .ascii
  split s := ((s.toList.splitOn ' ').filter (· ≠ [])).map String.ofList
  sha256 token := token
  decodeJwt _ := .error { code := "auth.invalid_token" }
  decodeChatkitJwt _ := none
  inNetwork host entry := host = entry

structure RequestContext where
  subject : String
  identityType : String
  scopes : List String := []
  workspaceIds : List String := []
  tokenId : Option String := none
  claims : Claims := []
  deriving DecidableEq

namespace RequestContext

def isAuthenticated (context : RequestContext) : Bool := context.identityType ≠ "anonymous"

def anonymous : RequestContext := { subject := "anonymous", identityType := "anonymous" }

end RequestContext

structure ServiceTokenRecord where
  identifier : String
  secretHash : String
  scopes : List String := []
  workspaceIds : List String := []
  expiresAt : Option Instant := none
  revokedAt : Option Instant := none
  deriving DecidableEq, Repr

structure AuthSettings where
  enforce : Bool := true
  jwtConfigured : Bool := false
  bootstrapServiceToken : Option String := none
  bootstrapTokenScopes : List String := []
  bootstrapTokenExpiresAt : Option Instant := none
  devLoginEnabled : Bool := false
  devLoginCookieName : Option String := none
  devLoginScopes : List String := []
  devLoginWorkspaceIds : List String := []
  trustedProxySecret : Option String := none
  trustedProxyIps : List String := []

inductive LimitKind
  | ip | identity | chatkitIp | chatkitJwt | chatkitWorkflow | chatkitSession | workspace
  deriving DecidableEq, Repr

/-- What authentication reads: its settings, the service tokens by digest, the members of
each workspace, and the verdicts of the rate limiters. -/
structure AuthState where
  settings : AuthSettings := {}
  serviceTokens : Dict String ServiceTokenRecord := ∅
  memberships : List (String × String) := []
  admits : LimitKind → String → Bool := fun _ _ => true

section Coerce

variable (rt : RouterRuntime)

def pyStr : Json → String
  | .str s => s
  | value => rt.str value

/-- `value or default` -/
def orElseJson (value : Option Json) (default : Json) : Json :=
  match value with
  | some value => if truthyJson value then value else default
  | none => default

mutual
/-- More than the nesting that `json.loads` can uncover in a value. -/
def depthBound : Json → Nat
  | .null => 1
  | .bool _ => 1
  | .int _ => 1
  | .float _ => 1
  | .str s => s.length + 1
  | .arr xs => depthBoundList xs + 1
  | .obj kvs => depthBoundEntries kvs + 1

def depthBoundList : List Json → Nat
  | [] => 0
  | x :: xs => max (depthBound x) (depthBoundList xs)

def depthBoundEntries : List (String × Json) → Nat
  | [] => 0
  | (_, x) :: xs => max (depthBound x) (depthBoundEntries xs)
end

/-- The fallback of `parse_string_items` for text that is not JSON. -/
def splitItems (split : String → List String) (s : String) : List String :=
  split (s.replace "," " ")

def coerceItems (split : String → List String) : Nat → Json → List String
  | 0, _ => []
  | fuel + 1, value => match value with
    | .null => []
    | .str s =>
      let stripped := rt.strip s
      if stripped = "" then []
      else match rt.loads stripped with
        | .ok (.arr xs) => xs.flatMap (fun x => match x with
          | .str token => if rt.strip token = "" then [] else [rt.strip token]
          | x => coerceItems split fuel x)
        | .ok parsed => coerceItems split fuel parsed
        | .error _ => splitItems split stripped
    | .arr xs => xs.flatMap (coerceItems split fuel)
    | .obj kvs => kvs.flatMap (fun e => coerceItems split fuel e.2)
    | value => if rt.strip (rt.str value) = "" then [] else [rt.strip (rt.str value)]

end Coerce

namespace AuthRuntime

variable (rt : AuthRuntime)

def coerceStrItems (value : Json) : List String :=
  coerceItems rt.toRouterRuntime rt.split (depthBound value) value

/-- `strip().lower()` -/
def normalized (s : String) : String := rt.lower (rt.strip s)

def workspaceItems (items : List String) : List String :=
  (items.filter (fun s => rt.strip s ≠ "")).map rt.normalized

end AuthRuntime

namespace Authentication

variable (rt : AuthRuntime) (claims : Claims)

def inferIdentityType : String :=
  let known := ["token_use", "type", "typ"].findSome? (fun key =>
    match Json.field? claims key with
    | some (.str value) =>
      let lowered := rt.lower value
      if lowered = "user" ∨ lowered = "service" then some lowered
      else if lowered = "client" then some "service"
      else none
    | _ => none)
  known.getD "user"

/-- The claims under the keys, and under one key of the `orcheo` claim. -/
def collectClaims (keys : List String) (nested : String) : List Json :=
  (keys.filterMap (Json.field? claims)) ++
    match Json.field? claims "orcheo" with
    | some (.obj kvs) => (Json.field? kvs nested).toList
    | _ => []

def extractScopes : List String :=
  (collectClaims claims ["scope", "scopes", "scp"] "scopes").flatMap rt.coerceStrItems

def extractWorkspaceIds : List String :=
  rt.workspaceItems ((collectClaims claims
    ["workspace_ids", "workspaces", "workspace", "workspace_id"] "workspace_ids").flatMap
      rt.coerceStrItems)

def claimsToContext : RequestContext :=
  let subject := pyStr rt.toRouterRuntime (orElseJson (Json.field? claims "sub") (.str ""))
  let identityType := inferIdentityType rt claims
  let tokenId := pyStr rt.toRouterRuntime (orElseJson (Json.field? claims "jti")
    (orElseJson (Json.field? claims "token_id")
      (if subject = "" then .str identityType else .str subject)))
  { subject := if subject = "" then tokenId else subject
    identityType := identityType
    scopes := extractScopes rt claims
    workspaceIds := extractWorkspaceIds rt claims
    tokenId := some tokenId
    claims := claims }

def serviceRecordToContext (record : ServiceTokenRecord) : RequestContext where
  subject := record.identifier
  identityType := "service"
  scopes := record.scopes
  workspaceIds := record.workspaceIds
  tokenId := some record.identifier
  claims := [("token_type", .str "service"), ("token_id", .str record.identifier)]

variable (a : AuthState)

def tryAuthenticateServiceToken (token : String) (now : Instant) :
    Except AuthenticationError (Option RequestContext) :=
  match a.serviceTokens.get? (rt.sha256 token) with
  | none => .ok none
  | some record =>
    if record.secretHash ≠ rt.sha256 token then .ok none
    else if record.revokedAt.isSome then .error ⟨"auth.token_revoked", 403⟩
    else if record.expiresAt.any (fun expires => decide (expires ≤ now)) then
      .error ⟨"auth.token_expired", 403⟩
    else .ok (some (serviceRecordToContext record))

def authenticateBootstrapToken (token : String) (now : Instant) :
    Except AuthenticationError (Option RequestContext) :=
  match a.settings.bootstrapServiceToken with
  | none => .ok none
  | some bootstrap =>
    if bootstrap = "" ∨ token ≠ bootstrap then .ok none
    else if a.settings.bootstrapTokenExpiresAt.any (fun expires => decide (expires ≤ now)) then
      .error ⟨"auth.token_expired", 401⟩
    else .ok (some {
      subject := "bootstrap"
      identityType := "service"
      scopes := a.settings.bootstrapTokenScopes
      tokenId := some "bootstrap"
      claims := [("token_type", .str "bootstrap_service"), ("token_id", .str "bootstrap")] })

def authenticateServiceToken (token : String) (now : Instant) :
    Except AuthenticationError (Option RequestContext) := do
  match ← tryAuthenticateServiceToken rt a token now with
  | some context => return some context
  | none => authenticateBootstrapToken a token now

def authenticateJwt (token : String) : Except AuthenticationError RequestContext :=
  (rt.decodeJwt token).map (claimsToContext rt)

def authenticate (token : String) (now : Instant) :
    Except AuthenticationError RequestContext :=
  if token = "" then .error ⟨"auth.missing_token", 401⟩
  else
    let jwt := if a.settings.jwtConfigured ∧ token.toList.count '.' = 2 then
      some (authenticateJwt rt token) else none
    match jwt with
    | some (.ok context) => .ok context
    | _ => match authenticateServiceToken rt a token now with
      | .error e => .error e
      | .ok (some context) => .ok context
      | .ok none => match jwt with
        | some (.error e) => .error e
        | _ =>
          if a.settings.jwtConfigured then authenticateJwt rt token
          else .error ⟨"auth.invalid_token", 401⟩

def extractBearerToken (headerValue : String) : Except AuthenticationError String :=
  match rt.split headerValue with
  | [scheme, token] =>
    if rt.lower scheme ≠ "bearer" then .error ⟨"auth.invalid_scheme", 401⟩
    else if rt.strip token = "" then .error ⟨"auth.missing_token", 401⟩
    else .ok (rt.strip token)
  | _ => .error ⟨"auth.invalid_scheme", 401⟩

def present (values : Dict String String) (key : String) : Option String :=
  (values.get? key).filter (fun s => s ≠ "")

/-- The token of a `bearer.…` subprotocol. -/
def protocolToken (headerValue : Option String) : Option String :=
  match headerValue with
  | none => none
  | some value =>
    ((value.splitOn ",").map rt.strip).findSome? (fun protocol =>
      if protocol.startsWith "bearer." then
        (some (rt.strip (protocol.drop 7).toString)).filter (fun s => s ≠ "")
      else none)

def resolveWebsocketToken (headers queryParams : Dict String String) :
    Except AuthenticationError (Option String) :=
  match present headers "authorization" with
  | some header => (extractBearerToken rt header).map some
  | none => .ok ((protocolToken rt (present headers "sec-websocket-protocol")).or
      (((queryParams.get? "access_token").map rt.strip).filter (fun s => s ≠ "")))

def beforeColon (s : String) : String := String.ofList (s.toList.takeWhile (· ≠ ':'))

/-- The subject of a development session: of a JSON object, or up to the first colon. -/
def parseDevIdentity (raw : String) : Option String :=
  let candidate := rt.strip raw
  let plain := (some (rt.strip (beforeColon candidate))).filter (fun s => s ≠ "")
  if candidate = "" then none
  else match rt.loads candidate with
    | .ok (.obj kvs) => match Json.field? kvs "subject" with
      | some (.str subject) => if rt.strip subject = "" then plain else some (rt.strip subject)
      | _ => plain
    | _ => plain

def devScopes (settings : AuthSettings) : List String :=
  if settings.devLoginScopes = [] then
    ["workflows:read", "workflows:write", "workflows:execute", "vault:read", "vault:write"]
  else settings.devLoginScopes

def devSession (headers cookies : Dict String String) : Option String :=
  match headers.get? "x-orcheo-dev-session" with
  | some value => some value
  | none => match Triggers.WebhookTriggerState.truthy a.settings.devLoginCookieName with
    | none => none
    | some cookieName => cookies.get? cookieName

def devLoginIdentity (headers cookies : Dict String String) : Option String :=
  if a.settings.devLoginEnabled then
    ((devSession a headers cookies).filter (fun s => s ≠ "")).bind (parseDevIdentity rt)
  else none

def tryDevLoginSession (headers cookies : Dict String String) :
    Option RequestContext :=
  (devLoginIdentity rt a headers cookies).map (fun identity => {
    subject := identity
    identityType := "developer"
    scopes := devScopes a.settings
    workspaceIds := a.settings.devLoginWorkspaceIds })

def rejectOauthClientToken (context : RequestContext) : Except AuthenticationError Unit :=
  if ((Json.field? context.claims "client_id").map truthyJson).getD false then
    .error ⟨"auth.oauth_client_token", 403⟩
  else .ok ()

def checkLimit (kind : LimitKind) (key : Option String) (code : String) :
    Except AuthenticationError Unit :=
  match key with
  | none => .ok ()
  | some key => if key = "" || a.admits kind key then .ok () else .error ⟨code, 429⟩

def limitIdentity (context : RequestContext) : Except AuthenticationError Unit :=
  checkLimit a .identity
    ((Triggers.WebhookTriggerState.truthy context.tokenId).or (some context.subject))
    "auth.rate_limited.identity"

def authenticateWebsocket (headers queryParams cookies : Dict String String)
    (clientHost : Option String) (now : Instant) : Except AuthenticationError RequestContext :=
  if !a.settings.enforce then .ok .anonymous
  else do
    checkLimit a .ip clientHost "auth.rate_limited.ip"
    match ← resolveWebsocketToken rt headers queryParams with
    | none => match tryDevLoginSession rt a headers cookies with
      | some context => return context
      | none => throw ⟨"auth.missing_token", 401⟩
    | some token => do
      let context ← authenticate rt a token now
      rejectOauthClientToken context
      limitIdentity a context
      return context

/-- `authenticate_request`, with authentication enforced. -/
def authenticateHttp (headers cookies : Dict String String)
    (clientHost : Option String) (now : Instant) : Except AuthenticationError RequestContext := do
  checkLimit a .ip clientHost "auth.rate_limited.ip"
  match (present headers "authorization").map (extractBearerToken rt) with
  | some (.ok token) => do
    let context ← authenticate rt a token now
    limitIdentity a context
    rejectOauthClientToken context
    return context
  | some (.error e) => match tryDevLoginSession rt a headers cookies with
    | some context => return context
    | none => throw e
  | none => match tryDevLoginSession rt a headers cookies with
    | some context => return context
    | none => throw ⟨"auth.missing_token", 401⟩

end Authentication

end Orcheo.Routers
