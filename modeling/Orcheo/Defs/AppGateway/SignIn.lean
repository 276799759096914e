import Mathlib.Algebra.GroupWithZero.Nat
import Orcheo.Lib.Base64
import Orcheo.Lib.Percent
import Orcheo.Defs.HostedApps.Repository

/-! The gateway of hosted apps: the host that a request is for, what the gateway signs, and how a
visitor signs in on an app's host. -/

namespace Orcheo.AppGateway

open HostedApps (normalizeAlias)
open Lib (Base64.encode Base64.decode Base64.unpadded Base64.padding Percent.quote)
open Repository (TextRuntime)

abbrev Bytes := List UInt8

/-- A Python `dict` that came of JSON. -/
abbrev Payload := List (String × Json)

/-- How many characters an entry of an object has at least, with its punctuation. -/
def entryLength : String × Json → Nat
  | (key, .str s) => key.length + s.length + 6
  | (key, _) => key.length + 5

def textLength (payload : Payload) : Nat := (payload.map entryLength).sum

def redirectSafe (c : Char) : Bool := ":/%#?=@[]!$&'()*+,;".toList.contains c

structure GatewayRuntime extends TextRuntime where
  lower_uncapital (s : String) (c : Char) : c ∈ (lower s).toList → ¬('A' ≤ c ∧ c ≤ 'Z')
  isdigit : String → Bool
  sha256 : String → Bytes
  hexdigest : Bytes → String
  /-- the hexadecimal digest of the message under the key -/
  hmac : String → String → String
  /-- `json.dumps(…).encode()` -/
  dumps : Payload → Bytes
  loads : Bytes → Option Json
  /-- The first key of an object is closed, with a colon, a blank or half a character behind the
  quotation mark, before there is anything of the other keys. -/
  loads_object (bytes : Bytes) (payload : Payload) :
    loads bytes = some (.obj payload) → payload ≠ [] → ∃ key opened c rest,
      bytes = opened ++ 34 :: c :: rest ∧ c.toNat ≤ 58 ∧
        textLength (payload.filter (fun entry => entry.1 ≠ key)) ≤ rest.length
  str : Json → String
  /-- the seconds of an instant, as a float, and what `float(…)` makes of a value -/
  number : Instant → Json
  float : Json → Option Instant
  urlencode : List (String × String) → String
  /-- the `Location` of a `RedirectResponse` -/
  location : String → String
  location_quotes (url : String) :
    location url = String.ofList (Percent.quote redirectSafe url.toList)

/-- `DESCRIPTOR_CACHE`, in whole seconds after the first -/
def cacheDefault : Fin 60 := 29

structure GatewayConfig where
  baseDomain : String := "apps.localhost"
  backendUrl : String := ""
  gatewaySecret : String := ""
  studioUrl : String := "http://localhost:2026"
  /-- how long descriptors of the file are kept, from a second to a minute -/
  cacheSeconds : Fin 60 := cacheDefault

structure HttpError where
  statusCode : Nat
  detail : String := ""
  deriving DecidableEq, Repr

namespace HttpError

def unknownApp : HttpError := ⟨404, "Unknown hosted app."⟩

def expired : HttpError := ⟨400, "App login has expired."⟩

def loginUnavailable : HttpError := ⟨503, "App login is unavailable."⟩

def runtimeUnavailable : HttpError := ⟨503, "App runtime is unavailable."⟩

/-- an exception that nothing handles -/
def unhandled : HttpError := ⟨500, ""⟩

end HttpError

/-- `text.rsplit(sep, 1)`, where the separator is there. -/
def rsplit (sep : Char) (text : String) : Option (String × String) :=
  let backwards := text.toList.reverse
  if sep ∈ backwards then
    some (String.ofList ((backwards.dropWhile (· ≠ sep)).drop 1).reverse,
      String.ofList (backwards.takeWhile (· ≠ sep)).reverse)
  else none

def rstrip (c : Char) (text : String) : String :=
  String.ofList (text.toList.reverse.dropWhile (· = c)).reverse

def isAscii (text : String) : Bool := text.toList.all (fun c => decide (c.toNat < 128))

/-- `hmac.compare_digest`, which raises for text that is not ASCII. -/
def compareDigest (a b : String) : Option Bool :=
  if isAscii a && isAscii b then some (decide (a = b)) else none

section Gateway

variable (rt : GatewayRuntime) (config : GatewayConfig)

def pyStr : Json → String
  | .str s => s
  | value => rt.str value

def portless (rawHost : String) : Option String :=
  if rawHost.toList.count ':' = 1 then (rsplit ':' rawHost).bind (fun (name, port) =>
    if rt.isdigit port then some name else none)
  else some rawHost

def canonicalAppHost (host : String) : Option (String × String) :=
  (portless rt (rt.lower (rt.strip host))).bind (fun rawHost =>
    let candidate := rstrip '.' rawHost
    let suffix := "." ++ rstrip '.' (rt.lower (rt.strip config.baseDomain))
    if candidate = "" ∨ ¬ suffix.toList <:+ candidate.toList then none
    else
      let label := String.ofList (candidate.toList.take (candidate.length - suffix.length))
      if '.' ∈ label.toList then none
      else match normalizeAlias rt.toTextRuntime label with
        | .error _ => none
        | .ok _ => some (candidate, label))

/-- What `secrets.token_urlsafe(32)` draws. -/
abbrev Draw := { raw : String // raw.length = 43 }

def visitorMessage (host raw : String) : String := host ++ ":" ++ raw

def visitorOfCookie (host cookie : String) : Except HttpError (Option String) :=
  if cookie = "" ∨ 128 < cookie.length then .ok none
  else match rsplit '.' cookie with
    | none => .ok none
    | some (candidate, signature) =>
      if candidate.length < 32 ∨ signature.length ≠ 64 then .ok none
      else match compareDigest signature (rt.hmac config.gatewaySecret
          (visitorMessage host candidate)) with
        | none => .error .unhandled
        | some true => .ok (some candidate)
        | some false => .ok none

def resolveAnonymousVisitor (host : String) (cookie : Option String) (draw : Draw) :
    Except HttpError (String × Option String) :=
  if config.gatewaySecret = "" then .error .runtimeUnavailable
  else match visitorOfCookie rt config host (cookie.getD "") with
    | .error e => .error e
    | .ok (some raw) => .ok (rt.hexdigest (rt.sha256 (visitorMessage host raw)), none)
    | .ok none => .ok (rt.hexdigest (rt.sha256 (visitorMessage host draw.val)), some draw.val)

structure Transaction where
  host : String
  verifier : String
  state : String
  redirectUri : String
  returnTo : String
  expiresAt : Instant

/-- In the order of the keys. -/
def Transaction.payload (t : Transaction) : Payload :=
  [("expires_at", rt.number t.expiresAt), ("host", .str t.host),
    ("redirect_uri", .str t.redirectUri), ("return_to", .str t.returnTo), ("state", .str t.state),
    ("verifier", .str t.verifier)]

def encodedPayload (payload : Payload) : String :=
  String.ofList (Base64.unpadded (Base64.encode (rt.dumps payload)))

def encodeAuthTransaction (payload : Payload) : String :=
  encodedPayload rt payload ++ "." ++ rt.hmac config.gatewaySecret (encodedPayload rt payload)

/-- `base64.urlsafe_b64decode`, with the padding that is missing. -/
def urlsafeB64decode (encoded : String) : Option Bytes :=
  if isAscii encoded then Base64.decode (encoded.toList ++ Base64.padding encoded.toList) else none

def decodeAuthTransaction (value : Option String) (now : Instant) : Except HttpError Payload :=
  if value.getD "" = "" ∨ config.gatewaySecret = "" then .error .expired
  else match rsplit '.' (value.getD "") with
    | none => .error .expired
    | some (encoded, signature) =>
      if compareDigest signature (rt.hmac config.gatewaySecret encoded) ≠ some true then
        .error .expired
      else match (urlsafeB64decode encoded).bind rt.loads with
        | some (.obj payload) => match (Json.field? payload "expires_at").bind rt.float with
          | none => .error .expired
          | some expiresAt => if expiresAt ≤ now then .error .expired else .ok payload
        | _ => .error .expired

structure Redirect where
  location : String
  authCookie : Option String := none
  sessionCookie : Option String := none
  deletesAuthCookie : Bool := false
  deriving DecidableEq

structure StartRequest where
  hostHeader : String
  returnTo : String := "/"
  descriptor : Except HttpError (Option Payload)
  verifier : String
  state : String
  now : Instant

def callbackHost (hostHeader host : String) : String :=
  let rawHost := rt.lower (rt.strip hostHeader)
  if ".localhost".toList <:+ host.toList ∧ rawHost.toList.count ':' = 1 then
    match rsplit ':' rawHost with
    | some (_, port) => if rt.isdigit port then host ++ ":" ++ port else host
    | none => host
  else host

def redirectUri (hostHeader host : String) : String :=
  let scheme := if ".localhost".toList <:+ host.toList then "http" else "https"
  scheme ++ "://" ++ callbackHost rt hostHeader host ++ "/__orcheo/auth/callback"

def startTransaction (r : StartRequest) (host : String) : Transaction where
  host := host
  verifier := r.verifier
  state := r.state
  redirectUri := redirectUri rt r.hostHeader host
  returnTo := r.returnTo
  expiresAt := r.now + seconds 300

def pkceChallenge (verifier : String) : String :=
  String.ofList (Base64.unpadded (Base64.encode (rt.sha256 verifier)))

def isSuspended (descriptor : Payload) : Bool :=
  decide (Json.field? descriptor "state" = some (.str "suspended"))

def isReturnPath (returnTo : String) : Bool :=
  returnTo.toList.head? == some '/' && !("//".toList <+: returnTo.toList)

def startAppAuth (r : StartRequest) : Except HttpError Redirect :=
  match canonicalAppHost rt config r.hostHeader with
  | none => .error .unknownApp
  | some (host, _) =>
    if config.backendUrl = "" ∨ config.gatewaySecret = "" then .error .loginUnavailable
    else match r.descriptor with
      | .error e => .error e
      | .ok descriptor =>
        if descriptor.all isSuspended then .error ⟨404, "Hosted app is unavailable."⟩
        else if !isReturnPath r.returnTo then .error ⟨400, "Invalid app return path."⟩
        else
          let transaction := startTransaction rt r host
          .ok {
            location := rt.location (config.studioUrl ++ "/apps/authorize?" ++ rt.urlencode
              [("host", host), ("redirect_uri", transaction.redirectUri),
                ("code_challenge", pkceChallenge rt r.verifier), ("state", r.state)])
            authCookie := some (encodeAuthTransaction rt config (transaction.payload rt)) }

structure FinishRequest where
  hostHeader : String
  cookie : Option String
  code : String
  state : String
  now : Instant

structure Exchange where
  host : String
  code : String
  verifier : Json
  redirectUri : Json
  transaction : Payload

def presentAppAuth (r : FinishRequest) : Except HttpError Exchange :=
  match decodeAuthTransaction rt config r.cookie r.now with
  | .error e => .error e
  | .ok transaction => match canonicalAppHost rt config r.hostHeader with
    | none => .error .unknownApp
    | some (host, _) =>
      let held := pyStr rt ((Json.field? transaction "state").getD (.str ""))
      if Json.field? transaction "host" ≠ some (.str host) then
        .error ⟨400, "App login state is invalid."⟩
      else match compareDigest held r.state with
        | none => .error .unhandled
        | some false => .error ⟨400, "App login state is invalid."⟩
        | some true =>
          match Json.field? transaction "verifier", Json.field? transaction "redirect_uri" with
          | some verifier, some redirectUri =>
            if config.backendUrl = "" ∨ config.gatewaySecret = "" then .error .runtimeUnavailable
            else .ok ⟨host, r.code, verifier, redirectUri, transaction⟩
          | _, _ => .error .unhandled

def finishAppAuth (exchange : Exchange) (answer : Except HttpError Payload) :
    Except HttpError Redirect :=
  match answer with
  | .error e => .error e
  | .ok result => match Json.field? result "session_secret" with
    | some (.str secret) => match Json.field? exchange.transaction "return_to" with
      | none => .error .unhandled
      | some returnTo => .ok {
          location := rt.location (pyStr rt returnTo)
          sessionCookie := some secret
          deletesAuthCookie := true }
    | _ => .error .loginUnavailable

end Gateway

end Orcheo.AppGateway
