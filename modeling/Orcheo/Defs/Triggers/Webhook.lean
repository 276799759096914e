import Orcheo.Defs.Base

namespace Orcheo.Triggers

/-- A parsed `datetime` and whether it names an offset; a naive one is read in local time. -/
structure Stamp where
  aware : Bool
  time : Instant
  deriving DecidableEq, Repr

/-- The library functions webhook validation rests on: Unicode text operations, digests,
`json.dumps`, decoding and date parsing.  An absent result stands for an exception. -/
structure WebhookRuntime where
  lower : String → String
  upper : String → String
  strip : String → String
  isdigit : String → Bool
  fromtimestamp : String → Option Instant
  fromisoformat : String → Option Stamp
  hexdigest : String → List UInt8 → List UInt8 → String
  dumps : Json → String
  decode : List UInt8 → String

def decimal? (s : String) : Option Nat :=
  if s ≠ "" ∧ s.toList.all Char.isDigit then
    some (s.toList.foldl (fun n ch => 10 * n + (ch.toNat - '0'.toNat)) 0)
  else none

def WebhookRuntime.ascii : WebhookRuntime where
  lower s := String.ofList (s.toList.map Char.toLower)
  upper s := String.ofList (s.toList.map Char.toUpper)
  strip s := String.ofList
    ((s.toList.dropWhile Char.isWhitespace).reverse.dropWhile Char.isWhitespace).reverse
  isdigit s := (decimal? s).isSome
  fromtimestamp s := (decimal? s).map (fun n => seconds n)
  fromisoformat _ := none
  hexdigest algorithm _ message := algorithm ++ toString message.length
  dumps _ := "{}"
  decode raw := String.ofList (raw.map (fun b => Char.ofNat b.toNat))

structure RateLimitConfig where
  limit : Nat := 60
  intervalSeconds : Nat := 60
  deriving DecidableEq, Repr

structure WebhookTriggerConfig where
  allowedMethods : List String := ["GET", "POST"]
  requiredHeaders : List (String × String) := []
  requiredQueryParams : List (String × String) := []
  sharedSecretHeader : Option String := none
  sharedSecret : Option String := none
  hmacHeader : Option String := none
  hmacSecret : Option String := none
  hmacAlgorithm : String := "sha256"
  hmacTimestampHeader : Option String := none
  hmacToleranceSeconds : Nat := 300
  rateLimit : Option RateLimitConfig := none
  deriving DecidableEq, Repr

inductive Payload
  | bytes (raw : List UInt8)
  | json (value : Json)
  deriving DecidableEq

structure WebhookRequest where
  method : String
  headers : List (String × String)
  queryParams : List (String × String)
  payload : Payload
  sourceIp : Option String := none
  deriving DecidableEq

namespace WebhookRequest

variable (rt : WebhookRuntime) (r : WebhookRequest)

def normalizedMethod : String := rt.upper r.method

def normalizedHeaders : Lib.Dict String String :=
  Lib.Dict.ofList (r.headers.map (fun e => (rt.lower e.1, e.2)))

def normalizedQuery : Lib.Dict String String := Lib.Dict.ofList r.queryParams

end WebhookRequest

inductive WebhookError
  | methodNotAllowed (method : String) (allowed : List String)
  | authentication
  | rateLimitExceeded (limit intervalSeconds : Nat)
  | missingHeader (key : String)
  | missingQueryParam (key : String)
  /-- a `TypeError` or `OverflowError` that validation does not catch -/
  | uncaught
  deriving DecidableEq, Repr

namespace WebhookError

def statusCode : WebhookError → Nat
  | methodNotAllowed _ _ => 405
  | authentication => 401
  | rateLimitExceeded _ _ => 429
  | missingHeader _ | missingQueryParam _ => 400
  | uncaught => 500

def message : WebhookError → String
  | methodNotAllowed method allowed =>
    "Method " ++ method ++ " not allowed. Allowed methods: " ++
      (if allowed = [] then "none" else ", ".intercalate allowed)
  | authentication => "Invalid webhook authentication credentials"
  | rateLimitExceeded limit interval =>
    "Webhook rate limit exceeded. Limit: " ++ toString limit ++ " requests per " ++
      toString interval ++ " seconds"
  | missingHeader key => "Missing or invalid required header: " ++ key
  | missingQueryParam key => "Missing or invalid required query parameter: " ++ key
  | uncaught => ""

end WebhookError

structure WebhookTriggerState where
  config : WebhookTriggerConfig := {}
  recentInvocations : List Instant := []
  recentSignatures : List (String × Stamp) := []
  signatureCache : Finset String := ∅
  deriving DecidableEq

structure WebhookClock where
  parsedAt : Instant
  replayAt : Instant
  limitedAt : Instant
  deriving DecidableEq, Repr

namespace WebhookTriggerState

variable (rt : WebhookRuntime) (clock : WebhookClock)

def updateConfig (config : WebhookTriggerConfig) : WebhookTriggerState := { config := config }

def truthy (value : Option String) : Option String := value.filter (fun s => s ≠ "")

variable (s : WebhookTriggerState) (r : WebhookRequest)

def validateMethod : Except WebhookError Unit :=
  if r.normalizedMethod rt ∈ s.config.allowedMethods then .ok ()
  else .error (.methodNotAllowed (r.normalizedMethod rt) s.config.allowedMethods)

def firstMismatch (found : Lib.Dict String String) (expected : List (String × String)) :
    Option String :=
  (expected.find? (fun e => found.get? e.1 ≠ some e.2)).map Prod.fst

def validateRequiredHeaders :
    Except WebhookError Unit :=
  match firstMismatch (r.normalizedHeaders rt) s.config.requiredHeaders with
  | some key => .error (.missingHeader key)
  | none => .ok ()

def validateRequiredQueryParams :
    Except WebhookError Unit :=
  match firstMismatch r.normalizedQuery s.config.requiredQueryParams with
  | some key => .error (.missingQueryParam key)
  | none => .ok ()

def isAscii (s : String) : Bool := s.toList.all (fun c => decide (c.val < 128))

/-- `hmac.compare_digest` on two strings: a `TypeError` unless both are ASCII. -/
def compareDigest (a b : String) : Except WebhookError Bool :=
  if isAscii a && isAscii b then .ok (decide (a = b)) else .error .uncaught

def canonicalPayloadBytes : Payload → List UInt8
  | .bytes raw => raw
  | .json .null => []
  | .json (.str s) => s.toUTF8.toList
  | .json value => (rt.dumps value).toUTF8.toList

def signatureSegment (candidate segment : String) : String :=
  match (rt.strip segment).splitOn "=" with
  | key :: value :: rest =>
    if rt.lower key ∈ ["sha256", "sha512", "v1", "signature"] then
      rt.strip ("=".intercalate (value :: rest))
    else candidate
  | _ => candidate

def extractHmacSignature (raw : String) : Except WebhookError String :=
  let candidate := rt.strip raw
  if candidate = "" then .error .authentication
  else
    let signature := (candidate.splitOn ",").foldl (signatureSegment rt) candidate
    if signature = "" then .error .authentication else .ok signature

def readTimestamp (stripped : String) : Except WebhookError Stamp :=
  if stripped = "" then .error .authentication
  else if rt.isdigit stripped then
    match rt.fromtimestamp stripped with
    | some time => .ok ⟨true, time⟩
    | none => .error .uncaught
  else match rt.fromisoformat (stripped.replace "Z" "+00:00") with
    | some stamp => .ok stamp
    | none => .error .authentication

def parseSignatureTimestamp (value : String) :
    Except WebhookError Stamp := do
  let stamp ← readTimestamp rt (rt.strip value)
  let tolerance := s.config.hmacToleranceSeconds
  if tolerance = 0 then return stamp
  if !stamp.aware then throw .uncaught
  if seconds tolerance < ((clock.parsedAt - stamp.time).natAbs : Int) then throw .authentication
  return stamp

/-- Entries leave the front of the window while they are older than the cutoff.
Comparing a naive time with the cutoff raises and leaves the rest in place. -/
def evictSignatures (cutoff : Instant) :
    List (String × Stamp) → Finset String → (List (String × Stamp) × Finset String) × Bool
  | [], cache => (([], cache), true)
  | (signature, stamp) :: rest, cache =>
    if !stamp.aware then (((signature, stamp) :: rest, cache), false)
    else if stamp.time < cutoff then evictSignatures cutoff rest (cache.erase signature)
    else (((signature, stamp) :: rest, cache), true)

def enforceSignatureReplay (signature : String)
    (timestamp : Option Stamp) : WebhookTriggerState × Except WebhookError Unit :=
  let tolerance := max s.config.hmacToleranceSeconds 1
  let cutoff := clock.replayAt - seconds tolerance
  let ((recent, cache), comparable) := evictSignatures cutoff s.recentSignatures s.signatureCache
  let s := { s with recentSignatures := recent, signatureCache := cache }
  if !comparable then (s, .error .uncaught)
  else if signature ∈ cache then (s, .error .authentication)
  else
    ({ s with
      signatureCache := insert signature cache
      recentSignatures := recent ++ [(signature, timestamp.getD ⟨true, clock.replayAt⟩)] },
      .ok ())

def checkHmacSignature (header secret : String) :
    Except WebhookError (String × Option Stamp) := do
  let headers := r.normalizedHeaders rt
  let provided ← match truthy (headers.get? header) with
    | some provided => pure provided
    | none => throw .authentication
  let signature ← extractHmacSignature rt provided
  let timestamp ← match truthy s.config.hmacTimestampHeader with
    | none => pure none
    | some timestampHeader =>
      match truthy (headers.get? timestampHeader) with
      | none => throw .authentication
      | some value => do
        let timestamp ← s.parseSignatureTimestamp rt clock value
        pure (some timestamp)
  let payload := canonicalPayloadBytes rt r.payload
  let message := match timestamp with
    | some t => (toString (t.time.tdiv 1000000)).toUTF8.toList ++ ".".toUTF8.toList ++ payload
    | none => payload
  let expected := rt.hexdigest s.config.hmacAlgorithm secret.toUTF8.toList message
  if ← compareDigest expected signature then return (signature, timestamp)
  throw .authentication

def validateHmacSignature :
    WebhookTriggerState × Except WebhookError Unit :=
  match s.config.hmacHeader, truthy s.config.hmacSecret with
  | some header, some secret =>
    match s.checkHmacSignature rt clock r header secret with
    | .error e => (s, .error e)
    | .ok (signature, timestamp) => s.enforceSignatureReplay clock signature timestamp
  | _, _ => (s, .ok ())

def validateSharedSecret :
    Except WebhookError Unit :=
  match s.config.sharedSecretHeader with
  | none => .ok ()
  | some header =>
    match s.config.sharedSecret, (r.normalizedHeaders rt).get? header with
    | some expected, some provided => do
      if ← compareDigest provided expected then return ()
      throw .authentication
    | _, _ => .error .authentication

def validateAuthentication :
    WebhookTriggerState × Except WebhookError Unit :=
  let (s, signed) := match truthy s.config.hmacSecret with
    | some _ => s.validateHmacSignature rt clock r
    | none => (s, .ok ())
  match signed with
  | .error e => (s, .error e)
  | .ok () =>
    match truthy s.config.sharedSecret with
    | some _ => (s, s.validateSharedSecret rt r)
    | none => (s, .ok ())

def enforceRateLimit : WebhookTriggerState × Except WebhookError Unit :=
  match s.config.rateLimit with
  | none => (s, .ok ())
  | some limit =>
    let windowStart := clock.limitedAt - seconds limit.intervalSeconds
    let s := { s with
      recentInvocations := s.recentInvocations.dropWhile (fun t => decide (t < windowStart)) }
    if limit.limit ≤ s.recentInvocations.length then
      (s, .error (.rateLimitExceeded limit.limit limit.intervalSeconds))
    else ({ s with recentInvocations := s.recentInvocations ++ [clock.limitedAt] }, .ok ())

/-- The checks that read the configuration only. -/
def validateShape : Except WebhookError Unit := do
  s.validateMethod rt r
  s.validateRequiredHeaders rt r
  s.validateRequiredQueryParams r

def validate :
    WebhookTriggerState × Except WebhookError Unit :=
  match s.validateShape rt r with
  | .error e => (s, .error e)
  | .ok () =>
    match s.validateAuthentication rt clock r with
    | (s, .error e) => (s, .error e)
    | (s, .ok ()) => s.enforceRateLimit clock

def serializePayload : Payload → Json
  | .bytes raw => .obj [("raw", .str (rt.decode raw))]
  | .json value => value

def scrubHeadersForStorage (headers : Lib.Dict String String) :
    Lib.Dict String String :=
  let headers := match truthy s.config.sharedSecretHeader with
    | some header => headers.erase header
    | none => headers
  match truthy s.config.hmacHeader with
  | some header => headers.erase header
  | none => headers

end WebhookTriggerState

end Orcheo.Triggers
