import Orcheo.Defs.Traces.Models
import Orcheo.Lib.Calls

/-! The part of the Discord and QQ listeners that takes frames from a gateway.  The two adapters
are one program up to what an `AdapterKind` says. -/

namespace Orcheo.Gateway

open Traces (Entries get truthy)

structure SplitUrl where
  scheme : String
  netloc : String
  path : String
  query : String
  fragment : String

/-- What Python does with text, numbers and URLs.  A malformed URL does not split. -/
structure GatewayRuntime where
  strip : String → String
  upper : String → String
  lower : String → String
  /-- `str` of what is not a string -/
  showJson : Json → String
  /-- the integer that a float is equal to -/
  integral : BitVec 64 → Option Int
  urlsplit : String → Option SplitUrl
  urlunsplit : SplitUrl → String
  parseQsl : String → List (String × String)
  urlencode : List (String × String) → String

/-- ASCII text, and URLs without a query. -/
def GatewayRuntime.plain : GatewayRuntime where
  strip s := String.ofList
    ((s.toList.dropWhile Char.isWhitespace).reverse.dropWhile Char.isWhitespace).reverse
  upper s := String.ofList (s.toList.map Char.toUpper)
  lower s := String.ofList (s.toList.map Char.toLower)
  showJson
    | .int n => toString n
    | _ => "None"
  integral bits := if bits = 0 then some 0 else none
  urlsplit url := some ⟨"", "", url, "", ""⟩
  urlunsplit url := url.path ++ "?" ++ url.query
  parseQsl _ := []
  urlencode pairs := "&".intercalate (pairs.map (fun pair => pair.1 ++ "=" ++ pair.2))

inductive GatewayError
  | typeError | valueError
  deriving DecidableEq, Repr

structure ListenerSubscription where
  nodeName : String
  botIdentityKey : String
  config : Entries := []

structure ListenerCursor where
  sessionId : Option String := none
  sequence : Option Int := none
  resumeGatewayUrl : Option String := none
  deriving DecidableEq

structure ListenerDispatchMessage where
  chatId : Option String := none
  channelId : Option String := none
  guildId : Option String := none
  messageId : Option String := none
  userId : Option String := none
  username : Option String := none
  text : Option String := none
  chatType : Option String := none
  metadata : Entries := []
  deriving DecidableEq

structure ListenerDispatchPayload where
  platform : String
  eventType : String
  dedupeKey : String
  botIdentity : String
  message : ListenerDispatchMessage := {}
  replyTarget : Entries := []
  rawEvent : Entries := []
  metadata : Entries := []
  deriving DecidableEq

def optionalStr : Option String → Json
  | none => .null
  | some s => .str s

section

variable (rt : GatewayRuntime)

/-- `str(value)` -/
def text : Json → String
  | .str s => s
  | value => rt.showJson value

def stringOrNone : Json → Option String
  | .null => none
  | value => some (text rt value)

def equalInt : Json → Option Int
  | .int n => some n
  | .bool b => some (if b then 1 else 0)
  | .float bits => rt.integral bits
  | _ => none

def iterate : Json → Except GatewayError (List Json)
  | .arr xs => .ok xs
  | .str s => .ok (s.toList.map (fun c => .str (String.ofList [c])))
  | .obj kvs => .ok (kvs.map (fun kv => .str kv.1))
  | _ => .error .typeError

/-- `config.get(key, [])`, as the set of its texts that are not blank. -/
def configuredTexts (clean : String → String) (config : Entries) (key : String) :
    Except GatewayError (List String) :=
  (iterate ((Json.field? config key).getD (.arr []))).map (fun values =>
    ((values.map (text rt)).filter (fun value => rt.strip value ≠ "")).map clean)

/-- `bool(config.get(key, default))` -/
def configuredFlag (config : Entries) (key : String) (default : Bool) : Bool :=
  truthy ((Json.field? config key).getD (.bool default))

/-- The number that a frame sets, where `s` is an integer. -/
def sequenceOf (payload : Entries) : Option Int :=
  match get payload "s" with
  | .int n => some n
  | .bool b => some (if b then 1 else 0)
  | _ => none

end

structure AdapterState where
  sequence : Option Int := none
  botUserId : Option String := none
  deriving DecidableEq

structure SessionState where
  adapter : AdapterState := {}
  cursor : ListenerCursor := {}

inductive GatewayOp
  | dispatchListenerEvent (payload : ListenerDispatchPayload)
  | saveListenerCursor (cursor : ListenerCursor)
  | send (payload : Entries)

/-- Whether the call returns; otherwise it raises. -/
abbrev GatewayOp.Answer (_ : GatewayOp) := Bool

inductive FrameOutcome
  | reads | reconnects | raises
  deriving DecidableEq

abbrev FrameCall := Lib.Call GatewayOp.Answer (SessionState × FrameOutcome)

def GatewayOp.await (op : GatewayOp) (s : SessionState) (next : FrameCall) : FrameCall :=
  .ask op (fun returned => if returned then next else .done (s, .raises))

structure AdapterKind where
  /-- `normalize_…_event` for the bot's user id -/
  normalize : Option String → String → Entries →
    Except GatewayError (Option ListenerDispatchPayload)
  /-- the resume URL after READY, from the gateway's URL and the one before -/
  readyUrl : String → Entries → Option String → Except GatewayError (Option String)
  /-- the resume URL that is saved where the gateway asks for a reconnect -/
  reconnectUrl : String → Option String
  /-- whether a session is resumed with this URL -/
  resumesAt : Option String → Bool

namespace SessionState

variable (s : SessionState)

def sequenced (payload : Entries) : SessionState :=
  match sequenceOf payload with
  | none => s
  | some n =>
    { adapter := { s.adapter with sequence := some n }
      cursor := { s.cursor with sequence := some n } }

def withBotUserId (botUserId : Option String) : SessionState :=
  { s with adapter := { s.adapter with botUserId := botUserId } }

def withCursor (cursor : ListenerCursor) : SessionState :=
  { s with cursor := cursor }

def save (next : FrameCall) : FrameCall :=
  (GatewayOp.saveListenerCursor s.cursor).await s next

end SessionState

section

variable (rt : GatewayRuntime) (kind : AdapterKind) (gatewayUrl : String)

def heartbeat (s : SessionState) : Entries :=
  [("op", .int 1), ("d", s.adapter.sequence.elim .null .int)]

def handleNonDispatchOp (op : Option Int) (s : SessionState) : FrameCall :=
  match op with
  | some 11 => .done (s, .reads)
  | some 1 => (GatewayOp.send (heartbeat s)).await s (.done (s, .reads))
  | some 7 => match kind.reconnectUrl gatewayUrl with
    | none => .done (s, .reconnects)
    | some url =>
      let s := s.withCursor { s.cursor with resumeGatewayUrl := some url }
      s.save (.done (s, .reconnects))
  | some 9 =>
    let s := s.withCursor {}
    s.save (.done (s.withBotUserId none, .reconnects))
  | _ => .done (s, .reads)

def named (data : Entries) (cursor : ListenerCursor) : ListenerCursor :=
  match get data "session_id" with
  | .str sessionId => { cursor with sessionId := some sessionId }
  | _ => cursor

def readyBotUserId (data : Entries) (botUserId : Option String) : Option String :=
  match get data "user" with
  | .obj user => (stringOrNone rt (get user "id")).or botUserId
  | _ => botUserId

def handleReadyEvent (data : Entries) (s : SessionState) : FrameCall :=
  let s := s.withCursor (named data s.cursor)
  match kind.readyUrl gatewayUrl data s.cursor.resumeGatewayUrl with
  | .error _ => .done (s, .raises)
  | .ok url =>
    let s := s.withCursor { s.cursor with resumeGatewayUrl := url }
    let s := s.withBotUserId (readyBotUserId rt data s.adapter.botUserId)
    s.save (.done (s, .reads))

def handleDispatchEvent (eventType : String) (data : Entries) (s : SessionState) : FrameCall :=
  if eventType = "READY" then handleReadyEvent rt kind gatewayUrl data s
  else if eventType = "RESUMED" then s.save (.done (s, .reads))
  else match kind.normalize s.adapter.botUserId eventType data with
    | .error _ => .done (s, .raises)
    | .ok none => s.save (.done (s, .reads))
    | .ok (some normalized) =>
      (GatewayOp.dispatchListenerEvent normalized).await s (s.save (.done (s, .reads)))

def decodeGatewayPayload : Option Json → Option Entries
  | some (.obj payload) => some payload
  | _ => none

def handleGatewayFrame (frame : Option Json) (s : SessionState) : FrameCall :=
  match decodeGatewayPayload frame with
  | none => .done (s, .raises)
  | some payload =>
    let s := s.sequenced payload
    let op := equalInt rt (get payload "op")
    if op ≠ some 0 then handleNonDispatchOp kind gatewayUrl op s
    else match get payload "t", (Json.field? payload "d").getD (.obj []) with
      | .str eventType, .obj data => handleDispatchEvent rt kind gatewayUrl eventType data s
      | _, _ => .done (s, .reads)

inductive StartSession
  | identify
  | resume (sessionId : String) (sequence : Int)
  deriving DecidableEq

def sendStartSession (cursor : ListenerCursor) : StartSession :=
  match cursor.sessionId, cursor.sequence with
  | some sessionId, some sequence =>
    if kind.resumesAt cursor.resumeGatewayUrl then .resume sessionId sequence else .identify
  | _, _ => .identify

end

end Orcheo.Gateway
