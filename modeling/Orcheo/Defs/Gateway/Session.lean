import Orcheo.Defs.Gateway.QQ
import Orcheo.Lib.Acknowledge

/-! A listener, the gateway it is connected to, and the repository.  The gateway keeps the events
of a session under increasing numbers, the first of them READY with the name of the session and
the bot's user, and sends them in order: all of them to who identifies, and those after a number
to who resumes from it.  Frames without a number are no events. -/

namespace Orcheo.Gateway

open Lib (Dict nextAfter?)
open Traces (Entries get)

structure DispatchFrame where
  payload : Entries
  sequence : Int
  dispatches : get payload "op" = .int 0
  numbered : sequenceOf payload = some sequence

namespace DispatchFrame

def event? (frame : DispatchFrame) : Option (String × Entries) :=
  match get frame.payload "t", (Json.field? frame.payload "d").getD (.obj []) with
  | .str eventType, .obj data => some (eventType, data)
  | _, _ => none

def isReady (frame : DispatchFrame) : Bool := frame.event?.any (fun event => event.1 = "READY")

def introduces (rt : GatewayRuntime) (botUserId sessionId : String) (frame : DispatchFrame) :
    Bool :=
  frame.event?.any (fun event => event.1 = "READY" && get event.2 "session_id" = .str sessionId &&
    match get event.2 "user" with
    | .obj user => stringOrNone rt (get user "id") = some botUserId
    | _ => false)

end DispatchFrame

structure Received where
  sessionId : String
  frame : DispatchFrame
  botUserId : Option String

/-- A payload that the repository took without an error, with the event it was made of. -/
structure Dispatched where
  sessionId : String
  sequence : Int
  payload : ListenerDispatchPayload
  deriving DecidableEq

/-- What the gateway sends on a connection: nothing before it has answered, and the events of a
session after those that were read. -/
inductive Link
  | closed
  | starting (start : StartSession)
  | streaming (sessionId : String) (read : Option Int)

structure Handling where
  source : Option (String × DispatchFrame)
  past : List (Lib.Asked GatewayOp.Answer) := []
  call : FrameCall

structure World where
  sessions : Dict String (List DispatchFrame) := ∅
  persisted : ListenerCursor := {}
  adapter : AdapterState := {}
  cursor : ListenerCursor := {}
  gatewayUrl : String := ""
  link : Link := .closed
  handling : Option Handling := none
  received : List Received := []
  dispatched : List Dispatched := []

inductive GatewayTurn
  /-- the session start limit, or an error before the session is started -/
  | refused
  | connected (gatewayUrl : String)
  | sessionCreated (sessionId : String) (ready : DispatchFrame)
  | resumeAccepted
  | appended (sessionId : String) (frame : DispatchFrame)
  | delivered
  /-- a frame without a number, or one that does not decode -/
  | control (frame : Option Json)
  /-- a call of the handler returns or raises; a cursor may be saved though the call raises -/
  | answered (returned written : Bool)
  | handled
  | ended
  /-- also where the task is cancelled -/
  | restarted

namespace World

variable (rt : GatewayRuntime) (kind : AdapterKind) (w : World)

def session : SessionState := ⟨w.adapter, w.cursor⟩

/-- `run_session_once`, up to the cursor that it loads. -/
def loaded : World :=
  { w with
    adapter := { w.adapter with sequence := w.persisted.sequence }
    cursor := w.persisted }

def connected (gatewayUrl : String) : World :=
  { w.loaded with
    gatewayUrl := gatewayUrl
    link := .starting (sendStartSession kind w.persisted) }

def next? : Option (String × DispatchFrame) :=
  match w.link, w.handling with
  | .streaming sessionId read, none =>
    ((w.sessions.get? sessionId).bind (nextAfter? DispatchFrame.sequence read)).map (sessionId, ·)
  | _, _ => none

def handleEvent (sessionId : String) (frame : DispatchFrame) : World :=
  { w with
    received := ⟨sessionId, frame, w.adapter.botUserId⟩ :: w.received
    handling := some ⟨some (sessionId, frame), [],
      handleGatewayFrame rt kind w.gatewayUrl (some (.obj frame.payload)) w.session⟩ }

def isControl (frame : Option Json) : Bool :=
  match decodeGatewayPayload frame with
  | none => true
  | some payload =>
    (sequenceOf payload).isNone && equalInt rt (get payload "op") ≠ some 0

def handleControl (frame : Option Json) : World :=
  { w with
    handling := some ⟨none, [], handleGatewayFrame rt kind w.gatewayUrl frame w.session⟩ }

/-- What a call of the handler does outside the adapter. -/
def performed (source : Option (String × DispatchFrame)) (op : GatewayOp)
    (returned written : Bool) : World :=
  match op with
  | .dispatchListenerEvent payload => match source with
    | some (sessionId, frame) => if returned then
        { w with dispatched := ⟨sessionId, frame.sequence, payload⟩ :: w.dispatched } else w
    | none => w
  | .saveListenerCursor cursor => if returned || written then { w with persisted := cursor } else w
  | .send _ => w

def handled (source : Option (String × DispatchFrame)) (s : SessionState) (outcome : FrameOutcome) :
    World :=
  { w with
    adapter := s.adapter
    cursor := s.cursor
    handling := none
    link := if outcome ≠ .reads then .closed else match source with
      | some (sessionId, frame) => .streaming sessionId (some frame.sequence)
      | none => w.link }

def appended (sessionId : String) (log : List DispatchFrame) : World :=
  { w with sessions := w.sessions.set sessionId log }

def step (botUserId : String) : World → GatewayTurn → World
  | w, .refused => match w.link with
    | .closed => w.loaded
    | _ => w
  | w, .connected gatewayUrl => match w.link with
    | .closed => w.connected kind gatewayUrl
    | _ => w
  | w, .sessionCreated sessionId ready => match w.link, w.handling with
    | .starting .identify, none =>
      if w.sessions.contains sessionId = false ∧ ready.introduces rt botUserId sessionId then
        { w.appended sessionId [ready] with link := .streaming sessionId none }
      else w
    | _, _ => w
  | w, .resumeAccepted => match w.link, w.handling with
    | .starting (.resume sessionId sequence), none =>
      if w.sessions.contains sessionId then
        { w with link := .streaming sessionId (some sequence) }
      else w
    | _, _ => w
  | w, .appended sessionId frame => match w.sessions.get? sessionId with
    | some log =>
      if frame.isReady = false ∧ log.all (fun earlier => earlier.sequence < frame.sequence) then
        w.appended sessionId (log ++ [frame])
      else w
    | none => w
  | w, .delivered => match w.next? with
    | some (sessionId, frame) => w.handleEvent rt kind sessionId frame
    | none => w
  | w, .control frame => match w.link, w.handling with
    | .closed, _ => w
    | _, some _ => w
    | _, none => if isControl rt frame then w.handleControl rt kind frame else w
  | w, .answered returned written => match w.handling with
    | some ⟨source, past, .ask op next⟩ =>
      { w.performed source op returned written with
        handling := some ⟨source, ⟨op, returned⟩ :: past, next returned⟩ }
    | _ => w
  | w, .handled => match w.handling with
    | some ⟨source, _, .done (s, outcome)⟩ => w.handled source s outcome
    | _ => w
  | w, .ended => match w.handling with
    | none => { w with link := .closed }
    | some _ => w
  | w, .restarted =>
    { w with adapter := {}, cursor := {}, link := .closed, handling := none }

end World

inductive Platform
  | discord | qq
  deriving DecidableEq, Repr

def Platform.adapter (rt : GatewayRuntime) (subscription : ListenerSubscription) :
    Platform → AdapterKind
  | discord => discordGatewayAdapter rt subscription
  | qq => qqGatewayAdapter rt subscription

end Orcheo.Gateway
