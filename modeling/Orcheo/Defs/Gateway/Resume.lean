import Orcheo.Defs.Gateway.Session

/-! What a listener resumes from. -/

namespace Orcheo.Gateway

open Lib (Acknowledged Always Asked Increasing nextAfter?)
open Traces (Entries get)
open Or (inl inr)
open DispatchFrame (event? isReady)

namespace ListenerCursor

def At (cursor : ListenerCursor) (sessionId : String) (sequence : Int) : Prop :=
  cursor.sessionId = some sessionId ∧ cursor.sequence = some sequence

def SamePlace (cursor cursor' : ListenerCursor) : Prop :=
  cursor.sessionId = cursor'.sessionId ∧ cursor.sequence = cursor'.sequence

end ListenerCursor

variable (rt : GatewayRuntime) (kind : AdapterKind) (botUserId : String)

/-- The event was given to the adapter, which filtered it out, or it was dispatched without an
error.  READY and RESUMED are for the adapter itself. -/
def World.Settled (w : World) (sessionId : String) (frame : DispatchFrame) : Prop :=
  ∀ eventType data, frame.event? = some (eventType, data) → eventType ≠ "READY" →
    eventType ≠ "RESUMED" → ∃ known, ⟨sessionId, frame, known⟩ ∈ w.received ∧
      (kind.normalize known eventType data = .ok none ∨
        ∃ payload, kind.normalize known eventType data = .ok (some payload) ∧
          ⟨sessionId, frame.sequence, payload⟩ ∈ w.dispatched)

/-- The cursor names no session, or a number of the session it names, all of whose events up to
that number are settled. -/
def World.Resumable (w : World) (cursor : ListenerCursor) : Prop :=
  match cursor.sessionId, cursor.sequence with
  | none, none => True
  | some sessionId, some sequence => ∃ log, w.sessions.get? sessionId = some log ∧
    (∃ frame ∈ log, frame.sequence = sequence) ∧
    Acknowledged DispatchFrame.sequence (w.Settled kind sessionId) (some sequence) log
  | _, _ => False

def SettledBy (known : Option String) (frame : DispatchFrame)
    (past : List (Asked GatewayOp.Answer)) : Prop :=
  ∀ eventType data, frame.event? = some (eventType, data) → eventType ≠ "READY" →
    eventType ≠ "RESUMED" → kind.normalize known eventType data = .ok none ∨
      ∃ payload, kind.normalize known eventType data = .ok (some payload) ∧
        ⟨.dispatchListenerEvent payload, true⟩ ∈ past

variable (s : SessionState) (source : Option (String × DispatchFrame))
variable (past : List (Asked GatewayOp.Answer))

def Saves (cursor : ListenerCursor) : Prop :=
  match source with
  | some (sessionId, frame) =>
    cursor.At sessionId frame.sequence ∧ SettledBy kind s.adapter.botUserId frame past
  | none => cursor.SamePlace {} ∨ cursor.SamePlace s.cursor

def Asks : GatewayOp → Prop
  | .saveListenerCursor cursor => Saves kind s source past cursor
  | _ => True

def Gives (result : SessionState × FrameOutcome) : Prop :=
  (result.1.adapter.botUserId = s.adapter.botUserId ∨ result.1.adapter.botUserId = none ∨
    result.1.adapter.botUserId = some botUserId) ∧
  (result.2 = .reads → match source with
    | some (sessionId, frame) => result.1.cursor.At sessionId frame.sequence ∧
      SettledBy kind s.adapter.botUserId frame past
    | none => result.1.cursor = s.cursor)

abbrev Handles (call : FrameCall) (past : List (Asked GatewayOp.Answer)) : Prop :=
  call.Meets (fun _ _ => True) (Asks kind s source) (Gives kind botUserId s source) past

variable {rt} {kind} {botUserId} {gatewayUrl : String} {s s₀ : SessionState} {op : GatewayOp}
  {next : FrameCall} {past : List (Asked GatewayOp.Answer)} {sessionId : String}
  {frame : DispatchFrame} {source : Option (String × DispatchFrame)} {w : World}

theorem handles_await (asks : Asks kind s₀ source past op)
    (raises : Gives kind botUserId s₀ source (⟨op, false⟩ :: past) (s, .raises))
    (goes : Handles kind botUserId s₀ source next (⟨op, true⟩ :: past)) :
    Handles kind botUserId s₀ source (op.await s next) past := by
  refine ⟨asks, ?_⟩
  intro answer _
  cases answer with
  | false => exact raises
  | true => exact goes

theorem gives_of_stopped {outcome : FrameOutcome} (stopped : outcome ≠ .reads)
    (bot : s.adapter.botUserId = s₀.adapter.botUserId ∨ s.adapter.botUserId = none ∨
      s.adapter.botUserId = some botUserId) :
    Gives kind botUserId s₀ source past (s, outcome) :=
  ⟨bot, fun reads => absurd reads stopped⟩

theorem sequenced_frame : s.sequenced frame.payload =
    ⟨{ s.adapter with sequence := some frame.sequence },
      { s.cursor with sequence := some frame.sequence }⟩ := by
  unfold SessionState.sequenced
  rw [frame.numbered]

theorem handleGatewayFrame_frame :
    handleGatewayFrame rt kind gatewayUrl (some (.obj frame.payload)) s =
      match frame.event? with
      | some (eventType, data) => handleDispatchEvent rt kind gatewayUrl eventType data
        (s.sequenced frame.payload)
      | none => .done (s.sequenced frame.payload, .reads) := by
  have zero : equalInt rt (get frame.payload "op") = some 0 := by
    rw [frame.dispatches]
    rfl
  unfold handleGatewayFrame
  simp only [decodeGatewayPayload, zero, ne_eq, not_true_eq_false, if_false,
    event?]
  cases get frame.payload "t" with
  | str eventType =>
    cases (Json.field? frame.payload "d").getD (.obj []) with
    | obj data => rfl
    | _ => rfl
  | _ => rfl

theorem settledBy_of_own (own : ∀ eventType data, frame.event? = some (eventType, data) →
    eventType = "READY" ∨ eventType = "RESUMED") {known : Option String} :
    SettledBy kind known frame past := by
  intro eventType data event notReady notResumed
  cases own eventType data event with
  | inl ready => exact absurd ready notReady
  | inr resumed => exact absurd resumed notResumed

theorem handleReadyEvent_handles {data : Entries} (event : frame.event? = some ("READY", data))
    (introduces : frame.introduces rt botUserId sessionId = true)
    (sequence : s.cursor.sequence = some frame.sequence)
    (bot : s.adapter.botUserId = s₀.adapter.botUserId) :
    Handles kind botUserId s₀ (some (sessionId, frame))
      (handleReadyEvent rt kind gatewayUrl data s) [] := by
  unfold DispatchFrame.introduces at introduces
  rw [event] at introduces
  simp only [Option.any_some, decide_true, Bool.true_and, Bool.and_eq_true,
    decide_eq_true_eq] at introduces
  obtain ⟨name, user⟩ := introduces
  have named : named data s.cursor = { s.cursor with sessionId := some sessionId } := by
    unfold Gateway.named
    rw [name]
  have knows : readyBotUserId rt data s.adapter.botUserId = some botUserId := by
    unfold readyBotUserId
    cases there : get data "user" with
    | obj entries =>
      rw [there] at user
      dsimp only
      rw [of_decide_eq_true user]
      rfl
    | _ =>
      rw [there] at user
      cases user
  have settled {past : List (Asked GatewayOp.Answer)} :
      SettledBy kind s₀.adapter.botUserId frame past := by
    apply settledBy_of_own
    intro eventType data' event'
    cases event.symm.trans event'
    exact inl rfl
  unfold handleReadyEvent
  dsimp only
  split
  next => exact gives_of_stopped (by decide) (inl bot)
  next url there =>
    rw [named]
    apply handles_await
    case asks => exact ⟨⟨rfl, sequence⟩, settled⟩
    case raises => exact gives_of_stopped (by decide) (inr (inr knows))
    case goes => exact ⟨inr (inr knows), fun _ => ⟨⟨rfl, sequence⟩, settled⟩⟩

theorem handleGatewayFrame_handles (follows : frame.introduces rt botUserId sessionId = true ∨
      frame.isReady = false ∧ s.cursor.sessionId = some sessionId) :
    Handles kind botUserId s (some (sessionId, frame))
      (handleGatewayFrame rt kind gatewayUrl (some (.obj frame.payload)) s) [] := by
  rw [handleGatewayFrame_frame, sequenced_frame]
  have session (other : frame.isReady = false) : s.cursor.sessionId = some sessionId := by
    cases follows with
    | inl introduces =>
      exfalso
      unfold DispatchFrame.introduces at introduces
      unfold isReady at other
      cases event : frame.event? with
      | none => simp [event] at introduces
      | some event' => simp_all
    | inr named => exact named.2
  cases event : frame.event? with
  | none =>
    refine ⟨inl rfl, fun _ => ⟨⟨session ?_, rfl⟩, ?_⟩⟩
    · simp [isReady, event]
    · intro eventType data there
      cases event.symm.trans there
  | some event' =>
    obtain ⟨eventType, data⟩ := event'
    dsimp only [handleDispatchEvent]
    by_cases ready : eventType = "READY"
    · subst ready
      rw [if_pos rfl]
      cases follows with
      | inl introduces => exact handleReadyEvent_handles event introduces rfl rfl
      | inr named => simp [isReady, event] at named
    · rw [if_neg ready]
      have named : s.cursor.sessionId = some sessionId := by
        apply session
        simp [isReady, event, ready]
      -- the save after which the frame has been read
      have saves {past : List (Asked GatewayOp.Answer)}
          (settled : ∀ {past'}, (∀ a ∈ past, a ∈ past') →
            SettledBy kind s.adapter.botUserId frame past') :
          Handles kind botUserId s (some (sessionId, frame))
            (SessionState.save ⟨{ s.adapter with sequence := some frame.sequence },
              { s.cursor with sequence := some frame.sequence }⟩
              (.done (⟨{ s.adapter with sequence := some frame.sequence },
                { s.cursor with sequence := some frame.sequence }⟩, .reads))) past := by
        apply handles_await
        case asks => exact ⟨⟨named, rfl⟩, settled (fun _ mem => mem)⟩
        case raises => exact gives_of_stopped (by decide) (inl rfl)
        case goes =>
          exact ⟨inl rfl, fun _ => ⟨⟨named, rfl⟩,
            settled (fun _ mem => List.mem_cons_of_mem _ mem)⟩⟩
      by_cases resumed : eventType = "RESUMED"
      · rw [if_pos resumed]
        apply saves
        intro past' _
        apply settledBy_of_own
        intro eventType' data' event'
        cases event.symm.trans event'
        exact inr resumed
      · rw [if_neg resumed]
        split
        next => exact gives_of_stopped (by decide) (inl rfl)
        next filtered =>
          apply saves
          intro past' _ eventType' data' event' _ _
          cases event.symm.trans event'
          exact inl filtered
        next payload normalized =>
          apply handles_await
          case asks => trivial
          case raises => exact gives_of_stopped (by decide) (inl rfl)
          case goes =>
            apply saves
            intro past' kept eventType' data' event' _ _
            cases event.symm.trans event'
            exact inr ⟨payload, normalized, kept _ (List.mem_cons_self ..)⟩

theorem handleControl_handles {frame : Option Json} (control : World.isControl rt frame = true) :
    Handles kind botUserId s none (handleGatewayFrame rt kind gatewayUrl frame s) [] := by
  unfold World.isControl at control
  unfold handleGatewayFrame
  cases decoded : decodeGatewayPayload frame with
  | none => exact gives_of_stopped (by decide) (inl rfl)
  | some payload =>
    rw [decoded] at control
    simp only [Bool.and_eq_true, Option.isNone_iff_eq_none, decide_eq_true_eq] at control
    obtain ⟨unnumbered, other⟩ := control
    have same : s.sequenced payload = s := by
      unfold SessionState.sequenced
      rw [unnumbered]
    simp only [same]
    rw [if_pos other]
    unfold handleNonDispatchOp
    split
    next => exact ⟨inl rfl, fun _ => rfl⟩
    next =>
      apply handles_await
      case asks => trivial
      case raises => exact gives_of_stopped (by decide) (inl rfl)
      case goes => exact ⟨inl rfl, fun _ => rfl⟩
    next =>
      split
      next => exact gives_of_stopped (by decide) (inl rfl)
      next url _ =>
        apply handles_await
        case asks => exact inr ⟨rfl, rfl⟩
        case raises => exact gives_of_stopped (by decide) (inl rfl)
        case goes => exact gives_of_stopped (by decide) (inl rfl)
    next =>
      apply handles_await
      case asks => exact inl ⟨rfl, rfl⟩
      case raises => exact gives_of_stopped (by decide) (inl rfl)
      case goes => exact gives_of_stopped (by decide) (inr (inl rfl))
    next => exact ⟨inl rfl, fun _ => rfl⟩

namespace World

variable (rt) (kind) (botUserId)

def Linked (w : World) : Prop :=
  match w.link with
  | .closed => w.handling = none
  | .starting start => w.Resumable kind w.cursor ∧
    ∀ sessionId sequence, start = .resume sessionId sequence → w.cursor.At sessionId sequence
  | .streaming _ none => w.Resumable kind w.cursor
  | .streaming sessionId (some sequence) =>
    w.Resumable kind w.cursor ∧ w.cursor.At sessionId sequence

def Recorded (w : World) (past : List (Asked GatewayOp.Answer)) (sessionId : String)
    (frame : DispatchFrame) : Prop :=
  (∃ log read, w.link = .streaming sessionId read ∧ w.sessions.get? sessionId = some log ∧
    nextAfter? DispatchFrame.sequence read log = some frame) ∧
  ⟨sessionId, frame, w.adapter.botUserId⟩ ∈ w.received ∧
  ∀ payload, ⟨.dispatchListenerEvent payload, true⟩ ∈ past →
    ⟨sessionId, frame.sequence, payload⟩ ∈ w.dispatched

structure LogOf (sessionId : String) (log : List DispatchFrame) : Prop where
  increasing : Increasing DispatchFrame.sequence log
  headed : ∃ ready rest, log = ready :: rest ∧ ready.introduces rt botUserId sessionId = true ∧
    ∀ frame ∈ rest, frame.isReady = false

structure Sound (w : World) : Prop where
  logs : ∀ sessionId log, w.sessions.get? sessionId = some log → LogOf rt botUserId sessionId log
  persisted : w.Resumable kind w.persisted
  bot : w.adapter.botUserId = none ∨ w.adapter.botUserId = some botUserId
  linked : w.Linked kind
  handles : ∀ h, w.handling = some h → Handles kind botUserId w.session h.source h.call h.past
  recorded : ∀ h, w.handling = some h → ∀ sessionId frame, h.source = some (sessionId, frame) →
    w.Recorded h.past sessionId frame

structure Grows (w w' : World) : Prop where
  sessions : ∀ sessionId log, w.sessions.get? sessionId = some log → ∃ more,
    w'.sessions.get? sessionId = some (log ++ more) ∧
    ∀ frame ∈ log, ∀ frame' ∈ more, frame.sequence < frame'.sequence
  received : ∀ r ∈ w.received, r ∈ w'.received
  dispatched : ∀ d ∈ w.dispatched, d ∈ w'.dispatched

variable {rt} {kind} {botUserId} {w' : World} {cursor : ListenerCursor} {log : List DispatchFrame}

theorem Grows.of_same (sessions : w'.sessions = w.sessions)
    (received : ∀ r ∈ w.received, r ∈ w'.received)
    (dispatched : ∀ d ∈ w.dispatched, d ∈ w'.dispatched) : Grows w w' where
  sessions sessionId log there := by
    refine ⟨[], ?_, nofun⟩
    rw [sessions, List.append_nil]
    exact there
  received := received
  dispatched := dispatched

theorem Grows.alike (sessions : w'.sessions = w.sessions) (received : w'.received = w.received)
    (dispatched : w'.dispatched = w.dispatched) : Grows w w' :=
  .of_same sessions (fun _ mem => received ▸ mem) (fun _ mem => dispatched ▸ mem)

theorem Settled.grows (settled : w.Settled kind sessionId frame) (grows : Grows w w') :
    w'.Settled kind sessionId frame := by
  intro eventType data event notReady notResumed
  obtain ⟨known, received, outcome⟩ := settled eventType data event notReady notResumed
  refine ⟨known, grows.received _ received, ?_⟩
  cases outcome with
  | inl filtered => exact inl filtered
  | inr dispatched =>
    obtain ⟨payload, normalized, there⟩ := dispatched
    exact inr ⟨payload, normalized, grows.dispatched _ there⟩

theorem Resumable.grows (resumable : w.Resumable kind cursor) (grows : Grows w w') :
    w'.Resumable kind cursor := by
  unfold Resumable at resumable ⊢
  split at resumable
  next => trivial
  next sessionId sequence _ _ =>
    obtain ⟨log, there, ⟨frame, mem, same⟩, acknowledged⟩ := resumable
    obtain ⟨more, there', larger⟩ := grows.sessions sessionId log there
    refine ⟨log ++ more, there', ⟨frame, List.mem_append_left _ mem, same⟩, ?_⟩
    exact (acknowledged.mono (fun _ _ settled => Settled.grows settled grows)).append
      ⟨frame, mem, same⟩ larger
  next => exact resumable.elim

theorem resumable_of_samePlace {cursor' : ListenerCursor} (resumable : w.Resumable kind cursor')
    (same : cursor.SamePlace cursor') : w.Resumable kind cursor := by
  unfold Resumable
  rw [same.1, same.2]
  exact resumable

theorem resumable_empty : w.Resumable kind {} := trivial

theorem Resumable.place (resumable : w.Resumable kind cursor) {sequence : Int}
    (place : cursor.At sessionId sequence) : ∃ log, w.sessions.get? sessionId = some log ∧
      (∃ frame ∈ log, frame.sequence = sequence) ∧
      Acknowledged DispatchFrame.sequence (w.Settled kind sessionId) (some sequence) log := by
  unfold Resumable at resumable
  rw [place.1, place.2] at resumable
  exact resumable

theorem Linked.resumable (linked : w.Linked kind) (isOpen : w.link ≠ .closed) :
    w.Resumable kind w.cursor := by
  unfold Linked at linked
  split at linked
  next closed => exact absurd closed isOpen
  next => exact linked.1
  next => exact linked
  next => exact linked.1

theorem Linked.acknowledged (linked : w.Linked kind) {read : Option Int}
    (streaming : w.link = .streaming sessionId read)
    (there : w.sessions.get? sessionId = some log) :
    Acknowledged DispatchFrame.sequence (w.Settled kind sessionId) read log := by
  unfold Linked at linked
  rw [streaming] at linked
  cases read with
  | none => exact Acknowledged.none
  | some sequence =>
    obtain ⟨log', there', -, acknowledged⟩ := linked.1.place linked.2
    cases there.symm.trans there'
    exact acknowledged

theorem resumable_next (sound : w.Sound rt kind botUserId)
    (recorded : w.Recorded past sessionId frame)
    (settled : SettledBy kind w.adapter.botUserId frame past)
    (place : cursor.At sessionId frame.sequence) : w.Resumable kind cursor := by
  obtain ⟨⟨log, read, streaming, there, next⟩, received, dispatched⟩ := recorded
  unfold Resumable
  rw [place.1, place.2]
  refine ⟨log, there, ⟨frame, Lib.nextAfter?_mem next, rfl⟩, ?_⟩
  refine (sound.linked.acknowledged streaming there).advance (sound.logs _ _ there).increasing
    next ?_
  intro eventType data event notReady notResumed
  refine ⟨_, received, ?_⟩
  cases settled eventType data event notReady notResumed with
  | inl filtered => exact inl filtered
  | inr asked =>
    obtain ⟨payload, normalized, mem⟩ := asked
    exact inr ⟨payload, normalized, dispatched payload mem⟩

theorem next?_cases (next : w.next? = some (sessionId, frame)) :
    w.handling = none ∧ ∃ log read, w.link = .streaming sessionId read ∧
      w.sessions.get? sessionId = some log ∧
      nextAfter? DispatchFrame.sequence read log = some frame := by
  unfold next? at next
  split at next
  next sessionId' read link idle =>
    obtain ⟨frame', found, same⟩ := Option.map_eq_some_iff.mp next
    obtain ⟨log, there, after⟩ := Option.bind_eq_some_iff.mp found
    cases same
    exact ⟨idle, log, read, link, there, after⟩
  next => cases next

theorem next_follows (sound : w.Sound rt kind botUserId) {read : Option Int}
    (streaming : w.link = .streaming sessionId read) (there : w.sessions.get? sessionId = some log)
    (next : nextAfter? DispatchFrame.sequence read log = some frame) :
    frame.introduces rt botUserId sessionId = true ∨
      frame.isReady = false ∧ w.cursor.sessionId = some sessionId := by
  obtain ⟨increasing, ready, rest, split, introduces, others⟩ := sound.logs _ _ there
  cases read with
  | none =>
    left
    rw [split] at next
    simp only [nextAfter?, List.find?_cons, Lib.not_past_none, decide_false, Bool.not_false,
      Option.some.injEq] at next
    rw [← next]
    exact introduces
  | some sequence =>
    right
    have linked := sound.linked
    unfold Linked at linked
    rw [streaming] at linked
    obtain ⟨log', there', ⟨last, mem, same⟩, -⟩ := linked.1.place linked.2
    cases there.symm.trans there'
    refine ⟨?_, linked.2.1⟩
    have member := Lib.nextAfter?_mem next
    have unread := Lib.nextAfter?_not_past next
    rw [split] at member mem increasing
    cases member with
    | tail _ later => exact others frame later
    | head =>
      -- READY is not after what has been read
      exfalso
      apply unread
      rw [Lib.past_some, ← same]
      cases mem with
      | head => exact Int.le_refl _
      | tail _ later => exact Int.le_of_lt ((List.pairwise_cons.mp increasing).1 last later)

theorem Linked.grows (linked : w.Linked kind) (grows : Grows w w') (cursor : w'.cursor = w.cursor)
    (link : w'.link = w.link) (idle : w.handling = none → w'.handling = none ∨ w.link ≠ .closed) :
    w'.Linked kind := by
  unfold Linked at linked ⊢
  rw [link, cursor]
  split
  next closed =>
    rw [closed] at linked
    exact (idle linked).resolve_right (fun isOpen => isOpen closed)
  next start starting =>
    rw [starting] at linked
    exact ⟨linked.1.grows grows, linked.2⟩
  next streaming =>
    rw [streaming] at linked
    exact Resumable.grows linked grows
  next streaming =>
    rw [streaming] at linked
    exact ⟨linked.1.grows grows, linked.2⟩

theorem Recorded.grows (recorded : w.Recorded past sessionId frame) (grows : Grows w w')
    (link : w'.link = w.link) (adapter : w'.adapter = w.adapter) :
    w'.Recorded past sessionId frame := by
  obtain ⟨⟨log, read, streaming, there, next⟩, received, dispatched⟩ := recorded
  obtain ⟨more, there', -⟩ := grows.sessions sessionId log there
  rw [← link] at streaming
  rw [← adapter] at received
  exact ⟨⟨log ++ more, read, streaming, there', Lib.nextAfter?_append next⟩,
    grows.received _ received, fun payload mem => grows.dispatched _ (dispatched payload mem)⟩

theorem Sound.grows (sound : w.Sound rt kind botUserId) (grows : Grows w (w.appended sessionId log))
    (logOf : LogOf rt botUserId sessionId log) :
    (w.appended sessionId log).Sound rt kind botUserId where
  logs sessionId' log' there := by
    unfold appended at there
    rw [Lib.Dict.get?_set] at there
    split at there
    next same =>
      cases there
      rw [same]
      exact logOf
    next => exact sound.logs sessionId' log' there
  persisted := sound.persisted.grows grows
  bot := sound.bot
  linked := sound.linked.grows grows rfl rfl inl
  handles := sound.handles
  recorded h there sessionId' frame source :=
    (sound.recorded h there sessionId' frame source).grows grows rfl rfl

theorem grows_appended {more : List DispatchFrame}
    (before : ∀ old, w.sessions.get? sessionId = some old → log = old ++ more ∧
      ∀ frame ∈ old, ∀ frame' ∈ more, frame.sequence < frame'.sequence) :
    Grows w (w.appended sessionId log) where
  sessions sessionId' old there := by
    unfold appended
    rw [Lib.Dict.get?_set]
    split
    next same =>
      rw [← same] at before
      obtain ⟨longer, larger⟩ := before old there
      exact ⟨more, by rw [longer], larger⟩
    next => exact ⟨[], by rw [List.append_nil]; exact there, nofun⟩
  received _ mem := mem
  dispatched _ mem := mem

theorem grows_performed {returned written : Bool} :
    Grows w (w.performed source op returned written) := by
  unfold performed
  split
  next =>
    split
    next =>
      split
      next => exact .of_same rfl (fun _ mem => mem) (fun _ mem => List.mem_cons_of_mem _ mem)
      next => exact .alike rfl rfl rfl
    next => exact .alike rfl rfl rfl
  next =>
    split
    next => exact .alike rfl rfl rfl
    next => exact .alike rfl rfl rfl
  next => exact .alike rfl rfl rfl

variable (w source op) in
theorem performed_same (returned written : Bool) :
    (w.performed source op returned written).sessions = w.sessions ∧
    (w.performed source op returned written).adapter = w.adapter ∧
    (w.performed source op returned written).cursor = w.cursor ∧
    (w.performed source op returned written).link = w.link := by
  unfold performed
  split
  next =>
    split
    next => split <;> exact ⟨rfl, rfl, rfl, rfl⟩
    next => exact ⟨rfl, rfl, rfl, rfl⟩
  next => split <;> exact ⟨rfl, rfl, rfl, rfl⟩
  next => exact ⟨rfl, rfl, rfl, rfl⟩

theorem handling_isOpen (linked : w.Linked kind) {h : Handling} (there : w.handling = some h) :
    w.link ≠ .closed := by
  intro closed
  unfold Linked at linked
  rw [closed, there] at linked
  cases linked

section

variable (sound : w.Sound rt kind botUserId)
include sound

theorem performed_persisted {h : Handling} (there : w.handling = some h)
    (asks : Asks kind w.session h.source h.past op) {returned written : Bool} :
    w.Resumable kind (w.performed h.source op returned written).persisted := by
  cases op with
  | dispatchListenerEvent payload =>
    unfold performed
    dsimp only
    split
    next => split <;> exact sound.persisted
    next => exact sound.persisted
  | send payload => exact sound.persisted
  | saveListenerCursor cursor =>
    unfold performed
    dsimp only
    split
    next =>
      change Saves kind w.session h.source h.past cursor at asks
      unfold Saves at asks
      split at asks
      next sessionId frame source =>
        exact resumable_next sound (sound.recorded h there _ _ source) asks.2 asks.1
      next =>
        cases asks with
        | inl empty => exact resumable_of_samePlace resumable_empty empty
        | inr same =>
          exact resumable_of_samePlace
            (sound.linked.resumable (handling_isOpen sound.linked there)) same
    next => exact sound.persisted

theorem Sound.answered {next : Bool → FrameCall}
    {returned written : Bool} (there : w.handling = some ⟨source, past, .ask op next⟩) :
    ({ w.performed source op returned written with
      handling := some ⟨source, ⟨op, returned⟩ :: past, next returned⟩ } : World).Sound rt kind
        botUserId := by
  have grows : Grows w { w.performed source op returned written with
      handling := some ⟨source, ⟨op, returned⟩ :: past, next returned⟩ } :=
    ⟨grows_performed.sessions, grows_performed.received, grows_performed.dispatched⟩
  obtain ⟨sessions, adapter, cursor, link⟩ :=
    performed_same op source w returned written
  have handles := sound.handles _ there
  constructor
  case logs =>
    intro sessionId log found
    change (w.performed source op returned written).sessions.get? sessionId = some log at found
    rw [sessions] at found
    exact sound.logs sessionId log found
  case persisted => exact (performed_persisted sound there handles.1).grows grows
  case bot =>
    show (w.performed source op returned written).adapter.botUserId = none ∨ _ = _
    rw [adapter]
    exact sound.bot
  case linked =>
    exact sound.linked.grows grows cursor link
      (fun _ => inr (handling_isOpen sound.linked there))
  case handles =>
    intro h same
    cases same
    show Handles kind botUserId ⟨(w.performed source op returned written).adapter,
      (w.performed source op returned written).cursor⟩ _ _ _
    rw [adapter, cursor]
    exact handles.2 returned trivial
  case recorded =>
    intro h same sessionId frame own
    cases same
    change source = some (sessionId, frame) at own
    have before := (sound.recorded _ there sessionId frame own).grows grows link adapter
    refine ⟨before.1, before.2.1, ?_⟩
    intro payload mem
    cases List.mem_cons.mp mem with
    | inl now =>
      injection now with op' returned'
      show _ ∈ (w.performed source op returned written).dispatched
      rw [← op', ← returned', own]
      exact List.mem_cons_self ..
    | inr old => exact before.2.2 payload old

theorem Sound.handled {outcome : FrameOutcome}
    (there : w.handling = some ⟨source, past, .done (s, outcome)⟩) :
    (w.handled source s outcome).Sound rt kind botUserId := by
  have grows : Grows w (w.handled source s outcome) :=
    .alike rfl rfl rfl
  obtain ⟨bot, reads⟩ := sound.handles _ there
  constructor
  case logs => exact sound.logs
  case persisted => exact sound.persisted.grows grows
  case bot =>
    show s.adapter.botUserId = none ∨ s.adapter.botUserId = some botUserId
    cases bot with
    | inl same =>
      rw [same]
      exact sound.bot
    | inr known => exact known
  case handles =>
    intro h none
    cases none
  case recorded =>
    intro h none
    cases none
  case linked =>
    unfold Linked
    by_cases stopped : outcome = .reads
    · have goes := reads stopped
      cases source with
      | none =>
        have linked := sound.linked.grows grows goes
          (by simp [World.handled, stopped]) (fun _ => inl rfl)
        exact linked
      | some own =>
        obtain ⟨sessionId, frame⟩ := own
        have recorded := sound.recorded _ there sessionId frame rfl
        have resumable := resumable_next sound recorded goes.2 goes.1
        simp only [World.handled, stopped, ne_eq, not_true_eq_false, if_false]
        exact ⟨resumable.grows (.alike rfl rfl rfl), goes.1⟩
    · simp [World.handled, stopped]

theorem Sound.handleEvent (next : w.next? = some (sessionId, frame)) :
    (w.handleEvent rt kind sessionId frame).Sound rt kind botUserId := by
  obtain ⟨idle, log, read, streaming, there, after⟩ := next?_cases next
  have grows : Grows w (w.handleEvent rt kind sessionId frame) :=
    .of_same rfl (fun _ mem => List.mem_cons_of_mem _ mem) (fun _ mem => mem)
  constructor
  case logs => exact sound.logs
  case persisted => exact sound.persisted.grows grows
  case bot => exact sound.bot
  case linked =>
    refine sound.linked.grows grows rfl rfl (fun _ => inr ?_)
    rw [streaming]
    exact fun closed => by cases closed
  case handles =>
    intro h same
    cases same
    have follows := next_follows sound streaming there after
    exact handleGatewayFrame_handles follows
  case recorded =>
    intro h same sessionId' frame' own
    cases same
    cases own
    refine ⟨⟨log, read, streaming, there, after⟩, List.mem_cons_self .., ?_⟩
    intro payload mem
    cases mem

theorem Sound.handleControl {frame : Option Json}
    (control : isControl rt frame = true) (isOpen : w.link ≠ .closed) :
    (w.handleControl rt kind frame).Sound rt kind botUserId := by
  have grows : Grows w (w.handleControl rt kind frame) :=
    .alike rfl rfl rfl
  constructor
  case logs => exact sound.logs
  case persisted => exact sound.persisted.grows grows
  case bot => exact sound.bot
  case linked => exact sound.linked.grows grows rfl rfl (fun _ => inr isOpen)
  case handles =>
    intro h same
    cases same
    exact handleControl_handles control
  case recorded =>
    intro h same sessionId' frame' own
    cases same
    cases own

theorem Sound.reopened (adapter : AdapterState) (cursor : ListenerCursor) (gatewayUrl : String)
    (link : Link) (bot : adapter.botUserId = none ∨ adapter.botUserId = some botUserId)
    (linked : ({ w with
      adapter := adapter
      cursor := cursor
      gatewayUrl := gatewayUrl
      link := link
      handling := none } : World).Linked kind) :
    ({ w with
      adapter := adapter
      cursor := cursor
      gatewayUrl := gatewayUrl
      link := link
      handling := none } : World).Sound rt kind botUserId where
  logs := sound.logs
  persisted := sound.persisted.grows (.alike rfl rfl rfl)
  bot := bot
  linked := linked
  handles h there := by cases there
  recorded h there := by cases there

end

theorem sendStartSession_resume {sequence : Int}
    (resume : sendStartSession kind cursor = .resume sessionId sequence) :
    cursor.At sessionId sequence := by
  unfold sendStartSession at resume
  split at resume
  next sessionId' sequence' name number =>
    split at resume
    next =>
      cases resume
      exact ⟨name, number⟩
    next => cases resume
  next => cases resume

theorem Sound.closed (sound : w.Sound rt kind botUserId) (closed : w.link = .closed) :
    w.handling = none := by
  have linked := sound.linked
  unfold Linked at linked
  rw [closed] at linked
  exact linked

theorem logOf_single (introduces : frame.introduces rt botUserId sessionId = true) :
    LogOf rt botUserId sessionId [frame] where
  increasing := List.pairwise_singleton _ _
  headed := ⟨frame, [], rfl, introduces, nofun⟩

theorem LogOf.append (logOf : LogOf rt botUserId sessionId log) (other : frame.isReady = false)
    (larger : ∀ earlier ∈ log, earlier.sequence < frame.sequence) :
    LogOf rt botUserId sessionId (log ++ [frame]) where
  increasing := Lib.increasing_append logOf.increasing larger
  headed := by
    obtain ⟨ready, rest, split, introduces, others⟩ := logOf.headed
    refine ⟨ready, rest ++ [frame], by rw [split]; rfl, introduces, ?_⟩
    intro frame' mem
    cases List.mem_append.mp mem with
    | inl old => exact others frame' old
    | inr new =>
      rw [List.mem_singleton.mp new]
      exact other

theorem step_sound (turn : GatewayTurn) (sound : w.Sound rt kind botUserId) :
    (w.step rt kind botUserId turn).Sound rt kind botUserId := by
  unfold step
  cases turn with
  | refused =>
    dsimp only
    split
    next closed =>
      have idle := sound.closed closed
      have reopened := sound.reopened w.loaded.adapter w.persisted w.gatewayUrl w.link sound.bot
        (by unfold Linked; rw [closed])
      unfold loaded
      rw [← idle] at reopened
      exact reopened
    next => exact sound
  | connected gatewayUrl =>
    dsimp only
    split
    next closed =>
      have idle := sound.closed closed
      have reopened := sound.reopened w.loaded.adapter w.persisted gatewayUrl
        (.starting (sendStartSession kind w.persisted)) sound.bot
        ⟨sound.persisted.grows (.alike rfl rfl rfl),
          fun _ _ resume => sendStartSession_resume resume⟩
      unfold connected loaded
      rw [← idle] at reopened
      exact reopened
    next => exact sound
  | sessionCreated sessionId ready =>
    dsimp only
    split
    next link idle =>
      split
      next new =>
        have absent : w.sessions.get? sessionId = none := by
          simpa [Lib.Dict.contains] using new.1
        have grows : Grows w (w.appended sessionId [ready]) := by
          apply grows_appended
          case more => exact []
          case before =>
            intro old there
            cases absent.symm.trans there
        have created := sound.grows grows (logOf_single new.2)
        have linked := created.linked
        unfold Linked appended at linked
        rw [link] at linked
        have reopened := created.reopened w.adapter w.cursor w.gatewayUrl
          (.streaming sessionId none) sound.bot (linked.1.grows (.alike rfl rfl rfl))
        rw [← idle] at reopened
        exact reopened
      next => exact sound
    next => exact sound
  | resumeAccepted =>
    dsimp only
    split
    next sessionId sequence link idle =>
      split
      next =>
        have linked := sound.linked
        unfold Linked at linked
        rw [link] at linked
        have reopened := sound.reopened w.adapter w.cursor w.gatewayUrl
          (.streaming sessionId (some sequence)) sound.bot
          ⟨linked.1.grows (.alike rfl rfl rfl),
            linked.2 sessionId sequence rfl⟩
        rw [← idle] at reopened
        exact reopened
      next => exact sound
    next => exact sound
  | appended sessionId frame =>
    dsimp only
    split
    next log there =>
      split
      next fits =>
        have larger : ∀ earlier ∈ log, earlier.sequence < frame.sequence := by
          simpa using fits.2
        have grows : Grows w (w.appended sessionId (log ++ [frame])) := by
          apply grows_appended
          intro old there'
          cases there.symm.trans there'
          refine ⟨rfl, ?_⟩
          intro earlier mem frame' new
          rw [List.mem_singleton.mp new]
          exact larger earlier mem
        exact sound.grows grows ((sound.logs _ _ there).append fits.1 larger)
      next => exact sound
    next => exact sound
  | delivered =>
    dsimp only
    split
    next sessionId frame next => exact sound.handleEvent next
    next => exact sound
  | control frame =>
    dsimp only
    split
    next => exact sound
    next => exact sound
    next _ isOpen =>
      split
      next control => exact sound.handleControl control isOpen
      next => exact sound
  | answered returned written =>
    dsimp only
    split
    next there => exact sound.answered there
    next => exact sound
  | handled =>
    dsimp only
    split
    next there => exact sound.handled there
    next => exact sound
  | ended =>
    dsimp only
    split
    next idle =>
      have reopened := sound.reopened w.adapter w.cursor w.gatewayUrl .closed sound.bot rfl
      rw [← idle] at reopened
      exact reopened
    next => exact sound
  | restarted => exact sound.reopened _ _ _ _ (inl rfl) rfl

theorem sound_fresh : ({} : World).Sound rt kind botUserId where
  logs _ _ there := by cases there
  persisted := trivial
  bot := inl rfl
  linked := rfl
  handles _ there := by cases there
  recorded _ there := by cases there

end World

/-- Whatever the gateway sends and whatever fails, what is saved can be resumed from. -/
theorem gateway_resume_loses_no_event (rt : GatewayRuntime) (subscription : ListenerSubscription)
    (platform : Platform) (botUserId : String) (turns : List GatewayTurn) :
    Always (World.step rt (platform.adapter rt subscription) botUserId)
      (fun w => w.Resumable (platform.adapter rt subscription) w.persisted) {} turns := by
  apply Lib.always_of_invariant (I := World.Sound rt (platform.adapter rt subscription) botUserId)
  case holds => exact fun w sound => sound.persisted
  case keep => exact fun w turn sound => World.step_sound turn sound
  case hs => exact World.sound_fresh

end Orcheo.Gateway
