import Orcheo.Defs.Gateway.Resume

/-! What the Discord listener dispatches where it does not know who the bot is. -/

namespace Orcheo.Gateway

open Lib (AllSteps)
open Traces (Entries get)
open Except (map toOption)

def dispatches : FrameCall → Option ListenerDispatchPayload
  | .ask (.dispatchListenerEvent payload) _ => some payload
  | _ => none

variable (rt : GatewayRuntime) (subscription : ListenerSubscription) (botUserId : String)

def World.dispatchedFor (w : World) (frame : DispatchFrame) (known : Option String) :
    Option ListenerDispatchPayload :=
  dispatches (handleGatewayFrame rt (discordGatewayAdapter rt subscription) w.gatewayUrl
    (some (.obj frame.payload)) (w.session.withBotUserId known))

variable (event : String × Entries)

def acceptable : Bool :=
  event.1 = "MESSAGE_CREATE" &&
  match stringOrNone rt (get event.2 "channel_id"), stringOrNone rt (get event.2 "id") with
  | some channelId, some _ =>
    ((discordMessagePassesFilters rt subscription (stringOrNone rt (get event.2 "guild_id"))
      channelId (discordMessageTypeName rt (get event.2 "type")) (get event.2 "mentions")
      (some botUserId)).toOption.getD false) &&
    (hasMessageContentIntent rt subscription).toOption.isSome
  | _, _ => false

def writtenByBot : Bool :=
  isSelfAuthoredMessage rt (authorOf event.2) (some botUserId)

def dependsOnIdentity : Bool :=
  acceptable rt subscription botUserId event &&
    requiresBotMention subscription == !writtenByBot rt botUserId event

namespace World

/-- The event that is delivered is filtered as after READY: no message of the bot is dispatched,
and every message that is to mention the bot, and does, is. -/
structure FilteredAsIdentified (w : World) (frame : DispatchFrame) : Prop where
  same : w.dispatchedFor rt subscription frame w.adapter.botUserId =
    w.dispatchedFor rt subscription frame (some botUserId)
  own : frame.event?.any (writtenByBot rt botUserId) = true →
    w.dispatchedFor rt subscription frame w.adapter.botUserId = none
  mention : requiresBotMention subscription = true →
    frame.event?.any (acceptable rt subscription botUserId) = true →
    frame.event?.any (writtenByBot rt botUserId) = false →
    (w.dispatchedFor rt subscription frame w.adapter.botUserId).isSome

def FiltersAsIdentified (w : World) : GatewayTurn → Prop
  | .delivered => ∀ sessionId frame, w.next? = some (sessionId, frame) →
    w.FilteredAsIdentified rt subscription botUserId frame
  | _ => True

/-- The adapter has been told who the bot is, by a READY that it has handled since it was started
and since the last invalid session, or that does not matter for the event that is delivered. -/
def KnowsBot (w : World) : GatewayTurn → Prop
  | .delivered => ∀ sessionId frame, w.next? = some (sessionId, frame) →
    w.adapter.botUserId ≠ none ∨
      frame.event?.any (dependsOnIdentity rt subscription botUserId) = false
  | _ => True

end World

def passesConfigured (guildId : Option String) (channelId : String)
    (messageTypeName : Option String) : Except GatewayError Bool :=
  if guildId = none ∧ configuredFlag subscription.config "include_direct_messages" true = false then
    .ok false
  else
    (configuredTexts rt (fun s => s) subscription.config "allowed_guild_ids").bind (fun guilds =>
    if guilds ≠ [] ∧ guildId.any guilds.contains = false then .ok false
    else
      (configuredTexts rt (fun s => s) subscription.config "allowed_channel_ids").bind
      (fun channels =>
      if channels ≠ [] ∧ channels.contains channelId = false then .ok false
      else
        (configuredTexts rt (fun s => rt.upper (rt.strip s)) subscription.config
          "allowed_message_types").map (fun types =>
        decide (¬ (types ≠ [] ∧ messageTypeName.any (fun name => !types.contains name) = true)))))

def passesIdentity (event : Entries) (known : Option String) : Bool :=
  (!requiresBotMention subscription || mentionsBot rt (get event "mentions") known) &&
    !isSelfAuthoredMessage rt (authorOf event) known

variable {rt} {subscription} {botUserId} {w : World} {frame : DispatchFrame}
  {known : Option String}

theorem passesFilters_eq {guildId : Option String} {channelId : String}
    {messageTypeName : Option String} {mentions : Json} :
    discordMessagePassesFilters rt subscription guildId channelId messageTypeName mentions known =
      (passesConfigured rt subscription guildId channelId messageTypeName).map (fun passes =>
        passes && (!requiresBotMention subscription || mentionsBot rt mentions known)) := by
  unfold discordMessagePassesFilters passesConfigured
  split
  next => rfl
  next =>
    cases configuredTexts rt (fun s => s) subscription.config "allowed_guild_ids" with
    | error e => rfl
    | ok guilds =>
      simp only [Except.bind]
      split
      next => rfl
      next =>
        cases configuredTexts rt (fun s => s) subscription.config "allowed_channel_ids" with
        | error e => rfl
        | ok channels =>
          simp only
          split
          next => rfl
          next =>
            cases configuredTexts rt (fun s => rt.upper (rt.strip s)) subscription.config
                "allowed_message_types" with
            | error e => rfl
            | ok types =>
              simp only [map]
              split
              next rejected =>
                rw [decide_eq_false (not_not_intro rejected)]
                rfl
              next passed =>
                simp only [passed, not_false_eq_true, decide_true, Bool.true_and]
                cases requiresBotMention subscription <;> rfl

def configuredPayload (rt : GatewayRuntime) (subscription : ListenerSubscription)
    (event : String × Entries) : Option ListenerDispatchPayload :=
  if event.1 ≠ "MESSAGE_CREATE" then none
  else match stringOrNone rt (get event.2 "channel_id"), stringOrNone rt (get event.2 "id") with
    | some channelId, some messageId =>
      if (passesConfigured rt subscription (stringOrNone rt (get event.2 "guild_id")) channelId
          (discordMessageTypeName rt (get event.2 "type"))).toOption = some true then
        (discordDispatchPayload rt subscription event.1 channelId messageId event.2).toOption
      else none
    | _, _ => none

theorem normalize_eq {eventType : String} {data : Entries} :
    (normalizeDiscordEvent rt subscription known eventType data).toOption.join =
      if passesIdentity rt subscription data known then
        configuredPayload rt subscription (eventType, data) else none := by
  unfold normalizeDiscordEvent configuredPayload
  dsimp only
  split
  next => simp [toOption]
  next =>
    cases channel : stringOrNone rt (get data "channel_id") with
    | none => simp [toOption]
    | some channelId =>
      cases message : stringOrNone rt (get data "id") with
      | none => simp [toOption]
      | some messageId =>
        dsimp only
        rw [passesFilters_eq]
        unfold passesIdentity
        cases passesConfigured rt subscription (stringOrNone rt (get data "guild_id")) channelId
            (discordMessageTypeName rt (get data "type")) with
        | error e => simp [toOption, map, Except.bind]
        | ok passes =>
          cases passes with
          | false => simp [toOption, map, Except.bind]
          | true =>
            simp only [map, Except.bind, Bool.true_and]
            cases !requiresBotMention subscription ||
                mentionsBot rt (get data "mentions") known with
            | false => simp [toOption]
            | true =>
              cases isSelfAuthoredMessage rt (authorOf data) known with
              | true => simp [toOption]
              | false =>
                cases discordDispatchPayload rt subscription eventType channelId messageId
                    data with
                | error e => simp [toOption]
                | ok payload => simp [toOption]

theorem dispatchedFor_eq : w.dispatchedFor rt subscription frame known =
    frame.event?.bind (fun event => if passesIdentity rt subscription event.2 known then
      configuredPayload rt subscription event else none) := by
  unfold World.dispatchedFor
  rw [handleGatewayFrame_frame]
  cases event : frame.event? with
  | none => rfl
  | some event' =>
    obtain ⟨eventType, data⟩ := event'
    have unlisted (other : eventType ≠ "MESSAGE_CREATE") :
        configuredPayload rt subscription (eventType, data) = none := by
      unfold configuredPayload
      rw [if_pos other]
    rw [Option.bind_some]
    dsimp only [handleDispatchEvent]
    split
    next ready =>
      rw [unlisted (by rw [ready]; decide), ite_self]
      unfold handleReadyEvent
      dsimp only
      split <;> rfl
    next =>
      split
      next resumed =>
        rw [unlisted (by rw [resumed]; decide), ite_self]
        rfl
      next =>
        rw [← normalize_eq]
        have own : ((w.session.withBotUserId known).sequenced frame.payload).adapter.botUserId =
            known := by
          rw [sequenced_frame]
          rfl
        rw [own]
        dsimp only [discordGatewayAdapter]
        cases normalizeDiscordEvent rt subscription known eventType data with
        | error e => rfl
        | ok normalized =>
          cases normalized with
          | none => rfl
          | some payload => rfl

theorem passesIdentity_none {event : Entries} :
    passesIdentity rt subscription event none = !requiresBotMention subscription := by
  simp [passesIdentity, mentionsBot, isSelfAuthoredMessage]

theorem acceptable_eq {event : String × Entries} :
    acceptable rt subscription botUserId event =
      ((configuredPayload rt subscription event).isSome && (!requiresBotMention subscription ||
        mentionsBot rt (get event.2 "mentions") (some botUserId))) := by
  obtain ⟨eventType, data⟩ := event
  unfold acceptable configuredPayload
  dsimp only
  by_cases created : eventType = "MESSAGE_CREATE"
  · subst created
    simp only [decide_true, Bool.true_and, ne_eq, not_true_eq_false, if_false]
    cases stringOrNone rt (get data "channel_id") with
    | none => simp
    | some channelId =>
      cases stringOrNone rt (get data "id") with
      | none => simp
      | some messageId =>
        simp only [passesFilters_eq, discordDispatchPayload]
        cases passesConfigured rt subscription (stringOrNone rt (get data "guild_id")) channelId
            (discordMessageTypeName rt (get data "type")) with
        | error e => simp [toOption, map]
        | ok passes =>
          cases hasMessageContentIntent rt subscription with
          | error e => simp [toOption, map]
          | ok intended =>
            cases passes <;> cases requiresBotMention subscription <;>
              simp [toOption, map]
  · simp [created]

namespace World

theorem event_dispatched {event : String × Entries} (there : frame.event? = some event) :
    w.dispatchedFor rt subscription frame known =
      if passesIdentity rt subscription event.2 known then configuredPayload rt subscription event
      else none := by
  rw [dispatchedFor_eq, there]
  rfl

theorem dispatchedFor_none_iff : w.dispatchedFor rt subscription frame none =
    w.dispatchedFor rt subscription frame (some botUserId) ↔
      frame.event?.any (dependsOnIdentity rt subscription botUserId) = false := by
  cases there : frame.event? with
  | none =>
    rw [dispatchedFor_eq, dispatchedFor_eq, there]
    simp
  | some event =>
    rw [event_dispatched there, event_dispatched there, passesIdentity_none, Option.any_some]
    unfold dependsOnIdentity writtenByBot passesIdentity
    rw [acceptable_eq]
    cases configuredPayload rt subscription event with
    | none => simp
    | some payload =>
      cases requiresBotMention subscription <;>
        cases mentionsBot rt (get event.2 "mentions") (some botUserId) <;>
        cases isSelfAuthoredMessage rt (authorOf event.2) (some botUserId) <;> simp

theorem dispatchedFor_own (own : frame.event?.any (writtenByBot rt botUserId) = true) :
    w.dispatchedFor rt subscription frame (some botUserId) = none := by
  cases there : frame.event? with
  | none =>
    rw [there] at own
    cases own
  | some event =>
    rw [there, Option.any_some] at own
    unfold writtenByBot at own
    rw [event_dispatched there]
    simp [passesIdentity, own]

theorem dispatchedFor_mention
    (acceptable : frame.event?.any (acceptable rt subscription botUserId) = true)
    (other : frame.event?.any (writtenByBot rt botUserId) = false) :
    (w.dispatchedFor rt subscription frame (some botUserId)).isSome := by
  cases there : frame.event? with
  | none =>
    rw [there] at acceptable
    cases acceptable
  | some event =>
    rw [there, Option.any_some] at acceptable other
    rw [acceptable_eq, Bool.and_eq_true] at acceptable
    unfold writtenByBot at other
    rw [event_dispatched there]
    simp only [passesIdentity, acceptable.2, other, Bool.not_false, Bool.and_true, if_true]
    exact acceptable.1

theorem filteredAsIdentified_iff (bot : w.adapter.botUserId = none ∨
    w.adapter.botUserId = some botUserId) :
    w.FilteredAsIdentified rt subscription botUserId frame ↔ w.adapter.botUserId ≠ none ∨
      frame.event?.any (dependsOnIdentity rt subscription botUserId) = false := by
  have filtered (same : w.dispatchedFor rt subscription frame w.adapter.botUserId =
      w.dispatchedFor rt subscription frame (some botUserId)) :
      w.FilteredAsIdentified rt subscription botUserId frame := by
    refine ⟨same, ?_, ?_⟩
    · intro own
      rw [same]
      exact dispatchedFor_own own
    · intro _ acceptable other
      rw [same]
      exact dispatchedFor_mention acceptable other
  cases bot with
  | inl unknown =>
    rw [← dispatchedFor_none_iff (w := w)]
    constructor
    · intro good
      have same := good.same
      rw [unknown] at same
      exact Or.inr same
    · intro known
      apply filtered
      rw [unknown]
      exact known.resolve_left (fun other => other unknown)
  | inr known =>
    constructor
    · intro _
      left
      rw [known]
      exact Option.some_ne_none _
    · intro _
      apply filtered
      rw [known]

end World

/-- Deliveries are filtered as after READY exactly where the adapter knows who the bot is, or that
does not matter. -/
theorem filters_as_identified_iff (rt : GatewayRuntime) (subscription : ListenerSubscription)
    (botUserId : String) (turns : List GatewayTurn) :
    AllSteps (World.step rt (discordGatewayAdapter rt subscription) botUserId)
      (World.FiltersAsIdentified rt subscription botUserId) {} turns ↔
    AllSteps (World.step rt (discordGatewayAdapter rt subscription) botUserId)
      (World.KnowsBot rt subscription botUserId) {} turns := by
  apply Lib.allSteps_iff_of_invariant
    (P := World.Sound rt (discordGatewayAdapter rt subscription) botUserId)
  case hstep =>
    intro w turn sound
    cases turn with
    | delivered =>
      constructor
      · intro good sessionId frame next
        exact (World.filteredAsIdentified_iff sound.bot).mp (good sessionId frame next)
      · intro known sessionId frame next
        exact (World.filteredAsIdentified_iff sound.bot).mpr (known sessionId frame next)
    | _ => exact Iff.rfl
  case keep => exact fun w turn sound _ => World.step_sound turn sound
  case hs => exact World.sound_fresh

namespace SelfReply

def ready : DispatchFrame where
  payload := [("op", .int 0), ("s", .int 1), ("t", .str "READY"), ("d", .obj [
    ("session_id", .str "session-1"), ("resume_gateway_url", .str "wss://resume"),
    ("user", .obj [("id", .str "bot")])])]
  sequence := 1
  dispatches := rfl
  numbered := rfl

def ownMessage : DispatchFrame where
  payload := [("op", .int 0), ("s", .int 2), ("t", .str "MESSAGE_CREATE"), ("d", .obj [
    ("id", .str "message-1"), ("channel_id", .str "channel-1"),
    ("author", .obj [("id", .str "bot")]), ("content", .str "Hello.")])]
  sequence := 2
  dispatches := rfl
  numbered := rfl

def listener : ListenerSubscription := ⟨"listen", "bot-identity", []⟩

def turns : List GatewayTurn := [.connected "wss://gateway", .sessionCreated "session-1" ready,
  .delivered, .answered true true, .handled, .restarted, .connected "wss://gateway",
  .resumeAccepted, .appended "session-1" ownMessage]

end SelfReply

theorem own_message_dispatched : ¬ AllSteps
    (World.step .plain (discordGatewayAdapter .plain SelfReply.listener) "bot")
    (World.FiltersAsIdentified .plain SelfReply.listener "bot") {}
    (SelfReply.turns ++ [.delivered]) := by
  intro all
  have good := all.last "session-1" SelfReply.ownMessage rfl
  have own := good.own (by decide +kernel)
  revert own
  decide +kernel

end Orcheo.Gateway
