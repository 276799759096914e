import Orcheo.Defs.Gateway.Adapter

/-! The Discord adapter: which messages pass, and what is dispatched for them. -/

namespace Orcheo.Gateway

open Traces (Entries get)

variable (rt : GatewayRuntime) (subscription : ListenerSubscription)

def discordMessageTypes (value : Int) : Option String :=
  if value = 0 then some "DEFAULT" else if value = 19 then some "REPLY" else none

/-- `True` and `False` are integers, too. -/
def discordMessageTypeName : Json → Option String
  | .str s => if rt.strip s ≠ "" then some (rt.upper (rt.strip s)) else none
  | .int n => some ((discordMessageTypes n).getD (text rt (.int n)))
  | .bool b => some ((discordMessageTypes (if b then 1 else 0)).getD (text rt (.bool b)))
  | _ => none

def hasMessageContentIntent : Except GatewayError Bool :=
  (iterate ((Json.field? subscription.config "intents").getD (.arr []))).map (fun intents =>
    intents.any (fun intent => rt.lower (rt.strip (text rt intent)) = "message_content"))

def mentionsBot (mentions : Json) : Option String → Bool
  | none => false
  | some botUserId => match mentions with
    | .arr mentions => mentions.any (fun mention => match mention with
      | .obj mention => stringOrNone rt (get mention "id") = some botUserId
      | _ => false)
    | _ => false

def isSelfAuthoredMessage (author : Entries) : Option String → Bool
  | none => false
  | some botUserId => stringOrNone rt (get author "id") = some botUserId

def requiresBotMention : Bool := configuredFlag subscription.config "require_bot_mention" false

def discordMessagePassesFilters (guildId : Option String) (channelId : String)
    (messageTypeName : Option String) (mentions : Json) (botUserId : Option String) :
    Except GatewayError Bool :=
  if guildId = none ∧ configuredFlag subscription.config "include_direct_messages" true = false then
    .ok false
  else
    (configuredTexts rt (fun s => s) subscription.config "allowed_guild_ids").bind (fun guilds =>
    if guilds ≠ [] ∧ guildId.any guilds.contains = false then .ok false
    else
      (configuredTexts rt (fun s => s) subscription.config "allowed_channel_ids").bind
      (fun channels =>
      if channels ≠ [] ∧ channels.contains channelId = false then .ok false
      else
        (configuredTexts rt (fun s => rt.upper (rt.strip s)) subscription.config
          "allowed_message_types").bind (fun types =>
        if types ≠ [] ∧ messageTypeName.any (fun name => !types.contains name) = true then
          .ok false
        else if requiresBotMention subscription then .ok (mentionsBot rt mentions botUserId)
        else .ok true)))

def buildDiscordDispatchPayload (eventType : String) (guildId : Option String)
    (channelId messageId : String) (messageTypeName : Option String) (author : Entries)
    (content : Option String) (contentAvailable : Bool) (event : Entries) :
    ListenerDispatchPayload where
  platform := "discord"
  eventType := eventType
  dedupeKey := "discord:message:" ++ messageId
  botIdentity := subscription.botIdentityKey
  message := {
    chatId := some channelId
    channelId := some channelId
    guildId := guildId
    messageId := some messageId
    userId := stringOrNone rt (get author "id")
    username := stringOrNone rt (get author "username")
    text := content
    chatType := some (if guildId = none then "dm" else "guild")
    metadata := [("message_type", optionalStr messageTypeName),
      ("content_available", .bool contentAvailable)] }
  replyTarget := [("channel_id", .str channelId), ("reply_to_message_id", .str messageId)]
  rawEvent := event
  metadata := [("node_name", .str subscription.nodeName),
    ("message_type", optionalStr messageTypeName), ("content_available", .bool contentAvailable)]

def authorOf (event : Entries) : Entries :=
  match get event "author" with
  | .obj author => author
  | _ => []

def strOf : Json → Option String
  | .str s => some s
  | _ => none

/-- What is dispatched for a message that has passed.  Without the intent an empty content is
none. -/
def discordDispatchPayload (eventType : String) (channelId messageId : String) (event : Entries) :
    Except GatewayError ListenerDispatchPayload :=
  (hasMessageContentIntent rt subscription).map (fun intended =>
    let content := strOf (get event "content")
    buildDiscordDispatchPayload rt subscription eventType (stringOrNone rt (get event "guild_id"))
      channelId messageId (discordMessageTypeName rt (get event "type")) (authorOf event)
      (if intended then content else content.filter (· ≠ ""))
      (intended || content.any (· ≠ "")) event)

def normalizeDiscordEvent (botUserId : Option String) (eventType : String) (event : Entries) :
    Except GatewayError (Option ListenerDispatchPayload) :=
  if eventType ≠ "MESSAGE_CREATE" then .ok none
  else match stringOrNone rt (get event "channel_id"), stringOrNone rt (get event "id") with
    | some channelId, some messageId =>
      (discordMessagePassesFilters rt subscription (stringOrNone rt (get event "guild_id"))
        channelId (discordMessageTypeName rt (get event "type")) (get event "mentions")
        botUserId).bind (fun passes =>
      if !passes then .ok none
      else if isSelfAuthoredMessage rt (authorOf event) botUserId then .ok none
      else (discordDispatchPayload rt subscription eventType channelId messageId event).map some)
    | _, _ => .ok none

def withGatewayParams (url : String) : Except GatewayError String :=
  match rt.urlsplit url with
  | none => .error .valueError
  | some split =>
    let query := (rt.parseQsl split.query).foldl
      (fun query pair => Lib.Dict.insertEntry pair.1 pair.2 query) []
    let query := if (Lib.Dict.lookup "v" query).isSome then query else query ++ [("v", "10")]
    let query := if (Lib.Dict.lookup "encoding" query).isSome then query
      else query ++ [("encoding", "json")]
    .ok (rt.urlunsplit { split with query := rt.urlencode query })

def discordReadyUrl (data : Entries) (resumeGatewayUrl : Option String) :
    Except GatewayError (Option String) :=
  match get data "resume_gateway_url" with
  | .str url => if url ≠ "" then (withGatewayParams rt url).map some else .ok resumeGatewayUrl
  | _ => .ok resumeGatewayUrl

def discordGatewayAdapter : AdapterKind where
  normalize := normalizeDiscordEvent rt subscription
  readyUrl _ := discordReadyUrl rt
  reconnectUrl _ := none
  resumesAt url := url.any (· ≠ "")

end Orcheo.Gateway
