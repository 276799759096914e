import Orcheo.Defs.Gateway.Discord

/-! The QQ adapter.  It does not ask who the bot is. -/

namespace Orcheo.Gateway

open Traces (Entries get)

variable (rt : GatewayRuntime) (subscription : ListenerSubscription)

inductive QQScene
  | c2c | group | channel
  deriving DecidableEq, Repr

def QQScene.value : QQScene → String
  | c2c => "c2c"
  | group => "group"
  | channel => "channel"

def qqSceneType (eventType : String) : Option QQScene :=
  if eventType = "C2C_MESSAGE_CREATE" then some .c2c
  else if eventType = "GROUP_AT_MESSAGE_CREATE" then some .group
  else if eventType = "AT_MESSAGE_CREATE" ∨ eventType = "MESSAGE_CREATE" then some .channel
  else none

def qqMessage (scene : QQScene) (messageId : String) (author event : Entries)
    (content : Option String) : Option (Entries × ListenerDispatchMessage) :=
  let metadata : Entries := [("scene_type", .str scene.value)]
  match scene with
  | .c2c => (stringOrNone rt (get author "user_openid")).map (fun userOpenid =>
    ([("openid", .str userOpenid), ("msg_id", .str messageId), ("msg_seq", .int 1)],
      { chatId := some userOpenid
        userId := some userOpenid
        text := content
        chatType := some "c2c"
        metadata := metadata }))
  | .group => (stringOrNone rt (get event "group_openid")).map (fun groupOpenid =>
    ([("group_openid", .str groupOpenid), ("msg_id", .str messageId), ("msg_seq", .int 1)],
      { chatId := some groupOpenid
        userId := stringOrNone rt (get author "member_openid")
        text := content
        chatType := some "group"
        metadata := metadata }))
  | .channel => (stringOrNone rt (get event "channel_id")).map (fun channelId =>
    let guildId := stringOrNone rt (get event "guild_id")
    ([("channel_id", .str channelId), ("guild_id", optionalStr guildId),
        ("msg_id", .str messageId)],
      { chatId := some channelId
        channelId := some channelId
        guildId := guildId
        userId := stringOrNone rt (get author "id")
        username := stringOrNone rt (get author "username")
        text := content
        chatType := some "channel"
        metadata := metadata }))

def buildQQDispatchPayload (eventType : String) (event : Entries) (scene : QQScene)
    (messageId : String) (author : Entries) (content : Option String) :
    Option ListenerDispatchPayload :=
  (qqMessage rt scene messageId author event content).map (fun (replyTarget, message) =>
    { platform := "qq"
      eventType := eventType
      dedupeKey := "qq:message:" ++ eventType ++ ":" ++ messageId
      botIdentity := subscription.botIdentityKey
      message := message
      replyTarget := replyTarget
      rawEvent := event
      metadata := [("node_name", .str subscription.nodeName),
        ("scene_type", .str scene.value)] })

def normalizeQQEvent (eventType : String) (event : Entries) :
    Except GatewayError (Option ListenerDispatchPayload) :=
  (configuredTexts rt (fun s => rt.upper (rt.strip s)) subscription.config "allowed_events").bind
    (fun events =>
    let eventName := rt.upper (rt.strip eventType)
    if events ≠ [] ∧ events.contains eventName = false then .ok none
    else match qqSceneType eventName with
      | none => .ok none
      | some scene =>
        (configuredTexts rt (fun s => rt.lower (rt.strip s)) subscription.config
          "allowed_scene_types").map (fun scenes =>
        if scenes ≠ [] ∧ scenes.contains scene.value = false then none
        else (stringOrNone rt (get event "id")).bind (fun messageId =>
          buildQQDispatchPayload rt subscription eventName event scene messageId
            (authorOf event) (stringOrNone rt (get event "content")))))

def qqGatewayAdapter : AdapterKind where
  normalize _ := normalizeQQEvent rt subscription
  readyUrl gatewayUrl _ _ := .ok (some gatewayUrl)
  reconnectUrl gatewayUrl := some gatewayUrl
  resumesAt _ := true

end Orcheo.Gateway
