import Mathlib.Data.List.Sort
import Orcheo.Defs.WeCom.Messages
import Orcheo.Lib.Dict

/-! Callbacks of WeCom as the events parser reads them, and what captured ones can be made into. -/

namespace Orcheo.WeCom

open Lib (Dict bind_ok_iff)

structure CallbackRuntime extends CipherRuntime where
  sha1Hex : String → String
  strip : String → String
  lower : String → String
  /-- `int(text)`, absent where it raises -/
  parseInt : String → Option Int
  /-- The texts of the root's children by tag, absent for a `ParseError`. -/
  parseXml : String → Option (Dict String String)

inductive CallbackError
  | weCom (error : WeComError)
  | parseError
  /-- `hmac.compare_digest` on a text that is not ASCII -/
  | typeError
  deriving DecidableEq

structure WeComEventsParserNode where
  token : String
  encodingAesKey : String
  corpId : String
  timestampToleranceSeconds : Int
  allowlistUserIds : Option (List String)

/-- The query parameters, the body as a text and whether an immediate response is checked for. -/
structure CallbackRequest where
  msgSignature : String := ""
  timestamp : String := ""
  nonce : String := ""
  echostr : Option String := none
  body : String := ""
  isSyncCheck : Bool := false

inductive ParserResult
  | verification (content : String)
  | invalidPayload (immediateResponse : Bool)
  | group (eventType chatId : String) (immediateResponse : Bool)
  | internal (eventType user content : String) (shouldProcess : Bool)
    (agentMessages : List String) (immediateResponse : Bool)
  | customerService (openKfId kfToken : String) (shouldProcess immediateResponse : Bool)
  deriving DecidableEq

namespace ParserResult

def shouldProcess : ParserResult → Bool
  | internal _ _ _ shouldProcess _ _ => shouldProcess
  | customerService _ _ shouldProcess _ => shouldProcess
  | _ => false

/-- The fields that were read from a decrypted message. -/
def disclosed : ParserResult → List String
  | verification content => [content]
  | invalidPayload _ => []
  | group eventType chatId _ => [eventType, chatId]
  | internal eventType user content _ _ _ => [eventType, user, content]
  | customerService openKfId kfToken _ _ => [openKfId, kfToken]

end ParserResult

def field (msgData : Dict String String) (tag : String) : String := (msgData.get? tag).getD ""

namespace WeComEventsParserNode

variable (rt : CallbackRuntime) (node : WeComEventsParserNode)

def signed (timestamp nonce encryptedMsg : String) : String :=
  String.join ([node.token, timestamp, nonce, encryptedMsg].insertionSort (· ≤ ·))

def verifySignature (timestamp nonce encryptedMsg signature : String) :
    Except CallbackError Unit :=
  if rt.sha1Hex (node.signed timestamp nonce encryptedMsg) = signature then .ok ()
  else if signature.toList.all (·.val < 128) then
    .error (.weCom (.valueError "WeCom signature verification failed"))
  else .error .typeError

def decrypt (encrypt : String) : Except CallbackError String :=
  (rt.decryptWecomMessage encrypt node.encodingAesKey (some node.corpId) "WeCom").mapError .weCom

def validateTimestamp (timestamp : String) (now : Int) : Bool :=
  if node.timestampToleranceSeconds = 0 then true
  else match rt.parseInt timestamp with
    | none => false
    | some ts => decide ((now - ts).natAbs ≤ node.timestampToleranceSeconds)

def isAllowlistedUser (userId : String) : Bool :=
  match node.allowlistUserIds with
  | none | some [] => true
  | some allowed => allowed.contains userId

def isCustomerServiceEvent (msgData : Dict String String) : Bool :=
  rt.lower (rt.strip (field msgData "MsgType")) = "event" ∧
    rt.lower (rt.strip (field msgData "Event")) = "kf_msg_or_event"

def handleInternalMessage (msgData : Dict String String) (isSyncCheck : Bool) : ParserResult :=
  let msgType := rt.lower (rt.strip (field msgData "MsgType"))
  let content := rt.strip (field msgData "Content")
  let userId := field msgData "FromUserName"
  if field msgData "ChatId" ≠ "" then .group msgType (field msgData "ChatId") isSyncCheck
  else
    let shouldContinue := decide (msgType = "text" ∧ content ≠ "") && node.isAllowlistedUser userId
    .internal msgType userId (field msgData "Content") shouldContinue
      (if shouldContinue then [content] else []) isSyncCheck

def handleCustomerServiceEvent (msgData : Dict String String) (isSyncCheck : Bool) :
    ParserResult :=
  .customerService (field msgData "OpenKfId") (field msgData "Token")
    (field msgData "OpenKfId" ≠ "" ∧ field msgData "Token" ≠ "") isSyncCheck

variable (q : CallbackRequest)

def handleUrlVerification (echostr : String) :
    Except CallbackError ParserResult := do
  node.verifySignature rt q.timestamp q.nonce echostr q.msgSignature
  return .verification (← node.decrypt rt echostr)

def decryptAndParseMessage (encrypt : String) :
    Except CallbackError (Dict String String) := do
  node.verifySignature rt q.timestamp q.nonce encrypt q.msgSignature
  match rt.parseXml (← node.decrypt rt encrypt) with
  | some msgData => return msgData
  | none => throw .parseError

def run (now : Int) : Except CallbackError ParserResult :=
  match q.echostr.filter (· ≠ "") with
  | some echostr => node.handleUrlVerification rt q echostr
  | none => match rt.parseXml q.body with
    | none => .error .parseError
    | some xmlData =>
      if field xmlData "Encrypt" = "" then .ok (.invalidPayload q.isSyncCheck)
      else if node.validateTimestamp rt q.timestamp now = false then
        .ok (.invalidPayload q.isSyncCheck)
      else do
        let msgData ← node.decryptAndParseMessage rt q (field xmlData "Encrypt")
        if isCustomerServiceEvent rt msgData then
          return handleCustomerServiceEvent msgData q.isSyncCheck
        return node.handleInternalMessage rt msgData q.isSyncCheck

structure Captured where
  timestamp : String
  nonce : String
  encrypt : String

def Captured.signed (c : Captured) : String := node.signed c.timestamp c.nonce c.encrypt

/-- The text that the request gives for the encrypted message. -/
def encryptedText : Option String :=
  match q.echostr.filter (· ≠ "") with
  | some echostr => some echostr
  | none => ((rt.parseXml q.body).map (field · "Encrypt")).filter (· ≠ "")

/-- The run neither returns `should_process` true nor anything of a message. -/
def Silent (now : Int) (q : CallbackRequest) : Prop :=
  ∀ result, node.run rt q now = .ok result →
    result.shouldProcess = false ∧ result.disclosed = []

/-- The request splits a captured callback anew, or not at all, around a text that decrypts, and
it comes as a verification or its timestamp passes. -/
def Replays (captured : List Captured) (now : Int) (q : CallbackRequest) : Prop :=
  ∃ c ∈ captured, ∃ text message, encryptedText rt q = some text ∧
    q.msgSignature = rt.sha1Hex (c.signed node) ∧
    node.signed q.timestamp q.nonce text = c.signed node ∧ node.decrypt rt text = .ok message ∧
    (q.echostr.filter (· ≠ "") ≠ none ∨
      node.validateTimestamp rt q.timestamp now = true ∧ rt.parseXml message ≠ none)

/-- Who does not know the token has no other signatures than the captured ones. -/
def Forgeable (captured : List Captured) (q : CallbackRequest) : Prop :=
  ∀ text, encryptedText rt q = some text →
    rt.sha1Hex (node.signed q.timestamp q.nonce text) = q.msgSignature →
    ∃ c ∈ captured, q.msgSignature = rt.sha1Hex (c.signed node)

variable {rt node} {now : Int} {q : CallbackRequest}

theorem verifySignature_ok_iff {text : String} :
    node.verifySignature rt q.timestamp q.nonce text q.msgSignature = .ok () ↔
      rt.sha1Hex (node.signed q.timestamp q.nonce text) = q.msgSignature := by
  unfold verifySignature
  split
  case isTrue same => exact ⟨fun _ => same, fun _ => rfl⟩
  case isFalse other =>
    refine ⟨fun done => ?_, fun same => absurd same other⟩
    split at done
    · cases done
    · cases done

theorem handleUrlVerification_ok_iff {echostr : String} {result : ParserResult} :
    node.handleUrlVerification rt q echostr = .ok result ↔
      rt.sha1Hex (node.signed q.timestamp q.nonce echostr) = q.msgSignature ∧
        ∃ message, node.decrypt rt echostr = .ok message ∧ result = .verification message := by
  constructor
  · intro done
    obtain ⟨_, verified, done⟩ := bind_ok_iff.mp done
    obtain ⟨message, opened, done⟩ := bind_ok_iff.mp done
    cases done
    exact ⟨verifySignature_ok_iff.mp verified, message, opened, rfl⟩
  · rintro ⟨verified, message, opened, rfl⟩
    exact bind_ok_iff.mpr ⟨(), verifySignature_ok_iff.mpr verified,
      bind_ok_iff.mpr ⟨message, opened, rfl⟩⟩

theorem decryptAndParseMessage_ok_iff {encrypt : String} {msgData : Dict String String} :
    node.decryptAndParseMessage rt q encrypt = .ok msgData ↔
      rt.sha1Hex (node.signed q.timestamp q.nonce encrypt) = q.msgSignature ∧
        ∃ message, node.decrypt rt encrypt = .ok message ∧ rt.parseXml message = some msgData := by
  constructor
  · intro done
    obtain ⟨_, verified, done⟩ := bind_ok_iff.mp done
    obtain ⟨message, opened, done⟩ := bind_ok_iff.mp done
    refine ⟨verifySignature_ok_iff.mp verified, message, opened, ?_⟩
    split at done
    case h_1 parsed => cases done; exact parsed
    case h_2 => cases done
  · rintro ⟨verified, message, opened, parsed⟩
    refine bind_ok_iff.mpr ⟨(), verifySignature_ok_iff.mpr verified,
      bind_ok_iff.mpr ⟨message, opened, ?_⟩⟩
    rw [parsed]
    rfl

theorem disclosed_internal {msgData : Dict String String} :
    (node.handleInternalMessage rt msgData q.isSyncCheck).disclosed ≠ [] := by
  unfold handleInternalMessage
  dsimp only
  split
  · exact List.cons_ne_nil _ _
  · exact List.cons_ne_nil _ _

theorem not_silent_iff : ¬node.Silent rt now q ↔
    ∃ text message, encryptedText rt q = some text ∧
      rt.sha1Hex (node.signed q.timestamp q.nonce text) = q.msgSignature ∧
      node.decrypt rt text = .ok message ∧ (q.echostr.filter (· ≠ "") ≠ none ∨
        node.validateTimestamp rt q.timestamp now = true ∧ rt.parseXml message ≠ none) := by
  unfold Silent encryptedText run
  cases given : q.echostr.filter (· ≠ "") with
  | some echostr =>
    simp only [handleUrlVerification_ok_iff]
    constructor
    · intro told
      obtain ⟨_, told⟩ := not_forall.mp told
      obtain ⟨⟨verified, message, opened, _⟩, _⟩ := Classical.not_imp.mp told
      exact ⟨echostr, message, rfl, verified, opened, .inl (Option.some_ne_none _)⟩
    · rintro ⟨text, message, same, verified, opened, _⟩ silent
      cases same
      exact List.cons_ne_nil _ _ (silent _ ⟨verified, message, opened, rfl⟩).2
  | none => cases rt.parseXml q.body with
    | none => simp
    | some xmlData =>
      by_cases blank : field xmlData "Encrypt" = ""
      · simp [blank, ParserResult.shouldProcess, ParserResult.disclosed]
      cases fresh : node.validateTimestamp rt q.timestamp now with
      | false => simp [blank, ParserResult.shouldProcess, ParserResult.disclosed]
      | true =>
        simp only [blank, if_false, Bool.true_eq_false]
        constructor
        · intro told
          obtain ⟨_, told⟩ := not_forall.mp told
          obtain ⟨done, _⟩ := Classical.not_imp.mp told
          obtain ⟨msgData, read, _⟩ := bind_ok_iff.mp done
          obtain ⟨verified, message, opened, parsed⟩ := decryptAndParseMessage_ok_iff.mp read
          exact ⟨_, message, by simp [blank], verified, opened,
            .inr ⟨trivial, by rw [parsed]; exact Option.some_ne_none _⟩⟩
        · rintro ⟨text, message, same, verified, opened, absent | ⟨_, parses⟩⟩ silent
          · exact absurd rfl absent
          · obtain ⟨msgData, parsed⟩ := Option.ne_none_iff_exists'.mp parses
            obtain ⟨rfl, _⟩ : field xmlData "Encrypt" = text ∧ ¬text = "" := by
              simpa [blank] using same
            have read := decryptAndParseMessage_ok_iff.mpr ⟨verified, message, opened, parsed⟩
            simp only [read, Lib.ok_bind] at silent
            split at silent
            · exact List.cons_ne_nil _ _ (silent _ rfl).2
            · exact disclosed_internal (silent _ rfl).2

/-- Of the requests formed from stale callbacks, those answered in silence are the ones that do
not replay one; a replay on the body path has another timestamp than the callback it splits. -/
theorem silent_iff_not_replays (injective : Function.Injective rt.sha1Hex)
    {captured : List Captured} (forgeable : node.Forgeable rt captured q)
    (stale : ∀ c ∈ captured, node.validateTimestamp rt c.timestamp now = false) :
    (node.Silent rt now q ↔ ¬node.Replays rt captured now q) ∧
      (node.Replays rt captured now q → q.echostr.filter (· ≠ "") = none →
        ∀ c ∈ captured, q.timestamp ≠ c.timestamp) := by
  constructor
  · rw [← not_iff_not, not_not, not_silent_iff]
    constructor
    · rintro ⟨text, message, given, verified, opened, accepted⟩
      obtain ⟨c, member, same⟩ := forgeable text given verified
      exact ⟨c, member, text, message, given, same, injective (verified.trans same), opened,
        accepted⟩
    · rintro ⟨c, _, text, message, given, same, split, opened, accepted⟩
      exact ⟨text, message, given, by rw [split, same], opened, accepted⟩
  · rintro ⟨_, _, _, _, _, _, _, _, verification | ⟨fresh, _⟩⟩ body c member same
    · exact verification body
    · rw [same, stale c member] at fresh
      cases fresh

def sampleRuntime : CallbackRuntime where
  toCipherRuntime := sampleCipher
  sha1Hex := id
  strip := id
  lower := id
  parseInt text := some (text.toList.foldl (fun n c => 10 * n + (c.toNat - '0'.toNat)) 0)
  parseXml _ := none

def sampleParser : WeComEventsParserNode := ⟨"tk", sampleAesKey, "", 300, none⟩

def sampleCaptured : Captured :=
  ⟨"1700000000", "77", "6AaxDDE8sZWjgLO4xkPD0Yq6YtoPwyZ9CVl39EUcRvo="⟩

def sampleMoved : CallbackRequest where
  msgSignature := sampleCaptured.signed sampleParser
  timestamp := sampleCaptured.timestamp
  nonce := sampleCaptured.nonce
  echostr := some sampleCaptured.encrypt

theorem silent_iff_not_replays_moved :
    sampleParser.Replays sampleRuntime [sampleCaptured] 1700003600 sampleMoved := by
  have stale : ∀ c ∈ [sampleCaptured],
      sampleParser.validateTimestamp sampleRuntime c.timestamp 1700003600 = false := by
    decide +kernel
  by_contra silent
  have told := (silent_iff_not_replays Function.injective_id
    (fun _ _ _ => ⟨sampleCaptured, List.mem_singleton_self _, rfl⟩) stale).1.mpr silent
    (.verification "hi") (by decide +kernel)
  exact List.cons_ne_nil _ _ told.2

theorem moved_callback_disclosed :
    sampleParser.validateTimestamp sampleRuntime sampleCaptured.timestamp 1700003600 = false ∧
      ¬sampleParser.Silent sampleRuntime 1700003600 sampleMoved := by
  refine ⟨by decide +kernel, fun silent => ?_⟩
  exact List.cons_ne_nil _ _ (silent (.verification "hi") (by decide +kernel)).2

end WeComEventsParserNode

end Orcheo.WeCom
