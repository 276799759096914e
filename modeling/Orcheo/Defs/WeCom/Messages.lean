import Orcheo.Lib.Base64
import Orcheo.Lib.Except
import Mathlib.Algebra.Group.Nat.Defs
import Mathlib.Logic.Equiv.Basic

/-!
# Encrypted messages of WeCom

A message is laid out behind sixteen random bytes and its length, before the receive id, and padded
to whole blocks of 32 bytes.
-/

namespace Orcheo.WeCom

abbrev Bytes := List UInt8

/-- `unicodeDecodeError` is a `ValueError` as well. -/
inductive WeComError where
  | valueError (message : String)
  | unicodeDecodeError
  | indexError
  | structError
  deriving Repr, DecidableEq

structure CipherRuntime where
  b64decode : String → Except String Bytes
  b64encode : Bytes → String
  encryptBlocks : (key iv : Bytes) → Bytes → Bytes
  decryptBlocks : (key iv : Bytes) → Bytes → Bytes

def aesBlockSize : Nat := 32
def randomPrefixLen : Nat := 16
def msgLenBytes : Nat := 4
def minDecryptedLen : Nat := randomPrefixLen + msgLenBytes

def encodeText (text : String) : Bytes := text.toUTF8.data.toList

def decodeText (bytes : Bytes) : Except WeComError String :=
  match String.fromUTF8? ⟨bytes.toArray⟩ with
  | some text => .ok text
  | none => .error .unicodeDecodeError

/-- `struct.pack(">I", n)` -/
def packLength (n : Nat) : Except WeComError Bytes :=
  if n < 2 ^ 32 then .ok ([n / 2 ^ 24, n / 2 ^ 16, n / 2 ^ 8, n].map UInt8.ofNat)
  else .error .structError

def unpackLength (bytes : Bytes) : Nat := bytes.foldl (fun n b => n * 256 + b.toNat) 0

namespace CipherRuntime

variable (rt : CipherRuntime)

def decoded (text : String) : Except WeComError Bytes := (rt.b64decode text).mapError .valueError

/-- `AES.new(aes_key, AES.MODE_CBC, aes_key[:16])`, then a call on `data`. -/
def cipher (blocks : (key iv : Bytes) → Bytes → Bytes) (aesKey data : Bytes) :
    Except WeComError Bytes :=
  if aesKey.length ≠ 16 ∧ aesKey.length ≠ 24 ∧ aesKey.length ≠ 32 then
    .error (.valueError s!"Incorrect AES key length ({aesKey.length} bytes)")
  else if data.length % 16 ≠ 0 then
    .error (.valueError "Data must be padded to 16 byte boundary in CBC mode")
  else .ok (blocks aesKey (aesKey.take 16) data)

def parseContent (logPrefix : String) (expectedReceiveId : Option String) (content : Bytes) :
    Except WeComError String :=
  if content.length < minDecryptedLen then
    .error (.valueError (logPrefix ++ " payload too short"))
  else
    let msgLen := unpackLength ((content.drop randomPrefixLen).take msgLenBytes)
    let msgEnd := minDecryptedLen + msgLen
    if content.length < msgEnd then
      .error (.valueError (logPrefix ++ " payload length mismatch"))
    else do
      let msg ← decodeText ((content.drop minDecryptedLen).take msgLen)
      let receiveId ← decodeText (content.drop msgEnd)
      if expectedReceiveId.any (fun expected => expected ≠ "" ∧ receiveId ≠ expected) then
        .error (.valueError (logPrefix ++ " receive_id validation failed"))
      else .ok msg

/-- A slice that leaves out more than there is leaves nothing. -/
def unpad (logPrefix : String) (decrypted : Bytes) : Except WeComError Bytes :=
  match decrypted.getLast? with
  | none => .error .indexError
  | some padLen =>
    if padLen.toNat < 1 ∨ 32 < padLen.toNat then
      .error (.valueError (logPrefix ++ " payload padding invalid"))
    else .ok (decrypted.take (decrypted.length - padLen.toNat))

def decryptWecomMessage (encrypt encodingAesKey : String) (expectedReceiveId : Option String)
    (logPrefix : String) : Except WeComError String := do
  let aesKey ← rt.decoded (encodingAesKey ++ "=")
  let data ← rt.decoded encrypt
  let decrypted ← cipher rt.decryptBlocks aesKey data
  let content ← unpad logPrefix decrypted
  parseContent logPrefix expectedReceiveId content

def pad (payload : Bytes) : Bytes :=
  let padLen := aesBlockSize - payload.length % aesBlockSize
  payload ++ List.replicate padLen (UInt8.ofNat padLen)

/-- `randomBytes` is what `os.urandom` returns. -/
def encryptWecomMessage (randomBytes : Bytes) (message encodingAesKey receiveId : String) :
    Except WeComError String := do
  let aesKey ← rt.decoded (encodingAesKey ++ "=")
  let msgLen ← packLength (encodeText message).length
  let payload := randomBytes ++ msgLen ++ encodeText message ++ encodeText receiveId
  let encrypted ← cipher rt.encryptBlocks aesKey (pad payload)
  return rt.b64encode encrypted

structure Invertible : Prop where
  base64 : ∀ bytes, rt.b64decode (rt.b64encode bytes) = .ok bytes
  whole : ∀ key iv data : Bytes, key.length = 32 → iv.length = 16 → data.length % 16 = 0 →
    (rt.encryptBlocks key iv data).length % 16 = 0
  blocks : ∀ key iv data : Bytes, key.length = 32 → iv.length = 16 → data.length % 16 = 0 →
    rt.decryptBlocks key iv (rt.encryptBlocks key iv data) = data

end CipherRuntime

open CipherRuntime (cipher decoded decryptWecomMessage encryptWecomMessage pad parseContent unpad)

section Layout

theorem decodeText_encodeText (text : String) : decodeText (encodeText text) = .ok text := by
  have read : String.fromUTF8? text.toUTF8 = some text := by
    unfold String.fromUTF8?
    exact dif_pos (show text.toUTF8.IsValidUTF8 from text.isValidUTF8)
  unfold decodeText encodeText
  rw [Array.toArray_toList, read]

theorem unpackLength_packed {n : Nat} (short : n < 2 ^ 32) :
    unpackLength ([n / 2 ^ 24, n / 2 ^ 16, n / 2 ^ 8, n].map UInt8.ofNat) = n := by
  simp only [unpackLength, List.map_cons, List.map_nil, List.foldl_cons, List.foldl_nil,
    UInt8.toNat_ofNat']
  omega

theorem packLength_ok {n : Nat} (short : n < 2 ^ 32) :
    ∃ bytes, packLength n = .ok bytes ∧ bytes.length = 4 ∧ unpackLength bytes = n :=
  ⟨_, if_pos short, rfl, unpackLength_packed short⟩

theorem length_pad (payload : Bytes) : (pad payload).length % 16 = 0 := by
  simp only [pad, aesBlockSize, List.length_append, List.length_replicate]
  omega

theorem unpad_pad (logPrefix : String) (payload : Bytes) :
    unpad logPrefix (pad payload) = .ok payload := by
  obtain ⟨k, eq⟩ : ∃ k, aesBlockSize - payload.length % aesBlockSize = k + 1 :=
    ⟨_, (Nat.succ_pred_eq_of_pos (Nat.sub_pos_of_lt (Nat.mod_lt _ (by decide)))).symm⟩
  have small : k + 1 ≤ 32 := eq ▸ Nat.sub_le _ _
  have byte : (UInt8.ofNat (k + 1)).toNat = k + 1 := by
    rw [UInt8.toNat_ofNat']
    omega
  unfold unpad pad
  simp only [eq, List.getLast?_append, List.getLast?_replicate, Nat.add_one_ne_zero, if_false,
    Option.some_or, byte]
  rw [if_neg (by omega), List.length_append, List.length_replicate, Nat.add_sub_cancel,
    List.take_left]

theorem parseContent_layout {randomBytes lengthBytes : Bytes} (drawn : randomBytes.length = 16)
    (width : lengthBytes.length = 4) {message : String}
    (counted : unpackLength lengthBytes = (encodeText message).length)
    (receiveId logPrefix : String)
    (expectedReceiveId : Option String) :
    parseContent logPrefix expectedReceiveId
        (randomBytes ++ lengthBytes ++ encodeText message ++ encodeText receiveId) =
      if expectedReceiveId.any (fun expected => expected ≠ "" ∧ receiveId ≠ expected) then
        .error (.valueError (logPrefix ++ " receive_id validation failed"))
      else .ok message := by
  have front : (randomBytes ++ lengthBytes).length = minDecryptedLen := by
    rw [List.length_append, drawn, width]
    rfl
  have field : ((randomBytes ++ lengthBytes ++ encodeText message ++ encodeText receiveId).drop
      randomPrefixLen).take msgLenBytes = lengthBytes := by
    rw [List.append_assoc, List.append_assoc, List.drop_left' (show _ = randomPrefixLen from drawn),
      List.take_left' (show _ = msgLenBytes from width)]
  have body : ((randomBytes ++ lengthBytes ++ encodeText message ++ encodeText receiveId).drop
      minDecryptedLen) = encodeText message ++ encodeText receiveId := by
    rw [List.append_assoc, List.drop_left' front]
  have rest : (randomBytes ++ lengthBytes ++ encodeText message ++ encodeText receiveId).drop
      (minDecryptedLen + (encodeText message).length) = encodeText receiveId := by
    rw [← List.drop_drop, body, List.drop_left]
  unfold parseContent
  simp only [field, counted]
  rw [if_neg, if_neg, body, rest, List.take_left, decodeText_encodeText, decodeText_encodeText]
  · rfl
  · rw [List.length_append, List.length_append, front]
    omega
  · rw [List.length_append, List.length_append, front]
    omega

end Layout

section RoundTrip

variable (rt : CipherRuntime) {aesKey : Bytes} (size : aesKey.length = 32)
include size

theorem cipher_eq (blocks : (key iv : Bytes) → Bytes → Bytes) {data : Bytes}
    (whole : data.length % 16 = 0) :
    cipher blocks aesKey data = .ok (blocks aesKey (aesKey.take 16) data) := by
  unfold cipher
  rw [if_neg (fun wrong => wrong.2.2 size), if_neg (fun wrong => wrong whole)]

theorem decipher (invertible : rt.Invertible) {data : Bytes} (whole : data.length % 16 = 0) :
    cipher rt.decryptBlocks aesKey (rt.encryptBlocks aesKey (aesKey.take 16) data) =
      .ok data := by
  have vector : (aesKey.take 16).length = 16 := by
    rw [List.length_take, size]
    rfl
  rw [cipher_eq size _ (invertible.whole _ _ _ size vector whole),
    invertible.blocks _ _ _ size vector whole]

/-- What is encrypted reads back as the same message, unless another receive id is expected. -/
theorem decrypt_encrypted (invertible : rt.Invertible) {encodingAesKey : String}
    (key : rt.b64decode (encodingAesKey ++ "=") = .ok aesKey) {randomBytes : Bytes}
    (drawn : randomBytes.length = 16) {message : String}
    (short : (encodeText message).length < 2 ^ 32) (receiveId logPrefix : String) :
    ∃ encrypted, rt.encryptWecomMessage randomBytes message encodingAesKey receiveId =
        .ok encrypted ∧
      (∀ expected : Option String, expected = none ∨ expected = some "" ∨
        expected = some receiveId →
        rt.decryptWecomMessage encrypted encodingAesKey expected logPrefix = .ok message) ∧
      ∀ expected : String, expected ≠ "" → expected ≠ receiveId →
        rt.decryptWecomMessage encrypted encodingAesKey (some expected) logPrefix =
          .error (.valueError (logPrefix ++ " receive_id validation failed")) := by
  have opened : rt.decoded (encodingAesKey ++ "=") = .ok aesKey := by
    rw [decoded, key]
    rfl
  obtain ⟨lengthBytes, packed, width, counted⟩ := packLength_ok short
  generalize whole : randomBytes ++ lengthBytes ++ encodeText message ++ encodeText receiveId =
    payload
  have encrypted : rt.encryptWecomMessage randomBytes message encodingAesKey receiveId = .ok
      (rt.b64encode (rt.encryptBlocks aesKey (aesKey.take 16) (pad payload))) := by
    unfold encryptWecomMessage
    simp only [opened, packed, whole, cipher_eq size _ (length_pad payload), Lib.ok_bind]
    rfl
  have data : rt.decoded (rt.b64encode (rt.encryptBlocks aesKey (aesKey.take 16)
      (pad payload))) =
      .ok (rt.encryptBlocks aesKey (aesKey.take 16) (pad payload)) := by
    rw [decoded, invertible.base64]
    rfl
  have read : ∀ expected : Option String, rt.decryptWecomMessage
      (rt.b64encode (rt.encryptBlocks aesKey (aesKey.take 16) (pad payload)))
      encodingAesKey expected logPrefix =
      if expected.any (fun expected => expected ≠ "" ∧ receiveId ≠ expected) then
        .error (.valueError (logPrefix ++ " receive_id validation failed"))
      else .ok message := by
    intro expected
    have parsed := parseContent_layout drawn width counted receiveId logPrefix expected
    rw [whole] at parsed
    unfold decryptWecomMessage
    simp only [opened, data, decipher rt size invertible (length_pad payload), unpad_pad,
      Lib.ok_bind, parsed]
  refine ⟨_, encrypted, ?_, ?_⟩
  · rintro expected (rfl | rfl | rfl)
    · exact read none
    · exact (read (some "")).trans (if_neg (by simp))
    · exact (read (some receiveId)).trans (if_neg (by simp))
  · intro expected given other
    rw [read, if_pos (by simp [given, Ne.symm other])]

end RoundTrip

/-- Knows one pair of blocks of AES-256 under the key `0123456789abcdef0123456789abcdef`. -/
def sampleCipher : CipherRuntime :=
  let plain := pad
    (List.replicate 16 98 ++ [0, 0, 0, 2] ++ encodeText "hi" ++ encodeText "ww1")
  let encrypted := [232, 6, 177, 12, 49, 60, 177, 149, 163, 128, 179, 184, 198, 67, 195, 209, 138,
    186, 98, 218, 15, 195, 38, 125, 9, 89, 119, 244, 69, 28, 70, 250]
  { b64decode text := ((Lib.Base64.decode text.toList).map .ok).getD (.error "Incorrect padding")
    b64encode bytes := .ofList (Lib.Base64.encode bytes)
    encryptBlocks _ _ := Equiv.swap plain encrypted
    decryptBlocks _ _ := Equiv.swap plain encrypted }

def sampleAesKey : String := "MDEyMzQ1Njc4OWFiY2RlZjAxMjM0NTY3ODlhYmNkZWY"

theorem sampleCipher_invertible : sampleCipher.Invertible where
  base64 bytes := by
    simp [sampleCipher, Lib.Base64.decode_encode]
  whole _ _ data _ _ whole := by
    show (Equiv.swap _ _ data).length % 16 = 0
    rw [Equiv.swap_apply_def]
    split
    · rfl
    · split
      · exact length_pad _
      · exact whole
  blocks _ _ data _ _ _ := by
    show Equiv.swap _ _ (Equiv.swap _ _ data) = data
    rw [Equiv.swap_apply_self]

theorem decrypt_encrypted_hi :
    sampleCipher.encryptWecomMessage (List.replicate 16 98) "hi"
        sampleAesKey "ww1" =
      .ok "6AaxDDE8sZWjgLO4xkPD0Yq6YtoPwyZ9CVl39EUcRvo=" ∧
    sampleCipher.decryptWecomMessage "6AaxDDE8sZWjgLO4xkPD0Yq6YtoPwyZ9CVl39EUcRvo="
      sampleAesKey none "WeCom" = .ok "hi" := by
  have known : sampleCipher.encryptWecomMessage (List.replicate 16 98) "hi"
      sampleAesKey "ww1" =
      .ok "6AaxDDE8sZWjgLO4xkPD0Yq6YtoPwyZ9CVl39EUcRvo=" := by decide +kernel
  obtain ⟨encrypted, sent, read, -⟩ := @decrypt_encrypted sampleCipher
    (encodeText "0123456789abcdef0123456789abcdef") (by decide +kernel) sampleCipher_invertible
    sampleAesKey (by decide +kernel) (List.replicate 16 98)
    List.length_replicate "hi" (by decide +kernel) "ww1" "WeCom"
  rw [known] at sent
  cases sent
  exact ⟨known, read none (.inl rfl)⟩

end Orcheo.WeCom
