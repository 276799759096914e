import Orcheo.Defs.Triggers.WebhookReplay

/-! The stages of webhook validation, and what each of them may raise. -/

namespace Orcheo.Triggers

open Lib (Raises raises_ok raises_error)

def WebhookError.isRate : WebhookError → Bool
  | rateLimitExceeded _ _ => true
  | _ => false

def WebhookError.NotRate (e : WebhookError) : Prop := e.isRate = false

namespace WebhookTriggerState

open WebhookError (NotRate)

section Raised

variable {rt : WebhookRuntime} {clock : WebhookClock} (s : WebhookTriggerState) (r : WebhookRequest)

theorem raises_validateShape : Raises NotRate (s.validateShape rt r) := by
  unfold validateShape
  apply Raises.bind
  · unfold validateMethod
    split
    · exact raises_ok ()
    · exact raises_error rfl
  intro _ _
  apply Raises.bind
  · unfold validateRequiredHeaders
    split
    · exact raises_error rfl
    · exact raises_ok ()
  intro _ _
  unfold validateRequiredQueryParams
  split
  · exact raises_error rfl
  · exact raises_ok ()

theorem raises_compareDigest (a b : String) : Raises NotRate (compareDigest a b) := by
  unfold compareDigest
  split
  · exact raises_ok _
  · exact raises_error rfl

theorem raises_extractHmacSignature (raw : String) :
    Raises NotRate (extractHmacSignature rt raw) := by
  unfold extractHmacSignature
  dsimp only
  split
  · exact raises_error rfl
  · split
    · exact raises_error rfl
    · exact raises_ok _

theorem raises_readTimestamp (stripped : String) : Raises NotRate (readTimestamp rt stripped) := by
  unfold readTimestamp
  split
  · exact raises_error rfl
  · split
    · split
      · exact raises_ok _
      · exact raises_error rfl
    · split
      · exact raises_ok _
      · exact raises_error rfl

theorem raises_parseSignatureTimestamp (value : String) :
    Raises NotRate (s.parseSignatureTimestamp rt clock value) := by
  unfold parseSignatureTimestamp
  apply Raises.bind (raises_readTimestamp _)
  intro stamp _
  dsimp only
  split
  · exact raises_ok _
  · split
    · exact raises_error rfl
    · split
      · exact raises_error rfl
      · exact raises_ok _

theorem raises_checkHmacSignature (header secret : String) :
    Raises NotRate (s.checkHmacSignature rt clock r header secret) := by
  have compared (signature : String) (timestamp : Option Stamp) (expected : String) :
      Raises NotRate (do
        if ← compareDigest expected signature then return (signature, timestamp)
        throw .authentication : Except WebhookError (String × Option Stamp)) := by
    apply Raises.bind (raises_compareDigest _ _)
    intro equal _
    split
    · exact raises_ok _
    · exact raises_error rfl
  unfold checkHmacSignature
  dsimp only
  split
  next provided _ =>
    refine Raises.bind (raises_ok _) ?_
    intro provided _
    refine Raises.bind (raises_extractHmacSignature provided) ?_
    intro signature _
    split
    next =>
      refine Raises.bind (raises_ok _) ?_
      intro timestamp _
      exact compared _ _ _
    next =>
      split
      next =>
        intro e raised
        cases raised
        rfl
      next value _ =>
        refine Raises.bind (raises_parseSignatureTimestamp s value) ?_
        intro stamp _
        refine Raises.bind (raises_ok _) ?_
        intro timestamp _
        exact compared _ _ _
  next =>
    intro e raised
    cases raised
    rfl

theorem raises_enforceSignatureReplay (signature : String) (timestamp : Option Stamp) :
    Raises NotRate (s.enforceSignatureReplay clock signature timestamp).2 := by
  unfold enforceSignatureReplay
  dsimp only
  split
  · exact raises_error rfl
  · split
    · exact raises_error rfl
    · exact raises_ok ()

theorem raises_validateSharedSecret : Raises NotRate (s.validateSharedSecret rt r) := by
  unfold validateSharedSecret
  split
  · exact raises_ok ()
  · split
    · apply Raises.bind (raises_compareDigest _ _)
      intro equal _
      split
      · exact raises_ok ()
      · exact raises_error rfl
    · exact raises_error rfl

end Raised

section Stages

variable (rt : WebhookRuntime) (s : WebhookTriggerState) (call : WebhookCall)

def checkSecret : Except WebhookError Unit :=
  match truthy s.config.sharedSecret with
  | some _ => s.validateSharedSecret rt call.request
  | none => .ok ()

def rateFull (clock : WebhookClock) : Bool :=
  s.config.rateLimit.any (fun limit => decide (limit.limit ≤ (s.recentInvocations.dropWhile
    (fun t => decide (t < clock.limitedAt - seconds limit.intervalSeconds))).length))

inductive SignatureStage : WebhookTriggerState × Except WebhookError Unit → Prop
  | unsigned (unsigned : s.checked? rt call = none) : SignatureStage (s, .ok ())
  | failed {e} (unsigned : s.checked? rt call = none) (other : e.NotRate) :
    SignatureStage (s, .error e)
  | checked {signature timestamp} (found : s.checked? rt call = some (signature, timestamp)) :
    SignatureStage (s.enforceSignatureReplay call.clock signature timestamp)

inductive Validated : WebhookTriggerState × Except WebhookError Unit → Prop
  | shape {e} (refused : s.validateShape rt call.request = .error e) (other : e.NotRate) :
    Validated (s, .error e)
  | signature {t e} (shaped : s.validateShape rt call.request = .ok ())
      (signed : SignatureStage rt s call (t, .error e)) (other : e.NotRate) :
    Validated (t, .error e)
  | secret {t e} (shaped : s.validateShape rt call.request = .ok ())
      (signed : SignatureStage rt s call (t, .ok ())) (refused : s.checkSecret rt call = .error e)
      (other : e.NotRate) : Validated (t, .error e)
  | rate {t} (shaped : s.validateShape rt call.request = .ok ())
      (signed : SignatureStage rt s call (t, .ok ())) (passed : s.checkSecret rt call = .ok ()) :
    Validated (t.enforceRateLimit call.clock)

variable {rt} {s} {call}

theorem signatureStage_of_secret {secret : String}
    (signs : truthy s.config.hmacSecret = some secret) :
    SignatureStage rt s call (s.validateHmacSignature rt call.clock call.request) := by
  unfold validateHmacSignature
  rw [signs]
  cases named : s.config.hmacHeader with
  | none =>
    apply SignatureStage.unsigned
    rw [checked?, named]
  | some header =>
    dsimp only
    cases checks : s.checkHmacSignature rt call.clock call.request header secret with
    | error e =>
      apply SignatureStage.failed
      · rw [checked?, named, signs]
        dsimp only
        rw [checks]
        rfl
      · exact raises_checkHmacSignature s call.request header secret e checks
    | ok found =>
      apply SignatureStage.checked
      rw [checked?, named, signs]
      dsimp only
      rw [checks]
      rfl

theorem enforceSignatureReplay_frame (s : WebhookTriggerState) (clock : WebhookClock)
    (signature : String) (timestamp : Option Stamp) :
    (s.enforceSignatureReplay clock signature timestamp).1.config = s.config ∧
      (s.enforceSignatureReplay clock signature timestamp).1.recentInvocations =
        s.recentInvocations := by
  unfold enforceSignatureReplay
  dsimp only
  split
  · exact ⟨rfl, rfl⟩
  · split
    · exact ⟨rfl, rfl⟩
    · exact ⟨rfl, rfl⟩

variable {out : WebhookTriggerState × Except WebhookError Unit}

theorem SignatureStage.frame (stage : SignatureStage rt s call out) :
    out.1.config = s.config ∧ out.1.recentInvocations = s.recentInvocations := by
  cases stage with
  | unsigned => exact ⟨rfl, rfl⟩
  | failed => exact ⟨rfl, rfl⟩
  | checked found => exact enforceSignatureReplay_frame s call.clock _ _

theorem SignatureStage.raises (stage : SignatureStage rt s call out) : Raises NotRate out.2 := by
  cases stage with
  | unsigned => exact raises_ok ()
  | failed unsigned other => exact raises_error other
  | checked found => exact raises_enforceSignatureReplay s _ _

theorem raises_checkSecret : Raises NotRate (s.checkSecret rt call) := by
  unfold checkSecret
  split
  · exact raises_validateSharedSecret s call.request
  · exact raises_ok ()

theorem checkSecret_congr {t : WebhookTriggerState} (same : t.config = s.config) :
    t.checkSecret rt call = s.checkSecret rt call := by
  unfold checkSecret validateSharedSecret
  rw [same]

theorem validateAuthentication_eq : ∃ out, SignatureStage rt s call out ∧
    s.validateAuthentication rt call.clock call.request =
      match out with
      | (t, .error e) => (t, .error e)
      | (t, .ok ()) => (t, s.checkSecret rt call) := by
  unfold validateAuthentication
  cases signs : truthy s.config.hmacSecret with
  | none =>
    refine ⟨(s, .ok ()), ?_, ?_⟩
    · apply SignatureStage.unsigned
      rw [checked?, signs]
      split
      · contradiction
      · rfl
    · dsimp only
      unfold checkSecret
      cases truthy s.config.sharedSecret with
      | none => rfl
      | some expected => rfl
  | some secret =>
    have stage : SignatureStage rt s call (s.validateHmacSignature rt call.clock call.request) :=
      signatureStage_of_secret signs
    refine ⟨_, stage, ?_⟩
    cases done : s.validateHmacSignature rt call.clock call.request with
    | mk t result =>
      cases result with
      | error e => rfl
      | ok =>
        rw [done] at stage
        have same : t.checkSecret rt call = s.checkSecret rt call := checkSecret_congr stage.frame.1
        dsimp only
        rw [← same]
        unfold checkSecret
        cases truthy t.config.sharedSecret with
        | none => rfl
        | some expected => rfl

theorem validated (rt : WebhookRuntime) (s : WebhookTriggerState) (call : WebhookCall) :
    Validated rt s call (s.validate rt call.clock call.request) := by
  unfold validate
  cases shaped : s.validateShape rt call.request with
  | error e => exact .shape shaped (raises_validateShape s call.request e shaped)
  | ok =>
    have ⟨⟨t, result⟩, stage, same⟩ : ∃ out, SignatureStage rt s call out ∧ _ = _ :=
      validateAuthentication_eq
    dsimp only
    rw [same]
    cases result with
    | error e => exact .signature shaped stage (stage.raises e rfl)
    | ok =>
      cases passed : s.checkSecret rt call with
      | error e => exact .secret shaped stage passed (raises_checkSecret e passed)
      | ok => exact .rate shaped stage passed

end Stages

end WebhookTriggerState

end Orcheo.Triggers
