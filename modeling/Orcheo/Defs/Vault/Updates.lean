import Orcheo.Lib.Except
import Orcheo.Lib.ReadModifyWrite
import Orcheo.Defs.Vault.OAuth

/-! Operations on credentials that several processes run at once on a vault in Postgres: what each
of them writes back of what it has read. -/

namespace Orcheo.Vault

open Lib.Call (meets_andThen)
open Lib (Asked bind_ok_iff)
open CredentialUpdate (apply rotate)

inductive CredentialRequest
  | createCredential (new : NewCredential)
  | rotateSecret (credentialId : Uuid) (secret actor : String)
    (context : Option CredentialAccessContext) (nonce : String) (now : Instant)
  | updateCredential (credentialId : Uuid) (update : CredentialUpdate)
    (context : Option CredentialAccessContext)
  | updateOauthTokens (credentialId : Uuid) (tokens : Option OAuthTokenSecrets)
    (actor : Option String) (context : Option CredentialAccessContext) (nonce : String)
    (now : Instant)
  | markHealth (credentialId : Uuid) (status : CredentialHealthStatus) (reason : Option String)
    (actor : Option String) (context : Option CredentialAccessContext) (now : Instant)
  | process (check : HealthCheck) (metadata : CredentialMetadata)

inductive CredentialReply
  | credential (metadata : CredentialMetadata)
  | health (result : CredentialHealthResult)
  deriving DecidableEq

namespace CredentialRequest

def rotates : CredentialRequest → Bool
  | createCredential _ | rotateSecret .. => true
  | updateCredential _ update _ => update.secret.isSome
  | _ => false

def refreshes : CredentialRequest → Bool
  | createCredential _ | updateOauthTokens .. | process .. => true
  | _ => false

def program (rt : VaultRuntime) (cipher : CredentialCipher) :
    CredentialRequest → VaultCall CredentialReply
  | createCredential new =>
    (Vault.createCredential rt cipher new).andThen (fun m => .done (.ok (.credential m)))
  | rotateSecret credentialId secret actor context nonce now =>
    (Vault.rotateSecret rt cipher credentialId secret actor context nonce now).andThen
      (fun m => .done (.ok (.credential m)))
  | updateCredential credentialId update context =>
    (Vault.updateCredential rt cipher credentialId update context).andThen
      (fun m => .done (.ok (.credential m)))
  | updateOauthTokens credentialId tokens actor context nonce now =>
    (Vault.updateOauthTokens rt cipher credentialId tokens actor context nonce now).andThen
      (fun m => .done (.ok (.credential m)))
  | markHealth credentialId status reason actor context now =>
    (Vault.markHealth rt credentialId status reason actor context now).andThen
      (fun m => .done (.ok (.credential m)))
  | process check metadata =>
    (check.process rt cipher metadata).andThen (fun result => .done (.ok (.health result)))

end CredentialRequest

abbrev VaultPast := List (Asked VaultOp.Answer)

structure Keeps (r : CredentialRequest) (read written : CredentialMetadata) : Prop where
  id : written.id = read.id
  workspaceId : written.workspaceId = read.workspaceId
  encryption : r.rotates = false → written.encryption = read.encryption
  oauthTokens : r.refreshes = false → written.oauthTokens = read.oauthTokens

inductive WritesBack (rt : VaultRuntime) (cipher : CredentialCipher) :
    CredentialRequest → VaultPast → CredentialMetadata → Prop
  | created (new : NewCredential) (kind : CredentialKind) (ids : List Uuid)
      (own : ∀ id ∈ ids, id = new.id) :
      WritesBack rt cipher (.createCredential new)
        [⟨.selectDuplicates new.name new.workspaceId, .ok ids⟩] (new.metadata rt cipher kind)
  | modified (r : CredentialRequest) (past : VaultPast) (read written : CredentialMetadata)
      (ids : List Uuid) (keeps : Keeps r read written) (own : ∀ id ∈ ids, id = written.id) :
      WritesBack rt cipher r (⟨.selectDuplicates written.name written.workspaceId, .ok ids⟩ ::
        ⟨.loadMetadata written.id, .ok read⟩ :: past) written

namespace VaultOp

def Fits : (op : VaultOp) → op.Answer → Prop
  | .loadMetadata credentialId, .ok (metadata : CredentialMetadata) => metadata.id = credentialId
  | _, _ => True

def Allowed (rt : VaultRuntime) (cipher : CredentialCipher) (r : CredentialRequest)
    (past : VaultPast) : VaultOp → Prop
  | .upsertMetadata metadata => WritesBack rt cipher r past metadata
  | .removeCredential _ => False
  | _ => True

def Reading : VaultOp → Prop
  | .upsertMetadata _ | .removeCredential _ => False
  | _ => True

end VaultOp

def Safe (rt : VaultRuntime) (cipher : CredentialCipher) (r : CredentialRequest) {α : Type}
    (c : VaultCall α) : Prop :=
  ∀ past, c.Meets VaultOp.Fits (VaultOp.Allowed rt cipher r) (fun _ _ => True) past

section Programs

variable {rt : VaultRuntime} {cipher : CredentialCipher} {r : CredentialRequest} {α β : Type}
  {past : VaultPast}

theorem safe_done {result : Except VaultError α} : Safe rt cipher r (.done result) :=
  fun _ => trivial

theorem safe_bind {γ : Type} {c : VaultCall α} {f : Except VaultError α → VaultCall γ}
    (first : Safe rt cipher r c) (second : ∀ result, Safe rt cipher r (f result)) :
    Safe rt cipher r (Lib.Call.bind c f) := by
  intro past
  rw [Lib.Call.meets_bind]
  exact (first past).mono (fun _ _ allowed => allowed) (fun past result _ => second result past)

theorem safe_andThen {c : VaultCall α} {f : α → VaultCall β} (first : Safe rt cipher r c)
    (second : ∀ a, Safe rt cipher r (f a)) : Safe rt cipher r (c.andThen f) := by
  intro past
  rw [meets_andThen]
  refine (first past).mono (fun _ _ allowed => allowed) ?_
  intro past result _
  cases result with
  | error e => trivial
  | ok a => exact second a past

theorem safe_call {op : VaultOp} (reading : op.Reading) : Safe rt cipher r op.call := by
  intro past
  refine ⟨?_, fun _ _ => trivial⟩
  cases op with
  | upsertMetadata | removeCredential => cases reading
  | _ => trivial

theorem safe_each {f : α → VaultCall β} (one : ∀ a, Safe rt cipher r (f a)) (as : List α) :
    Safe rt cipher r (VaultCall.each f as) := by
  induction as with
  | nil => exact safe_done
  | cons a as ih => exact safe_andThen (one a) (fun _ => safe_andThen ih (fun _ => safe_done))

variable {context : Option CredentialAccessContext} {credentialId : Uuid}

theorem safe_getMetadata :
    Safe rt cipher r (getMetadata rt credentialId context) :=
  safe_andThen (safe_call trivial) (fun _ => safe_done)

theorem safe_getTemplate {templateId : Uuid} :
    Safe rt cipher r (getTemplate rt templateId context) :=
  safe_andThen (safe_call trivial) (fun _ => safe_done)

theorem checkAccess_ok {context : CredentialAccessContext} {metadata m : CredentialMetadata}
    (passed : checkAccess rt context metadata = .ok m) : m = metadata := by
  unfold checkAccess at passed
  split at passed
  · cases passed
  · split at passed
    · cases passed
    · exact (Except.ok.inj passed).symm

theorem getMetadata_meets :
    (getMetadata rt credentialId context).Meets VaultOp.Fits (VaultOp.Allowed rt cipher r)
      (fun past' result => ∀ m, result = .ok m →
        past' = ⟨.loadMetadata m.id, .ok m⟩ :: past) past := by
  unfold getMetadata VaultOp.call
  rw [meets_andThen]
  refine ⟨trivial, ?_⟩
  intro answer fits
  cases answer with
  | error e =>
    intro m failed
    cases failed
  | ok metadata =>
    intro m passed
    have same := checkAccess_ok passed
    subst same
    change m.id = credentialId at fits
    rw [fits]

theorem persistMetadata_meets {m : CredentialMetadata}
    (back : ∀ ids : List Uuid, (∀ id ∈ ids, id = m.id) → WritesBack rt cipher r
      (⟨.selectDuplicates m.name m.workspaceId, .ok ids⟩ :: past) m) :
    (persistMetadata m).Meets VaultOp.Fits (VaultOp.Allowed rt cipher r) (fun _ _ => True)
      past := by
  unfold persistMetadata VaultOp.call
  rw [meets_andThen]
  refine ⟨trivial, ?_⟩
  intro answer _
  cases answer with
  | error e => trivial
  | ok ids =>
    change (if List.any ids (fun id => decide (id ≠ m.id)) then _ else _ : VaultCall Unit).Meets
      _ _ _ _
    split
    next => trivial
    next unique =>
      refine ⟨back ids ?_, fun _ _ => trivial⟩
      intro id mem
      by_contra other
      exact unique (List.any_eq_true.mpr ⟨id, mem, by simpa using other⟩)

theorem safe_modifyMetadata {change : CredentialMetadata → Except VaultError CredentialMetadata}
    (keeps : ∀ read written, change read = .ok written → Keeps r read written) :
    Safe rt cipher r (modifyMetadata rt credentialId context change) := by
  intro past
  unfold modifyMetadata
  rw [meets_andThen]
  refine getMetadata_meets.mono (fun _ _ allowed => allowed) ?_
  intro past' result read
  cases result with
  | error e => trivial
  | ok metadata =>
    rw [read metadata rfl]
    dsimp only
    cases changed : change metadata with
    | error e => trivial
    | ok written =>
      have kept := keeps metadata written changed
      show ((persistMetadata written).andThen _).Meets _ _ _ _
      rw [meets_andThen]
      refine (persistMetadata_meets ?_).mono (fun _ _ allowed => allowed) ?_
      · intro ids own
        rw [← kept.id]
        exact .modified r past metadata written ids kept own
      · intro past result _
        cases result <;> trivial

end Programs

section Operations

variable {rt : VaultRuntime} {cipher : CredentialCipher} {r : CredentialRequest}
  {read written : CredentialMetadata} {nonce secret actor : String} {now : Instant}

namespace CredentialMetadata

variable (cipher) (read) (nonce) (secret) (actor) (now)

@[simp] theorem rotateSecret_id :
    (read.rotateSecret cipher nonce secret actor now).id = read.id := by
  unfold rotateSecret
  dsimp only
  split <;> rfl

@[simp] theorem rotateSecret_workspaceId :
    (read.rotateSecret cipher nonce secret actor now).workspaceId = read.workspaceId := by
  unfold rotateSecret
  dsimp only
  split <;> rfl

@[simp] theorem rotateSecret_oauthTokens :
    (read.rotateSecret cipher nonce secret actor now).oauthTokens = read.oauthTokens := by
  unfold rotateSecret
  dsimp only
  split <;> rfl

end CredentialMetadata

theorem keeps_rotated (rotates : r.rotates = true)
    (rotated : Vault.rotated cipher nonce secret actor now read = .ok written) :
    Keeps r read written := by
  unfold Vault.rotated at rotated
  split at rotated
  · cases rotated
  · split at rotated
    · cases rotated
    · cases rotated
      constructor
      case encryption =>
        intro none
        cases rotates.symm.trans none
      all_goals simp

theorem keeps_updateOauthTokens {tokens : Option OAuthTokenSecrets} (refreshes : r.refreshes = true)
    (updated : read.updateOauthTokens cipher nonce tokens actor now = .ok written) :
    Keeps r read written := by
  unfold CredentialMetadata.updateOauthTokens at updated
  split at updated
  · cases updated
  · cases updated
    constructor
    case oauthTokens =>
      intro none
      cases refreshes.symm.trans none
    all_goals intros; rfl

theorem keeps_markHealth {status : CredentialHealthStatus} {reason actor : Option String} :
    Keeps r read (read.markHealth status reason actor now) where
  id := rfl
  workspaceId := rfl
  encryption _ := rfl
  oauthTokens _ := rfl

variable {update : CredentialUpdate} {context : Option CredentialAccessContext}
  {credentialId : Uuid}

theorem keeps_fields {name provider : Option String} :
    Keeps r read (update.fields name provider read).1 where
  id := rfl
  workspaceId := rfl
  encryption _ := rfl
  oauthTokens _ := rfl

theorem keeps_apply (rotates : update.secret.isSome = true → r.rotates = true)
    (applied : update.apply rt cipher read = .ok (some written)) : Keeps r read written := by
  unfold apply at applied
  obtain ⟨name, _, applied⟩ := bind_ok_iff.mp applied
  obtain ⟨provider, _, applied⟩ := bind_ok_iff.mp applied
  obtain ⟨secret, normalized, applied⟩ := bind_ok_iff.mp applied
  obtain ⟨changedSecret, changed, applied⟩ := bind_ok_iff.mp applied
  have kept : Keeps r read
      (update.rotate cipher changedSecret (update.fields name provider read).1) := by
    cases changedSecret with
    | none => exact keeps_fields
    | some rotated =>
      have given : update.secret.isSome = true := by
        cases there : update.secret with
        | none =>
          rw [there] at normalized
          cases normalized
          cases changed
        | some _ => rfl
      have fields : Keeps r read (update.fields name provider read).1 := keeps_fields
      constructor
      case id => simpa [rotate] using fields.id
      case workspaceId => simpa [rotate] using fields.workspaceId
      case encryption =>
        intro none
        cases (rotates given).symm.trans none
      case oauthTokens => simpa [rotate] using fields.oauthTokens
  dsimp only at applied
  split at applied
  next =>
    cases applied
    split
    next => exact ⟨kept.id, kept.workspaceId, kept.encryption, kept.oauthTokens⟩
    next => exact kept
  next => cases applied

theorem safe_createCredential {new : NewCredential} :
    (createCredential rt cipher new).Meets VaultOp.Fits
      (VaultOp.Allowed rt cipher (.createCredential new)) (fun _ _ => True) [] := by
  unfold createCredential VaultCall.ofExcept
  rw [meets_andThen]
  rw [Lib.Call.meets_done]
  cases CredentialKind.ofValue new.kind with
  | error e => trivial
  | ok kind =>
    dsimp only
    rw [meets_andThen]
    refine (persistMetadata_meets (m := new.metadata rt cipher kind) ?_).mono
      (fun _ _ allowed => allowed) ?_
    · intro ids own
      exact .created new kind ids own
    · intro past result _
      cases result <;> trivial

theorem safe_updateCredential :
    Safe rt cipher (.updateCredential credentialId update context)
      (updateCredential rt cipher credentialId update context) := by
  intro past
  unfold updateCredential
  rw [meets_andThen]
  refine getMetadata_meets.mono (fun _ _ allowed => allowed) ?_
  intro past' result read
  cases result with
  | error e => trivial
  | ok metadata =>
    rw [read metadata rfl]
    dsimp only [VaultCall.ofExcept]
    rw [meets_andThen]
    cases applied : update.apply rt cipher metadata with
    | error e => trivial
    | ok changed =>
      cases changed with
      | none => trivial
      | some written =>
        have kept : Keeps (.updateCredential credentialId update context) metadata written :=
          keeps_apply (fun given => given) applied
        show ((persistMetadata written).andThen _).Meets _ _ _ _
        rw [meets_andThen]
        refine (persistMetadata_meets ?_).mono (fun _ _ allowed => allowed) ?_
        · intro ids own
          rw [← kept.id]
          exact .modified _ past metadata written ids kept own
        · intro past result _
          cases result <;> trivial

theorem safe_markHealth {status : CredentialHealthStatus} {reason actor : Option String} :
    Safe rt cipher r (markHealth rt credentialId status reason actor context now) := by
  refine safe_modifyMetadata ?_
  intro read written marked
  cases marked
  exact keeps_markHealth

theorem safe_updateOauthTokens {tokens : Option OAuthTokenSecrets} {actor : Option String}
    (refreshes : r.refreshes = true) : Safe rt cipher r
      (updateOauthTokens rt cipher credentialId tokens actor context nonce now) :=
  safe_modifyMetadata (fun _ _ updated => keeps_updateOauthTokens refreshes updated)

theorem safe_alertTarget {new : NewAlert} {context : CredentialAccessContext} :
    Safe rt cipher r (alertTarget rt new context) := by
  unfold alertTarget
  dsimp only
  split
  · exact safe_andThen safe_getMetadata (fun _ => safe_done)
  · exact safe_andThen safe_getTemplate (fun _ => safe_done)
  · exact safe_done

theorem safe_recordAlert {new : NewAlert} :
    Safe rt cipher r (recordAlert rt new context) :=
  safe_andThen safe_alertTarget (fun _ => safe_andThen (safe_call trivial) (fun _ =>
    safe_andThen (safe_call trivial) (fun _ => safe_done)))

theorem safe_resolveAlertsForCredential :
    Safe rt cipher r (resolveAlertsForCredential credentialId actor now) := by
  refine safe_andThen (safe_call trivial) (fun _ => safe_each ?_ _)
  intro alert
  exact safe_andThen (safe_call trivial) (fun _ => safe_done)

namespace HealthCheck

variable {check : HealthCheck} {metadata : CredentialMetadata}

theorem safe_recordAlert {kind : GovernanceAlertKind} {severity : SecretGovernanceAlertSeverity}
    {message : String} {templateId : Option Uuid} :
    Safe rt cipher r (check.recordAlert rt metadata kind severity message templateId now) :=
  safe_andThen Vault.safe_recordAlert (fun _ => safe_done)

theorem safe_loadTemplate : Safe rt cipher r (check.loadTemplate rt metadata) := by
  unfold loadTemplate
  split
  · exact safe_done
  · refine safe_bind safe_getTemplate ?_
    intro result
    cases result <;> exact safe_done

theorem safe_applyRotationPolicy {template : Option CredentialTemplate} :
    Safe rt cipher r (check.applyRotationPolicy rt metadata template) := by
  unfold applyRotationPolicy
  split
  · exact safe_andThen safe_recordAlert (fun _ => safe_done)
  · exact safe_done

variable {tokens : Option OAuthTokenSecrets} {provider : OAuthProvider}

theorem safe_refresh (refreshes : r.refreshes = true) :
    Safe rt cipher r (check.refresh rt cipher metadata provider tokens) := by
  unfold refresh
  split
  · split
    · exact safe_done
    · exact safe_done
    · refine safe_bind (safe_updateOauthTokens refreshes) ?_
      intro result
      split
      · exact safe_done
      · split <;> exact safe_done
  · exact safe_done

theorem safe_markUnhealthy {reason failure : String} :
    Safe rt cipher r (check.markUnhealthy rt metadata reason failure) :=
  safe_andThen safe_markHealth (fun _ => safe_andThen safe_recordAlert (fun _ => safe_done))

theorem safe_applyTokenExpiryAlert :
    Safe rt cipher r (check.applyTokenExpiryAlert rt metadata tokens) := by
  unfold applyTokenExpiryAlert
  split
  · exact safe_done
  · split
    · exact safe_andThen safe_recordAlert (fun _ => safe_done)
    · exact safe_done

theorem safe_validate {overdue : Bool} :
    Safe rt cipher r (check.validate rt metadata provider tokens overdue) := by
  refine safe_andThen safe_markHealth ?_
  intro updated
  refine safe_andThen safe_applyTokenExpiryAlert ?_
  intro expiring
  split
  · exact safe_andThen safe_recordAlert (fun _ => safe_done)
  · split
    · exact safe_done
    · exact safe_andThen safe_resolveAlertsForCredential (fun _ => safe_done)

theorem safe_process (refreshes : r.refreshes = true) :
    Safe rt cipher r (check.process rt cipher metadata) := by
  unfold process
  split
  · exact safe_markUnhealthy
  · refine safe_andThen safe_done ?_
    intro tokens
    refine safe_andThen safe_loadTemplate ?_
    intro template
    refine safe_andThen safe_applyRotationPolicy ?_
    intro overdue
    refine safe_andThen (safe_refresh refreshes) ?_
    intro outcome
    cases outcome with
    | error raised => exact safe_markUnhealthy
    | ok tokens => exact safe_validate

end HealthCheck

theorem program_meets (rt : VaultRuntime) (cipher : CredentialCipher) (r : CredentialRequest) :
    (r.program rt cipher).Meets VaultOp.Fits (VaultOp.Allowed rt cipher r)
    (fun _ _ => True) [] := by
  cases r with
  | createCredential new =>
    unfold CredentialRequest.program
    rw [meets_andThen]
    refine safe_createCredential.mono (fun _ _ allowed => allowed) ?_
    intro past result _
    cases result <;> trivial
  | rotateSecret =>
    refine safe_andThen (safe_modifyMetadata ?_) (fun _ => safe_done) []
    exact fun _ _ rotated => keeps_rotated rfl rotated
  | updateCredential => exact safe_andThen safe_updateCredential (fun _ => safe_done) []
  | updateOauthTokens => exact safe_andThen (safe_updateOauthTokens rfl) (fun _ => safe_done) []
  | markHealth => exact safe_andThen safe_markHealth (fun _ => safe_done) []
  | process => exact safe_andThen (HealthCheck.safe_process rfl) (fun _ => safe_done) []

end Operations

end Orcheo.Vault
