import Orcheo.Defs.Vault.Operations

/-! The health check of an OAuth credential: what it does in the vault around the calls of the
provider. -/

namespace Orcheo.Vault

structure OAuthProvider where
  refreshed : Except String (Option OAuthTokenSecrets)
  validated : Except String (CredentialHealthStatus × Option String)

def OAuthProvider.validation (provider : OAuthProvider) : CredentialHealthStatus × Option String :=
  match provider.validated with
  | .error raised => (.unhealthy, some raised)
  | .ok validation => validation

structure CredentialHealthResult where
  credentialId : Uuid
  name : String
  provider : String
  status : CredentialHealthStatus
  lastCheckedAt : Option Instant
  failureReason : Option String
  deriving DecidableEq, Repr

def buildResult (metadata : CredentialMetadata) : CredentialHealthResult where
  credentialId := metadata.id
  name := metadata.name
  provider := metadata.provider
  status := metadata.health.status
  lastCheckedAt := metadata.health.lastCheckedAt
  failureReason := metadata.health.failureReason

/-- What a check is given: the clock is read in the order of its readings, and an alert takes the
identifier of its kind. -/
structure HealthCheck where
  actorName : String
  context : CredentialAccessContext
  provider : Option OAuthProvider
  refreshMargin : Duration
  nonce : String
  clock : Nat → Instant
  alertId : GovernanceAlertKind → Uuid
  isoformat : Instant → String

def shouldRefreshTokens (tokens : Option OAuthTokenSecrets) (refreshMargin : Duration)
    (now : Instant) : Bool :=
  match tokens with
  | none => true
  | some tokens => tokens.expiresAt.any (fun expiresAt => expiresAt ≤ now + refreshMargin)

namespace HealthCheck

variable (rt : VaultRuntime) (cipher : CredentialCipher) (check : HealthCheck)
  (metadata : CredentialMetadata)

def recordAlert (kind : GovernanceAlertKind) (severity : SecretGovernanceAlertSeverity)
    (message : String) (templateId : Option Uuid) (now : Instant) : VaultCall Unit :=
  let new : NewAlert := {
    id := check.alertId kind
    kind := kind
    severity := severity
    message := message
    actor := check.actorName
    credentialId := some metadata.id
    templateId := templateId
    now := now }
  (Vault.recordAlert rt new (some check.context)).andThen (fun _ => .done (.ok ()))

def recordValidationFailure (message : String) (now : Instant) : VaultCall Unit :=
  check.recordAlert rt metadata .validationFailed .critical message none now

def loadTemplate : VaultCall (Option CredentialTemplate) :=
  match metadata.templateId with
  | none => .done (.ok none)
  | some templateId => (getTemplate rt templateId (some check.context)).bind (fun
    | .error _ => .done (.ok none)
    | .ok template => .done (.ok (some template)))

def applyRotationPolicy (template : Option CredentialTemplate) : VaultCall Bool :=
  if template.any (fun t => t.issuancePolicy.requiresRotation metadata.lastRotatedAt
      (check.clock 0)) then
    (check.recordAlert rt metadata .rotationOverdue .warning
      "Credential rotation is overdue per template policy." metadata.templateId
      (check.clock 1)).andThen (fun _ => .done (.ok true))
  else .done (.ok false)

def refresh (provider : OAuthProvider) (tokens : Option OAuthTokenSecrets) :
    VaultCall (Except String (Option OAuthTokenSecrets)) :=
  if shouldRefreshTokens tokens check.refreshMargin (check.clock 2) then
    match provider.refreshed with
    | .error raised => .done (.ok (.error raised))
    | .ok none => .done (.ok (.ok tokens))
    | .ok (some refreshed) =>
      (updateOauthTokens rt cipher metadata.id (some refreshed) (some check.actorName)
        (some check.context) check.nonce (check.clock 3)).bind (fun
        | .error e => .done (.ok (.error e.text))
        | .ok updated => match updated.revealOauthTokens cipher with
          | .error e => .done (.ok (.error e.text))
          | .ok tokens => .done (.ok (.ok tokens)))
  else .done (.ok (.ok tokens))

def markUnhealthy (reason failure : String) : VaultCall CredentialHealthResult :=
  (markHealth rt metadata.id .unhealthy (some reason) (some check.actorName) (some check.context)
    (check.clock 4)).andThen (fun updated =>
      (check.recordValidationFailure rt metadata failure (check.clock 5)).andThen (fun _ =>
        .done (.ok (buildResult updated))))

def applyTokenExpiryAlert (tokens : Option OAuthTokenSecrets) : VaultCall Bool :=
  match tokens.bind OAuthTokenSecrets.expiresAt with
  | none => .done (.ok false)
  | some expiresAt =>
    if expiresAt ≤ check.clock 6 + check.refreshMargin then
      (check.recordAlert rt metadata .tokenExpiring .warning
        ("Token expires at " ++ check.isoformat expiresAt) none (check.clock 7)).andThen (fun _ =>
          .done (.ok true))
    else .done (.ok false)

def validate (provider : OAuthProvider) (tokens : Option OAuthTokenSecrets) (overdue : Bool) :
    VaultCall CredentialHealthResult :=
  let status := provider.validation.1
  let reason := provider.validation.2
  (markHealth rt metadata.id status reason (some check.actorName) (some check.context)
    (check.clock 4)).andThen (fun updated =>
      (check.applyTokenExpiryAlert rt metadata tokens).andThen (fun expiring =>
        if status = .unhealthy then
          (check.recordValidationFailure rt metadata
            ((reason.filter (· ≠ "")).getD "Credential validation failed")
            (check.clock 8)).andThen (fun _ => .done (.ok (buildResult updated)))
        else if overdue || expiring then .done (.ok (buildResult updated))
        else (resolveAlertsForCredential updated.id check.actorName (check.clock 8)).andThen
          (fun _ => .done (.ok (buildResult updated)))))

/-- `OAuthCredentialProcessor.process`, for a credential as it was listed. -/
def process : VaultCall CredentialHealthResult :=
  match check.provider with
  | none => check.markUnhealthy rt metadata
      ("No OAuth provider registered for '" ++ metadata.provider ++ "'")
      ("No provider registered for " ++ metadata.provider ++ ".")
  | some provider =>
    (VaultCall.ofExcept (metadata.revealOauthTokens cipher)).andThen (fun tokens =>
      (check.loadTemplate rt metadata).andThen (fun template =>
        (check.applyRotationPolicy rt metadata template).andThen (fun overdue =>
          (check.refresh rt cipher metadata provider tokens).andThen (fun
            | .error raised => check.markUnhealthy rt metadata raised raised
            | .ok tokens => check.validate rt metadata provider tokens overdue))))

end HealthCheck

end Orcheo.Vault
