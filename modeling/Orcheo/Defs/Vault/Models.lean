import Orcheo.Defs.Repository.Workflow

/-! Credentials, templates and governance alerts of the vault. -/

namespace Orcheo.Vault

open Repository (TextRuntime)

inductive VaultError
  | credentialNotFound
  | templateNotFound
  | alertNotFound
  | duplicateCredentialName (name : String)
  | workflowScope (message : String)
  /-- a credential of another workspace, reported as not found -/
  | workspaceMismatch
  | rotationPolicy
  /-- a `ValueError` -/
  | value (message : String)
  /-- raised by the database driver -/
  | database (message : String)
  deriving DecidableEq, Repr

/-- `str(exc)` -/
def VaultError.text : VaultError → String
  | credentialNotFound => "Credential was not found."
  | templateNotFound => "Credential template was not found."
  | alertNotFound => "Governance alert was not found."
  | duplicateCredentialName name => "Credential name '" ++ name ++ "' is already in use."
  | workspaceMismatch => "Credential cannot be accessed with the provided context."
  | rotationPolicy => "Rotated secret must differ from the previous value."
  | workflowScope message | value message | database message => message

structure VaultRuntime extends TextRuntime where
  showUuid : Uuid → String

def VaultRuntime.ascii : VaultRuntime where
  toTextRuntime := .ascii
  showUuid := toString

structure CredentialAccessContext where
  workflowId : Option Uuid := none
  workspaceId : Option Uuid := none
  roles : List String := []
  deriving DecidableEq, Repr

structure CredentialScope where
  workflowIds : List Uuid := []
  workspaceIds : List Uuid := []
  roles : List String := []
  deriving DecidableEq, Repr

namespace CredentialScope

def unrestricted : CredentialScope := {}

def allows (scope : CredentialScope) (context : CredentialAccessContext) : Bool :=
  (scope.workflowIds.isEmpty || context.workflowId.any scope.workflowIds.contains) &&
  (scope.workspaceIds.isEmpty || context.workspaceId.any scope.workspaceIds.contains) &&
  (scope.roles.isEmpty || context.roles.any scope.roles.contains)

def isUnrestricted (scope : CredentialScope) : Bool :=
  scope.workflowIds.isEmpty && scope.workspaceIds.isEmpty && scope.roles.isEmpty

end CredentialScope

def CredentialAccessContext.workspace (rt : VaultRuntime) (context : CredentialAccessContext) :
    Option String := context.workspaceId.map rt.showUuid

/-- An entry without a workspace matches every context, and so does every entry a context without
one. -/
def matchesWorkspace (rt : VaultRuntime) (workspaceId : Option String)
    (context : CredentialAccessContext) : Bool :=
  match context.workspace rt with
  | none => true
  | some w => workspaceId = none || workspaceId = some w

structure EncryptionEnvelope where
  algorithm : String
  keyId : String
  ciphertext : String
  deriving DecidableEq, Repr

structure CredentialCipher where
  algorithm : String
  keyId : String
  encryptText : String → String → String
  decryptText : String → Except String String

def CredentialCipher.plain : CredentialCipher where
  algorithm := "plain"
  keyId := "primary"
  encryptText _ plaintext := plaintext
  decryptText := .ok

def CredentialCipher.encrypt (cipher : CredentialCipher) (nonce plaintext : String) :
    EncryptionEnvelope := ⟨cipher.algorithm, cipher.keyId, cipher.encryptText nonce plaintext⟩

def EncryptionEnvelope.decrypt (envelope : EncryptionEnvelope) (cipher : CredentialCipher) :
    Except VaultError String :=
  if cipher.algorithm ≠ envelope.algorithm then
    .error (.value "Cipher algorithm mismatch during decryption.")
  else if cipher.keyId ≠ envelope.keyId then
    .error (.value "Cipher key identifier mismatch during decryption.")
  else match cipher.decryptText envelope.ciphertext with
    | .error message => .error (.value message)
    | .ok plaintext => .ok plaintext

structure OAuthTokenSecrets where
  accessToken : Option String := none
  refreshToken : Option String := none
  expiresAt : Option Instant := none
  deriving DecidableEq, Repr

structure OAuthTokenPayload where
  accessToken : Option EncryptionEnvelope := none
  refreshToken : Option EncryptionEnvelope := none
  expiresAt : Option Instant := none
  deriving DecidableEq, Repr

namespace OAuthTokenPayload

variable (cipher : CredentialCipher)

def sealToken (nonce : String) (token : Option String) :
    Option EncryptionEnvelope :=
  (token.filter (· ≠ "")).map (cipher.encrypt nonce)

def fromSecrets (nonce : String) :
    Option OAuthTokenSecrets → OAuthTokenPayload
  | none => {}
  | some secrets =>
    { accessToken := sealToken cipher nonce secrets.accessToken
      refreshToken := sealToken cipher nonce secrets.refreshToken
      expiresAt := secrets.expiresAt }

def openToken :
    Option EncryptionEnvelope → Except VaultError (Option String)
  | none => .ok none
  | some envelope => (envelope.decrypt cipher).map some

def reveal (payload : OAuthTokenPayload) (cipher : CredentialCipher) :
    Except VaultError OAuthTokenSecrets := do
  let accessToken ← openToken cipher payload.accessToken
  let refreshToken ← openToken cipher payload.refreshToken
  return ⟨accessToken, refreshToken, payload.expiresAt⟩

end OAuthTokenPayload

inductive CredentialKind
  | secret | oauth
  deriving DecidableEq, Repr

def CredentialKind.value : CredentialKind → String
  | secret => "secret"
  | oauth => "oauth"

def CredentialKind.ofValue : String → Except VaultError CredentialKind
  | "secret" => .ok .secret
  | "oauth" => .ok .oauth
  | value => .error (.value ("'" ++ value ++ "' is not a valid CredentialKind"))

inductive CredentialHealthStatus
  | unknown | healthy | unhealthy
  deriving DecidableEq, Repr

inductive GovernanceAlertKind
  | tokenExpiring | validationFailed | rotationOverdue
  deriving DecidableEq, Repr

inductive SecretGovernanceAlertSeverity
  | info | warning | critical
  deriving DecidableEq, Repr

structure CredentialIssuancePolicy where
  requireRefreshToken : Bool := false
  rotationPeriodDays : Option Nat := none
  expiryThresholdMinutes : Nat := 60
  deriving DecidableEq, Repr

def CredentialIssuancePolicy.requiresRotation (policy : CredentialIssuancePolicy)
    (lastRotatedAt : Option Instant) (now : Instant) : Bool :=
  match policy.rotationPeriodDays, lastRotatedAt with
  | some days, some rotated => rotated + seconds (days * 86400) ≤ now
  | _, _ => false

/-- An entry of the metadata of an audit record. A scope is dumped with its identifiers, which
are text once the record was written as JSON. -/
inductive AuditDetail
  | health (status : CredentialHealthStatus) (reason : Option String)
  | kindOfAlert (kind : GovernanceAlertKind) (severity : SecretGovernanceAlertSeverity)
  | severity (severity : SecretGovernanceAlertSeverity) (message : String)
  | issued (credentialId : Uuid)
  | text (field : String) (before after : Option String)
  | scopes (before after : List String)
  | scope (before after : CredentialScope) (asText : Bool)
  | kind (before after : CredentialKind)
  | policy (before after : CredentialIssuancePolicy)
  deriving DecidableEq, Repr

structure AuditRecord where
  actor : String
  action : String
  happenedAt : Instant
  details : List AuditDetail := []
  deriving DecidableEq, Repr

structure TimestampedAudit where
  id : Uuid
  createdAt : Instant
  updatedAt : Instant
  auditLog : List AuditRecord := []
  deriving DecidableEq, Repr

def TimestampedAudit.recordEvent (audit : TimestampedAudit) (actor action : String) (now : Instant)
    (details : List AuditDetail := []) : TimestampedAudit :=
  { audit with auditLog := audit.auditLog ++ [⟨actor, action, now, details⟩], updatedAt := now }

structure CredentialHealth where
  status : CredentialHealthStatus := .unknown
  lastCheckedAt : Option Instant := none
  failureReason : Option String := none
  deriving DecidableEq, Repr

structure CredentialMetadata extends TimestampedAudit where
  name : String
  provider : String
  workspaceId : Option String
  scopes : List String
  scope : CredentialScope
  encryption : EncryptionEnvelope
  kind : CredentialKind
  oauthTokens : Option OAuthTokenPayload
  health : CredentialHealth := {}
  lastRotatedAt : Option Instant
  templateId : Option Uuid
  deriving DecidableEq

def normalizeScopes (rt : VaultRuntime) (scopes : List String) : List String :=
  ((scopes.map rt.strip).filter (· ≠ "")).eraseDups

namespace CredentialMetadata

variable (cipher : CredentialCipher) (metadata : CredentialMetadata)

def recordEvent (actor action : String) (now : Instant) (details : List AuditDetail := []) :
    CredentialMetadata :=
  { metadata with
    toTimestampedAudit := metadata.toTimestampedAudit.recordEvent actor action now details }

def updateHealth (status : CredentialHealthStatus) (reason : Option String) (now : Instant) :
    CredentialMetadata :=
  { metadata with health := ⟨status, some now, reason⟩ }

def rotateSecret (nonce secret actor : String) (now : Instant) : CredentialMetadata :=
  let rotated := { metadata with
    encryption := cipher.encrypt nonce secret
    lastRotatedAt := some now }.recordEvent actor "credential_rotated" now
  if metadata.kind = .oauth then rotated.updateHealth .unknown none now else rotated

def reveal : Except VaultError String := metadata.encryption.decrypt cipher

def revealOauthTokens : Except VaultError (Option OAuthTokenSecrets) :=
  match metadata.oauthTokens with
  | none => .ok none
  | some payload => (payload.reveal cipher).map some

def updateOauthTokens (nonce : String) (tokens : Option OAuthTokenSecrets) (actor : String)
    (now : Instant) : Except VaultError CredentialMetadata :=
  if metadata.kind ≠ .oauth then
    .error (.value "OAuth tokens can only be updated for OAuth credentials.")
  else
    let payload := OAuthTokenPayload.fromSecrets cipher nonce tokens
    let stored := if payload = {} then none else some payload
    .ok (({ metadata with oauthTokens := stored }.updateHealth .unknown none now).recordEvent actor
      "credential_oauth_tokens_updated" now)

def markHealth (status : CredentialHealthStatus) (reason : Option String) (actor : Option String)
    (now : Instant) : CredentialMetadata :=
  (metadata.updateHealth status reason now).recordEvent (actor.getD "system")
    "credential_health_marked" now [.health status reason]

end CredentialMetadata

structure NewCredential where
  id : Uuid
  name : String
  provider : String
  scopes : List String := []
  secret : String
  actor : String
  scope : Option CredentialScope := none
  kind : String := "secret"
  oauthTokens : Option OAuthTokenSecrets := none
  templateId : Option Uuid := none
  workspaceId : Option String := none
  nonce : String
  now : Instant
  deriving DecidableEq

/-- `CredentialMetadata.create` -/
def NewCredential.metadata (rt : VaultRuntime) (cipher : CredentialCipher) (new : NewCredential)
    (kind : CredentialKind) : CredentialMetadata :=
  let metadata : CredentialMetadata := {
    id := new.id
    createdAt := new.now
    updatedAt := new.now
    name := new.name
    provider := new.provider
    workspaceId := new.workspaceId
    scopes := normalizeScopes rt new.scopes
    scope := new.scope.getD .unrestricted
    encryption := cipher.encrypt new.nonce new.secret
    kind := kind
    oauthTokens := if kind = .oauth then
      some (.fromSecrets cipher new.nonce new.oauthTokens) else none
    lastRotatedAt := some new.now
    templateId := new.templateId }
  metadata.recordEvent new.actor "credential_created" new.now

structure CredentialTemplate extends TimestampedAudit where
  name : String
  provider : String
  workspaceId : Option String
  description : Option String
  scopes : List String
  scope : CredentialScope
  kind : CredentialKind
  issuancePolicy : CredentialIssuancePolicy
  deriving DecidableEq

structure NewTemplate where
  id : Uuid
  name : String
  provider : String
  scopes : List String := []
  actor : String
  description : Option String := none
  scope : Option CredentialScope := none
  kind : String := "secret"
  issuancePolicy : Option CredentialIssuancePolicy := none
  workspaceId : Option String := none
  now : Instant
  deriving DecidableEq

namespace CredentialTemplate

variable (template : CredentialTemplate)

def recordEvent (actor action : String) (now : Instant) (details : List AuditDetail := []) :
    CredentialTemplate :=
  { template with
    toTimestampedAudit := template.toTimestampedAudit.recordEvent actor action now details }

def recordIssuance (actor : String) (credentialId : Uuid) (now : Instant) : CredentialTemplate :=
  template.recordEvent actor "credential_issued" now [.issued credentialId]

end CredentialTemplate

/-- `CredentialTemplate.create` -/
def NewTemplate.template (rt : VaultRuntime) (new : NewTemplate) (kind : CredentialKind) :
    CredentialTemplate :=
  let template : CredentialTemplate := {
    id := new.id
    createdAt := new.now
    updatedAt := new.now
    name := new.name
    provider := new.provider
    workspaceId := new.workspaceId
    description := new.description
    scopes := normalizeScopes rt new.scopes
    scope := new.scope.getD .unrestricted
    kind := kind
    issuancePolicy := new.issuancePolicy.getD {} }
  template.recordEvent new.actor "template_created" new.now

structure TemplateUpdate where
  name : Option String := none
  description : Option String := none
  scopes : Option (List String) := none
  scope : Option CredentialScope := none
  kind : Option String := none
  issuancePolicy : Option CredentialIssuancePolicy := none
  deriving DecidableEq

/-! `template_utils`: each helper writes a field that changes, and notes the change. -/

abbrev Noted := CredentialTemplate × List AuditDetail

def updateTemplateName (name : Option String) : Noted → Noted
  | (template, changes) => match name with
    | none => (template, changes)
    | some name =>
      if template.name = name then (template, changes)
      else ({ template with name := name },
        changes ++ [.text "name" (some template.name) (some name)])

def updateTemplateDescription (description : Option String) : Noted → Noted
  | (template, changes) => match description with
    | none => (template, changes)
    | some description =>
      if template.description = some description then (template, changes)
      else ({ template with description := some description },
        changes ++ [.text "description" template.description (some description)])

def updateTemplateScopes (rt : VaultRuntime) (scopes : Option (List String)) : Noted → Noted
  | (template, changes) => match scopes with
    | none => (template, changes)
    | some scopes =>
      if scopes = template.scopes then (template, changes)
      else ({ template with scopes := normalizeScopes rt scopes },
        changes ++ [.scopes template.scopes scopes])

def updateTemplateScope (scope : Option CredentialScope) : Noted → Noted
  | (template, changes) => match scope with
    | none => (template, changes)
    | some scope =>
      if scope = template.scope then (template, changes)
      else ({ template with scope := scope }, changes ++ [.scope template.scope scope false])

def updateTemplateKind (kind : Option String) : Noted → Except VaultError Noted
  | (template, changes) => match kind with
    | none => .ok (template, changes)
    | some kind => match CredentialKind.ofValue kind with
      | .error e => .error e
      | .ok kind =>
        if kind = template.kind then .ok (template, changes)
        else .ok ({ template with kind := kind }, changes ++ [.kind template.kind kind])

def updateTemplatePolicy (policy : Option CredentialIssuancePolicy) : Noted → Noted
  | (template, changes) => match policy with
    | none => (template, changes)
    | some policy =>
      if policy = template.issuancePolicy then (template, changes)
      else ({ template with issuancePolicy := policy },
        changes ++ [.policy template.issuancePolicy policy])

def TemplateUpdate.apply (rt : VaultRuntime) (update : TemplateUpdate)
    (template : CredentialTemplate) : Except VaultError Noted :=
  (updateTemplateKind update.kind (updateTemplateScope update.scope (updateTemplateScopes rt
    update.scopes (updateTemplateDescription update.description (updateTemplateName update.name
      (template, [])))))).map (updateTemplatePolicy update.issuancePolicy)

structure SecretGovernanceAlert extends TimestampedAudit where
  workspaceId : Option String
  scope : CredentialScope
  templateId : Option Uuid
  credentialId : Option Uuid
  kind : GovernanceAlertKind
  severity : SecretGovernanceAlertSeverity
  message : String
  isAcknowledged : Bool := false
  acknowledgedAt : Option Instant := none
  acknowledgedBy : Option String := none
  deriving DecidableEq

namespace SecretGovernanceAlert

variable (alert : SecretGovernanceAlert)

def recordEvent (actor action : String) (now : Instant) (details : List AuditDetail := []) :
    SecretGovernanceAlert :=
  { alert with
    toTimestampedAudit := alert.toTimestampedAudit.recordEvent actor action now details }

def acknowledge (actor : String) (now : Instant) : SecretGovernanceAlert :=
  if alert.isAcknowledged then alert
  else { alert with
    isAcknowledged := true
    acknowledgedAt := some now
    acknowledgedBy := some actor }.recordEvent actor "alert_acknowledged" now

end SecretGovernanceAlert

end Orcheo.Vault
