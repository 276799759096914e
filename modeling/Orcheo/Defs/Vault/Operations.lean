import Orcheo.Defs.Vault.Storage

/-! The operations of a vault, each a sequence of statements. -/

namespace Orcheo.Vault

open VaultOp (iterMetadata iterAlerts upsertTemplate upsertAlert)

abbrev VaultCall (α : Type) := Lib.Call VaultOp.Answer (Except VaultError α)

def VaultOp.call (op : VaultOp) : VaultCall op.Value := .ask op .done

namespace VaultCall

def ofExcept {α : Type} (result : Except VaultError α) : VaultCall α := .done result

def each {α β : Type} (f : α → VaultCall β) : List α → VaultCall (List β)
  | [] => .done (.ok [])
  | a :: as => (f a).andThen (fun result =>
    (each f as).andThen (fun results => .done (.ok (result :: results))))

end VaultCall

open VaultCall (ofExcept each)

def persistMetadata (metadata : CredentialMetadata) : VaultCall Unit :=
  (VaultOp.selectDuplicates metadata.name metadata.workspaceId).call.andThen
    (fun (ids : List Uuid) =>
      if ids.any (· ≠ metadata.id) then .done (.error (.duplicateCredentialName metadata.name))
      else (VaultOp.upsertMetadata metadata).call)

variable (rt : VaultRuntime) (cipher : CredentialCipher)

def checkAccess (context : CredentialAccessContext) (metadata : CredentialMetadata) :
    Except VaultError CredentialMetadata :=
  if !matchesWorkspace rt metadata.workspaceId context then .error .workspaceMismatch
  else if !metadata.scope.allows context then
    .error (.workflowScope "Credential cannot be accessed with the provided context.")
  else .ok metadata

def getMetadata (credentialId : Uuid) (context : Option CredentialAccessContext) :
    VaultCall CredentialMetadata :=
  (VaultOp.loadMetadata credentialId).call.andThen (fun (metadata : CredentialMetadata) =>
    .done (checkAccess rt (context.getD {}) metadata))

def modifyMetadata (credentialId : Uuid) (context : Option CredentialAccessContext)
    (change : CredentialMetadata → Except VaultError CredentialMetadata) :
    VaultCall CredentialMetadata :=
  (getMetadata rt credentialId context).andThen (fun metadata =>
    (ofExcept (change metadata)).andThen (fun changed =>
      (persistMetadata changed).andThen (fun _ => .done (.ok changed))))

def createCredential (new : NewCredential) : VaultCall CredentialMetadata :=
  (ofExcept (CredentialKind.ofValue new.kind)).andThen (fun kind =>
    let metadata := new.metadata rt cipher kind
    (persistMetadata metadata).andThen (fun _ => .done (.ok metadata)))

def rotated (nonce secret actor : String) (now : Instant) (metadata : CredentialMetadata) :
    Except VaultError CredentialMetadata :=
  match metadata.reveal cipher with
  | .error e => .error e
  | .ok current =>
    if current = secret then .error .rotationPolicy
    else .ok (metadata.rotateSecret cipher nonce secret actor now)

def rotateSecret (credentialId : Uuid) (secret actor : String)
    (context : Option CredentialAccessContext) (nonce : String) (now : Instant) :
    VaultCall CredentialMetadata :=
  modifyMetadata rt credentialId context (rotated cipher nonce secret actor now)

def normalizeNonEmptyValue (name : Option String) (fieldName : String) :
    Except VaultError (Option String) :=
  match name with
  | none => .ok none
  | some name =>
    if rt.strip name ≠ "" then .ok (some (rt.strip name))
    else .error (.value (fieldName ++ " cannot be empty"))

structure CredentialUpdate where
  actor : String
  name : Option String := none
  provider : Option String := none
  secret : Option String := none
  scope : Option CredentialScope := none
  nonce : String
  now : Instant
  deriving DecidableEq

def secretChanged (metadata : CredentialMetadata) :
    Option String → Except VaultError (Option String)
  | none => .ok none
  | some secret => (metadata.reveal cipher).map (fun current =>
    if current ≠ secret then some secret else none)

def CredentialUpdate.fields (update : CredentialUpdate) (name provider : Option String)
    (metadata : CredentialMetadata) : CredentialMetadata × Bool :=
  let name := name.filter (· ≠ metadata.name)
  let provider := provider.filter (· ≠ metadata.provider)
  let scope := update.scope.filter (· ≠ metadata.scope)
  ({ metadata with
      name := name.getD metadata.name
      provider := provider.getD metadata.provider
      scope := scope.getD metadata.scope },
    name.isSome || provider.isSome || scope.isSome)

def CredentialUpdate.rotate (update : CredentialUpdate) (secret : Option String)
    (metadata : CredentialMetadata) : CredentialMetadata :=
  match secret with
  | none => metadata
  | some secret => metadata.rotateSecret cipher update.nonce secret update.actor update.now

def CredentialUpdate.apply (update : CredentialUpdate) (metadata : CredentialMetadata) :
    Except VaultError (Option CredentialMetadata) := do
  let name ← normalizeNonEmptyValue rt update.name "name"
  let provider ← normalizeNonEmptyValue rt update.provider "provider"
  let secret ← normalizeNonEmptyValue rt update.secret "secret"
  let secret ← secretChanged cipher metadata secret
  let (changed, metadataChanged) := update.fields name provider metadata
  let changed := update.rotate cipher secret changed
  let changed := if metadataChanged then
    changed.recordEvent update.actor "credential_updated" update.now else changed
  return if metadataChanged || secret.isSome then some changed else none

def updateCredential (credentialId : Uuid) (update : CredentialUpdate)
    (context : Option CredentialAccessContext) : VaultCall CredentialMetadata :=
  (getMetadata rt credentialId context).andThen (fun metadata =>
    (ofExcept (update.apply rt cipher metadata)).andThen (fun
      | none => .done (.ok metadata)
      | some changed => (persistMetadata changed).andThen (fun _ => .done (.ok changed))))

def updateOauthTokens (credentialId : Uuid) (tokens : Option OAuthTokenSecrets)
    (actor : Option String) (context : Option CredentialAccessContext) (nonce : String)
    (now : Instant) : VaultCall CredentialMetadata :=
  modifyMetadata rt credentialId context (fun metadata =>
    metadata.updateOauthTokens cipher nonce tokens ((actor.filter (· ≠ "")).getD "system") now)

def markHealth (credentialId : Uuid) (status : CredentialHealthStatus) (reason : Option String)
    (actor : Option String) (context : Option CredentialAccessContext) (now : Instant) :
    VaultCall CredentialMetadata :=
  modifyMetadata rt credentialId context (fun metadata =>
    .ok (metadata.markHealth status reason (actor.filter (· ≠ "")) now))

def revealSecret (credentialId : Uuid) (context : Option CredentialAccessContext) :
    VaultCall String :=
  (getMetadata rt credentialId context).andThen (fun metadata =>
    .done (metadata.reveal cipher))

variable (context : Option CredentialAccessContext)

def listCredentials (workspaceId : Option String) :
    VaultCall (List CredentialMetadata) :=
  let accessContext := context.getD {}
  let workspace := workspaceId.or (accessContext.workspace rt)
  (iterMetadata workspace).call.andThen (fun (items : List CredentialMetadata) =>
    .done (.ok (items.filter (fun item => item.scope.allows accessContext &&
      (workspace = none || item.workspaceId = none || item.workspaceId = workspace)))))

def listAllCredentials (workspaceId : Option String) : VaultCall (List CredentialMetadata) :=
  (iterMetadata workspaceId).call.andThen (fun (items : List CredentialMetadata) =>
    .done (.ok (items.filter (fun item =>
      workspaceId = none || item.workspaceId = none || item.workspaceId = workspaceId))))

structure RedactedCredential where
  id : Uuid
  name : String
  provider : String
  scopes : List String
  scope : CredentialScope
  kind : CredentialKind
  lastRotatedAt : Option Instant
  templateId : Option Uuid
  algorithm : String
  keyId : String
  /-- whether there is an access token and a refresh token, and when they expire -/
  oauthTokens : Option (Bool × Bool × Option Instant)
  health : CredentialHealth
  deriving DecidableEq, Repr

def CredentialMetadata.redact (metadata : CredentialMetadata) : RedactedCredential where
  id := metadata.id
  name := metadata.name
  provider := metadata.provider
  scopes := metadata.scopes
  scope := metadata.scope
  kind := metadata.kind
  lastRotatedAt := metadata.lastRotatedAt
  templateId := metadata.templateId
  algorithm := metadata.encryption.algorithm
  keyId := metadata.encryption.keyId
  oauthTokens := metadata.oauthTokens.map (fun payload =>
    (payload.accessToken.isSome, payload.refreshToken.isSome, payload.expiresAt))
  health := metadata.health

def describeCredentials :
    VaultCall (List RedactedCredential) :=
  let accessContext := context.getD {}
  (iterMetadata (accessContext.workspace rt)).call.andThen
    (fun (items : List CredentialMetadata) =>
      .done (.ok ((items.filter (fun item => item.scope.allows accessContext)).map
        CredentialMetadata.redact)))

def removeAlerts (attached : SecretGovernanceAlert → Bool) : VaultCall Unit :=
  (iterAlerts none).call.andThen (fun (alerts : List SecretGovernanceAlert) =>
    (each (fun alert => (VaultOp.removeAlert alert.id).call)
      (alerts.filter attached)).andThen (fun _ => .done (.ok ())))

def deleteCredential (credentialId : Uuid) (context : Option CredentialAccessContext) :
    VaultCall Unit :=
  (getMetadata rt credentialId context).andThen (fun metadata =>
    (VaultOp.removeCredential metadata.id).call.andThen (fun _ =>
      removeAlerts (fun alert => alert.credentialId = some metadata.id)))

def createTemplate (new : NewTemplate) : VaultCall CredentialTemplate :=
  (ofExcept (CredentialKind.ofValue new.kind)).andThen (fun kind =>
    let template := new.template rt kind
    (upsertTemplate template).call.andThen (fun _ => .done (.ok template)))

def checkTemplateAccess (context : CredentialAccessContext) (template : CredentialTemplate) :
    Except VaultError CredentialTemplate :=
  if !matchesWorkspace rt template.workspaceId context || !template.scope.allows context then
    .error (.workflowScope
      "Credential template cannot be accessed with the provided context.")
  else .ok template

/-- `get_template` and `_get_template` are alike. -/
def getTemplate (templateId : Uuid) (context : Option CredentialAccessContext) :
    VaultCall CredentialTemplate :=
  (VaultOp.loadTemplate templateId).call.andThen (fun (template : CredentialTemplate) =>
    .done (checkTemplateAccess rt (context.getD {}) template))

def updateTemplate (templateId : Uuid) (actor : String) (update : TemplateUpdate)
    (context : Option CredentialAccessContext) (now : Instant) : VaultCall CredentialTemplate :=
  (getTemplate rt templateId context).andThen (fun template =>
    (ofExcept (update.apply rt template)).andThen (fun (template, changes) =>
      if changes.isEmpty then .done (.ok template)
      else
        let template := template.recordEvent actor "template_updated" now changes
        (upsertTemplate template).call.andThen (fun _ => .done (.ok template))))

def deleteTemplate (templateId : Uuid) (context : Option CredentialAccessContext) :
    VaultCall Unit :=
  (getTemplate rt templateId context).andThen (fun _ =>
    (VaultOp.removeTemplate templateId).call.andThen (fun _ =>
      removeAlerts (fun alert => alert.templateId = some templateId)))

def listTemplates (workspaceId : Option String) :
    VaultCall (List CredentialTemplate) :=
  let accessContext := context.getD {}
  (VaultOp.iterTemplates (workspaceId.or (accessContext.workspace rt))).call.andThen
    (fun (templates : List CredentialTemplate) =>
      .done (.ok (templates.filter (fun template =>
        matchesWorkspace rt template.workspaceId accessContext &&
        template.scope.allows accessContext))))

def recordTemplateIssuance (templateId : Uuid) (actor : String) (credentialId : Uuid)
    (context : Option CredentialAccessContext) (now : Instant) : VaultCall CredentialTemplate :=
  (getTemplate rt templateId context).andThen (fun template =>
    let template := template.recordIssuance actor credentialId now
    (upsertTemplate template).call.andThen (fun _ => .done (.ok template)))

structure NewAlert where
  id : Uuid
  kind : GovernanceAlertKind
  severity : SecretGovernanceAlertSeverity
  message : String
  actor : String
  credentialId : Option Uuid := none
  templateId : Option Uuid := none
  workspaceId : Option String := none
  now : Instant
  deriving DecidableEq

structure AlertTarget where
  scope : CredentialScope
  templateId : Option Uuid
  workspaceId : Option String
  deriving DecidableEq

variable (new : NewAlert)

def alertTarget (context : CredentialAccessContext) : VaultCall AlertTarget :=
  let workspaceId := new.workspaceId.or (context.workspace rt)
  match new.credentialId, new.templateId with
  | some credentialId, templateId =>
    (getMetadata rt credentialId (some context)).andThen (fun metadata =>
      .done (.ok ⟨metadata.scope, templateId.or metadata.templateId,
        (workspaceId.filter (· ≠ "")).or metadata.workspaceId⟩))
  | none, some templateId =>
    (getTemplate rt templateId (some context)).andThen (fun template =>
      .done (.ok ⟨template.scope, some templateId,
        (workspaceId.filter (· ≠ "")).or template.workspaceId⟩))
  | none, none => .done (.ok ⟨.unrestricted, none, workspaceId⟩)

def sameAlert (context : CredentialAccessContext) (target : AlertTarget)
    (alert : SecretGovernanceAlert) : Bool :=
  matchesWorkspace rt alert.workspaceId context && alert.scope.allows context &&
  !alert.isAcknowledged && alert.kind = new.kind && alert.credentialId = new.credentialId &&
  alert.templateId = target.templateId

/-- `SecretGovernanceAlert.create` -/
def NewAlert.alert (target : AlertTarget) : SecretGovernanceAlert :=
  let alert : SecretGovernanceAlert := {
    id := new.id
    createdAt := new.now
    updatedAt := new.now
    workspaceId := target.workspaceId
    scope := target.scope
    templateId := target.templateId
    credentialId := new.credentialId
    kind := new.kind
    severity := new.severity
    message := new.message }
  alert.recordEvent new.actor "alert_created" new.now [.kindOfAlert new.kind new.severity]

def NewAlert.update (existing : SecretGovernanceAlert) : SecretGovernanceAlert :=
  { existing with
    severity := new.severity
    message := new.message }.recordEvent new.actor "alert_updated" new.now
      [.severity new.severity new.message]

def recordAlert (context : Option CredentialAccessContext) :
    VaultCall SecretGovernanceAlert :=
  let accessContext := context.getD {}
  (alertTarget rt new accessContext).andThen (fun target =>
    (iterAlerts target.workspaceId).call.andThen
      (fun (alerts : List SecretGovernanceAlert) =>
        let alert := match alerts.find? (sameAlert rt new accessContext target) with
          | some existing => new.update existing
          | none => new.alert target
        (upsertAlert alert).call.andThen (fun _ => .done (.ok alert))))

def listAlerts (includeAcknowledged : Bool) :
    VaultCall (List SecretGovernanceAlert) :=
  let accessContext := context.getD {}
  (iterAlerts (accessContext.workspace rt)).call.andThen
    (fun (alerts : List SecretGovernanceAlert) =>
      .done (.ok (alerts.filter (fun alert => matchesWorkspace rt alert.workspaceId accessContext &&
        alert.scope.allows accessContext && (includeAcknowledged || !alert.isAcknowledged)))))

def checkAlertAccess (alert : SecretGovernanceAlert) :
    Except VaultError SecretGovernanceAlert :=
  match context with
  | none =>
    if !alert.scope.isUnrestricted then
      .error (.workflowScope "Governance alert requires access context matching its scope.")
    else .ok alert
  | some context =>
    if !alert.scope.allows context then
      .error (.workflowScope "Governance alert cannot be accessed with the provided context.")
    else .ok alert

def getAlert (alertId : Uuid) (context : Option CredentialAccessContext) :
    VaultCall SecretGovernanceAlert :=
  (VaultOp.loadAlert alertId).call.andThen (fun (alert : SecretGovernanceAlert) =>
    .done (checkAlertAccess context alert))

def acknowledgeAlert (alertId : Uuid) (actor : String) (context : Option CredentialAccessContext)
    (now : Instant) : VaultCall SecretGovernanceAlert :=
  (getAlert alertId context).andThen (fun alert =>
    let alert := alert.acknowledge actor now
    (upsertAlert alert).call.andThen (fun _ => .done (.ok alert)))

def resolveAlertsForCredential (credentialId : Uuid) (actor : String) (now : Instant) :
    VaultCall (List SecretGovernanceAlert) :=
  (iterAlerts none).call.andThen (fun (alerts : List SecretGovernanceAlert) =>
    each (fun alert =>
        let alert := alert.acknowledge actor now
        (upsertAlert alert).call.andThen (fun _ => .done (.ok alert)))
      (alerts.filter (fun alert =>
        alert.credentialId = some credentialId && !alert.isAcknowledged)))

end Orcheo.Vault
