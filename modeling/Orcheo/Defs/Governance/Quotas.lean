import Orcheo.Defs.Repository.References
import Orcheo.Defs.Vault.Operations

/-! Requests that create and delete the workflows and the credentials of a workspace, as calls of
the in-memory repository and of the vault, and the quotas that they are checked against. -/

namespace Orcheo.Governance

open Lib (Call Dict)
open Repository (EventClock InMemoryRepositoryState NewWorkflow ReferenceQuery TeamError TextRuntime WorkflowDraftAccess WorkflowError teamText)
open Vault (Backend CredentialAccessContext CredentialCipher CredentialMetadata CredentialScope
  CredentialTemplate NewCredential OAuthTokenSecrets StorageRuntime VaultError VaultStore)

structure WorkspaceQuotas where
  maxWorkflows : Nat := 100
  maxCredentials : Nat := 200
  maxStorageRows : Nat := 1000000
  positive : 1 ≤ maxWorkflows ∧ 1 ≤ maxCredentials ∧ 1 ≤ maxStorageRows := by decide

structure Workspace where
  slug : String
  name : String
  quotas : WorkspaceQuotas := {}

structure Deployment where
  text : TextRuntime
  storage : StorageRuntime
  cipher : CredentialCipher
  vault : Backend
  workspaces : String → Workspace

inductive RouteError
  /-- a `WorkspaceQuotaExceededError` -/
  | quotaExceeded (message code : String) (limit current : Nat)
  | teamNotFound (teamId : String)
  | workflowRequired
  | team (error : TeamError)
  | workflow (error : WorkflowError)
  | vault (error : VaultError)
  deriving DecidableEq, Repr

structure GovernedStore where
  repository : InMemoryRepositoryState := {}
  versionRuns : Dict Uuid (List Uuid) := ∅
  runWorkspaces : Dict Uuid String := ∅
  vault : VaultStore := {}

inductive GovernanceOp
  | getTeam (team : Uuid) (workspaceId : String)
  | ensureDefaultTeam (id : Uuid) (workspaceId name slug : String)
  | resolveWorkflowRef (query : ReferenceQuery)
  | getWorkflow (x : Uuid) (workspaceId : String)
  | listWorkflows (workspaceId : String)
  | listVersions (x : Uuid)
  | listRunsForWorkflow (x : Uuid) (workspaceId : String)
  | createWorkflow (id : Uuid) (now : Instant) (r : NewWorkflow)
  | archiveWorkflow (x : Uuid) (clock : EventClock) (disabledAt : Instant) (actor : String)
  | listAllCredentials (workspaceId : String)
  | createCredential (new : NewCredential)
  | deleteCredential (credentialId : Uuid) (context : CredentialAccessContext)
  | getTemplate (templateId : Uuid) (context : CredentialAccessContext)
  | recordTemplateIssuance (templateId : Uuid) (actor : String) (credentialId : Uuid)
      (context : CredentialAccessContext) (now : Instant)

abbrev GovernanceOp.Value : GovernanceOp → Type
  | getTeam .. | ensureDefaultTeam .. | resolveWorkflowRef .. => Uuid
  | listWorkflows .. | listVersions .. | listRunsForWorkflow .. => List Uuid
  | listAllCredentials .. => List CredentialMetadata
  | getTemplate .. => CredentialTemplate
  | getWorkflow .. | createWorkflow .. | archiveWorkflow .. | createCredential ..
  | deleteCredential .. | recordTemplateIssuance .. => Unit

abbrev GovernanceOp.Answer (op : GovernanceOp) : Type := Except RouteError op.Value

namespace GovernedStore

variable (s : GovernedStore)

def getTeam (team : Uuid) (workspaceId : String) : Except RouteError Uuid :=
  match s.repository.teams.get? team with
  | none => .error (.team .notFound)
  | some found =>
    if found.workspaceId ≠ workspaceId then .error (.team .notFound) else .ok team

def ensureDefaultTeam (rt : TextRuntime) (id : Uuid) (workspaceId name slug : String) :
    Except RouteError Uuid × GovernedStore :=
  let (repository, ensured) := s.repository.ensureDefaultTeam rt id workspaceId name slug
  let team := if (s.repository.defaultTeam workspaceId).isSome then
    (s.repository.defaultTeamByWorkspace.get? workspaceId).getD id else id
  ((ensured.map (fun _ => team)).mapError .team, { s with repository := repository })

def inWorkspace (workspaceId : String) (x : Uuid) : Bool :=
  match s.repository.workflowWorkspaces.get? x with
  | none => true
  | some stored => stored = workspaceId

def getWorkflow (x : Uuid) (workspaceId : String) : Except RouteError Unit :=
  if s.repository.workflows.contains x && s.inWorkspace workspaceId x then .ok ()
  else .error (.workflow .notFound)

def listWorkflows (workspaceId : String) : List Uuid :=
  s.repository.workflows.keys.filter (s.inWorkspace workspaceId)

def listVersions (x : Uuid) : Except RouteError (List Uuid) :=
  match s.repository.workflowVersions.get? x with
  | none => .error (.workflow .notFound)
  | some versions => .ok versions

def listRunsForWorkflow (x : Uuid) (workspaceId : String) : Except RouteError (List Uuid) :=
  if s.repository.workflows.contains x then
    .ok ((((s.repository.workflowVersions.get? x).getD []).flatMap
      (fun version => (s.versionRuns.get? version).getD [])).filter
      (fun run => match s.runWorkspaces.get? run with
        | none => true
        | some stored => stored = workspaceId))
  else .error (.workflow .notFound)

def createWorkflow (rt : TextRuntime) (id : Uuid) (now : Instant) (r : NewWorkflow) :
    Except RouteError Unit × GovernedStore :=
  let (repository, created) := s.repository.createWorkflow rt id now r
  ((created.map (fun _ => ())).mapError .workflow, { s with repository := repository })

def archiveWorkflow (rt : TextRuntime) (x : Uuid) (clock : EventClock) (disabledAt : Instant)
    (actor : String) : Except RouteError Unit × GovernedStore :=
  let (repository, archived) := s.repository.archiveWorkflow rt x clock disabledAt actor
  ((archived.map (fun _ => ())).mapError .workflow, { s with repository := repository })

def callVault {α : Type} (d : Deployment) (call : Vault.VaultCall α) :
    Except RouteError α × GovernedStore :=
  let (answer, vault) := call.run (VaultStore.exec d.storage d.vault) s.vault
  (answer.mapError .vault, { s with vault := vault })

def exec (d : Deployment) : (op : GovernanceOp) → GovernedStore → op.Answer × GovernedStore
  | .getTeam team workspaceId, s => (s.getTeam team workspaceId, s)
  | .ensureDefaultTeam id workspaceId name slug, s =>
    s.ensureDefaultTeam d.text id workspaceId name slug
  | .resolveWorkflowRef query, s =>
    ((s.repository.resolveWorkflowRef d.text query).mapError .workflow, s)
  | .getWorkflow x workspaceId, s => (s.getWorkflow x workspaceId, s)
  | .listWorkflows workspaceId, s => (.ok (s.listWorkflows workspaceId), s)
  | .listVersions x, s => (s.listVersions x, s)
  | .listRunsForWorkflow x workspaceId, s => (s.listRunsForWorkflow x workspaceId, s)
  | .createWorkflow id now r, s => s.createWorkflow d.text id now r
  | .archiveWorkflow x clock disabledAt actor, s =>
    s.archiveWorkflow d.text x clock disabledAt actor
  | .listAllCredentials workspaceId, s =>
    s.callVault d (Vault.listAllCredentials (some workspaceId))
  | .createCredential new, s =>
    s.callVault d ((Vault.createCredential d.storage.toVaultRuntime d.cipher new).andThen
      (fun _ => .done (.ok ())))
  | .deleteCredential credentialId context, s =>
    s.callVault d (Vault.deleteCredential d.storage.toVaultRuntime credentialId (some context))
  | .getTemplate templateId context, s =>
    s.callVault d (Vault.getTemplate d.storage.toVaultRuntime templateId (some context))
  | .recordTemplateIssuance templateId actor credentialId context now, s =>
    s.callVault d ((Vault.recordTemplateIssuance d.storage.toVaultRuntime templateId actor
      credentialId (some context) now).andThen (fun _ => .done (.ok ())))

end GovernedStore

abbrev GovernanceCall (α : Type) := Call GovernanceOp.Answer (Except RouteError α)

def GovernanceOp.call (op : GovernanceOp) : GovernanceCall op.Value := .ask op .done

structure WorkspaceContext where
  workspaceId : Uuid
  /-- `str(workspace_id)` -/
  workspaceText : String
  workspace : Workspace

def WorkspaceContext.quotas (context : WorkspaceContext) : WorkspaceQuotas :=
  context.workspace.quotas

def Deployment.context (d : Deployment) (workspaceId : Uuid) : WorkspaceContext where
  workspaceId := workspaceId
  workspaceText := d.storage.showUuid workspaceId
  workspace := d.workspaces (d.storage.showUuid workspaceId)

def countRows (workspaceId : String) : List Uuid → GovernanceCall Nat
  | [] => .done (.ok 0)
  | x :: xs =>
    (GovernanceOp.listVersions x).call.andThen (fun (versions : List Uuid) =>
      (GovernanceOp.listRunsForWorkflow x workspaceId).call.andThen (fun (runs : List Uuid) =>
        (countRows workspaceId xs).andThen (fun rows =>
          .done (.ok (versions.length + runs.length + rows)))))

section Checks

variable (context : WorkspaceContext)

def ensureWorkspaceWorkflowQuota : GovernanceCall Unit :=
  (GovernanceOp.listWorkflows context.workspaceText).call.andThen (fun (workflows : List Uuid) =>
    (countRows context.workspaceText workflows).andThen (fun rows =>
      let storageRows := workflows.length + rows
      if context.quotas.maxWorkflows ≤ workflows.length then
        .done (.error (.quotaExceeded
          ("Workspace " ++ context.workspace.slug ++ " reached its workflow quota")
          "workspace.quota.workflows" context.quotas.maxWorkflows workflows.length))
      else if context.quotas.maxStorageRows ≤ storageRows then
        .done (.error (.quotaExceeded
          ("Workspace " ++ context.workspace.slug ++ " reached its storage quota")
          "workspace.quota.storage" context.quotas.maxStorageRows storageRows))
      else .done (.ok ())))

def ensureWorkspaceCredentialQuota : GovernanceCall Unit :=
  (GovernanceOp.listAllCredentials context.workspaceText).call.andThen
    (fun (credentials : List CredentialMetadata) =>
      if context.quotas.maxCredentials ≤ credentials.length then
        .done (.error (.quotaExceeded
          ("Workspace " ++ context.workspace.slug ++ " reached its credential quota")
          "workspace.quota.credentials" context.quotas.maxCredentials credentials.length))
      else .done (.ok ()))

end Checks

structure WorkflowCreation where
  teamId : Option String := none
  name : String
  handle : Option String := none
  description : Option String := none
  tags : List String := []
  draftAccess : WorkflowDraftAccess := .personal
  actor : String := "system"
  id : Uuid
  defaultTeam : Uuid
  now : Instant

/-- `vault.create_credential` as the routes call it. -/
structure CredentialCreation where
  workflowRef : Option String := none
  /-- `access == "scoped"` -/
  scopedAccess : Bool := false
  new : NewCredential

structure TemplateIssuance where
  templateId : Uuid
  workflowRef : Option String := none
  name : Option String := none
  scopes : Option (List String) := none
  secret : String
  actor : String
  oauthTokens : Option OAuthTokenSecrets := none
  id : Uuid
  nonce : String
  now : Instant

inductive GovernedRequest
  | createWorkflow (workspaceId : Uuid) (creation : WorkflowCreation)
  | onboardCandidate (workspaceId : Uuid) (creation : WorkflowCreation)
  | archiveWorkflow (workspaceId : Uuid) (workflowRef actor : String) (clock : EventClock)
      (disabledAt : Instant)
  | createCredential (workspaceId : Uuid) (creation : CredentialCreation)
  | deleteCredential (workspaceId : Uuid) (credentialId : Uuid) (workflowRef : Option String)
  | issueFromTemplate (workspaceId : Uuid) (issuance : TemplateIssuance)

section Requests

variable (d : Deployment) (context : WorkspaceContext)

def ensureDefaultTeam (id : Uuid) : GovernanceCall Uuid :=
  (GovernanceOp.ensureDefaultTeam id context.workspaceText context.workspace.name
    context.workspace.slug).call

def namedTeam (teamId : String) : GovernanceCall Uuid :=
  match d.text.uuid teamId with
  | none => .done (.error (.teamNotFound teamId))
  | some team => (GovernanceOp.getTeam team context.workspaceText).call.bind (fun
      | .error (.team .notFound) => .done (.error (.teamNotFound teamId))
      | answer => .done answer)

def WorkflowCreation.newWorkflow (creation : WorkflowCreation) (teamId : String) : NewWorkflow where
  name := creation.name
  handle := creation.handle
  description := creation.description
  tags := creation.tags
  draftAccess := creation.draftAccess
  actor := creation.actor
  workspaceId := some context.workspaceText
  teamId := some teamId

def createWithinQuota (creation : WorkflowCreation) (teamId : String) : GovernanceCall Unit :=
  (ensureWorkspaceWorkflowQuota context).andThen (fun _ =>
    (GovernanceOp.createWorkflow creation.id creation.now
      (creation.newWorkflow context teamId)).call)

def createWorkflow (creation : WorkflowCreation) : GovernanceCall Unit :=
  (match creation.teamId with
    | some teamId => namedTeam d context teamId
    | none => ensureDefaultTeam context creation.defaultTeam).andThen (fun team =>
      createWithinQuota context creation (teamText team))

def onboardCandidate (creation : WorkflowCreation) : GovernanceCall Unit :=
  (ensureDefaultTeam context creation.defaultTeam).andThen (fun (team : Uuid) =>
    let target := match creation.teamId with
      | none | some "" => teamText team
      | some teamId => teamId
    (match creation.teamId with
      | some teamId => namedTeam d context teamId
      | none => .done (.ok team)).andThen (fun _ =>
        ((GovernanceOp.resolveWorkflowRef {
            workflowRef := creation.handle.getD ""
            includeArchived := false
            workspaceId := some context.workspaceText
            teamId := some target }).call.andThen (fun (x : Uuid) =>
          (GovernanceOp.getWorkflow x context.workspaceText).call)).bind (fun
            | .error (.workflow .notFound) => createWithinQuota context creation target
            | answer => .done answer)))

def archiveWorkflow (workflowRef actor : String) (clock : EventClock) (disabledAt : Instant) :
    GovernanceCall Unit :=
  (GovernanceOp.resolveWorkflowRef {
      workflowRef := workflowRef
      workspaceId := some context.workspaceText }).call.andThen (fun (x : Uuid) =>
    (GovernanceOp.getWorkflow x context.workspaceText).call.andThen (fun _ =>
      (GovernanceOp.archiveWorkflow x clock disabledAt actor).call))

def resolveOptionalWorkflowRef (workflowRef : Option String) : GovernanceCall (Option Uuid) :=
  match workflowRef with
  | none => .done (.ok none)
  | some ref => (GovernanceOp.resolveWorkflowRef {
      workflowRef := ref
      workspaceId := some context.workspaceText }).call.andThen (fun (x : Uuid) =>
        .done (.ok (some x)))

/-- `credential_context_from_workflow` -/
def credentialContext (workflowId : Option Uuid) : CredentialAccessContext where
  workflowId := workflowId
  workspaceId := some context.workspaceId

def scopeFromAccess (scopedAccess : Bool) (workflowId : Option Uuid) :
    Except RouteError CredentialScope :=
  match scopedAccess, workflowId with
  | true, none => .error .workflowRequired
  | true, some x => .ok { workflowIds := [x] }
  | false, _ => .ok .unrestricted

def createCredential (creation : CredentialCreation) : GovernanceCall Unit :=
  (resolveOptionalWorkflowRef context creation.workflowRef).andThen (fun workflowId =>
    (Call.done (scopeFromAccess creation.scopedAccess workflowId)).andThen (fun scope =>
      (ensureWorkspaceCredentialQuota context).andThen (fun _ =>
        (GovernanceOp.createCredential { creation.new with
          scope := some scope
          oauthTokens := none
          templateId := none
          workspaceId := some context.workspaceText }).call)))

def deleteCredential (credentialId : Uuid) (workflowRef : Option String) : GovernanceCall Unit :=
  (resolveOptionalWorkflowRef context workflowRef).andThen (fun workflowId =>
    (GovernanceOp.deleteCredential credentialId (credentialContext context workflowId)).call)

def validateTemplatePolicy (template : CredentialTemplate)
    (oauthTokens : Option OAuthTokenSecrets) : Except RouteError Unit :=
  if !template.issuancePolicy.requireRefreshToken ||
      (oauthTokens.bind OAuthTokenSecrets.refreshToken).isSome then .ok ()
  else .error (.vault (.value "Template requires a refresh token for issued credentials."))

def TemplateIssuance.newCredential (issuance : TemplateIssuance) (template : CredentialTemplate) :
    NewCredential where
  id := issuance.id
  name := (issuance.name.filter (· ≠ "")).getD template.name
  provider := template.provider
  scopes := (issuance.scopes.filter (· ≠ [])).getD template.scopes
  secret := issuance.secret
  actor := issuance.actor
  scope := some template.scope
  kind := template.kind.value
  oauthTokens := issuance.oauthTokens
  templateId := some template.id
  workspaceId := (template.workspaceId.filter (· ≠ "")).or (some context.workspaceText)
  nonce := issuance.nonce
  now := issuance.now

def issueFromTemplate (issuance : TemplateIssuance) : GovernanceCall Unit :=
  (resolveOptionalWorkflowRef context issuance.workflowRef).andThen (fun workflowId =>
    (GovernanceOp.getTemplate issuance.templateId (credentialContext context workflowId)).call.andThen
      (fun (template : CredentialTemplate) =>
        (Call.done (validateTemplatePolicy template issuance.oauthTokens)).andThen (fun _ =>
          (GovernanceOp.createCredential (issuance.newCredential context template)).call.andThen
            (fun _ => (GovernanceOp.recordTemplateIssuance template.id issuance.actor issuance.id
              (credentialContext context workflowId) issuance.now).call))))

end Requests

def GovernedRequest.program (d : Deployment) : GovernedRequest → GovernanceCall Unit
  | createWorkflow workspaceId creation =>
    Governance.createWorkflow d (d.context workspaceId) creation
  | onboardCandidate workspaceId creation =>
    Governance.onboardCandidate d (d.context workspaceId) creation
  | archiveWorkflow workspaceId workflowRef actor clock disabledAt =>
    Governance.archiveWorkflow (d.context workspaceId) workflowRef actor clock disabledAt
  | createCredential workspaceId creation =>
    Governance.createCredential (d.context workspaceId) creation
  | deleteCredential workspaceId credentialId workflowRef =>
    Governance.deleteCredential (d.context workspaceId) credentialId workflowRef
  | issueFromTemplate workspaceId issuance =>
    Governance.issueFromTemplate (d.context workspaceId) issuance

end Orcheo.Governance
