import Orcheo.Defs.Routers.Authentication

/-! The entry points that execute a workflow for a caller: the workflow websocket, the
ChatKit trigger route and the ChatKit gateway. -/

namespace Orcheo.Routers

open Lib (Dict)
open Repository (Readings)

inductive ExecutionKind
  | run | evaluate | train
  deriving DecidableEq, Repr

inductive Effect
  | executed (context : CredentialAccessContext) (graph : Json)
  | runCreated (context : CredentialAccessContext) (r : Uuid)
  deriving DecidableEq

def Effect.context : Effect → CredentialAccessContext
  | executed context _ => context
  | runCreated context _ => context

structure GraphHost where
  accepts : ExecutionKind → Claims → Bool
  replies : WorkflowVersion → Bool

structure CallerRequest where
  headers : Dict String String := ∅
  queryParams : Dict String String := ∅
  cookies : Dict String String := ∅
  clientHost : Option String := none

structure ChatKitAuthResult where
  workflowId : Uuid
  actor : String
  authMode : String
  subject : Option String
  workspaceId : Option String
  deriving DecidableEq

def executionKind (message : Claims) : Option ExecutionKind :=
  match Json.field? message "type" with
  | some (.str "run_workflow") => some .run
  | some (.str "evaluate_workflow") => some .evaluate
  | some (.str "train_workflow") => some .train
  | _ => none

def firstCommand : List Json → Option (ExecutionKind × Claims)
  | [] => none
  | .obj message :: rest => match executionKind message with
    | some kind => some (kind, message)
    | none => firstCommand rest
  | _ :: _ => none

def credentialContextFromWorkflow (w : Uuid) (workspaceId : Option String) :
    CredentialAccessContext := { workflowId := some w, workspaceId := workspaceId }

/-- `execute_workflow`, `execute_workflow_evaluation` and `execute_workflow_training`:
the graph comes with the message, the credentials with the workflow. -/
def executeWorkflow (host : GraphHost) (s : AppState) (w : Uuid) (workspaceId : Option String)
    (kind : ExecutionKind) (message : Claims) : List Effect :=
  match Json.field? message "graph_config" with
  | none => []
  | some graph =>
    let workspaceId := workspaceId.or (s.getWorkflowWorkspaceId w)
    if host.accepts kind message then
      [.executed (credentialContextFromWorkflow w workspaceId) graph] else []

def workflowWebsocket (store : StoreKind) (rt : AuthRuntime) (host : GraphHost) (a : AuthState)
    (s : AppState) (now : Instant) (req : CallerRequest) (workflowRef : String)
    (messages : List Json) : List Effect :=
  match Authentication.authenticateWebsocket rt a req.headers req.queryParams req.cookies
    req.clientHost now with
  | .error _ => []
  | .ok _ => match s.resolveWorkflowRef store rt.toRouterRuntime workflowRef none with
    | none => []
    | some w => match firstCommand messages with
      | none => []
      | some (kind, message) =>
        let workspaceId := s.getWorkflowWorkspaceId w
        if (workspaceId.map (a.admits .workspace)).getD true then
          executeWorkflow host s w workspaceId kind message
        else []

def createdRun (s s' : AppState) (context : CredentialAccessContext) : List Effect :=
  if s.newRunId ∈ s'.runs.keys then [.runCreated context s.newRunId] else []

def triggerChatkitWorkflow (store : StoreKind) (rt : AuthRuntime) (a : AuthState) (s : AppState)
    (c : Readings) (now : Instant) (req : CallerRequest) (workflowRef actor : String) :
    AppState × List Effect :=
  match Authentication.authenticateHttp rt a req.headers req.cookies req.clientHost now with
  | .error _ => (s, [])
  | .ok context => match s.resolveWorkflowRef store rt.toRouterRuntime workflowRef none with
    | none => (s, [])
    | some w =>
      if !context.isAuthenticated then (s, [])
      else match s.getLatestVersion w with
        | .error _ => (s, [])
        | .ok (v, _) =>
          let s' := (s.createRun w v actor none none c).1
          (s', createdRun s s' (credentialContextFromWorkflow w none))

namespace ChatKit

variable (rt : AuthRuntime) (a : AuthState)

def ipInAllowlist (clientHost : Option String) (allowed : List String) : Bool :=
  match clientHost with
  | none => false
  | some host => host ≠ "" && allowed.any (rt.inNetwork host)

variable (req : CallerRequest)

def requestFromTrustedProxy : Bool :=
  let secret := Triggers.WebhookTriggerState.truthy a.settings.trustedProxySecret
  let allowed := a.settings.trustedProxyIps
  (secret.isSome || !allowed.isEmpty) &&
    (secret.isNone || (req.headers.get? "x-orcheo-proxy-secret" = secret)) &&
    (allowed.isEmpty || ipInAllowlist rt req.clientHost allowed)

def proxySubject : Option String :=
  if requestFromTrustedProxy rt a req then
    ((req.headers.get? "x-orcheo-oauth-subject").map rt.strip).filter (fun s => s ≠ "")
  else none

def extractProxyIdentity : Option String × List String :=
  match proxySubject rt a req with
  | some subject =>
    let header := ((req.headers.get? "x-orcheo-oauth-workspaces").map Json.str).getD .null
    (some subject, rt.workspaceItems (rt.coerceStrItems header))
  | none => match Authentication.devLoginIdentity rt a req.headers req.cookies with
    | some subject => (some subject, rt.workspaceItems a.settings.devLoginWorkspaceIds)
    | none => (none, [])

def claimedWorkspaces (claims : Claims) : List String :=
  rt.workspaceItems (rt.coerceStrItems ((Json.field? claims "workspace_ids").getD .null))

/-- The workspace of the workflow has to be one of the token's; a workflow without one
takes the workspace that the token selects. -/
def resolveJwtWorkspaceId (claims : Claims) (repositoryWorkspaceId : Option String) :
    Option (Option String) :=
  match repositoryWorkspaceId with
  | some workspaceId =>
    if rt.normalized workspaceId ∈ claimedWorkspaces rt claims then some (some workspaceId)
    else none
  | none =>
    let candidate := match Json.field? claims "workspace_id" with
      | none | some .null => ""
      | some claimed => rt.strip (pyStr rt.toRouterRuntime claimed)
    if candidate = "" then
      if claimedWorkspaces rt claims = [] then some none else none
    else if rt.lower candidate ∈ claimedWorkspaces rt claims then some (some candidate)
    else none

def claimsWorkflow (claims : Claims) (w : Uuid) : Bool :=
  match Json.field? claims "workflow_id" with
  | none => true
  | some claimed =>
    !truthyJson claimed || rt.parseUuid (pyStr rt.toRouterRuntime claimed) = some w

variable (s : AppState)

def liveWorkflow (w : Uuid) : Option Workflow :=
  (s.workflows.get? w).filter (fun workflow => !workflow.isArchived)

def admitted (kind : LimitKind) (key : Option String) : Bool :=
  match key with
  | none => true
  | some key => key = "" || a.admits kind key

def sessionClaims (header : String) : Option (Claims × Claims) :=
  match (Authentication.extractBearerToken rt header).toOption.bind rt.decodeChatkitJwt with
  | none => none
  | some claims => match Json.field? claims "chatkit" with
    | some (.obj chatkit) => some (claims, chatkit)
    | _ => none

def tokenIdentity (claims chatkit : Claims) : Option String :=
  match orElseJson (Json.field? chatkit "token_id") ((Json.field? claims "sub").getD .null) with
  | .null => none
  | identity => if truthyJson identity then some (pyStr rt.toRouterRuntime identity) else none

def authenticateJwtRequest (w : Uuid) (header : String) :
    Option ChatKitAuthResult :=
  match sessionClaims rt header with
  | none => none
  | some (claims, chatkit) =>
    if !claimsWorkflow rt chatkit w then none
    else if !admitted a .chatkitJwt (tokenIdentity rt claims chatkit) then none
    else match liveWorkflow s w with
      | none => none
      | some _ => match resolveJwtWorkspaceId rt chatkit (s.getWorkflowWorkspaceId w) with
        | none => none
        | some workspaceId =>
          let subject := pyStr rt.toRouterRuntime
            (orElseJson (Json.field? claims "sub") (.str "chatkit"))
          some ⟨w, "jwt:" ++ subject, "jwt", some subject, workspaceId⟩

/-- `require_login`: a subject that is authorised for the workspace of the workflow. -/
def loginMet (workflow : Workflow) (subject : Option String) (authorized : List String)
    (workspaceId : Option String) : Bool :=
  !workflow.requireLogin ||
    (subject.isSome && workspaceId.any (fun workspaceId =>
      rt.strip workspaceId ≠ "" && rt.normalized workspaceId ∈ authorized))

def authenticatePublishRequest (w : Uuid) (req : CallerRequest) :
    Option ChatKitAuthResult :=
  match liveWorkflow s w with
  | none => none
  | some workflow =>
    if !workflow.isPublic then none
    else if !admitted a .chatkitWorkflow (some (rt.showUuid w)) then none
    else
      let (subject, authorized) := extractProxyIdentity rt a req
      let workspaceId := s.getWorkflowWorkspaceId w
      if !loginMet rt workflow subject authorized workspaceId then none
      else if !admitted a .chatkitSession subject then none
      else some ⟨w, "workflow:" ++ rt.showUuid w, "publish", subject, workspaceId⟩

def authenticateChatkitInvocation (req : CallerRequest) (workflowValue : Json) :
    Option ChatKitAuthResult :=
  if !truthyJson workflowValue then none
  else match rt.parseUuid (pyStr rt.toRouterRuntime workflowValue) with
    | none => none
    | some w =>
      if !admitted a .chatkitIp req.clientHost then none
      else match Authentication.present req.headers "authorization" with
        | some header => authenticateJwtRequest rt a s w header
        | none => authenticatePublishRequest rt a s w req

/-- `A-Z a-z 0-9 _ -`, 8 to 128 of them -/
def validVisitorId (s : String) : Bool :=
  8 ≤ s.toList.length && s.toList.length ≤ 128 &&
    s.toList.all (fun ch => ch.isAlphanum || ch = '_' || ch = '-')

def resolveOwnerKey (result : ChatKitAuthResult) (req : CallerRequest) : Option String :=
  match Triggers.WebhookTriggerState.truthy result.subject with
  | some subject => some ("sub:" ++ subject)
  | none => match Authentication.present req.headers "x-orcheo-visitor-id" with
    | none => none
    | some raw =>
      if validVisitorId (rt.strip raw) then some ("visitor:" ++ rt.strip raw) else none

/-- The workflow executor: the run is recorded where the repository allows it, and the
stored graph runs either way. -/
def runWorkflow (host : GraphHost) (s : AppState) (c : Readings) (w : Uuid) (actor : String)
    (workspaceId : Option String) : AppState × List Effect :=
  match s.getLatestVersion w with
  | .error _ => (s, [])
  | .ok (v, version) =>
    let stored := s.getWorkflowWorkspaceId w
    if workspaceId.isSome ∧ stored.isSome ∧ stored ≠ workspaceId then (s, [])
    else
      let context := credentialContextFromWorkflow w (workspaceId.or stored)
      let s' := (s.createRun w v actor none context.workspaceId c).1
      (s', createdRun s s' context ++
        if host.replies version then [.executed context version.graph] else [])

/-- `executes` says whether the request is one that starts a turn. -/
def gateway (host : GraphHost) (s : AppState) (c : Readings) (req : CallerRequest)
    (workflowValue : Json) (executes : Bool) : AppState × List Effect :=
  match authenticateChatkitInvocation rt a s req workflowValue with
  | none => (s, [])
  | some result => match resolveOwnerKey rt result req with
    | none => (s, [])
    | some _ =>
      if executes then runWorkflow host s c result.workflowId result.actor result.workspaceId
      else (s, [])

end ChatKit

end Orcheo.Routers
