import Orcheo.Defs.Routers.AppState

/-! The two public webhook routes: the queued path, and the synchronous one that answers
with the immediate response of a node. -/

namespace Orcheo.Routers

open Lib (Dict)
open Repository (Readings)
open Triggers (Payload WebhookClock WebhookRequest)

structure HttpRequest where
  method : String
  headers : List (String × String) := []
  queryParams : List (String × String) := []
  body : Option (List UInt8) := some []
  clientHost : Option String := none
  preserveRawBody : Bool := false

structure HttpError where
  statusCode : Nat
  detail : String
  deriving DecidableEq, Repr

inductive HttpResponse
  | run (r : Uuid)
  | json (content : Json) (statusCode : Json)
  | plainText (content : String) (statusCode : Json)
  | text (content mediaType : String) (statusCode : Json)
  deriving DecidableEq

structure WebhookInputs where
  method : String
  headers : Dict String String
  queryParams : Dict String String
  body : Payload

/-- What running a compiled graph does: the nodes it executes, the state they leave, and
the final graph state unless something raised. -/
structure Execution where
  executed : List String
  state : AppState
  finalState : Option (List (String × Json))

structure GraphRuntime where
  ainvoke : AppState → WorkflowVersion → CredentialAccessContext → WebhookInputs → Execution
  idle : ∀ s version context inputs, (ainvoke s version context inputs).executed = [] →
    (ainvoke s version context inputs).state = s

/-- What a request did: the state it left, the nodes that ran for it, and the answer. -/
structure Served where
  state : AppState
  executed : List (CredentialAccessContext × String) := []
  response : Except HttpError HttpResponse

inductive WebhookRoute
  | invokeWebhookTrigger (workflowRef : String)
  | invokeWorkspaceWebhook (workspaceSlug triggerId : String)

def HttpError.notFound (detail : String) : HttpError := ⟨404, detail⟩

def HttpError.rateLimited (workspaceId : String) : HttpError :=
  ⟨429, "Too many requests for workspace " ++ workspaceId⟩

def HttpError.internal : HttpError := ⟨500, ""⟩

def accepted : HttpResponse := .json (.obj [("status", .str "accepted")]) (.int 202)

/-- `bool(value)` -/
def truthyJson : Json → Bool
  | .null => false
  | .bool b => b
  | .int n => n ≠ 0
  | .float bits => bits ≠ 0 && bits ≠ 0x8000000000000000
  | .str s => s ≠ ""
  | .arr xs => !xs.isEmpty
  | .obj kvs => !kvs.isEmpty

def isObject : Option Json → Option (List (String × Json))
  | some (.obj kvs) => some kvs
  | _ => none

variable (rt : RouterRuntime)

/-- `null` counts as not parsed. -/
def parsedBody (decoded : String) : Except LoadsError (Option Json) :=
  match rt.loads decoded with
  | .ok .null | .error .jsonDecode => .ok none
  | .ok value => .ok (some value)
  | .error .recursion => .error .recursion

def parseWebhookBody (raw : List UInt8) (preserveRawBody : Bool) :
    Except LoadsError (Payload × Option (List (String × Json))) :=
  if raw = [] then .ok (.json (.obj []), none)
  else
    let decoded := rt.decode raw
    (parsedBody rt decoded).map (fun parsed =>
      if preserveRawBody then
        (.json (.obj (("raw", .str decoded) :: (parsed.map (fun v => ("parsed", v))).toList)),
          isObject parsed)
      else ((parsed.map Payload.json).getD (.bytes raw), isObject parsed))

def maybeHandleSlackUrlVerification :
    Option (List (String × Json)) → Option (Except HttpError HttpResponse)
  | none => none
  | some kvs =>
    if Json.field? kvs "type" ≠ some (.str "url_verification") then none
    else match Json.field? kvs "challenge" with
      | some (.str challenge) =>
        if rt.strip challenge = "" then some (.error ⟨400, "Missing Slack challenge value"⟩)
        else some (.ok (.json (.obj [("challenge", .str challenge)]) (.int 200)))
      | _ => some (.error ⟨400, "Missing Slack challenge value"⟩)

def wecomKeys : List String := ["msg_signature", "timestamp", "nonce"]

def shouldTryImmediateResponse (queryParams : List (String × String)) : Bool :=
  queryParams.any (fun e => decide (e.1 ∈ wecomKeys))

/-- The immediate response of one node's result, and its `should_process`. -/
def immediateOf : Json → Option (List (String × Json) × Bool)
  | .obj result => match Json.field? result "immediate_response" with
    | some (.obj immediate) => match Json.field? immediate "content" with
      | none | some .null => none
      | some _ => some (immediate, ((Json.field? result "should_process").map truthyJson).getD false)
    | _ => none
  | _ => none

/-- Nothing where `node_results` is no mapping. -/
def extractImmediateResponse (finalState : List (String × Json)) :
    Option (Option (List (String × Json) × Bool)) :=
  match (Json.field? finalState "node_results").getD (.obj []) with
  | .obj results => some (results.findSome? (fun e => immediateOf e.2))
  | _ => none

def buildJsonImmediateResponse (content statusCode : Json) :
    Except HttpError HttpResponse :=
  match content with
  | .str content => match rt.loads content with
    | .ok parsed => .ok (.json parsed statusCode)
    | .error .jsonDecode => .ok (.text content "application/json" statusCode)
    | .error .recursion => .error .internal
  | content => .ok (.json content statusCode)

def buildImmediateResponse (immediate : List (String × Json)) :
    Except HttpError HttpResponse :=
  let content := (Json.field? immediate "content").getD (.str "")
  let contentType := (Json.field? immediate "content_type").getD (.str "text/plain")
  let statusCode := (Json.field? immediate "status_code").getD (.int 200)
  if contentType = .str "application/json" then buildJsonImmediateResponse rt content statusCode
  else .ok (.plainText (rt.str content) statusCode)

def immediateContext (s : AppState) (version : WorkflowVersion) : CredentialAccessContext :=
  { workflowId := some version.workflowId
    workspaceId := s.getWorkflowWorkspaceId version.workflowId }

def immediateExecution (g : GraphRuntime) (s : AppState) (version : WorkflowVersion)
    (inputs : WebhookInputs) : Execution :=
  g.ainvoke s version (immediateContext s version) inputs

def answerImmediately (finalState : Option (List (String × Json))) :
    Except HttpError (Option HttpResponse × Bool) :=
  match finalState with
  | none => .ok (none, true)
  | some finalState => match extractImmediateResponse finalState with
    | none => .error .internal
    | some none => .ok (none, true)
    | some (some (immediate, shouldProcess)) =>
      (buildImmediateResponse rt immediate).map (fun response => (some response, shouldProcess))

def tryImmediateResponse (g : GraphRuntime) (s : AppState)
    (version : WorkflowVersion) (inputs : WebhookInputs) :
    AppState × List (CredentialAccessContext × String) ×
      Except HttpError (Option HttpResponse × Bool) :=
  let execution := immediateExecution g s version inputs
  (execution.state, execution.executed.map (fun node => (immediateContext s version, node)),
    answerImmediately rt execution.finalState)

def httpError : RepositoryError → HttpError
  | .webhook e => ⟨e.statusCode, e.message⟩
  | .workspaceQuotaExceeded => ⟨429, "workspace.quota.concurrent_runs"⟩
  | .credentialHealth => ⟨422, ""⟩
  | _ => .internal

/-- `_queue_webhook_run`, and what the route answers after it. -/
def queueWebhookRun (clock : WebhookClock) (c : Readings) (s : AppState)
    (w : Uuid) (r : WebhookRequest) (executed : List (CredentialAccessContext × String))
    (immediate : Option HttpResponse) : Served :=
  match s.handleWebhookTrigger rt clock c w r with
  | (s, .error e) => ⟨s, executed, .error (httpError e)⟩
  | (s, .ok run) => ⟨s, executed, .ok (immediate.getD (.run run))⟩

def afterImmediate (clock : WebhookClock) (c : Readings) (w : Uuid)
    (r : WebhookRequest) (s : AppState) (executed : List (CredentialAccessContext × String)) :
    Except HttpError (Option HttpResponse × Bool) → Served
  | .error e => ⟨s, executed, .error e⟩
  | .ok (immediate, true) => queueWebhookRun rt clock c s w r executed immediate
  | .ok (immediate, false) => ⟨s, executed, .ok (immediate.getD accepted)⟩

def HttpRequest.webhookRequest (req : HttpRequest) (payload : Payload) : WebhookRequest where
  method := req.method
  headers := (Dict.ofList req.headers).entries
  queryParams := (Dict.ofList req.queryParams).entries
  payload := payload
  sourceIp := req.clientHost

def HttpRequest.inputs (req : HttpRequest) (payload : Payload) : WebhookInputs where
  method := req.method
  headers := Dict.ofList req.headers
  queryParams := Dict.ofList req.queryParams
  body := payload

/-- The body as the routes read it: the payload, and the parsed object that the Slack
handshake looks at. -/
def HttpRequest.read (req : HttpRequest) :
    Except HttpError (Payload × Option (List (String × Json))) :=
  match req.body with
  | none => .error ⟨400, "Failed to read request body"⟩
  | some raw => (parseWebhookBody rt raw req.preserveRawBody).mapError (fun _ => .internal)

/-- The part the two routes share, once the workflow is known. -/
def receiveWebhook (g : GraphRuntime) (clock : WebhookClock) (c : Readings)
    (s : AppState) (w : Uuid) (req : HttpRequest) : Served :=
  match req.read rt with
  | .error e => ⟨s, [], .error e⟩
  | .ok (payload, parsed) =>
    match maybeHandleSlackUrlVerification rt parsed with
    | some response => ⟨s, [], response⟩
    | none =>
      let r := req.webhookRequest payload
      if !shouldTryImmediateResponse r.queryParams then queueWebhookRun rt clock c s w r [] none
      else match s.getLatestVersion w with
        | .error .workflowNotFound => ⟨s, [], .error (.notFound "Workflow not found")⟩
        | .error _ => ⟨s, [], .error (.notFound "Workflow version not found")⟩
        | .ok (_, version) =>
          let (s, executed, answer) := tryImmediateResponse rt g s version (req.inputs payload)
          afterImmediate rt clock c w r s executed answer

/-- The workspace pays for the request before anything else is done. -/
def checkRateLimit (s : AppState) (workspaceId : String) (now : Instant) :
    AppState × Except HttpError Unit :=
  match s.governance.checkApiRateLimit workspaceId now with
  | (g, true) => (s.withGovernance g, .ok ())
  | (g, false) => (s.withGovernance g, .error (.rateLimited workspaceId))

def WebhookRoute.target (store : StoreKind) (rt : RouterRuntime) (s : AppState) (now : Instant) :
    WebhookRoute → AppState × Except HttpError Uuid
  | .invokeWebhookTrigger workflowRef =>
    match s.resolveWorkflowRef store rt workflowRef none with
    | none => (s, .error (.notFound "Workflow not found"))
    | some w => match s.getWorkflowWorkspaceId w with
      | none => (s, .ok w)
      | some workspaceId => match checkRateLimit s workspaceId now with
        | (s, .error e) => (s, .error e)
        | (s, .ok ()) => (s, .ok w)
  | .invokeWorkspaceWebhook workspaceSlug triggerId =>
    match s.getWorkspaceBySlug rt workspaceSlug with
    | none => (s, .error (.notFound ("Workspace '" ++ workspaceSlug ++ "' not found.")))
    | some workspaceId => match checkRateLimit s workspaceId now with
      | (s, .error e) => (s, .error e)
      | (s, .ok ()) => match s.resolveWorkflowRef store rt triggerId (some workspaceId) with
        | none => (s, .error (.notFound ("Trigger '" ++ triggerId ++
            "' not found for workspace '" ++ workspaceSlug ++ "'.")))
        | some w => (s, .ok w)

def WebhookRoute.serve (store : StoreKind) (rt : RouterRuntime) (g : GraphRuntime)
    (clock : WebhookClock) (c : Readings) (s : AppState) (now : Instant) (route : WebhookRoute)
    (req : HttpRequest) : Served :=
  match route.target store rt s now with
  | (s, .error e) => ⟨s, [], .error e⟩
  | (s, .ok w) => receiveWebhook rt g clock c s w req

end Orcheo.Routers
