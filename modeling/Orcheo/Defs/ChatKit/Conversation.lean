import Orcheo.Defs.Routers.EntryPoints

/-! ChatKit conversations: threads and their owners, the workflow a turn is for, and the
execution of its graph from the checkpoint of its thread. -/

namespace Orcheo.ChatKit

open Lib (Dict)
open Repository (Readings)
open Routers (AppState ChatKitAuthResult RouterRuntime pyStr truthyJson)
open Triggers.WebhookTriggerState (truthy)

inductive ItemKind
  | userMessage | assistantMessage | widget
  deriving DecidableEq, Repr

structure ThreadItem where
  kind : ItemKind
  text : String
  /-- the workflow whose execution gave the item -/
  writer : Option Uuid := none
  deriving DecidableEq, Repr

structure Thread where
  ownerKey : Option String := none
  workspaceId : Option String := none
  metadata : Dict String Json := ∅
  items : List ThreadItem := []

structure ChatKitRequestContext where
  requestMetadata : Dict String Json := ∅
  workflowId : Option String := none
  workspaceId : Option String := none
  actor : Option String := none
  ownerKey : Option String := none

/-- A state of a graph, as `aget_state` shows it. -/
structure Snapshot where
  values : Json
  interrupts : List Json := []
  deriving DecidableEq

structure Checkpoint where
  snapshot : Snapshot
  /-- the workflows whose executions led to the state, the last one first -/
  writers : List Uuid
  deriving DecidableEq

structure ChatKitModel where
  id : String
  disabled : Bool := false
  default : Bool := false

structure ChatState where
  app : AppState := {}
  models : Dict Uuid (List ChatKitModel) := ∅
  threads : Dict String Thread := ∅
  checkpoints : Dict String Checkpoint := ∅

inductive Payload
  | initial (inputs : Dict String Json)
  | resume (value : Json)
  deriving DecidableEq

/-- What an execution left in the checkpointer, and the reply and the widgets found in its
final state.  There is no reply where it raised. -/
structure Outcome where
  snapshot : Option Snapshot := none
  reply : Option String := none
  widgets : List String := []

structure GraphLibrary where
  builds : Json → Dict String Json → Bool
  invoke : Json → Option Snapshot → Payload → Outcome

/-- What a turn finds around it: the clock, fresh identifiers, and which calls fail. -/
structure Surroundings where
  readings : Readings
  isoformat : String := ""
  uuid4 : String := ""
  /-- the library saved the thread while it streamed the turn -/
  savesThread : Bool := false
  stateUnreadable : Bool := false
  existsUnknown : Bool := false
  discardFails : Bool := false
  hookFails : Bool := false

/-- A graph as it starts: for which workflow, on which LangGraph thread, from which state,
with which payload, and with which items of the thread in its inputs. -/
structure Execution where
  workflowId : Uuid
  runtimeThreadId : String
  checkpoint : Option Checkpoint
  payload : Payload
  history : List ThreadItem

structure Ran where
  state : ChatState
  execution : Option Execution := none
  outcome : Option Outcome := none
  runId : Option String := none

inductive ChatKitError
  | notFound (message : String)
  | customStream (message : String) (allowRetry : Bool)
  deriving DecidableEq, Repr

def update (d more : Dict String Json) : Dict String Json :=
  more.entries.foldl (fun d e => d.set e.1 e.2) d

def ownerMatches (storedOwnerKey ownerKey : Option String) : Bool :=
  ownerKey.isNone || storedOwnerKey.isNone || storedOwnerKey = ownerKey

def Thread.saved (thread : Thread) (metadata : Dict String Json) (ctx : ChatKitRequestContext) :
    Thread where
  ownerKey := thread.ownerKey.or ctx.ownerKey
  workspaceId := ctx.workspaceId
  metadata := update metadata ctx.requestMetadata
  items := thread.items

namespace ChatState

variable (s : ChatState)

def withApp (app : AppState) : ChatState := { s with app := app }

def loadThread (t : String) (ctx : ChatKitRequestContext) :
    Except ChatKitError Thread :=
  match (s.threads.get? t).filter (fun thread => ownerMatches thread.ownerKey ctx.ownerKey) with
  | none => .error (.notFound ("Thread " ++ t ++ " not found"))
  | some thread => .ok thread

def saveThread (t : String) (metadata : Dict String Json)
    (ctx : ChatKitRequestContext) : ChatState :=
  let saved := ((s.threads.get? t).getD {}).saved metadata ctx
  { s with threads := s.threads.set t saved }

def setItems (t : String) (items : List ThreadItem) : ChatState :=
  match s.threads.get? t with
  | none => s
  | some thread => { s with threads := s.threads.set t { thread with items := items } }

def itemsOf (t : String) : List ThreadItem :=
  ((s.threads.get? t).map Thread.items).getD []

def addThreadItems (t : String) (items : List ThreadItem) : ChatState :=
  s.setItems t (s.itemsOf t ++ items)

def dropCheckpoints (threadIds : List String) : ChatState :=
  { s with checkpoints := threadIds.foldl Dict.erase s.checkpoints }

def deleteThreads (env : Surroundings) (s : ChatState) (threadIds : List String) : ChatState :=
  let s := { s with threads := threadIds.foldl Dict.erase s.threads }
  if env.hookFails then s else s.dropCheckpoints threadIds

def deleteThread (env : Surroundings) (s : ChatState) (t : String)
    (ctx : ChatKitRequestContext) : ChatState :=
  match s.loadThread t ctx with
  | .error _ => s
  | .ok _ => s.deleteThreads env [t]

end ChatState

def buildRequestContext (rt : RouterRuntime) (result : ChatKitAuthResult) (ownerKey : String)
    (requestMetadata : Dict String Json) : ChatKitRequestContext where
  requestMetadata := requestMetadata
  workflowId := some (rt.showUuid result.workflowId)
  workspaceId := result.workspaceId
  actor := some result.actor
  ownerKey := some ownerKey

def ensureWorkflowMetadata (metadata : Dict String Json) (ctx : ChatKitRequestContext) :
    Dict String Json :=
  let metadata := update metadata ctx.requestMetadata
  match truthy ctx.workflowId with
  | none => metadata
  | some workflowId => metadata.set "workflow_id" (.str workflowId)

variable (rt : RouterRuntime)

def requireWorkflowId (metadata : Dict String Json) : Except ChatKitError Uuid :=
  let workflowValue := (metadata.get? "workflow_id").getD .null
  if !truthyJson workflowValue then
    .error (.customStream "No workflow has been associated with this conversation." false)
  else match rt.parseUuid (pyStr rt workflowValue) with
    | none => .error (.customStream "The configured workflow identifier is invalid." false)
    | some w => .ok w

def defaultChatkitModel (models : List ChatKitModel) : Option String :=
  let enabled := models.filter (fun model => !model.disabled && rt.strip model.id ≠ "")
  ((enabled.find? ChatKitModel.default).or enabled.head?).map (fun model => rt.strip model.id)

def resolveChatkitSelectedModel (models : List ChatKitModel) (candidate : Option Json) :
    Option String :=
  match defaultChatkitModel rt models with
  | none => none
  | some default => match candidate with
    | some (.str candidate) =>
      let normalized := rt.strip candidate
      if normalized ≠ "" ∧ models.any (fun model => !model.disabled && rt.strip model.id = normalized)
      then some normalized else some default
    | _ => some default

def applyChatkitSelectedModel (models : List ChatKitModel) (inputs : Dict String Json) :
    Dict String Json :=
  match resolveChatkitSelectedModel rt models (inputs.get? "model") with
  | none => inputs.erase "model"
  | some model => inputs.set "model" (.str model)

def syncThreadInferenceMetadata (metadata : Dict String Json) (selectedModel : Option String) :
    Dict String Json :=
  match selectedModel with
  | none => metadata.erase "chatkit_model"
  | some model => metadata.set "chatkit_model" (.str model)

def shownItems (items : List ThreadItem) : List ThreadItem :=
  (items.take 200).filter (fun item => item.kind ≠ .widget)

def historyEntry (item : ThreadItem) : Json :=
  .obj [("role", .str (if item.kind = .userMessage then "user" else "assistant")),
    ("content", .str item.text)]

def buildHistory (items : List ThreadItem) : Json := .arr ((shownItems items).map historyEntry)

def buildInputsPayload (t : String) (metadata : Dict String Json) (messageText : String)
    (history : Json) (selectedModel : Option String) (documents : List Json) : Dict String Json :=
  Dict.ofList ([("message", .str messageText), ("history", history), ("thread_id", .str t),
    ("session_id", .str t), ("metadata", .obj metadata.entries)] ++
    (match selectedModel with
      | none => []
      | some model => [("model", .str model)]) ++
    if documents = [] then [] else [("documents", .arr documents)])

structure WidgetAction where
  type : String
  payload : Option Json := none
  payloadText : String := ""

def stringifyAction (action : WidgetAction) : String :=
  rt.strip ("[action:" ++ action.type ++ "] " ++ action.payloadText)

def dumpAction (action : WidgetAction) : Json :=
  .obj [("type", .str action.type), ("payload", action.payload.getD .null)]

def buildActionInputsPayload (t : String) (metadata : Dict String Json) (action : WidgetAction)
    (history : Json) (sender : Option (String × Json)) : Dict String Json :=
  Dict.ofList ([("message", .str (stringifyAction rt action)), ("history", history),
    ("thread_id", .str t), ("session_id", .str t), ("metadata", .obj metadata.entries)] ++
    (match metadata.get? "chatkit_model" with
      | some (.str model) =>
        if rt.strip model = "" then [] else [("model", .str (rt.strip model))]
      | _ => []) ++
    [("action", dumpAction action)] ++
    match sender with
      | none => []
      | some (id, widget) => [("widget_item_id", .str id), ("widget", widget)])

def lastTwenty (runs : List Json) : List Json := runs.drop (runs.length - 20)

def recordRunMetadata (metadata : Dict String Json) (runId : Option String) (now : String) :
    Dict String Json :=
  let metadata := metadata.set "last_run_at" (.str now)
  let runs := match metadata.get? "runs" with
    | some (.arr runs) => runs
    | _ => []
  let (metadata, runs) := match runId with
    | none => (metadata, runs)
    | some r => (metadata.set "last_run_id" (.str r), runs ++ [.str r])
  if runs = [] then metadata else metadata.set "runs" (.arr (lastTwenty runs))

def conversationThreadId (inputs : Dict String Json) : Option String :=
  ["thread_id", "session_id"].findSome? (fun key => match inputs.get? key with
    | some (.str candidate) => truthy (some (rt.strip candidate))
    | _ => none)

def resolveRuntimeThreadId (inputs : Dict String Json) (executionId : String) : String :=
  (conversationThreadId rt inputs).getD executionId

def resumeValueFromInputs (inputs : Dict String Json) : Json :=
  match inputs.get? "message" with
  | some message => if message = .null then resumeAction inputs else message
  | none => resumeAction inputs
where
  resumeAction (inputs : Dict String Json) : Json :=
    match inputs.get? "action" with
    | some (.obj action) => match Json.field? action "payload" with
      | none | some .null => .obj inputs.entries
      | some payload => payload
    | _ => .obj inputs.entries

def pendingInterrupts (env : Surroundings) (checkpoint : Option Checkpoint) : List Json :=
  if env.stateUnreadable then [] else (checkpoint.map (·.snapshot.interrupts)).getD []

def payloadFor (env : Surroundings) (checkpoint : Option Checkpoint) (inputs : Dict String Json) :
    Payload :=
  if pendingInterrupts env checkpoint = [] then .initial inputs
  else .resume (resumeValueFromInputs inputs)

namespace ChatState

def discardRunCheckpoints (env : Surroundings) (s : ChatState) (threadId : String) : ChatState :=
  if env.discardFails then s else s.dropCheckpoints [threadId]

def releaseChatkitCheckpoints (env : Surroundings) (s : ChatState) (threadId : String)
    (inputs : Dict String Json) : ChatState :=
  if threadId = "" then s
  else match conversationThreadId rt inputs with
    | none => s.discardRunCheckpoints env threadId
    | some _ =>
      if !env.existsUnknown && (s.threads.get? threadId).isNone then
        s.discardRunCheckpoints env threadId
      else s

def storeSnapshot (s : ChatState) (w : Uuid) (threadId : String) (snapshot : Option Snapshot) :
    ChatState :=
  match snapshot with
  | none => s
  | some snapshot =>
    let writers := ((s.checkpoints.get? threadId).map Checkpoint.writers).getD []
    { s with checkpoints := s.checkpoints.set threadId ⟨snapshot, w :: writers⟩ }

variable (lib : GraphLibrary)

def executeGraph (env : Surroundings) (s : ChatState) (w : Uuid) (graph : Json)
    (inputs : Dict String Json) (threadId : String) : ChatState × Option (Payload × Outcome) :=
  if !lib.builds graph inputs then (s, none)
  else
    let checkpoint := s.checkpoints.get? threadId
    let payload := payloadFor env checkpoint inputs
    let outcome := lib.invoke graph (checkpoint.map Checkpoint.snapshot) payload
    let s := s.storeSnapshot w threadId outcome.snapshot
    (s.releaseChatkitCheckpoints rt env threadId inputs, some (payload, outcome))

def createRunRecord (env : Surroundings) (s : ChatState) (w v : Uuid) (actor : String)
    (workspaceId : Option String) : ChatState × Option Uuid :=
  match s.app.createRun w v actor none workspaceId env.readings with
  | (app, .ok r) => (s.withApp app, some r)
  | (app, .error _) => (s.withApp app, none)

/-- `history` are the items of the thread that the inputs show. -/
def run (env : Surroundings) (s : ChatState) (w : Uuid) (inputs : Dict String Json)
    (actor : String) (workspaceId : Option String) (history : List ThreadItem) : Ran :=
  match s.app.getLatestVersion w with
  | .error _ => { state := s }
  | .ok (v, version) =>
    let stored := s.app.getWorkflowWorkspaceId w
    if workspaceId.isSome ∧ stored.isSome ∧ stored ≠ workspaceId then { state := s }
    else
      let normalized := applyChatkitSelectedModel rt ((s.models.get? w).getD []) inputs
      let (s, r) := s.createRunRecord env w v actor (workspaceId.or stored)
      let runId := r.map rt.showUuid
      let threadId := resolveRuntimeThreadId rt inputs (runId.getD env.uuid4)
      match s.executeGraph rt lib env w version.graph normalized threadId with
      | (s', none) => { state := s', runId := runId }
      | (s', some (payload, outcome)) =>
        { state := s'
          execution := some ⟨w, threadId, s.checkpoints.get? threadId, payload, history⟩
          outcome := some outcome
          runId := runId }

/-- The reply of a turn and its widgets become items of the thread, which is saved.  The
first widget of an action takes the place of its sender. -/
def concludeTurn (env : Surroundings) (t : String) (metadata : Dict String Json)
    (ctx : ChatKitRequestContext) (w : Uuid) (hasSender : Bool) (ran : Ran) : ChatState :=
  match ran.outcome.bind Outcome.reply with
  | none => if env.savesThread then ran.state.saveThread t metadata ctx else ran.state
  | some reply =>
    let widgets := (ran.outcome.map Outcome.widgets).getD []
    let widgets := (if hasSender then widgets.tail else widgets).map
      (fun widget => (⟨.widget, widget, some w⟩ : ThreadItem))
    (ran.state.addThreadItems t (widgets ++ [⟨.assistantMessage, reply, some w⟩])).saveThread t
      (recordRunMetadata metadata ran.runId env.isoformat) ctx

def actorOf (ctx : ChatKitRequestContext) : String := (truthy ctx.actor).getD "chatkit"

def respond (env : Surroundings) (s : ChatState) (t : String) (metadata : Dict String Json)
    (ctx : ChatKitRequestContext) (messageText : String) (model : Option Json)
    (documents : List Json) : Ran :=
  let metadata := ensureWorkflowMetadata metadata ctx
  match requireWorkflowId rt metadata with
  | .error _ => { state := s }
  | .ok w => match s.app.workflows.get? w with
    | none => { state := s }
    | some _ =>
      let selected := resolveChatkitSelectedModel rt ((s.models.get? w).getD []) model
      let metadata := syncThreadInferenceMetadata metadata selected
      let items := s.itemsOf t
      let inputs := buildInputsPayload t metadata messageText (buildHistory items) selected documents
      let ran := s.run rt lib env w inputs (actorOf ctx) ctx.workspaceId (shownItems items)
      { ran with state := concludeTurn env t metadata ctx w false ran }

def action (env : Surroundings) (allowedActionTypes : List String) (s : ChatState) (t : String)
    (metadata : Dict String Json) (ctx : ChatKitRequestContext) (action : WidgetAction)
    (sender : Option (String × Json)) : Ran :=
  let metadata := ensureWorkflowMetadata metadata ctx
  match requireWorkflowId rt metadata with
  | .error _ => { state := s }
  | .ok w =>
    if action.type ∉ allowedActionTypes then { state := s }
    else
      let items := s.itemsOf t
      let inputs := buildActionInputsPayload rt t metadata action (buildHistory items) sender
      let ran := s.run rt lib env w inputs (actorOf ctx) ctx.workspaceId (shownItems items)
      { ran with state := concludeTurn env t metadata ctx w sender.isSome ran }

end ChatState

structure ChatHost where
  rt : RouterRuntime
  lib : GraphLibrary
  allowedActionTypes : List String := ["submit"]

structure MessageOptions where
  model : Option Json := none
  documents : List Json := []

inductive ChatRequest
  | createThread (t : String) (ctx : ChatKitRequestContext) (text : String) (o : MessageOptions)
  | addUserMessage (t : String) (ctx : ChatKitRequestContext) (text : String) (o : MessageOptions)
  | retryAfterItem (t : String) (ctx : ChatKitRequestContext) (kept : Nat) (o : MessageOptions)
  | customAction (t : String) (ctx : ChatKitRequestContext) (action : WidgetAction)
      (sender : Option (String × Json))
  | updateThread (t : String) (ctx : ChatKitRequestContext)
  | deleteThread (t : String) (ctx : ChatKitRequestContext)
  | pruneThreads (threadIds : List String)
  /-- a call of the executor with inputs of any origin -/
  | runWorkflow (w : Uuid) (inputs : Dict String Json) (actor : String)
      (workspaceId : Option String)
  /-- any other change of the repository -/
  | changeRepository (app : AppState) (models : Dict Uuid (List ChatKitModel))

def ChatRequest.threadId : ChatRequest → Option String
  | createThread t _ _ _ | addUserMessage t _ _ _ | retryAfterItem t _ _ _
  | customAction t _ _ _ => some t
  | _ => none

variable (host : ChatHost)

def takeMessage (env : Surroundings) (s : ChatState) (t : String) (metadata : Dict String Json)
    (ctx : ChatKitRequestContext) (text : String) (o : MessageOptions) : Ran :=
  (s.addThreadItems t [⟨.userMessage, text, none⟩]).respond host.rt host.lib env t metadata ctx
    text o.model o.documents

def handle (s : ChatState) (r : ChatRequest) (env : Surroundings) : Ran :=
  match r with
  | .createThread t ctx text o =>
    takeMessage host env (s.saveThread t ∅ ctx) t (update ∅ ctx.requestMetadata) ctx text o
  | .addUserMessage t ctx text o => match s.loadThread t ctx with
    | .error _ => { state := s }
    | .ok thread => takeMessage host env s t thread.metadata ctx text o
  | .retryAfterItem t ctx kept o => match s.loadThread t ctx with
    | .error _ => { state := s }
    | .ok thread => match (thread.items.take kept).getLast? with
      | some ⟨.userMessage, text, _⟩ =>
        (s.setItems t (thread.items.take kept)).respond host.rt host.lib env t thread.metadata ctx
          text o.model o.documents
      | _ => { state := s }
  | .customAction t ctx action sender => match s.loadThread t ctx with
    | .error _ => { state := s }
    | .ok thread => s.action host.rt host.lib env host.allowedActionTypes t thread.metadata ctx
        action sender
  | .updateThread t ctx => match s.loadThread t ctx with
    | .error _ => { state := s }
    | .ok thread => { state := s.saveThread t thread.metadata ctx }
  | .deleteThread t ctx => { state := s.deleteThread env t ctx }
  | .pruneThreads threadIds => { state := s.deleteThreads env threadIds }
  | .runWorkflow w inputs actor workspaceId =>
    s.run host.rt host.lib env w inputs actor workspaceId []
  | .changeRepository app models => { state := { s with app := app, models := models } }

end Orcheo.ChatKit
