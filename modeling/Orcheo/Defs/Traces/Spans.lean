import Mathlib.Algebra.Ring.Int.Defs
import Orcheo.Defs.Traces.Payload

/-! The spans of a history: one for the run, one for each invocation of a subgraph, and one for
each other update of a node. -/

namespace Orcheo.Traces

open Lib (Dict)

/-- The invocations of subgraphs that lead to a node, as `name:task` segments. -/
abbrev Namespace := List String

structure Bounds where
  start : Instant
  finish : Instant
  status : StatusCode
  deriving DecidableEq

/-- `_NamespaceSpanTracker`: the bounds of every container, and those of each node name that are
open, the first one first. -/
structure Tracker where
  bounds : Dict Namespace Bounds := ∅
  openPaths : Dict String (List Namespace) := ∅
  deriving DecidableEq

variable (rt : TraceRuntime)

def extractStepNamespace (payload : Entries) : Namespace :=
  match get payload namespaceMetadataKey with
  | .arr segments => segments.map (text rt)
  | _ => []

/-- A trace identifier of at least sixteen digits gives its first sixteen. -/
def deriveRootSpanId (traceId : Option String) (executionId : String) : String :=
  let sanitized := ((traceId.getD "").toList.filter (· ≠ '-'))
  if traceId.getD "" ≠ "" ∧ 16 ≤ sanitized.length then String.ofList (sanitized.take 16)
  else rt.digest (executionId ++ ":root")

def deriveChildSpanId (executionId : String) (stepIndex : Int) (nodeKey : String) : String :=
  rt.digest (executionId ++ ":" ++ toString stepIndex ++ ":" ++ nodeKey)

def deriveNamespaceSpanId (executionId : String) (path : Namespace) : String :=
  rt.digest (executionId ++ ":ns:" ++ ":".intercalate path)

def namespaceSegmentName (segment : String) : String :=
  String.ofList (segment.toList.takeWhile (· ≠ ':'))

def Namespace.prefixes (path : Namespace) : List Namespace :=
  (List.range path.length).map (fun depth => path.take (depth + 1))

namespace Tracker

variable (tracker : Tracker)

/-- A container is opened by the first update in it, and lasts as long as the updates do. -/
def touch (at_ endTime : Instant) (path : Namespace) : Tracker :=
  match tracker.bounds.get? path with
  | some bounds => { tracker with
      bounds := tracker.bounds.set path { bounds with finish := max bounds.finish endTime } }
  | none =>
    let name := namespaceSegmentName (path.getLast?.getD "")
    { bounds := tracker.bounds.set path ⟨at_, max at_ endTime, .ok⟩
      openPaths := tracker.openPaths.set name
        ((tracker.openPaths.get? name).getD [] ++ [path]) }

def fail (path : Namespace) : Tracker :=
  match tracker.bounds.get? path with
  | some bounds => { tracker with bounds := tracker.bounds.set path { bounds with status := .error } }
  | none => tracker

/-- An update outside of all subgraphs closes the container that was opened first under its
name. -/
def close (endTime : Instant) (failed : Bool) (nodeKey : String) : Tracker × List Namespace :=
  match tracker.openPaths.get? nodeKey with
  | some (path :: rest) =>
    let closed := { tracker with openPaths := tracker.openPaths.set nodeKey rest }
    match closed.bounds.get? path with
    | some bounds =>
      let ended := { closed with
        bounds := closed.bounds.set path { bounds with finish := max bounds.finish endTime } }
      (if failed then ended.fail path else ended, [path])
    | none => (closed, [path])
  | _ => (tracker, [])

def observe (step : RunHistoryStep) (nodeKey : String) (payload : Entries) (path : Namespace) :
    Tracker × List Namespace :=
  let endTime := (computeEndTime rt step.happenedAt payload).getD step.happenedAt
  let failed := (statusFromPayload rt payload).code = .error
  if path ≠ [] then
    let touched := path.prefixes.foldl (touch · step.happenedAt endTime ·) tracker
    (if failed then touched.fail path else touched, path.prefixes)
  else tracker.close endTime failed nodeKey

end Tracker

def nodeUpdate (item : String × Json) : Option (String × Entries) :=
  match item.2 with
  | .obj payload => if item.1 = namespaceMetadataKey then none else some (item.1, payload)
  | _ => none

def RunHistoryStep.updates (step : RunHistoryStep) : List (String × Entries) :=
  step.payload.filterMap nodeUpdate

def RunHistoryStep.path (step : RunHistoryStep) : Namespace := extractStepNamespace rt step.payload

def Tracker.observeAll (tracker : Tracker) (step : RunHistoryStep) : Tracker :=
  step.updates.foldl (fun tracker update =>
    (tracker.observe rt step update.1 update.2 (step.path rt)).1) tracker

section Record

variable (record : RunHistoryRecord)

def rootSpanId : String := deriveRootSpanId rt record.traceId record.executionId

def parentOfContainer (path : Namespace) : String :=
  if path.length ≤ 1 then rootSpanId rt record
  else deriveNamespaceSpanId rt record.executionId path.dropLast

def renderContainer (tracker : Tracker) (path : Namespace) : Option TraceSpan :=
  (tracker.bounds.get? path).map (fun bounds => {
    spanId := deriveNamespaceSpanId rt record.executionId path
    parentSpanId := some (parentOfContainer rt record path)
    name := namespaceSegmentName (path.getLast?.getD "")
    startTime := bounds.start
    endTime := some bounds.finish
    attributes := ((∅ : Attributes).set "orcheo.node.kind" (.str "subgraph")).set
      "orcheo.node.namespace" (.str (":".intercalate path))
    status := ⟨bounds.status, none⟩ })

def parentOfNode (path : Namespace) : String :=
  if path ≠ [] then deriveNamespaceSpanId rt record.executionId path else rootSpanId rt record

def nodeOutput (payload : Entries) : Json :=
  (sanitizeValue stateMaxDepth (.obj (payload.foldl (fun shown item =>
    if item.1 = traceMetadataKey then shown else put shown item.1 item.2) []))).value

def artifactAttribute (ids : List String) (attributes : Attributes) : Attributes :=
  if ids.isEmpty then attributes else attributes.set "orcheo.artifact.ids" (.arr (ids.map .str))

def buildNodeSpan (step : RunHistoryStep) (nodeKey : String) (payload : Entries)
    (parentId : String) : TraceSpan where
  spanId := deriveChildSpanId rt record.executionId step.index nodeKey
  parentSpanId := some parentId
  name := displayName rt nodeKey payload
  startTime := step.happenedAt
  endTime := computeEndTime rt step.happenedAt payload
  attributes := (artifactAttribute (extractArtifactIds rt payload)
    (intAttribute "orcheo.token.output" (extractOutputTokens rt payload)
      (intAttribute "orcheo.token.input" (extractInputTokens rt payload)
        (nodeAttributes rt nodeKey payload record.workspaceId)))).set "orcheo.node.output"
    (nodeOutput payload)
  events := collectMessageEvents rt payload step.happenedAt
  status := statusFromPayload rt payload

def spansOfUpdate (step : RunHistoryStep) (tracker : Tracker) (update : String × Entries) :
    Tracker × List TraceSpan :=
  let (tracker, touched) := tracker.observe rt step update.1 update.2 (step.path rt)
  (tracker, touched.filterMap (renderContainer rt record tracker) ++
    if step.path rt ≠ [] ∨ touched = [] then
      [buildNodeSpan rt record step update.1 update.2 (parentOfNode rt record (step.path rt))]
    else [])

def spansOfUpdates (step : RunHistoryStep) :
    Tracker → List (String × Entries) → Tracker × List TraceSpan
  | tracker, [] => (tracker, [])
  | tracker, update :: rest =>
    let (tracker, spans) := spansOfUpdate rt record step tracker update
    let (tracker, later) := spansOfUpdates step tracker rest
    (tracker, spans ++ later)

def buildSpansForStep (step : RunHistoryStep) (tracker : Tracker) : Tracker × List TraceSpan :=
  spansOfUpdates rt record step tracker step.updates

def buildSpansForSteps : Tracker → List RunHistoryStep → List TraceSpan
  | _, [] => []
  | tracker, step :: steps =>
    let (tracker, spans) := buildSpansForStep rt record step tracker
    spans ++ buildSpansForSteps tracker steps

def statusFromHistory : TraceSpanStatus :=
  let status := rt.lower record.status
  if ["completed", "success", "succeeded"].contains status then ⟨.ok, none⟩
  else if ["error", "failed"].contains status then ⟨.error, record.error⟩
  else if ["cancelled", "canceled"].contains status then
    ⟨.error, some (((record.error).filter (· ≠ "")).getD "cancelled")⟩
  else ⟨.unset, none⟩

def extractRuntimeThreadId : Option String :=
  match get record.runnableConfig "configurable" with
  | .obj configurable => match get configurable "thread_id" with
    | .str threadId => if rt.strip threadId ≠ "" then some (rt.strip threadId) else none
    | _ => none
  | _ => none

def jsonAttribute (key : String) (value : Json) (attributes : Attributes) : Attributes :=
  match value with
  | .null => attributes
  | value => attributes.set key value

def countAttribute (key : String) (there : Bool) (n : Nat) (attributes : Attributes) : Attributes :=
  if there then attributes.set key (.int n) else attributes

def rootAttributes : Attributes :=
  let config := record.runnableConfig
  let attributes := ((∅ : Attributes).set "orcheo.execution.id" (.str record.executionId)).set
    "orcheo.workflow.id" (.str record.workflowId)
  let attributes := optionalAttribute "orcheo.workspace.id" (record.workspaceId.filter (· ≠ ""))
    attributes
  let attributes := optionalAttribute "orcheo.execution.thread_id"
    (extractRuntimeThreadId rt record) attributes
  let attributes := if record.tags.isEmpty then attributes
    else attributes.set "orcheo.execution.tags" (.arr (record.tags.map .str))
  let attributes := countAttribute "orcheo.execution.tag_count" (!record.tags.isEmpty)
    record.tags.length attributes
  let attributes := optionalAttribute "orcheo.execution.run_name" (record.runName.filter (· ≠ ""))
    attributes
  let attributes := if record.metadata.isEmpty then attributes
    else attributes.set "orcheo.execution.metadata_keys"
      (.arr (((record.metadata.map Prod.fst).mergeSort (· ≤ ·)).map .str))
  let attributes := countAttribute "orcheo.execution.callbacks.count" (!record.callbacks.isEmpty)
    record.callbacks.length attributes
  let attributes := jsonAttribute "orcheo.execution.recursion_limit"
    (get config "recursion_limit") attributes
  let attributes := jsonAttribute "orcheo.execution.max_concurrency"
    (get config "max_concurrency") attributes
  match get config "prompts" with
  | .obj prompts => attributes.set "orcheo.execution.prompts.count" (.int prompts.length)
  | _ => attributes

def buildRootSpan : TraceSpan where
  spanId := rootSpanId rt record
  parentSpanId := none
  name := "workflow.execution"
  startTime := record.traceStartedAt.getD record.startedAt
  endTime := record.traceCompletedAt.or record.completedAt
  attributes := rootAttributes rt record
  status := statusFromHistory rt record

/-- A later span replaces an earlier one of its identifier, where that stands. -/
def foldSpans (spans : List TraceSpan) (known : Dict String TraceSpan) : Dict String TraceSpan :=
  spans.foldl (fun known span => known.set span.spanId span) known

def attributeInt (key : String) (span : TraceSpan) : Int :=
  match span.attributes.get? key with
  | some value => (toInt rt value).getD 0
  | none => 0

def spansById : Dict String TraceSpan :=
  foldSpans (buildSpansForSteps rt record {} record.steps)
    ((∅ : Dict String TraceSpan).set (rootSpanId rt record) (buildRootSpan rt record))

def totalTokens (key : String) (spans : List TraceSpan) : Int :=
  ((spans.filter (fun span => span.spanId ≠ rootSpanId rt record)).map (attributeInt rt key)).sum

def traceIdentifier : String :=
  ((record.traceId).filter (· ≠ "")).getD (rootSpanId rt record)

def buildTraceResponse : TraceResponse :=
  let spans := (spansById rt record).values
  { execution := {
      id := record.executionId
      status := record.status
      threadId := extractRuntimeThreadId rt record
      startedAt := record.traceStartedAt.getD record.startedAt
      finishedAt := record.traceCompletedAt.or record.completedAt
      traceId := traceIdentifier rt record
      inputTokens := totalTokens rt record "orcheo.token.input" spans
      outputTokens := totalTokens rt record "orcheo.token.output" spans }
    spans := spans }

def replay (step : RunHistoryStep) : Tracker :=
  (record.steps.takeWhile (fun prior => prior.index < step.index)).foldl (Tracker.observeAll rt) {}

def buildTraceUpdate (step : Option RunHistoryStep) (includeRoot complete : Bool) :
    Option TraceUpdate :=
  let root := if includeRoot then [buildRootSpan rt record] else []
  let spans := match step with
    | none => root
    | some step => root ++ (buildSpansForStep rt record step (replay rt record step)).2
  if spans.isEmpty ∧ !complete then none
  else some {
    executionId := record.executionId
    traceId := traceIdentifier rt record
    spans := spans
    complete := complete }

end Record

/-- `_clone_json_like` is the identity on JSON data. -/
def setDefault (state : Entries) (key : String) (value : Json) : Entries :=
  match Json.field? state key with
  | some _ => state
  | none => put state key value

def initialWorkflowState (inputs : Entries) : Entries :=
  setDefault (setDefault (setDefault inputs "inputs" (.obj inputs)) "node_results" (.obj []))
    "messages" (.arr [])

mutual
def mergeValue (existing : Option Json) : Json → Json
  | .obj payload => match existing with
    | some (.obj state) => .obj (mergeIntoWorkflowState state payload)
    | _ => .obj payload
  | value => value

def mergeIntoWorkflowState (state : Entries) : Entries → Entries
  | [] => state
  | (key, value) :: rest =>
    mergeIntoWorkflowState
      (if key = traceMetadataKey then state
        else put state key (mergeValue (Json.field? state key) value)) rest
end

def stateUpdates (record : RunHistoryRecord) : List (String × Entries) :=
  record.steps.flatMap (fun step => step.payload.filterMap (fun item =>
    match item.2 with
    | .obj payload => some (deriveChildSpanId rt record.executionId step.index item.1, payload)
    | _ => none))

def findSpanState (spanId : String) : Entries → List (String × Entries) → Option TraceSpanState
  | _, [] => none
  | state, (id, payload) :: rest =>
    let merged := mergeIntoWorkflowState state payload
    if id = spanId then
      let before := sanitizeStateSnapshot state
      let after := sanitizeStateSnapshot merged
      some {
        spanId := spanId
        before := before.value
        after := after.value
        redacted := before.redacted || after.redacted
        truncated := before.truncated || after.truncated }
    else findSpanState spanId merged rest

def buildSpanState (record : RunHistoryRecord) (spanId : String) : Option TraceSpanState :=
  findSpanState spanId (initialWorkflowState record.inputs) (stateUpdates rt record)

end Orcheo.Traces
