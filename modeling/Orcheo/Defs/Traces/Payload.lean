import Orcheo.Defs.Traces.Models

/-! What a span takes from the payload of a node. -/

namespace Orcheo.Traces

def traceMetadataKey : String := "__trace"

def namespaceMetadataKey : String := "__namespace"

def stateMaxDepth : Nat := 6

def stateMaxCollectionItems : Nat := 64

def stateMaxStringLength : Nat := 2048

def stateRedactedMarker : Json := .str "[REDACTED]"

def stateTruncatedMarker : Json := .str "[TRUNCATED]"

variable (rt : TraceRuntime)

structure Sanitized (α : Type) where
  value : α
  redacted : Bool := false
  truncated : Bool := false
  deriving DecidableEq

def Sanitized.map {α β : Type} (f : α → β) (s : Sanitized α) : Sanitized β :=
  ⟨f s.value, s.redacted, s.truncated⟩

variable (child : Json → Sanitized Json)

def sanitizeEntry (acc : Sanitized Entries) (item : String × Json) :
    Sanitized Entries :=
  if isSensitiveStateKey item.1 then
    ⟨put acc.value item.1 stateRedactedMarker, true, acc.truncated⟩
  else
    let value := child item.2
    ⟨put acc.value item.1 value.value, acc.redacted || value.redacted,
      acc.truncated || value.truncated⟩

def sanitizeMappingValue (items : Entries) : Sanitized Entries :=
  let kept := (items.take stateMaxCollectionItems).foldl (sanitizeEntry child) ⟨[], false, false⟩
  if items.length ≤ stateMaxCollectionItems then kept
  else ⟨put kept.value "__truncated_items__" (.int (items.length - stateMaxCollectionItems)),
    kept.redacted, true⟩

def sanitizeSequenceValue (items : List Json) :
    Sanitized (List Json) :=
  let kept := (items.take stateMaxCollectionItems).map child
  let truncated := stateMaxCollectionItems < items.length
  ⟨kept.map Sanitized.value ++ (if truncated then [stateTruncatedMarker] else []),
    kept.any Sanitized.redacted, truncated || kept.any Sanitized.truncated⟩

def sanitizeValue : Nat → Json → Sanitized Json
  | 0, _ => ⟨stateTruncatedMarker, false, true⟩
  | depth + 1, .obj items => (sanitizeMappingValue (sanitizeValue depth) items).map .obj
  | depth + 1, .arr items => (sanitizeSequenceValue (sanitizeValue depth) items).map .arr
  | _ + 1, .str s =>
    if stateMaxStringLength < s.length then
      ⟨.str (String.ofList (s.toList.take stateMaxStringLength) ++ "…"), false, true⟩
    else ⟨.str s, false, false⟩
  | _ + 1, value => ⟨value, false, false⟩

/-- `_sanitize_state_snapshot`, of a dictionary -/
def sanitizeStateSnapshot (state : Entries) : Sanitized Entries :=
  sanitizeMappingValue (sanitizeValue (stateMaxDepth - 1)) state

def firstOf {α : Type} (payload : Entries) (take : Json → Option α) (keys : List String) :
    Option α :=
  keys.findSome? (fun key => take (get payload key))

def coalesceStatus (payload : Entries) : Option String :=
  firstOf payload (fun
    | .str value => some (rt.lower value)
    | _ => none) ["status", "state", "result"]

def extractLatency (payload : Entries) : Option Int :=
  firstOf payload (toInt rt) ["latency_ms", "duration_ms", "elapsed_ms"]

def extractTokenCount (payload : Entries) (keys : List String) : Option Int :=
  firstOf payload (toInt rt) keys

def extractTokens (payload : Entries) (ofSource ofPayload : List String) : Option Int :=
  (firstOf payload (fun
    | .obj source => extractTokenCount rt source ofSource
    | _ => none) ["token_usage", "usage", "usage_metadata"]).or
    (extractTokenCount rt payload ofPayload)

def extractInputTokens (payload : Entries) : Option Int :=
  extractTokens rt payload ["input", "input_tokens", "prompt", "prompt_tokens"]
    ["input_tokens", "prompt_tokens"]

def extractOutputTokens (payload : Entries) : Option Int :=
  extractTokens rt payload ["output", "output_tokens", "completion", "completion_tokens"]
    ["output_tokens", "completion_tokens"]

def computeEndTime (startTime : Instant) (payload : Entries) : Option Instant :=
  (extractLatency rt payload).map (fun latency => startTime + latency * 1000)

def extractErrorMessage (payload : Entries) : Option String :=
  match get payload "error" with
  | .null => none
  | .obj error => match get error "message" with
    | .null => some (text rt (.obj error))
    | message => some (text rt message)
  | error => some (text rt error)

def statusFromPayload (payload : Entries) : TraceSpanStatus :=
  match coalesceStatus rt payload with
  | none => ⟨.ok, none⟩
  | some status =>
    if status = "" then ⟨.ok, none⟩
    else if ["completed", "success", "succeeded"].contains (rt.lower status) then ⟨.ok, none⟩
    else if ["error", "failed"].contains (rt.lower status) then
      ⟨.error, extractErrorMessage rt payload⟩
    else if ["cancelled", "canceled"].contains (rt.lower status) then
      ⟨.error, some (text rt (either (get payload "reason")
        (either (get payload "error") (.str "cancelled"))))⟩
    else ⟨.unset, none⟩

def textAttribute (key : String) (value : Json) (attributes : Attributes) : Attributes :=
  match value with
  | .null => attributes
  | value => attributes.set key (.str (text rt value))

def intAttribute (key : String) (value : Option Int) (attributes : Attributes) : Attributes :=
  match value with
  | none => attributes
  | some value => attributes.set key (.int value)

def aiPayload (payload : Entries) : Option Entries :=
  match get payload traceMetadataKey with
  | .obj trace => match get trace "ai" with
    | .obj ai => some ai
    | _ => none
  | _ => none

def aiTraceAttributes (payload : Entries) (attributes : Attributes) : Attributes :=
  match aiPayload payload with
  | none => attributes
  | some ai =>
    intAttribute "orcheo.ai.embedding.vector_size" (toInt rt (get ai "vector_size"))
      (textAttribute rt "orcheo.ai.embedding.operation" (get ai "operation")
        (textAttribute rt "orcheo.ai.provider" (get ai "provider")
          (textAttribute rt "orcheo.ai.model.actual" (get ai "actual_model")
            (textAttribute rt "orcheo.ai.model.requested" (get ai "requested_model")
              (textAttribute rt "orcheo.ai.kind" (get ai "kind") attributes)))))

def displayName (nodeKey : String) (payload : Entries) : String :=
  text rt (either (get payload "display_name") (either (get payload "name") (.str nodeKey)))

def spanWorkspaceId (workspaceId : Option String) (payload : Entries) : Option String :=
  match workspaceId, get payload "workspace_id" with
  | some workspaceId, _ => some workspaceId
  | none, .str workspaceId =>
    if rt.strip workspaceId ≠ "" then some (rt.strip workspaceId) else none
  | none, _ => none

def nodeId (nodeKey : String) (payload : Entries) : String :=
  text rt ((Json.field? payload "id").getD (.str nodeKey))

def nodeKind (payload : Entries) : Json := either (get payload "kind") (get payload "type")

def optionalAttribute (key : String) (value : Option String) (attributes : Attributes) :
    Attributes :=
  match value with
  | none => attributes
  | some value => attributes.set key (.str value)

def nodeAttributes (nodeKey : String) (payload : Entries) (workspaceId : Option String) :
    Attributes :=
  let named := ((∅ : Attributes).set "orcheo.node.id" (.str (nodeId rt nodeKey payload))).set
    "orcheo.node.display_name" (.str (displayName rt nodeKey payload))
  let placed := optionalAttribute "orcheo.workspace.id" (spanWorkspaceId rt workspaceId payload)
    named
  let kinded := textAttribute rt "orcheo.node.kind" (nodeKind payload) placed
  let judged := optionalAttribute "orcheo.node.status"
    ((coalesceStatus rt payload).filter (· ≠ "")) kinded
  aiTraceAttributes rt payload
    (intAttribute "orcheo.node.latency_ms" (extractLatency rt payload) judged)

def artifactId (artifact : Json) : String :=
  match artifact with
  | .obj fields => match get fields "id" with
    | .null => text rt artifact
    | id => text rt id
  | artifact => text rt artifact

def extractArtifactIds (payload : Entries) : List String :=
  match get payload "artifacts" with
  | .arr artifacts => artifacts.map (artifactId rt)
  | .str artifacts => artifacts.toList.map (fun c => String.ofList [c])
  | _ => []

def previewText : Json → String
  | .null => rt.preview ""
  | value => rt.preview (text rt value)

def textEvents : Json → List (List (String × String))
  | .obj fields => [fields.map (fun e => (e.1, previewText rt e.2))]
  | .arr items => items.map (fun item => [("preview", previewText rt item)])
  | value => [[("preview", previewText rt value)]]

def messageEvent : Json → List (String × String)
  | .obj message =>
    [("role", text rt ((Json.field? message "role").getD (.str "message"))),
      ("preview", previewText rt (get message "content"))]
  | message => [("role", "message"), ("preview", previewText rt message)]

def textEventsOf (payload : Entries) (key : String) : List (List (String × String)) :=
  match Json.field? payload key with
  | none => []
  | some value => textEvents rt value

def messageEvents (payload : Entries) : List (List (String × String)) :=
  match get payload "messages" with
  | .arr messages => messages.map (messageEvent rt)
  | _ => []

def collectMessageEvents (payload : Entries) (time : Instant) : List TraceSpanEvent :=
  (["prompts", "prompt"].flatMap (textEventsOf rt payload)).map (⟨"prompt", time, ·⟩) ++
  (["responses", "response"].flatMap (textEventsOf rt payload)).map (⟨"response", time, ·⟩) ++
  (messageEvents rt payload).map (⟨"message", time, ·⟩)

end Orcheo.Traces
