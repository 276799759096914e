import Orcheo.Defs.Traces.Spans

/-! The attributes of a span, one on top of the other. -/

namespace Orcheo.Traces

open Lib (Dict)

def textOf? (rt : TraceRuntime) : Json → Option String
  | .null => none
  | value => some (text rt value)

def aiText (rt : TraceRuntime) (payload : Entries) (key : String) : Option String :=
  (aiPayload payload).bind (fun ai => textOf? rt (get ai key))

def aiTextKeys : List String := ["kind", "requested_model", "actual_model", "provider", "operation"]

def aiVectorSize (rt : TraceRuntime) (payload : Entries) : Option Int :=
  (aiPayload payload).bind (fun ai => toInt rt (get ai "vector_size"))

variable {rt : TraceRuntime} {key k : String} (attributes : Attributes)

theorem textAttribute_eq (v : Json) :
    textAttribute rt key v attributes = optionalAttribute key (textOf? rt v) attributes := by
  cases v <;> rfl

theorem get?_optionalAttribute (value : Option String) :
    (optionalAttribute key value attributes).get? k =
      if k = key then (value.map Json.str).or (attributes.get? k) else attributes.get? k := by
  cases value with
  | none => simp [optionalAttribute]
  | some value =>
    simp only [optionalAttribute, Dict.get?_set]
    split <;> rfl

theorem get?_intAttribute (value : Option Int) : (intAttribute key value attributes).get? k =
      if k = key then (value.map Json.int).or (attributes.get? k) else attributes.get? k := by
  cases value with
  | none => simp [intAttribute]
  | some value =>
    simp only [intAttribute, Dict.get?_set]
    split <;> rfl

theorem get?_artifactAttribute (ids : List String) : (artifactAttribute ids attributes).get? k =
      if k = "orcheo.artifact.ids" ∧ ids ≠ [] then some (.arr (ids.map .str))
      else attributes.get? k := by
  unfold artifactAttribute
  cases ids with
  | nil => simp
  | cons id ids => simp [Dict.get?_set]

theorem aiTraceAttributes_eq (p : Entries) : aiTraceAttributes rt p attributes =
    intAttribute "orcheo.ai.embedding.vector_size" (aiVectorSize rt p)
      (optionalAttribute "orcheo.ai.embedding.operation" (aiText rt p "operation")
        (optionalAttribute "orcheo.ai.provider" (aiText rt p "provider")
          (optionalAttribute "orcheo.ai.model.actual" (aiText rt p "actual_model")
            (optionalAttribute "orcheo.ai.model.requested" (aiText rt p "requested_model")
              (optionalAttribute "orcheo.ai.kind" (aiText rt p "kind") attributes))))) := by
  unfold aiTraceAttributes aiVectorSize aiText
  cases aiPayload p with
  | none => rfl
  | some ai => simp only [Option.bind_some, textAttribute_eq]

theorem attributes_eq (nodeKey : String) (p : Entries) (workspaceId : Option String) :
    nodeAttributes rt nodeKey p workspaceId =
      intAttribute "orcheo.ai.embedding.vector_size" (aiVectorSize rt p)
        (optionalAttribute "orcheo.ai.embedding.operation" (aiText rt p "operation")
          (optionalAttribute "orcheo.ai.provider" (aiText rt p "provider")
            (optionalAttribute "orcheo.ai.model.actual" (aiText rt p "actual_model")
              (optionalAttribute "orcheo.ai.model.requested" (aiText rt p "requested_model")
                (optionalAttribute "orcheo.ai.kind" (aiText rt p "kind")
                  (intAttribute "orcheo.node.latency_ms" (extractLatency rt p)
                    (optionalAttribute "orcheo.node.status"
                      ((coalesceStatus rt p).filter (· ≠ ""))
                      (optionalAttribute "orcheo.node.kind" (textOf? rt (nodeKind p))
                        (optionalAttribute "orcheo.workspace.id"
                          (spanWorkspaceId rt workspaceId p)
                          (((∅ : Attributes).set "orcheo.node.id"
                            (.str (nodeId rt nodeKey p))).set "orcheo.node.display_name"
                            (.str (displayName rt nodeKey p)))))))))))) := by
  unfold nodeAttributes
  dsimp only
  rw [aiTraceAttributes_eq, textAttribute_eq]

theorem tokens_of_node (record : RunHistoryRecord) (step : RunHistoryStep) (nodeKey : String)
    (p : Entries) (parentId : String) :
    attributeInt rt "orcheo.token.input" (buildNodeSpan rt record step nodeKey p parentId) =
      (extractInputTokens rt p).getD 0 ∧
    attributeInt rt "orcheo.token.output" (buildNodeSpan rt record step nodeKey p parentId) =
      (extractOutputTokens rt p).getD 0 := by
  have empty (k : String) : (∅ : Attributes).get? k = none := rfl
  have input : (buildNodeSpan rt record step nodeKey p parentId).attributes.get?
      "orcheo.token.input" = (extractInputTokens rt p).map .int := by
    unfold buildNodeSpan
    rw [attributes_eq]
    simp [Dict.get?_set, get?_artifactAttribute, get?_intAttribute, get?_optionalAttribute, empty]
  have output : (buildNodeSpan rt record step nodeKey p parentId).attributes.get?
      "orcheo.token.output" = (extractOutputTokens rt p).map .int := by
    unfold buildNodeSpan
    rw [attributes_eq]
    simp [Dict.get?_set, get?_artifactAttribute, get?_intAttribute, get?_optionalAttribute, empty]
  unfold attributeInt
  rw [input, output]
  exact ⟨by cases extractInputTokens rt p <;> rfl, by cases extractOutputTokens rt p <;> rfl⟩

end Orcheo.Traces
