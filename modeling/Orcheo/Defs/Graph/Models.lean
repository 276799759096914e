import Orcheo.Defs.Graph.Syntax

/-! The frozen intermediate representation of a workflow graph, and its form as plain data. -/

namespace Orcheo.Graph

open Lib (Dict)

inductive Value
  | none
  | bool (b : Bool)
  | int (n : Int)
  | float (bits : BitVec 64)
  | str (s : String)
  | list (xs : List Value)
  | tuple (xs : List Value)
  | dict (kvs : List (String × Value))

abbrev Config := List (String × Value)

namespace Value

def get? : Value → String → Option Value
  | dict kvs, key => Dict.lookup key kvs
  | _, _ => .none

/-- A sequence that is no string. -/
def elements? : Value → Option (List Value)
  | list xs | tuple xs => some xs
  | _ => .none

def str? : Value → Option String
  | str s => some s
  | _ => .none

def entries? : Value → Option Config
  | dict kvs => some kvs
  | _ => .none

end Value

open Value (str? entries?)

def currentSchemaVersion : Int := 1

def defaultStateRef : String := "orcheo.graph.state.State"

def workflowToolConfigKind : String := "workflow_tool"

def pydanticModelConfigKind : String := "pydantic_model"

def irConfigKindKey : String := "__orcheo_ir_kind__"

def startVertex : String := "__start__"

def endVertex : String := "__end__"

structure BuiltinNodeSpec where
  id : String
  type : String
  config : Config := []

structure CodeNodeSpec where
  id : String
  config : Config := []
  injected : List String := []
  body : String

structure EdgeSpec where
  source : String
  target : String
  deriving DecidableEq, Repr

structure ConditionalEdgeSpec where
  source : String
  path : String
  mapping : List (String × String)
  default : Option String := none
  deriving DecidableEq, Repr

inductive NodeSpecOf (Graph : Type)
  | builtin (spec : BuiltinNodeSpec)
  | code (spec : CodeNodeSpec)
  | subgraph (id : String) (graph : Graph)

inductive GraphIR
  | mk (schemaVersion : Int) (stateRef entrypoint : String) (nodes : List (NodeSpecOf GraphIR))
      (edges : List EdgeSpec) (conditionalEdges : List ConditionalEdgeSpec)

abbrev NodeSpec := NodeSpecOf GraphIR

def NodeSpecOf.id {Graph : Type} : NodeSpecOf Graph → String
  | builtin spec => spec.id
  | code spec => spec.id
  | subgraph id _ => id

namespace GraphIR

def schemaVersion : GraphIR → Int
  | mk v _ _ _ _ _ => v

def entrypoint : GraphIR → String
  | mk _ _ e _ _ _ => e

def nodes : GraphIR → List NodeSpec
  | mk _ _ _ nodes _ _ => nodes

def edges : GraphIR → List EdgeSpec
  | mk _ _ _ _ edges _ => edges

def conditionalEdges : GraphIR → List ConditionalEdgeSpec
  | mk _ _ _ _ _ conditionalEdges => conditionalEdges

end GraphIR

def BuiltinNodeSpec.modelDump (spec : BuiltinNodeSpec) : Value :=
  .dict [("kind", .str "builtin"), ("id", .str spec.id), ("type", .str spec.type),
    ("config", .dict spec.config)]

def CodeNodeSpec.modelDump (spec : CodeNodeSpec) : Value :=
  .dict [("kind", .str "code"), ("id", .str spec.id), ("config", .dict spec.config),
    ("injected", .list (spec.injected.map .str)), ("body", .str spec.body)]

def EdgeSpec.modelDump (e : EdgeSpec) : Value :=
  .dict [("source", .str e.source), ("target", .str e.target)]

def optionalStr : Option String → Value
  | none => .none
  | some s => .str s

def ConditionalEdgeSpec.modelDump (c : ConditionalEdgeSpec) : Value :=
  .dict [("source", .str c.source), ("path", .str c.path),
    ("mapping", .dict (c.mapping.map (fun e => (e.1, .str e.2)))),
    ("default", optionalStr c.default)]

mutual
def GraphIR.modelDump : GraphIR → Value
  | .mk schemaVersion stateRef entrypoint nodes edges conditionalEdges =>
    .dict [("schema_version", .int schemaVersion), ("state_ref", .str stateRef),
      ("entrypoint", .str entrypoint), ("nodes", .list (dumpNodes nodes)),
      ("edges", .list (edges.map EdgeSpec.modelDump)),
      ("conditional_edges", .list (conditionalEdges.map ConditionalEdgeSpec.modelDump))]

def dumpNodes : List (NodeSpecOf GraphIR) → List Value
  | [] => []
  | node :: nodes => dumpNode node :: dumpNodes nodes

def dumpNode : NodeSpecOf GraphIR → Value
  | .builtin spec => spec.modelDump
  | .code spec => spec.modelDump
  | .subgraph id graph =>
    .dict [("kind", .str "subgraph"), ("id", .str id), ("graph", graph.modelDump)]
end

structure NumberReader where
  parseInt : String → Option Int
  integral : BitVec 64 → Option Int

def knownFields (names : List String) (fields : Config) : Option Unit :=
  if fields.all (fun e => e.1 ∈ names) then some () else none

def fieldOr {α : Type} (read : Value → Option α) (default : Option α) (fields : Config)
    (name : String) : Option α :=
  match Dict.lookup name fields with
  | none => default
  | some v => read v

def readInt (nr : NumberReader) : Value → Option Int
  | .int n => some n
  | .bool b => some (if b then 1 else 0)
  | .float bits => nr.integral bits
  | .str s => nr.parseInt s
  | _ => none

def readOptionalStr : Value → Option (Option String)
  | .none => some none
  | .str s => some (some s)
  | _ => none

def readList {α : Type} (read : Value → Option α) (v : Value) : Option (List α) :=
  v.elements?.bind (fun xs => xs.mapM read)

def readMapping (v : Value) : Option (List (String × String)) :=
  v.entries?.bind (fun kvs => kvs.mapM (fun e => e.2.str?.map (fun s => (e.1, s))))

def readEdge (v : Value) : Option EdgeSpec := do
  let fields ← v.entries?
  knownFields ["source", "target"] fields
  return ⟨← fieldOr str? none fields "source", ← fieldOr str? none fields "target"⟩

def readConditionalEdge (v : Value) : Option ConditionalEdgeSpec := do
  let fields ← v.entries?
  knownFields ["source", "path", "mapping", "default"] fields
  return ⟨← fieldOr str? none fields "source", ← fieldOr str? none fields "path",
    ← fieldOr readMapping none fields "mapping",
    ← fieldOr readOptionalStr (some none) fields "default"⟩

def readNode (readGraph : Value → Option GraphIR) (v : Value) : Option NodeSpec := do
  let fields ← v.entries?
  match ← fieldOr str? none fields "kind" with
  | "builtin" =>
    knownFields ["kind", "id", "type", "config"] fields
    return .builtin ⟨← fieldOr str? none fields "id", ← fieldOr str? none fields "type",
      ← fieldOr entries? (some []) fields "config"⟩
  | "code" =>
    knownFields ["kind", "id", "config", "injected", "body"] fields
    return .code ⟨← fieldOr str? none fields "id",
      ← fieldOr entries? (some []) fields "config",
      ← fieldOr (readList str?) (some []) fields "injected",
      ← fieldOr str? none fields "body"⟩
  | "subgraph" =>
    knownFields ["kind", "id", "graph"] fields
    return .subgraph (← fieldOr str? none fields "id")
      (← fieldOr readGraph none fields "graph")
  | _ => none

def graphFields : List String :=
  ["schema_version", "state_ref", "entrypoint", "nodes", "edges", "conditional_edges"]

def readGraph (nr : NumberReader) : Nat → Value → Option GraphIR
  | 0, _ => none
  | depth + 1, v => do
    let fields ← v.entries?
    knownFields graphFields fields
    return .mk (← fieldOr (readInt nr) (some currentSchemaVersion) fields "schema_version")
      (← fieldOr str? (some defaultStateRef) fields "state_ref")
      (← fieldOr str? none fields "entrypoint")
      (← fieldOr (readList (readNode (readGraph nr depth))) (some []) fields "nodes")
      (← fieldOr (readList readEdge) (some []) fields "edges")
      (← fieldOr (readList readConditionalEdge) (some []) fields "conditional_edges")

mutual
def Value.depth : Value → Nat
  | .list xs | .tuple xs => depthList xs + 1
  | .dict kvs => depthEntries kvs + 1
  | _ => 1

def depthList : List Value → Nat
  | [] => 0
  | x :: xs => max x.depth (depthList xs)

def depthEntries : List (String × Value) → Nat
  | [] => 0
  | (_, x) :: kvs => max x.depth (depthEntries kvs)
end

/-- No subgraph is nested more deeply than the data. -/
def modelValidate (nr : NumberReader) (v : Value) : Option GraphIR := readGraph nr v.depth v

end Orcheo.Graph
