import Orcheo.Defs.Graph.Grammar

/-! The trusted rebuilder: validation of a stored graph, and what building it instantiates. -/

namespace Orcheo.Graph

open Lib (Dict)

def maxGraphDepth : Nat := 32

def rejectIr {α : Type} (message : String) : Checked α := .error (.irValidation message)

def requireIr (condition : Bool) (message : String) : Checked Unit :=
  if condition then .ok () else rejectIr message

def checkAll {α : Type} (check : α → Checked Unit) : List α → Checked Unit
  | [] => .ok ()
  | x :: xs => do
    check x
    checkAll check xs

def isSentinel (name : String) : Bool := name = startVertex || name = endVertex

def isKnownVertex (nodeIds : List String) (name : String) : Bool :=
  name ∈ nodeIds || isSentinel name

def coerceIr (host : Host) (v : Value) : Checked GraphIR :=
  match modelValidate host.numbers v with
  | some ir => .ok ir
  | none => rejectIr "Malformed workflow IR"

def isBlank (host : Host) (s : String) : Bool := s.toList.all host.isspace

def validateNodeType (host : Host) (path : String) : NodeSpec → Checked Unit
  | .builtin b => requireIr (host.registered b.type)
      ("Unknown built-in node type '" ++ b.type ++ "' for " ++ path ++ " node '" ++ b.id ++ "'")
  | _ => .ok ()

def validateNodes (host : Host) (path : String) (nodeIds : List String) :
    List NodeSpec → Checked (List String)
  | [] => .ok nodeIds
  | spec :: specs => do
    requireIr (!isBlank host spec.id) (path ++ " node id must be a non-empty string")
    requireIr (spec.id ∉ nodeIds) ("Duplicate node id '" ++ spec.id ++ "' in " ++ path)
    requireIr (!isSentinel spec.id)
      (path ++ " node id '" ++ spec.id ++ "' collides with a reserved sentinel")
    validateNodeType host path spec
    validateNodes host path (nodeIds ++ [spec.id]) specs

def validateEntrypoint (path : String) (nodeIds : List String) (ir : GraphIR) : Checked Unit := do
  requireIr (ir.entrypoint ≠ "") (path ++ " entrypoint must be a non-empty node id")
  requireIr (ir.entrypoint ∈ nodeIds)
    (path ++ " entrypoint '" ++ ir.entrypoint ++ "' does not reference a known node")

def validateEdge (path : String) (nodeIds : List String) (e : EdgeSpec) : Checked Unit := do
  requireIr (isKnownVertex nodeIds e.source)
    (path ++ " edge source '" ++ e.source ++ "' references an unknown node")
  requireIr (isKnownVertex nodeIds e.target)
    (path ++ " edge target '" ++ e.target ++ "' references an unknown node")

def validateConditionalEdge (path : String) (nodeIds : List String) (c : ConditionalEdgeSpec) :
    Checked Unit := do
  let edge := path ++ " conditional edge from '" ++ c.source ++ "'"
  requireIr (c.source ∈ nodeIds)
    (path ++ " conditional edge source '" ++ c.source ++ "' references an unknown node")
  requireIr (!c.mapping.isEmpty) (edge ++ " requires a non-empty mapping")
  checkAll (fun e => requireIr (isKnownVertex nodeIds e.2)
    (edge ++ " maps '" ++ e.1 ++ "' to unknown target '" ++ e.2 ++ "'")) c.mapping
  requireIr ((c.default.map (isKnownVertex nodeIds)).getD true)
    (edge ++ " has an unknown default target '" ++ c.default.getD "" ++ "'")

mutual
/-- `_validate_config_graphs`, given the validation of a nested graph -/
def validateConfigGraphs (host : Host) (nested : String → GraphIR → Checked Unit) (path : String) :
    Value → Checked Unit
  | .dict kvs =>
    match (Value.dict kvs).get? irConfigKindKey with
    | some (.str kind) =>
      if kind = workflowToolConfigKind then
        match (Value.dict kvs).get? "graph" with
        | some (.dict graph) => do
          nested (path ++ " workflow tool") (← coerceIr host (.dict graph))
        | _ => rejectIr (path ++ " workflow tool requires a nested graph IR mapping")
      else validateEntries host nested path kvs
    | _ => validateEntries host nested path kvs
  | .list xs | .tuple xs => validateElements host nested path 0 xs
  | _ => .ok ()

def validateElements (host : Host) (nested : String → GraphIR → Checked Unit) (path : String)
    (index : Nat) : List Value → Checked Unit
  | [] => .ok ()
  | x :: xs => do
    validateConfigGraphs host nested (path ++ "[" ++ toString index ++ "]") x
    validateElements host nested path (index + 1) xs

def validateEntries (host : Host) (nested : String → GraphIR → Checked Unit) (path : String) :
    List (String × Value) → Checked Unit
  | [] => .ok ()
  | (key, x) :: kvs => do
    validateConfigGraphs host nested (path ++ "." ++ key) x
    validateEntries host nested path kvs
end

def validateGraphModel (host : Host) : Nat → String → GraphIR → Checked Unit
  | 0, path, _ => rejectIr (path ++ " nesting depth exceeds the maximum of 32")
  | levels + 1, path, ir => do
    requireIr (ir.schemaVersion = currentSchemaVersion)
      ("Unsupported " ++ path ++ " schema_version " ++ toString ir.schemaVersion ++
        "; supported versions: [1]")
    let nodeIds ← validateNodes host path [] ir.nodes
    validateEntrypoint path nodeIds ir
    checkAll (validateEdge path nodeIds) ir.edges
    checkAll (validateConditionalEdge path nodeIds) ir.conditionalEdges
    checkAll (fun spec => match spec with
      | .builtin b => validateConfigGraphs host (validateGraphModel host levels)
          (path ++ " node '" ++ b.id ++ "' config") (.dict b.config)
      | .code _ => .ok ()
      | .subgraph id graph =>
        validateGraphModel host levels (path ++ " subgraph '" ++ id ++ "'") graph) ir.nodes

def validateIr (host : Host) (ir : GraphIR) : Checked Unit :=
  validateGraphModel host (maxGraphDepth + 1) "IR" ir

def toolGraph (host : Host) (kvs : List (String × Value)) : Option GraphIR :=
  match Dict.lookup "name" kvs, Dict.lookup "description" kvs, Dict.lookup "graph" kvs with
  | some (.str _), some (.str _), some (.dict graph) => modelValidate host.numbers (.dict graph)
  | _, _, _ => none

mutual
/-- The graphs that `_materialise_config_value` builds for the workflow tools in a value,
without those inside these graphs. -/
def toolGraphs (host : Host) : Value → List GraphIR
  | .dict kvs =>
    match (Value.dict kvs).get? irConfigKindKey with
    | some (.str kind) =>
      if kind = workflowToolConfigKind then (toolGraph host kvs).toList
      else if kind = pydanticModelConfigKind then []
      else toolGraphsOfEntries host kvs
    | _ => toolGraphsOfEntries host kvs
  | .list xs | .tuple xs => toolGraphsOfList host xs
  | _ => []

def toolGraphsOfList (host : Host) : List Value → List GraphIR
  | [] => []
  | x :: xs => toolGraphs host x ++ toolGraphsOfList host xs

def toolGraphsOfEntries (host : Host) : List (String × Value) → List GraphIR
  | [] => []
  | (_, x) :: kvs => toolGraphs host x ++ toolGraphsOfEntries host kvs
end

inductive Instantiated
  | builtin (spec : BuiltinNodeSpec)
  | code (spec : CodeNodeSpec)

/-- What `_build_graph_model` instantiates down to a level of nesting, where no constructor
fails before. -/
def instantiations (host : Host) : Nat → GraphIR → List Instantiated
  | 0, _ => []
  | levels + 1, ir => ir.nodes.flatMap (fun spec => match spec with
    | .builtin b =>
      (toolGraphs host (.dict b.config)).flatMap (instantiations host levels) ++ [.builtin b]
    | .code c => [.code c]
    | .subgraph _ graph => instantiations host levels graph)

/-- `_wire_edges`: the edges of the rebuilt graph. -/
def wireEdges (ir : GraphIR) : List EdgeSpec :=
  if ir.edges.any (fun e => e.source = startVertex) then ir.edges
  else ir.edges ++ [⟨startVertex, ir.entrypoint⟩]

end Orcheo.Graph
