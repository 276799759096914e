import Orcheo.Defs.Graph.Schemas
import Orcheo.Lib.References

/-! How deep the compiler follows references: to helper builders, to graph variables (of subgraphs
and workflow tools) and to schema classes. -/

namespace Orcheo.Graph

open Lib (Dict Results cutOff)

/-- What is being compiled, with what is in progress around it. -/
inductive Reference
  | entry
  | helper (stack : List String) (name : String)
  | graph (graphs : Dict String Workflow) (path : List String) (name : String)
  | schema (classes : List ClassDef) (stack : List String) (name : String)

abbrev Reference.Result (pyd : Pydantic) : Reference → Type
  | .schema _ _ _ => pyd.Model
  | _ => GraphIR

def CompileContext.withSchemas (ctx : CompileContext)
    (schemas : String → List ClassDef → Checked Value) : CompileContext :=
  { ctx with host := { ctx.host with schemaJsonSchema := schemas } }

section Follow

variable (pyd : Pydantic) (ctx : CompileContext) (entrypoint : GraphBuilder)
  (H : Results (Reference.Result pyd) GraphError)

/-- `_workflow_to_ir`, with the results of the graphs that the graph refers to. -/
def graphToIr (graphs : Dict String Workflow) (path : List String) (name : String) :
    Checked GraphIR :=
  if maxGraphDepth ≤ path.length then reject "nested workflow depth exceeds the maximum of 32"
  else if name ∈ path then
    reject ("nested workflow graph cycle detected: " ++ " -> ".intercalate (path ++ [name]))
  else match graphs.get? name with
    | none => reject ("unknown nested workflow graph '" ++ name ++ "'")
    | some workflow => do
      let nodes ← workflow.nodes.mapM (resolveEntry fun g => H (.graph graphs (path ++ [name]) g))
      return .mk currentSchemaVersion defaultStateRef (← resolveEntrypointName workflow) nodes
        workflow.edges workflow.conditionalEdges

def schemaOf (name : String) (classes : List ClassDef) : Checked Value := do
  pyd.loweredModel name (← H (.schema classes [] name))

def builderToIr (stack : List String) (builder : GraphBuilder) : Checked GraphIR := do
  let (root, graphs) ← interpretGraphBuilder (ctx.withSchemas (schemaOf pyd H))
    (fun f => H (.helper stack f)) builder
  graphToIr pyd H graphs [] root

def follow : Results (Reference.Result pyd) GraphError
  | .entry => builderToIr pyd ctx H [] entrypoint
  | .helper stack name => match ctx.graphBuilders.get? name with
    | none => reject ("unknown graph builder '" ++ name ++ "'")
    | some builder =>
      if name ∈ stack then helperCycle stack name
      else builderToIr pyd ctx H (stack ++ [name]) builder
  | .graph graphs path name => graphToIr pyd H graphs path name
  | .schema classes stack name => match classes.find? (fun c => c.name = name) with
    | none => reject ("unknown schema '" ++ name ++ "'")
    | some c =>
      if name ∈ stack then Pydantic.schemaCycle stack name
      else pyd.createdModel ctx.host classes (fun d => H (.schema classes (stack ++ [name]) d)) c

def results : Results (Reference.Result pyd) GraphError
  | .entry => compileBuilder ctx entrypoint
  | .helper stack name => helperGraphIr ctx (room ctx.graphBuilders.keys stack) stack name
  | .graph graphs path name => workflowToIr graphs (maxGraphDepth - path.length) path name
  | .schema classes stack name => pyd.buildModel ctx.host classes
      (room (classes.map ClassDef.name).dedup stack) stack name

end Follow

/-- The compilation that follows references to a depth, and takes what `stop` gives for those
further down. -/
def compileTo (pyd : Pydantic) (stop : Results (Reference.Result pyd) GraphError) (depth : Nat)
    (host : Host) (source : String) (m : Module) (enforceNodePolicy : Bool) : Checked GraphIR := do
  validateGrammar (host.lowering pyd) m
  let ctx ← compileContext (host.lowering pyd) source m enforceNodePolicy
  match ctx.graphBuilders.get? entrypointName with
  | none => reject ("script must define a '" ++ entrypointName ++ "' entrypoint")
  | some entrypoint =>
    let ir ← cutOff (follow pyd ctx entrypoint) stop (depth + 1) .entry
    validateIr (host.lowering pyd) ir
    return ir

end Orcheo.Graph
