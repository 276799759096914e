import Orcheo.Defs.Graph.NodePolicy
import Orcheo.Defs.Graph.ReferenceLaws

/-! The depth of `MAX_GRAPH_DEPTH` bounds the references that the compiler follows where no chain
of them is longer. -/

namespace Orcheo.Graph

open Lib (Results Asks Chain cutOff cutOff_iff cutOff_chain error_bind ok_bind)

def Refers (pyd : Pydantic) (ctx : CompileContext) (entrypoint : GraphBuilder)
    (k k' : Reference) : Prop :=
  Asks (fun H => follow pyd ctx entrypoint H k) (results pyd ctx entrypoint) k'

variable {pyd : Pydantic} {stop : Results (Reference.Result pyd) GraphError} {host : Host}
  {source : String} {m : Module} {enforceNodePolicy : Bool} {ctx : CompileContext}
  {entrypoint : GraphBuilder}

theorem results_of_context
    (context : compileContext (host.lowering pyd) source m enforceNodePolicy = .ok ctx)
    (entrypoint : GraphBuilder) (k : Reference) :
    follow pyd ctx entrypoint (results pyd ctx entrypoint) k = results pyd ctx entrypoint k :=
  follow_results (compileContext_ok context).1 k

theorem compileTo_entry (grammatical : validateGrammar (host.lowering pyd) m = .ok ())
    (context : compileContext (host.lowering pyd) source m enforceNodePolicy = .ok ctx)
    (found : ctx.graphBuilders.get? entrypointName = some entrypoint) (depth : Nat) :
    compileTo pyd stop depth host source m enforceNodePolicy =
      cutOff (follow pyd ctx entrypoint) stop (depth + 1) .entry >>= fun ir =>
        validateIr (host.lowering pyd) ir >>= fun _ => .ok ir := by
  unfold compileTo
  rw [grammatical, ok_bind, context, ok_bind, found]
  rfl

theorem compileWorkflowToIr_entry (grammatical : validateGrammar (host.lowering pyd) m = .ok ())
    (context : compileContext (host.lowering pyd) source m enforceNodePolicy = .ok ctx)
    (found : ctx.graphBuilders.get? entrypointName = some entrypoint) :
    compileWorkflowToIr (host.lowering pyd) source m enforceNodePolicy =
      results pyd ctx entrypoint .entry >>= fun ir =>
        validateIr (host.lowering pyd) ir >>= fun _ => .ok ir := by
  unfold compileWorkflowToIr
  rw [grammatical, ok_bind, context, ok_bind, found]
  rfl

theorem compileTo_rejected (depth : Nat)
    (rejected : ¬ ∃ ctx entrypoint, validateGrammar (host.lowering pyd) m = .ok () ∧
      compileContext (host.lowering pyd) source m enforceNodePolicy = .ok ctx ∧
      ctx.graphBuilders.get? entrypointName = some entrypoint) :
    compileTo pyd stop depth host source m enforceNodePolicy =
      compileWorkflowToIr (host.lowering pyd) source m enforceNodePolicy := by
  unfold compileTo compileWorkflowToIr
  cases grammatical : validateGrammar (host.lowering pyd) m with
  | error e => rw [error_bind, error_bind]
  | ok _ =>
    rw [ok_bind, ok_bind]
    cases context : compileContext (host.lowering pyd) source m enforceNodePolicy with
    | error e => rw [error_bind, error_bind]
    | ok ctx =>
      rw [ok_bind, ok_bind]
      cases found : ctx.graphBuilders.get? entrypointName with
      | none => rfl
      | some entrypoint => exact absurd ⟨ctx, entrypoint, grammatical, context, found⟩ rejected

def titledModels : Pydantic where
  Model := Value
  annotated
    | .name id => .name id
    | _ => .unsupported none
  createModel name _ := some (.dict [("title", .str name), ("type", .str "object")])
  modelJsonSchema := some

def valueClass (name : String) (ann : Expr) : ClassDef where
  name := name
  bases := [.name schemaBase]
  body := [.annAssign (.name "value") ann none]

def schemaChain : List String → Module
  | [] => []
  | [name] => [.classDef (valueClass name (.name "str"))]
  | name :: next :: names =>
    .classDef (valueClass name (.name next)) :: schemaChain (next :: names)

def chainedModule : Module :=
  schemaChain ("abcdefghijklmnopqrstuvwxyzABCDEFG".toList.map Char.toString) ++
    agentModule [(some "response_format", .name "a")]

end Orcheo.Graph
