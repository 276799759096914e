import Orcheo.Defs.Graph.References

/-! The compiler asks for the results of references one after another, and its results are what
one step makes of them. -/

namespace Orcheo.Graph

open Lib (Dict Results Sequential)
open Lib.Sequential (const)

section Fixed

theorem room_push {names stack : List String} {name : String} (distinct : names.Nodup)
    (mem : name ∈ names) (fresh : name ∉ stack) :
    room names stack = room names (stack ++ [name]) + 1 := by
  induction names with
  | nil => cases mem
  | cons first names ih =>
    obtain ⟨absent, distinct⟩ := List.nodup_cons.mp distinct
    unfold room at ih ⊢
    rw [List.filter_cons, List.filter_cons]
    rcases List.mem_cons.mp mem with rfl | later
    · have others : names.filter (· ∉ stack ++ [name]) = names.filter (· ∉ stack) := by
        refine List.filter_congr fun other there => ?_
        have : other ≠ name := fun same => absent (same ▸ there)
        simp [this]
      rw [others]
      simp [fresh]
    · have apart : first ≠ name := fun same => absent (same ▸ later)
      have kept : decide (first ∉ stack ++ [name]) = decide (first ∉ stack) := by simp [apart]
      rw [kept]
      split
      · rw [List.length_cons, List.length_cons, ih distinct later]
      · exact ih distinct later

theorem withSchemas_self (ctx : CompileContext) :
    ctx.withSchemas ctx.host.schemaJsonSchema = ctx := rfl

variable (host : Host)

theorem fieldDefault_lowering (pyd : Pydantic) :
    fieldDefaultFromAst (host.lowering pyd) = fieldDefaultFromAst host := rfl

variable {pyd : Pydantic} (classes : List ClassDef)

theorem modelFields_lowering
    (build : String → Checked pyd.Model) (members : List (String × Expr × Option Expr))
    (fields : List (String × FieldType pyd.Model × FieldDefault)) :
    pyd.modelFields (host.lowering pyd) classes build members fields =
      pyd.modelFields host classes build members fields := by
  induction members generalizing fields with
  | nil => rfl
  | cons member members ih =>
    rw [Pydantic.modelFields, Pydantic.modelFields, fieldDefault_lowering]
    exact congrArg _ (funext fun type => congrArg _ (funext fun default => ih _))

theorem createdModel_lowering (build : String → Checked pyd.Model) (c : ClassDef) :
    pyd.createdModel (host.lowering pyd) classes build c = pyd.createdModel host classes build c := by
  rw [Pydantic.createdModel, modelFields_lowering]
  rfl

theorem buildModel_lowering (n : Nat) (stack : List String) (name : String) :
    pyd.buildModel (host.lowering pyd) classes n stack name =
      pyd.buildModel host classes n stack name := by
  induction n generalizing stack name with
  | zero => rw [Pydantic.buildModel, Pydantic.buildModel]
  | succ n ih =>
    rw [Pydantic.buildModel, Pydantic.buildModel]
    cases classes.find? (fun c => c.name = name) with
    | none => rfl
    | some c =>
      dsimp only
      rw [createdModel_lowering, funext fun d => ih (stack ++ [name]) d]

variable {ctx : CompileContext} {entrypoint : GraphBuilder}

theorem follow_graph (graphs : Dict String Workflow) (path : List String) (name : String) :
    graphToIr pyd (results pyd ctx entrypoint) graphs path name =
      workflowToIr graphs (maxGraphDepth - path.length) path name := by
  unfold graphToIr
  by_cases deep : maxGraphDepth ≤ path.length
  · rw [if_pos deep, Nat.sub_eq_zero_of_le deep]
    rfl
  · have level : maxGraphDepth - path.length = maxGraphDepth - (path ++ [name]).length + 1 := by
      rw [List.length_append, List.length_singleton]
      omega
    rw [if_neg deep, level, workflowToIr]
    rfl

variable {host : Host}

section

variable (hosted : ctx.host = host.lowering pyd)
include hosted

theorem schemaOf_results :
    schemaOf pyd (results pyd ctx entrypoint) = ctx.host.schemaJsonSchema := by
  funext name classes
  rw [hosted]
  change (pyd.buildModel ctx.host classes _ [] name >>= _) =
    (pyd.buildModel host classes _ [] name >>= _)
  rw [hosted, buildModel_lowering]

theorem builderToIr_results (stack : List String) (builder : GraphBuilder) :
    builderToIr pyd ctx (results pyd ctx entrypoint) stack builder =
      interpretGraphBuilder ctx
        (helperGraphIr ctx (room ctx.graphBuilders.keys stack) stack) builder >>=
          fun r => workflowToIr r.2 maxGraphDepth [] r.1 := by
  unfold builderToIr
  rw [schemaOf_results hosted, withSchemas_self]
  exact congrArg _ (funext fun r => follow_graph r.2 [] r.1)

theorem follow_results (k : Reference) :
    follow pyd ctx entrypoint (results pyd ctx entrypoint) k = results pyd ctx entrypoint k := by
  cases k with
  | entry =>
    have all : room ctx.graphBuilders.keys [] = ctx.graphBuilders.keys.length := by simp [room]
    rw [follow, builderToIr_results hosted, all]
    rfl
  | graph graphs path name => exact follow_graph graphs path name
  | helper stack name =>
    rw [follow, results, helperGraphIr]
    cases found : ctx.graphBuilders.get? name with
    | none => rfl
    | some builder =>
      dsimp only
      by_cases progress : name ∈ stack
      · rw [if_pos progress, if_pos progress]
      · have known := (ctx.graphBuilders.mem_keys_iff name).mpr ⟨builder, found⟩
        have space : room ctx.graphBuilders.keys stack = _ :=
          room_push ctx.graphBuilders.nodup known progress
        rw [if_neg progress, if_neg progress, builderToIr_results hosted, space]
  | schema classes stack name =>
    rw [follow, results, Pydantic.buildModel]
    cases found : classes.find? (fun c => c.name = name) with
    | none => rfl
    | some c =>
      dsimp only
      by_cases progress : name ∈ stack
      · rw [if_pos progress, if_pos progress]
      · have known : name ∈ (classes.map ClassDef.name).dedup := by
          have same : c.name = name := by simpa using List.find?_some found
          rw [List.mem_dedup, ← same]
          exact List.mem_map_of_mem (List.mem_of_find?_eq_some found)
        rw [if_neg progress, if_neg progress, room_push (List.nodup_dedup _) known progress]
        rfl

end

end Fixed

section Schemas

variable {K : Type} {A : K → Type} {pyd : Pydantic}
  {build : String → Results A GraphError → Checked pyd.Model}
  (builds : ∀ name, Sequential (build name))

include builds

theorem sequential_fieldType (classes : List ClassDef) (ann : Annotation) :
    Sequential (fun H => pyd.annotationFromAst classes (fun d => build d H) ann) := by
  induction ann with
  | name id =>
    simp only [Pydantic.annotationFromAst]
    repeat' split
    all_goals first | exact const _ | exact (builds id).map FieldType.model
  | none => exact const _
  | union left right left' right' => exact left'.bind fun l => right'.map (FieldType.union l)
  | list item item' => exact item'.map FieldType.list
  | dict key value key' value' => exact key'.bind fun k => value'.map (FieldType.dict k)
  | literal values => exact const _
  | unsupported base =>
    cases base with
    | none => exact const _
    | some base => exact const _

theorem sequential_fields (host : Host) (classes : List ClassDef)
    (members : List (String × Expr × Option Expr))
    (fields : List (String × FieldType pyd.Model × FieldDefault)) :
    Sequential (fun H => pyd.modelFields host classes (fun d => build d H) members fields) := by
  induction members generalizing fields with
  | nil => exact const _
  | cons member members ih =>
    exact (sequential_fieldType builds classes _).bind fun type =>
      (const _).bind fun default => ih _

theorem sequential_model (host : Host) (classes : List ClassDef) (c : ClassDef) :
    Sequential (fun H => pyd.createdModel host classes (fun d => build d H) c) :=
  (sequential_fields builds host classes _ _).bind fun fields => by
    cases pyd.createModel c.name fields with
    | none => exact const _
    | some model => exact const _

end Schemas

section Builders

variable {K : Type} {A : K → Type} (ctx : CompileContext)
  {schemas : String → List ClassDef → Results A GraphError → Checked Value}
  {helper : String → Results A GraphError → Checked GraphIR}
  (schemaAsks : ∀ name classes, Sequential (schemas name classes))
  (helperAsks : ∀ name, Sequential (helper name))

def CompileContext.asking (ctx : CompileContext)
    (schemas : String → List ClassDef → Results A GraphError → Checked Value)
    (H : Results A GraphError) : CompileContext :=
  ctx.withSchemas fun name classes => schemas name classes H

include schemaAsks

theorem sequential_schemaOrLiteral (e : Expr) :
    Sequential (fun H => schemaOrLiteralFromAst (ctx.asking schemas H) e) := by
  cases e with
  | name id =>
    by_cases declared : ctx.schemaClasses.contains id = true
    · exact (schemaAsks id ctx.schemaClasses.values).congr fun H => if_pos declared
    · exact (const (schemaOrLiteralFromAst ctx (.name id))).congr fun H =>
        (if_neg declared).trans (if_neg declared).symm
  | _ => exact const _

theorem sequential_builtinValue (nodeId key : String) (e : Expr) :
    Sequential (fun H => builtinValue (ctx.asking schemas H) nodeId key e) :=
  Sequential.ite (sequential_schemaOrLiteral ctx schemaAsks e)
    (const (configValueFromAst (importedModelRef ctx) true _ e))

omit schemaAsks
include helperAsks

variable (graphs : List String)

theorem sequential_graphRef (e : Expr) :
    Sequential (fun H => workflowToolGraphRef ctx (fun f => helper f H) graphs e) := by
  refine (const (resolveGraphRefExpr graphs e)).bind fun found => ?_
  cases found with
  | some g => exact const _
  | none =>
    cases e with
    | call func args keywords =>
      cases func with
      | name f =>
        exact Sequential.ite (Sequential.ite ((helperAsks f).map GraphRef.helper)
          (const _)) (const _)
      | _ => exact const _
    | _ => exact const _

include schemaAsks

theorem sequential_workflowTool (e : Expr) :
    Sequential (fun H =>
      workflowToolFromAst (ctx.asking schemas H) (fun f => helper f H) graphs e) := by
  refine (const (workflowToolKwargs e)).bind fun kwargs => ?_
  refine (const (requiredKwarg kwargs "name")).bind fun name => ?_
  refine (const (asString _ name)).bind fun name => ?_
  refine (const (requiredKwarg kwargs "description")).bind fun description => ?_
  refine (const (asString _ description)).bind fun description => ?_
  refine (const (requiredKwarg kwargs "graph")).bind fun graph => ?_
  refine (sequential_graphRef ctx helperAsks graphs graph).bind fun graphRef => ?_
  refine (const (optionalKwarg kwargs _ _ _)).bind fun outputPath => ?_
  refine Sequential.bind ?_ fun argsSchema => ?_
  · cases given : Dict.lookup "args_schema" kwargs with
    | none =>
      refine (const (.ok none)).congr fun H => ?_
      unfold optionalKwarg
      rw [given]
    | some schema =>
      refine (Sequential.ite (p := isNone schema = true) (const (.ok none))
        ((sequential_schemaOrLiteral ctx schemaAsks schema).map some)).congr fun H => ?_
      unfold optionalKwarg
      rw [given]
      rfl
  · exact (const (optionalKwarg kwargs _ _ _)).map fun returnDirect => _

theorem sequential_workflowTools (e : Expr) :
    Sequential (fun H =>
      workflowToolsFromAst (ctx.asking schemas H) (fun f => helper f H) graphs e) := by
  cases e with
  | list elts => exact Sequential.mapM (sequential_workflowTool ctx schemaAsks helperAsks graphs) elts
  | tuple elts => exact Sequential.mapM (sequential_workflowTool ctx schemaAsks helperAsks graphs) elts
  | _ => exact const _

theorem sequential_builtinEntry (nodeId key : String) (e : Expr) :
    Sequential (fun H =>
      builtinEntry (ctx.asking schemas H) (fun f => helper f H) graphs nodeId key e) :=
  Sequential.ite ((sequential_workflowTools ctx schemaAsks helperAsks graphs e).map ConfigEntry.tools)
    ((sequential_builtinValue ctx schemaAsks nodeId key e).map ConfigEntry.value)

omit schemaAsks helperAsks in
theorem sequential_config {α : Type} {nodeId : String}
    {lift : String → Expr → Results A GraphError → Checked α}
    (lifts : ∀ key e, Sequential (lift key e)) (keywords : List (Option String × Expr))
    (config : List (String × α)) :
    Sequential (fun H => configFromKwargs nodeId (fun key e => lift key e H) keywords config) := by
  induction keywords generalizing config with
  | nil => exact const _
  | cons keyword keywords ih =>
    obtain ⟨key, e⟩ := keyword
    cases key with
    | none => exact const _
    | some key => exact Sequential.ite (ih config) ((lifts key e).bind fun v => ih _)

theorem sequential_builtinSpec (nodeId className : String)
    (keywords : List (Option String × Expr)) :
    Sequential (fun H =>
      buildBuiltinSpec (ctx.asking schemas H) (fun f => helper f H) graphs nodeId className
        keywords) := by
  refine (const (require (ctx.host.registered className) _)).bind fun _ => ?_
  have configured : Sequential (fun H => configFromKwargs nodeId
      (fun key e => builtinEntry (ctx.asking schemas H) (fun f => helper f H) graphs nodeId key e)
      keywords [] >>= fun config => .ok (NodeEntry.builtin nodeId className config)) :=
    (sequential_config (sequential_builtinEntry ctx schemaAsks helperAsks graphs nodeId)
      keywords []).map _
  exact Sequential.ite (p := ctx.enforceNodePolicy = true)
    ((const (checkNodeTypeAllowed ctx.host className nodeId)).bind fun _ => configured)
    configured

theorem sequential_constructed (nodeId : String) (e : Expr) :
    Sequential (fun H =>
      constructedNode (ctx.asking schemas H) (fun f => helper f H) graphs nodeId e) := by
  cases e with
  | call func args keywords =>
    cases func with
    | name className =>
      refine (const (require args.isEmpty _)).bind fun _ => ?_
      cases found : ctx.codeClasses.get? className with
      | none =>
        refine (sequential_builtinSpec ctx schemaAsks helperAsks graphs nodeId className
          keywords).congr fun H => ?_
        have there : (ctx.asking schemas H).codeClasses.get? className = _ := found
        rw [there]
      | some codeClass =>
        refine ((const (buildCodeSpec ctx nodeId keywords codeClass)).map
          NodeEntry.code).congr fun H => ?_
        have there : (ctx.asking schemas H).codeClasses.get? className = _ := found
        rw [there]
        rfl
    | _ => exact const _
  | _ => exact const _

theorem sequential_nodeEntry (nodeId : String) (e : Expr) :
    Sequential (fun H => nodeEntry (ctx.asking schemas H) (fun f => helper f H) graphs nodeId e) := by
  refine (const (resolveGraphRefExpr graphs e)).bind fun found => ?_
  cases found with
  | some g => exact const _
  | none => exact sequential_constructed ctx schemaAsks helperAsks graphs nodeId e

variable (scope : Scope)

theorem sequential_addNode (workflow : Workflow) (args : List Expr) :
    Sequential (fun H =>
      interpretAddNode (ctx.asking schemas H) (fun f => helper f H) scope workflow args) := by
  refine (const (resolveAddNodeArgs scope.nodeAssignments args)).bind fun target => ?_
  refine (const (require (target.1 ∉ workflow.seenIds) _)).bind fun _ => ?_
  exact (sequential_nodeEntry ctx schemaAsks helperAsks scope.graphs.keys target.1 target.2).map _

theorem sequential_method (workflow : Workflow) (method : String) (args : List Expr) :
    Sequential (fun H =>
      interpretMethod (ctx.asking schemas H) (fun f => helper f H) scope workflow method args) := by
  unfold interpretMethod
  split
  · exact sequential_addNode ctx schemaAsks helperAsks scope workflow args
  all_goals exact const _

theorem sequential_graphCall (func : Expr) (args : List Expr) :
    Sequential (fun H =>
      interpretGraphCall (ctx.asking schemas H) (fun f => helper f H) scope func args) := by
  unfold interpretGraphCall
  split
  · split
    · exact const _
    · exact (sequential_method ctx schemaAsks helperAsks scope _ _ args).map _
  · exact const _

theorem sequential_stmt (stmt : Stmt) :
    Sequential (fun H => interpretStmt (ctx.asking schemas H) (fun f => helper f H) scope stmt) := by
  unfold interpretStmt
  split
  · exact const _
  · exact const _
  · exact sequential_graphCall ctx schemaAsks helperAsks scope _ _
  · exact const _

theorem sequential_body (body : List Stmt) (scope : Scope) :
    Sequential (fun H => interpretBody (ctx.asking schemas H) (fun f => helper f H) body scope) := by
  induction body generalizing scope with
  | nil => exact const _
  | cons stmt body ih =>
    cases stmt with
    | ret value => exact const _
    | _ => exact (sequential_stmt ctx schemaAsks helperAsks scope _).bind fun scope => ih scope

theorem sequential_builder (builder : GraphBuilder) :
    Sequential (fun H =>
      interpretGraphBuilder (ctx.asking schemas H) (fun f => helper f H) builder) := by
  refine (sequential_body ctx schemaAsks helperAsks builder.body {}).bind fun assembled => ?_
  exact const _

end Builders

section Graphs

variable {K : Type} {A : K → Type} {toIr : String → Results A GraphError → Checked GraphIR}
  (graphAsks : ∀ g, Sequential (toIr g))

include graphAsks

theorem sequential_tool (ref : WorkflowToolRef) :
    Sequential (fun H => ref.resolve (fun g => toIr g H)) := by
  obtain ⟨name, description, g | ir, argsSchema, outputPath, returnDirect⟩ := ref
  · exact (graphAsks g).map _
  · exact const _

theorem sequential_configEntry (entry : ConfigEntry) :
    Sequential (fun H => resolveConfigGraphRefs (fun g => toIr g H) entry) := by
  cases entry with
  | value v => exact const _
  | tools refs => exact (Sequential.mapM (sequential_tool graphAsks) refs).map Value.list

theorem sequential_entry (entry : NodeEntry) :
    Sequential (fun H => resolveEntry (fun g => toIr g H) entry) := by
  cases entry with
  | builtin nodeId type config =>
    refine Sequential.map (Sequential.mapM (fun e => ?_) config) fun config => _
    exact (sequential_configEntry graphAsks e.2).map (Prod.mk e.1)
  | code spec => exact const _
  | subgraph nodeId g => exact (graphAsks g).map (NodeSpecOf.subgraph nodeId)

end Graphs

section Follow

variable {pyd : Pydantic}

theorem sequential_graphToIr (graphs : Dict String Workflow) (path : List String) (name : String) :
    Sequential (fun H => graphToIr pyd H graphs path name) := by
  unfold graphToIr
  refine Sequential.ite (const _) (Sequential.ite (const _) ?_)
  cases graphs.get? name with
  | none => exact const _
  | some workflow =>
    refine (Sequential.mapM (fun entry => ?_) workflow.nodes).bind fun nodes => const _
    exact sequential_entry (fun g => Sequential.ask (Reference.graph graphs (path ++ [name]) g)) entry

theorem sequential_schemaOf (name : String) (classes : List ClassDef) :
    Sequential (fun H => schemaOf pyd H name classes) :=
  (Sequential.ask (Reference.schema classes [] name)).bind fun model =>
    const (pyd.loweredModel name model)

theorem sequential_builderToIr (ctx : CompileContext) (stack : List String)
    (builder : GraphBuilder) : Sequential (fun H => builderToIr pyd ctx H stack builder) :=
  (sequential_builder ctx sequential_schemaOf (fun f => Sequential.ask (Reference.helper stack f))
    builder).bind fun r => sequential_graphToIr r.2 [] r.1

theorem sequential_follow (ctx : CompileContext) (entrypoint : GraphBuilder) (k : Reference) :
    Sequential (fun H => follow pyd ctx entrypoint H k) := by
  cases k with
  | entry => exact sequential_builderToIr ctx [] entrypoint
  | graph graphs path name => exact sequential_graphToIr graphs path name
  | helper stack name =>
    simp only [follow]
    cases ctx.graphBuilders.get? name with
    | none => exact const _
    | some builder =>
      exact Sequential.ite (const _) (sequential_builderToIr ctx _ builder)
  | schema classes stack name =>
    simp only [follow]
    cases classes.find? (fun c => c.name = name) with
    | none => exact const _
    | some c =>
      refine Sequential.ite (const _) ?_
      exact sequential_model (fun d => Sequential.ask (Reference.schema classes (stack ++ [name]) d))
        ctx.host classes c

end Follow

end Orcheo.Graph
