import Orcheo.Defs.Graph.InterpreterLaws
import Orcheo.Defs.Graph.ModelsLaws

/-! The graph that a builder compiles to, node by node. -/

namespace Orcheo.Graph

open Lib (Dict bind_ok_iff pure_ok_iff mapM_ok_iff forall₂_comp)

abbrev Keywords := List (Option String × Expr)

structure AddedNode where
  graphs : List String
  id : String
  expr : Expr

def Registration.added : Registration → Option AddedNode
  | ⟨graphs, .node id expr⟩ => some ⟨graphs, id, expr⟩
  | _ => none

def Registration.edge : Registration → Option EdgeSpec
  | ⟨_, .edge e⟩ => some e
  | _ => none

def Registration.conditionalEdge : Registration → Option ConditionalEdgeSpec
  | ⟨_, .conditionalEdge c⟩ => some c
  | _ => none

def Registration.entryPoint : Registration → Option String
  | ⟨_, .entryPoint id⟩ => some id
  | _ => none

def GraphBuilder.registrations (b : GraphBuilder) (g : String) : List Registration :=
  Graph.registrations g b.body {}

def GraphBuilder.added (b : GraphBuilder) (g : String) : List AddedNode :=
  (b.registrations g).filterMap Registration.added

def AddedNode.call (a : AddedNode) : Option (String × Keywords) :=
  match resolveGraphRefExpr a.graphs a.expr, a.expr with
  | .ok none, .call (.name className) _ keywords => some (className, keywords)
  | _, _ => none

def keywordDict : Keywords → Kwargs → Kwargs
  | [], kwargs => kwargs
  | (none, _) :: keywords, kwargs => keywordDict keywords kwargs
  | (some key, e) :: keywords, kwargs =>
    if key = "name" then keywordDict keywords kwargs
    else keywordDict keywords (Dict.insertEntry key e kwargs)

def Expr.elements? : Expr → Option (List Expr)
  | list elts | tuple elts => some elts
  | _ => none

def toolGraphExpr (e : Expr) : Option Expr :=
  match workflowToolKwargs e with
  | .ok kwargs => Dict.lookup "graph" kwargs
  | .error _ => none

variable (ctx : CompileContext)

/-- The builder and the graph that an expression of a builder names: one of its own graphs,
or the one that a helper builder returns. -/
def graphAt (b : GraphBuilder) (graphs : List String) (e : Expr) : Option (GraphBuilder × String) :=
  match resolveGraphRefExpr graphs e, e with
  | .ok (some g), _ => some (b, g)
  | .ok none, .call (.name f) _ _ => do
    let helper ← ctx.graphBuilders.get? f
    return (helper, ← returned helper.body)
  | _, _ => none

def literalEntry (nodeId : String) (entry : String × Expr) : Option (String × Value) :=
  if entry.1 = "workflow_tools" then none
  else (builtinValue ctx nodeId entry.1 entry.2).toOption.map (fun v => (entry.1, v))

def literalConfig (nodeId : String) (kwargs : Kwargs) : Config :=
  kwargs.filterMap (literalEntry ctx nodeId)

def toolExprsOf (entry : String × Expr) : List Expr :=
  if entry.1 = "workflow_tools" then (entry.2.elements?.getD []).filterMap toolGraphExpr else []

def toolExprs (kwargs : Kwargs) : List Expr := kwargs.flatMap toolExprsOf

def Compiles (b : GraphBuilder) (g : String) (ir : GraphIR) : Prop :=
  ∃ n stack root graphs levels path,
    interpretGraphBuilder ctx (helperGraphIr ctx n stack) b = .ok (root, graphs) ∧
      workflowToIr graphs levels path g = .ok ir

def ToolOf (b : GraphBuilder) (graphs : List String) (e : Expr) (v : Value) : Prop :=
  ∃ expr b' g ir, toolGraphExpr e = some expr ∧ graphAt ctx b graphs expr = some (b', g) ∧
    Compiles ctx b' g ir ∧ toolGraphs ctx.host v = [ir] ∧ ir.modelDump.depth < v.depth

def ToolsOf (b : GraphBuilder) (graphs : List String) (e : Expr) (v : Value) : Prop :=
  ∃ elts vs, e.elements? = some elts ∧ v = .list vs ∧
    List.Forall₂ (ToolOf ctx b graphs) elts vs

def EntryOf (b : GraphBuilder) (a : AddedNode) (key : String) (e : Expr) (v : Value) : Prop :=
  if key = "workflow_tools" then ToolsOf ctx b a.graphs e v
  else builtinValue ctx a.id key e = .ok v

inductive NodeOf (b : GraphBuilder) (a : AddedNode) : NodeSpec → Prop
  | subgraph {g : String} {ir : GraphIR} (names : resolveGraphRefExpr a.graphs a.expr = .ok (some g))
      (compiles : Compiles ctx b g ir) : NodeOf b a (.subgraph a.id ir)
  | code {className : String} {keywords : Keywords} {codeClass : CodeNodeClass}
      {spec : CodeNodeSpec} (call : a.call = some (className, keywords))
      (known : ctx.codeClasses.get? className = some codeClass)
      (built : buildCodeSpec ctx a.id keywords codeClass = .ok spec) : NodeOf b a (.code spec)
  | builtin {className : String} {keywords : Keywords} {config : Config}
      (call : a.call = some (className, keywords))
      (unknown : ctx.codeClasses.get? className = none)
      (allowed : ctx.enforceNodePolicy → restrictedModeRejectionReason ctx.host className = none)
      (entries : List.Forall₂ (fun x y => x.1 = y.1 ∧ EntryOf ctx b a x.1 x.2 y.2)
        (keywordDict keywords []) config) : NodeOf b a (.builtin ⟨a.id, className, config⟩)

variable {ctx}

theorem resolve_of_call {a : AddedNode} {call : String × Keywords} (h : a.call = some call) :
    resolveGraphRefExpr a.graphs a.expr = .ok none := by
  rw [AddedNode.call] at h
  split at h
  case h_1 found _ => exact found
  case h_2 => cases h

section Register

variable {helper : String → Checked GraphIR}

theorem register_ok {w w' : Workflow} {r : Registration}
    (h : w.register ctx helper r.graphs r.effect = .ok w') :
    (∃ new, w'.nodes = w.nodes ++ new ∧ List.Forall₂
      (fun a entry => nodeEntry ctx helper a.graphs a.id a.expr = .ok entry)
      r.added.toList new) ∧
    w'.edges = w.edges ++ r.edge.toList ∧
    w'.conditionalEdges = w.conditionalEdges ++ r.conditionalEdge.toList ∧
    w'.entryOverride = r.entryPoint.or w.entryOverride := by
  have same {α : Type} (xs : List α) : xs = xs ++ [] := (List.append_nil xs).symm
  obtain ⟨graphs, effect⟩ := r
  cases effect with
  | node id expr =>
    obtain ⟨_, _, h⟩ := bind_ok_iff.mp h
    obtain ⟨entry, he, h⟩ := bind_ok_iff.mp h
    cases h
    exact ⟨⟨[entry], rfl, .cons he .nil⟩, same _, same _, rfl⟩
  | edge e =>
    cases h
    exact ⟨⟨[], same _, .nil⟩, rfl, same _, rfl⟩
  | conditionalEdge c =>
    cases h
    exact ⟨⟨[], same _, .nil⟩, same _, rfl, rfl⟩
  | entryPoint id =>
    cases h
    exact ⟨⟨[], same _, .nil⟩, same _, same _, rfl⟩
  | nothing =>
    cases h
    exact ⟨⟨[], same _, .nil⟩, same _, same _, rfl⟩

theorem filterMap_cons_toList {α β : Type} (f : α → Option β) (x : α) (xs : List α) :
    (x :: xs).filterMap f = (f x).toList ++ xs.filterMap f := by
  cases h : f x <;> simp [h]

theorem registerAll_ok {w w' : Workflow} {rs : List Registration}
    (h : w.registerAll ctx helper rs = .ok w') :
    (∃ new, w'.nodes = w.nodes ++ new ∧ List.Forall₂
      (fun a entry => nodeEntry ctx helper a.graphs a.id a.expr = .ok entry)
      (rs.filterMap Registration.added) new) ∧
    w'.edges = w.edges ++ rs.filterMap Registration.edge ∧
    w'.conditionalEdges = w.conditionalEdges ++ rs.filterMap Registration.conditionalEdge ∧
    w'.entryOverride = (rs.filterMap Registration.entryPoint).getLast?.or w.entryOverride := by
  induction rs generalizing w with
  | nil =>
    cases h
    exact ⟨⟨[], (List.append_nil _).symm, .nil⟩, (List.append_nil _).symm,
      (List.append_nil _).symm, rfl⟩
  | cons r rs ih =>
    obtain ⟨w₁, first, rest⟩ := bind_ok_iff.mp h
    obtain ⟨⟨new, hn, hnew⟩, he, hc, ho⟩ := register_ok first
    obtain ⟨⟨more, hn', hmore⟩, he', hc', ho'⟩ := ih rest
    simp only [filterMap_cons_toList]
    refine ⟨⟨new ++ more, ?_, List.rel_append hnew hmore⟩, ?_, ?_, ?_⟩
    · rw [hn', hn, List.append_assoc]
    · rw [he', he, List.append_assoc]
    · rw [hc', hc, List.append_assoc]
    · rw [ho', ho, List.getLast?_append, Option.or_assoc]
      cases r.entryPoint <;> rfl

end Register

variable {helper : String → Checked GraphIR}

theorem interpretGraphBuilder_ok {b : GraphBuilder} {root : String} {graphs : Dict String Workflow}
    (h : interpretGraphBuilder ctx helper b = .ok (root, graphs)) :
    returned b.body = some root ∧ ∀ g w, graphs.get? g = some w →
      Workflow.registerAll ctx helper {} (b.registrations g) = .ok w := by
  obtain ⟨⟨scope, name⟩, hb, h⟩ := bind_ok_iff.mp h
  cases name with
  | none => cases h
  | some name =>
    obtain ⟨_, _, h⟩ := bind_ok_iff.mp h
    cases h
    refine ⟨interpretBody_returned hb, ?_⟩
    intro g w hw
    have registered := interpretBody_graph g hb
    rw [hw] at registered
    exact registered

variable {ir : GraphIR}

theorem helperGraphIr_ok {n : Nat} {stack : List String} {f : String}
    (h : helperGraphIr ctx n stack f = .ok ir) :
    ∃ b g, ctx.graphBuilders.get? f = some b ∧ returned b.body = some g ∧
      Compiles ctx b g ir := by
  unfold helperGraphIr at h
  split at h
  · cases h
  case h_2 b hb =>
    split at h
    · cases h
    · cases n with
      | zero => cases h
      | succ n =>
        obtain ⟨⟨root, graphs⟩, hi, h⟩ := bind_ok_iff.mp h
        exact ⟨b, root, hb, (interpretGraphBuilder_ok hi).1, n, _, root, graphs, _, _, hi, h⟩

theorem workflowToIr_ok {graphs : Dict String Workflow} {levels : Nat} {path : List String}
    {g : String} (h : workflowToIr graphs levels path g = .ok ir) :
    ∃ levels' w entry nodes, graphs.get? g = some w ∧ resolveEntrypointName w = .ok entry ∧
      List.Forall₂ (fun e spec => resolveEntry (workflowToIr graphs levels' (path ++ [g])) e =
        .ok spec) w.nodes nodes ∧
      ir = .mk currentSchemaVersion defaultStateRef entry nodes w.edges w.conditionalEdges := by
  cases levels with
  | zero => cases h
  | succ levels =>
    unfold workflowToIr at h
    split at h
    · cases h
    · split at h
      · cases h
      case h_2 w hw =>
        obtain ⟨nodes, hn, h⟩ := bind_ok_iff.mp h
        obtain ⟨entry, he, h⟩ := bind_ok_iff.mp h
        exact ⟨levels, w, entry, nodes, hw, he, mapM_ok_iff.mp hn, (pure_ok_iff.mp h).symm⟩

theorem configFromKwargs_ok {α : Type} {nodeId : String} {lift : String → Expr → Checked α}
    {keywords : Keywords} {kwargs : Kwargs} {config config' : List (String × α)}
    (start : List.Forall₂ (fun x y => x.1 = y.1 ∧ lift x.1 x.2 = .ok y.2) kwargs config)
    (h : configFromKwargs nodeId lift keywords config = .ok config') :
    List.Forall₂ (fun x y => x.1 = y.1 ∧ lift x.1 x.2 = .ok y.2)
      (keywordDict keywords kwargs) config' := by
  fun_induction keywordDict keywords kwargs generalizing config with
  | case1 =>
    cases h
    exact start
  | case2 => cases h
  | case3 e keywords kwargs ih =>
    rw [configFromKwargs, if_pos rfl] at h
    exact ih start h
  | case4 key e keywords kwargs other ih =>
    rw [configFromKwargs, if_neg other] at h
    obtain ⟨v, hv, h⟩ := bind_ok_iff.mp h
    exact ih (Dict.forall₂_insertEntry (R := fun key e v => lift key e = .ok v) hv start) h

theorem toolGraphs_tool {host : Host} (name description : String) (ir : GraphIR)
    (rest : List (String × Value)) :
    toolGraphs host (.dict ((irConfigKindKey, .str workflowToolConfigKind) ::
      ("name", .str name) :: ("description", .str description) :: ("graph", ir.modelDump) ::
      rest)) = [ir] := by
  have back := modelValidate_dump host.numbers ir
  cases ir with
  | mk =>
    simp only [GraphIR.modelDump] at back ⊢
    simp [toolGraphs, toolGraph, Value.get?, Dict.lookup, irConfigKindKey, back]

theorem depth_tool (name description : String) (ir : GraphIR) (rest : List (String × Value)) :
    ir.modelDump.depth < (Value.dict ((irConfigKindKey, .str workflowToolConfigKind) ::
      ("name", .str name) :: ("description", .str description) :: ("graph", ir.modelDump) ::
      rest)).depth := by
  simp only [Value.depth, depthEntries]
  omega

def WorkflowToolRef.value (ref : WorkflowToolRef) (graph : GraphIR) : Value :=
  .dict ([(irConfigKindKey, .str workflowToolConfigKind), ("name", .str ref.name),
    ("description", .str ref.description), ("graph", graph.modelDump),
    ("output_path", optionalStr ref.outputPath), ("return_direct", .bool ref.returnDirect)] ++
    (ref.argsSchema.map (fun schema => ("args_schema", schema))).toList)

theorem resolve_value {toIr : String → Checked GraphIR} {ref : WorkflowToolRef} {v : Value}
    (h : ref.resolve toIr = .ok v) :
    ∃ ir, (match ref.graphRef with
      | .variable g => toIr g
      | .helper ir => pure ir) = .ok ir ∧ v = ref.value ir := by
  obtain ⟨name, description, graphRef, argsSchema, outputPath, returnDirect⟩ := ref
  cases graphRef with
  | «variable» g =>
    obtain ⟨ir, hir, h⟩ := bind_ok_iff.mp h
    cases h
    exact ⟨ir, hir, rfl⟩
  | helper ir =>
    cases h
    exact ⟨ir, rfl, rfl⟩

theorem workflowToolFromAst_ok {graphs : List String} {e : Expr}
    {ref : WorkflowToolRef} (h : workflowToolFromAst ctx helper graphs e = .ok ref) :
    ∃ expr, toolGraphExpr e = some expr ∧
      workflowToolGraphRef ctx helper graphs expr = .ok ref.graphRef := by
  obtain ⟨kwargs, hk, h⟩ := bind_ok_iff.mp h
  obtain ⟨_, _, h⟩ := bind_ok_iff.mp h
  obtain ⟨_, _, h⟩ := bind_ok_iff.mp h
  obtain ⟨_, _, h⟩ := bind_ok_iff.mp h
  obtain ⟨_, _, h⟩ := bind_ok_iff.mp h
  obtain ⟨expr, he, h⟩ := bind_ok_iff.mp h
  obtain ⟨graphRef, hr, h⟩ := bind_ok_iff.mp h
  obtain ⟨_, _, h⟩ := bind_ok_iff.mp h
  obtain ⟨_, _, h⟩ := bind_ok_iff.mp h
  obtain ⟨_, _, h⟩ := bind_ok_iff.mp h
  cases pure_ok_iff.mp h
  refine ⟨expr, ?_, hr⟩
  rw [requiredKwarg] at he
  split at he
  case h_1 expr' found =>
    cases he
    simp only [toolGraphExpr, hk, found]
  · cases he

section Refs

variable {b : GraphBuilder} {n : Nat} {stack graphs : List String} {toIr : String → Checked GraphIR}

theorem workflowToolGraphRef_ok {e : Expr} {ref : GraphRef}
    (h : workflowToolGraphRef ctx (helperGraphIr ctx n stack) graphs e = .ok ref) :
    (∃ g, graphAt ctx b graphs e = some (b, g) ∧ ref = .variable g) ∨
    ∃ b' g ir, graphAt ctx b graphs e = some (b', g) ∧ Compiles ctx b' g ir ∧
      ref = .helper ir := by
  obtain ⟨name, hr, h⟩ := bind_ok_iff.mp h
  cases name with
  | some g =>
    cases h
    refine .inl ⟨g, ?_, rfl⟩
    simp only [graphAt, hr]
  | none =>
    dsimp only at h
    split at h
    case h_2 => cases h
    case h_1 f args keywords =>
      split at h
      case isFalse => cases h
      case isTrue =>
        split at h
        case isFalse => cases h
        case isTrue =>
          obtain ⟨ir, hir, h⟩ := bind_ok_iff.mp h
          cases h
          obtain ⟨b', g, hb, hg, compiles⟩ := helperGraphIr_ok hir
          refine .inr ⟨b', g, ir, ?_, compiles, rfl⟩
          simp [graphAt, hr, hb, hg]

theorem graphRef_compiles {e : Expr} {ref : GraphRef} {ir : GraphIR}
    (own : ∀ g ir, toIr g = .ok ir → Compiles ctx b g ir)
    (h : workflowToolGraphRef ctx (helperGraphIr ctx n stack) graphs e = .ok ref)
    (resolved : (match ref with | .variable g => toIr g | .helper ir => pure ir) = .ok ir) :
    ∃ b' g, graphAt ctx b graphs e = some (b', g) ∧ Compiles ctx b' g ir := by
  cases workflowToolGraphRef_ok (b := b) h with
  | inl found =>
    obtain ⟨g, at_, rfl⟩ := found
    exact ⟨b, g, at_, own g ir resolved⟩
  | inr found =>
    obtain ⟨b', g, ir', at_, compiles, rfl⟩ := found
    cases pure_ok_iff.mp resolved
    exact ⟨b', g, at_, compiles⟩

theorem toolOf_resolve {e : Expr} {ref : WorkflowToolRef} {v : Value}
    (own : ∀ g ir, toIr g = .ok ir → Compiles ctx b g ir)
    (h : workflowToolFromAst ctx (helperGraphIr ctx n stack) graphs e = .ok ref)
    (resolved : ref.resolve toIr = .ok v) : ToolOf ctx b graphs e v := by
  obtain ⟨expr, he, hr⟩ := workflowToolFromAst_ok h
  obtain ⟨ir, hir, rfl⟩ := resolve_value resolved
  obtain ⟨b', g, at_, compiles⟩ := graphRef_compiles own hr hir
  exact ⟨expr, b', g, ir, he, at_, compiles, toolGraphs_tool .., depth_tool ..⟩

theorem entryOf_resolve {a : AddedNode} {key : String} {e : Expr} {entry : ConfigEntry} {v : Value}
    (own : ∀ g ir, toIr g = .ok ir → Compiles ctx b g ir)
    (h : builtinEntry ctx (helperGraphIr ctx n stack) a.graphs a.id key e = .ok entry)
    (resolved : resolveConfigGraphRefs toIr entry = .ok v) : EntryOf ctx b a key e v := by
  rw [builtinEntry] at h
  rw [EntryOf]
  split at h
  case isFalse other =>
    obtain ⟨v', hv, h⟩ := bind_ok_iff.mp h
    cases pure_ok_iff.mp h
    cases resolved
    rwa [if_neg other]
  case isTrue tools =>
    obtain ⟨refs, hrefs, h⟩ := bind_ok_iff.mp h
    cases pure_ok_iff.mp h
    obtain ⟨vs, hvs, resolved⟩ := bind_ok_iff.mp resolved
    cases pure_ok_iff.mp resolved
    rw [if_pos tools]
    have each {elts : List Expr}
        (helts : elts.mapM (workflowToolFromAst ctx (helperGraphIr ctx n stack) a.graphs) =
          .ok refs) : List.Forall₂ (ToolOf ctx b a.graphs) elts vs := by
      apply (forall₂_comp (mapM_ok_iff.mp helts) (mapM_ok_iff.mp hvs)).imp
      rintro e v ⟨ref, hr, hv⟩
      exact toolOf_resolve own hr hv
    unfold workflowToolsFromAst at hrefs
    split at hrefs
    case h_1 elts => exact ⟨elts, vs, rfl, rfl, each hrefs⟩
    case h_2 elts => exact ⟨elts, vs, rfl, rfl, each hrefs⟩
    case h_3 => cases hrefs

theorem buildBuiltinSpec_ok {helper : String → Checked GraphIR} {nodeId className : String}
    {keywords : Keywords} {entry : NodeEntry}
    (h : buildBuiltinSpec ctx helper graphs nodeId className keywords = .ok entry) :
    (ctx.enforceNodePolicy → restrictedModeRejectionReason ctx.host className = none) ∧
    ∃ config, entry = .builtin nodeId className config ∧
      List.Forall₂ (fun x y => x.1 = y.1 ∧
        builtinEntry ctx helper graphs nodeId x.1 x.2 = .ok y.2) (keywordDict keywords []) config := by
  obtain ⟨_, _, h⟩ := bind_ok_iff.mp h
  dsimp only at h
  split at h
  case isTrue =>
    obtain ⟨_, policy, h⟩ := bind_ok_iff.mp h
    obtain ⟨config, hc, h⟩ := bind_ok_iff.mp h
    cases pure_ok_iff.mp h
    refine ⟨fun _ => ?_, config, rfl, configFromKwargs_ok .nil hc⟩
    rw [checkNodeTypeAllowed] at policy
    split at policy
    case h_1 permitted => exact permitted
    case h_2 => cases policy
  case isFalse free =>
    obtain ⟨config, hc, h⟩ := bind_ok_iff.mp h
    cases pure_ok_iff.mp h
    exact ⟨fun enforced => (free enforced).elim, config, rfl, configFromKwargs_ok .nil hc⟩

theorem nodeOf_resolve {a : AddedNode} {entry : NodeEntry} {spec : NodeSpec}
    (own : ∀ g ir, toIr g = .ok ir → Compiles ctx b g ir)
    (h : nodeEntry ctx (helperGraphIr ctx n stack) a.graphs a.id a.expr = .ok entry)
    (resolved : resolveEntry toIr entry = .ok spec) : NodeOf ctx b a spec := by
  obtain ⟨name, hr, h⟩ := bind_ok_iff.mp h
  cases name with
  | some g =>
    cases pure_ok_iff.mp h
    obtain ⟨ir, hir, resolved⟩ := bind_ok_iff.mp resolved
    cases pure_ok_iff.mp resolved
    exact .subgraph hr (own g ir hir)
  | none =>
    dsimp only at h
    unfold constructedNode at h
    split at h
    case h_1 className args keywords isCall =>
      obtain ⟨_, _, h⟩ := bind_ok_iff.mp h
      have call : a.call = some (className, keywords) := by
        rw [isCall] at hr
        simp only [AddedNode.call, isCall, hr]
      split at h
      case h_1 codeClass known =>
        obtain ⟨spec', built, h⟩ := bind_ok_iff.mp h
        cases pure_ok_iff.mp h
        cases resolved
        exact .code call known built
      case h_2 unknown =>
        obtain ⟨allowed, config, rfl, entries⟩ := buildBuiltinSpec_ok h
        obtain ⟨config', hc, resolved⟩ := bind_ok_iff.mp resolved
        cases pure_ok_iff.mp resolved
        refine .builtin call unknown allowed ?_
        apply (forall₂_comp entries (mapM_ok_iff.mp hc)).imp
        rintro x z ⟨y, ⟨hk, hy⟩, hz⟩
        obtain ⟨v, hv, hz⟩ := bind_ok_iff.mp hz
        cases pure_ok_iff.mp hz
        exact ⟨hk, entryOf_resolve own hy hv⟩
    case h_2 => cases h
    case h_3 => cases h

end Refs

variable {b : GraphBuilder}

theorem Compiles.entries {g : String} (h : Compiles ctx b g ir) :
    ∃ n stack toIr w, (∀ g ir, toIr g = .ok ir → Compiles ctx b g ir) ∧
      List.Forall₂ (fun a spec => ∃ entry,
        nodeEntry ctx (helperGraphIr ctx n stack) a.graphs a.id a.expr = .ok entry ∧
          resolveEntry toIr entry = .ok spec) (b.added g) ir.nodes ∧
      Workflow.registerAll ctx (helperGraphIr ctx n stack) {} (b.registrations g) = .ok w ∧
      resolveEntrypointName w = .ok ir.entrypoint ∧
      ir = .mk currentSchemaVersion defaultStateRef ir.entrypoint ir.nodes w.edges
        w.conditionalEdges := by
  obtain ⟨n, stack, root, graphs, levels, path, hi, hw⟩ := h
  obtain ⟨levels', w, entry, specs, hg, he, resolved, rfl⟩ := workflowToIr_ok hw
  have registered := (interpretGraphBuilder_ok hi).2 g w hg
  obtain ⟨⟨new, hn, entries⟩, _⟩ := registerAll_ok registered
  rw [List.nil_append] at hn
  rw [hn] at resolved
  exact ⟨n, stack, _, w, fun g' ir' h => ⟨n, stack, root, graphs, levels', _, hi, h⟩,
    forall₂_comp entries resolved, registered, he, rfl⟩

theorem Compiles.spec {g : String} (h : Compiles ctx b g ir) :
    List.Forall₂ (NodeOf ctx b) (b.added g) ir.nodes ∧
    ir.edges = (b.registrations g).filterMap Registration.edge ∧
    ir.conditionalEdges = (b.registrations g).filterMap Registration.conditionalEdge ∧
    ∃ w : Workflow, w.edges = ir.edges ∧
      w.entryOverride = ((b.registrations g).filterMap Registration.entryPoint).getLast? ∧
      resolveEntrypointName w = .ok ir.entrypoint := by
  obtain ⟨n, stack, toIr, w, own, entries, registered, entry, made⟩ := h.entries
  obtain ⟨_, hedges, hconds, hover⟩ := registerAll_ok registered
  rw [List.nil_append] at hedges hconds
  rw [Option.or_none] at hover
  have edges : ir.edges = w.edges := congrArg GraphIR.edges made
  have conditionalEdges : ir.conditionalEdges = w.conditionalEdges :=
    congrArg GraphIR.conditionalEdges made
  refine ⟨?_, edges.trans hedges, conditionalEdges.trans hconds, w, edges.symm, hover, entry⟩
  apply entries.imp
  rintro a spec ⟨entry, ha, hs⟩
  exact nodeOf_resolve own ha hs

theorem entryOf_literal {a : AddedNode} {entry : String × Expr} {v : Value}
    (h : entry.1 ≠ "workflow_tools")
    (lifted : EntryOf ctx b a entry.1 entry.2 v) :
    literalEntry ctx a.id entry = some (entry.1, v) := by
  rw [EntryOf, if_neg h] at lifted
  rw [literalEntry, if_neg h, lifted]
  rfl

section Compilation

variable {host : Host} {source : String} {m : Module} {enforce : Bool} {ir : GraphIR}

theorem compileContext_ok (h : compileContext host source m enforce = .ok ctx) :
    ctx.host = host ∧ ctx.enforceNodePolicy = enforce := by
  obtain ⟨classes, _, h⟩ := bind_ok_iff.mp h
  cases pure_ok_iff.mp h
  exact ⟨rfl, rfl⟩

theorem compileWorkflowToIr_ok (context : compileContext host source m enforce = .ok ctx)
    (h : compileWorkflowToIr host source m enforce = .ok ir) :
    ∃ b g, ctx.graphBuilders.get? entrypointName = some b ∧ returned b.body = some g ∧
      Compiles ctx b g ir := by
  obtain ⟨_, _, h⟩ := bind_ok_iff.mp h
  rw [context] at h
  obtain ⟨_, ⟨⟩, h⟩ := bind_ok_iff.mp h
  split at h
  case h_1 => cases h
  case h_2 b found =>
    obtain ⟨ir', compiled, h⟩ := bind_ok_iff.mp h
    obtain ⟨_, _, h⟩ := bind_ok_iff.mp h
    cases pure_ok_iff.mp h
    obtain ⟨⟨root, graphs⟩, interpreted, resolved⟩ := bind_ok_iff.mp compiled
    exact ⟨b, root, found, (interpretGraphBuilder_ok interpreted).1, _, _, root, graphs, _, _,
      interpreted, resolved⟩

end Compilation

end Orcheo.Graph
