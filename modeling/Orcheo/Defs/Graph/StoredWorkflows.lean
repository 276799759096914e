import Orcheo.Defs.Graph.NodePolicy
import Orcheo.Defs.Graph.Storage

/-! Which workflows come back from storage as they were compiled: those whose authors have written
nothing that JSON changes or refuses. -/

namespace Orcheo.Graph

open Lib (bind_ok_iff pure_ok_iff mapM_ok_iff forall₂_comp forall₂_exists_left forall₂_exists_right)

section Written

variable (ctx : CompileContext)

def toolSchema (e : Expr) : Option Value :=
  match workflowToolKwargs e with
  | .ok kwargs => (optionalKwarg kwargs "args_schema" none
      (noneOr (schemaOrLiteralFromAst ctx))).toOption.join
  | .error _ => none

def writtenEntry (nodeId : String) (entry : String × Expr) : List Value :=
  if entry.1 = "workflow_tools" then (entry.2.elements?.getD []).filterMap (toolSchema ctx)
  else (builtinValue ctx nodeId entry.1 entry.2).toOption.toList

def AddedNode.written (a : AddedNode) : List Value :=
  match a.call with
  | none => []
  | some (className, keywords) => match ctx.codeClasses.get? className with
    | some codeClass => (mergeConfig codeClass.defaults
        ((configFromKwargs a.id (codeValue a.id) keywords []).toOption.getD [])).map Prod.snd
    | none => (keywordDict keywords []).flatMap (writtenEntry ctx a.id)

def AddedNode.nested (b : GraphBuilder) (a : AddedNode) : List (GraphBuilder × String) :=
  match resolveGraphRefExpr a.graphs a.expr, a.builtinKwargs ctx with
  | .ok (some g), _ => [(b, g)]
  | _, some kwargs => (toolExprs kwargs).filterMap (graphAt ctx b a.graphs)
  | _, none => []

inductive Included : GraphBuilder → String → Prop
  | root {b : GraphBuilder} {g : String} (entry : ctx.graphBuilders.get? entrypointName = some b)
      (returns : returned b.body = some g) : Included b g
  | node {b b' : GraphBuilder} {g g' : String} {a : AddedNode} (included : Included b g)
      (added : a ∈ b.added g) (refers : (b', g') ∈ a.nested ctx b) : Included b' g'

def WrittenPlain (codec : JsonCodec) : Prop :=
  ∀ b g, Included ctx b g → ∀ a ∈ b.added g, ∀ v ∈ a.written ctx, codec.plain v = true

/-- A value below some depth is made of written values and of the graphs that are referred to:
it is plain if these are. -/
def Made (codec : JsonCodec) (depth : Nat) (written : List Value)
    (references : List (GraphBuilder × String)) (plain : Prop) : Prop :=
  ∃ irs, List.Forall₂ (fun r ir => Compiles ctx r.1 r.2 ir ∧ ir.modelDump.depth < depth)
      references irs ∧
    (plain ↔ (∀ w ∈ written, codec.plain w = true) ∧
      ∀ ir ∈ irs, codec.plain ir.modelDump = true)

end Written

variable {ctx : CompileContext} {codec : JsonCodec}

theorem plainItems_iff {xs : List Value} :
    codec.plainItems xs = true ↔ ∀ x ∈ xs, codec.plain x = true := by
  induction xs with
  | nil => simp [JsonCodec.plainItems]
  | cons x xs ih => simp [JsonCodec.plainItems, ih]

theorem plainEntries_iff {kvs : Config} :
    codec.plainEntries kvs = true ↔ ∀ v ∈ kvs.map Prod.snd, codec.plain v = true := by
  induction kvs with
  | nil => simp [JsonCodec.plainEntries]
  | cons e kvs ih => simp [JsonCodec.plainEntries, ih]

theorem plain_optionalStr (s : Option String) : codec.plain (optionalStr s) = true := by
  cases s <;> rfl

theorem plain_conditionalEdge (c : ConditionalEdgeSpec) : codec.plain c.modelDump = true := by
  have mapping : codec.plainEntries (c.mapping.map fun e => (e.1, .str e.2)) = true := by
    rw [plainEntries_iff]
    intro v member
    simp only [List.map_map, List.mem_map, Function.comp_apply] at member
    obtain ⟨e, _, rfl⟩ := member
    rfl
  simp [ConditionalEdgeSpec.modelDump, JsonCodec.plain, JsonCodec.plainEntries, mapping,
    plain_optionalStr]

theorem plain_strings (names : List String) : codec.plainItems (names.map .str) = true := by
  rw [plainItems_iff]
  intro v member
  obtain ⟨name, _, rfl⟩ := List.mem_map.mp member
  rfl

theorem plain_builtin (spec : BuiltinNodeSpec) :
    codec.plain (dumpNode (.builtin spec)) = codec.plainEntries spec.config := by
  simp [dumpNode, BuiltinNodeSpec.modelDump, JsonCodec.plain, JsonCodec.plainEntries]

theorem plain_code (spec : CodeNodeSpec) :
    codec.plain (dumpNode (.code spec)) = codec.plainEntries spec.config := by
  simp [dumpNode, CodeNodeSpec.modelDump, JsonCodec.plain, JsonCodec.plainEntries, plain_strings]

theorem plain_subgraph (id : String) (graph : GraphIR) :
    codec.plain (dumpNode (.subgraph id graph)) = codec.plain graph.modelDump := by
  simp [dumpNode, JsonCodec.plain, JsonCodec.plainEntries]

theorem converts_currentSchemaVersion : codec.converts currentSchemaVersion = true := by
  rw [JsonCodec.converts]
  cases limit : codec.maxDigits with
  | none => rfl
  | some digits =>
    have low := codec.threshold digits limit
    have one : (Nat.toDigits 10 currentSchemaVersion.natAbs).length = 1 := rfl
    simp only [one, decide_eq_true_eq]
    omega

theorem plain_graph (entrypoint : String) (nodes : List NodeSpec) (edges : List EdgeSpec)
    (conditionalEdges : List ConditionalEdgeSpec) :
    codec.plain (GraphIR.mk currentSchemaVersion defaultStateRef entrypoint nodes edges
      conditionalEdges).modelDump = true ↔ ∀ node ∈ nodes, codec.plain (dumpNode node) = true := by
  have wired : codec.plainItems (edges.map EdgeSpec.modelDump) = true := by
    rw [plainItems_iff]
    intro v member
    obtain ⟨e, _, rfl⟩ := List.mem_map.mp member
    rfl
  have branches : codec.plainItems (conditionalEdges.map ConditionalEdgeSpec.modelDump) = true := by
    rw [plainItems_iff]
    intro v member
    obtain ⟨c, _, rfl⟩ := List.mem_map.mp member
    exact plain_conditionalEdge c
  rw [← List.forall_mem_map (P := fun v => codec.plain v = true), ← dumpNodes_eq_map,
    ← plainItems_iff]
  simp [GraphIR.modelDump, JsonCodec.plain, JsonCodec.plainEntries, converts_currentSchemaVersion,
    wired, branches]

section Nodes

variable {b : GraphBuilder} {P Q : Prop} {depth depth' : Nat} {written : List Value}
  {references : List (GraphBuilder × String)}

theorem Made.imp (h : Made ctx codec depth written references P) (below : depth ≤ depth')
    (same : Q ↔ P) : Made ctx codec depth' written references Q := by
  obtain ⟨irs, compiled, plain⟩ := h
  refine ⟨irs, compiled.imp ?_, same.trans plain⟩
  rintro r ir ⟨compiles, lower⟩
  exact ⟨compiles, Nat.lt_of_lt_of_le lower below⟩

theorem made_of_written (same : P ↔ ∀ w ∈ written, codec.plain w = true) :
    Made ctx codec depth written [] P := ⟨[], .nil, by simpa using same⟩

theorem made_all {β : Type} {writtenOf : β → List Value}
    {referencesOf : β → List (GraphBuilder × String)} {xs : List β} {vs : List Value}
    (each : List.Forall₂ (fun x v =>
      Made ctx codec v.depth (writtenOf x) (referencesOf x) (codec.plain v = true)) xs vs)
    (below : ∀ v ∈ vs, v.depth ≤ depth) :
    Made ctx codec depth (xs.flatMap writtenOf) (xs.flatMap referencesOf)
      (∀ v ∈ vs, codec.plain v = true) := by
  induction each with
  | nil => exact made_of_written (by simp)
  | cons first _ ih =>
    obtain ⟨irs, compiled, plain⟩ := first.imp (below _ List.mem_cons_self) Iff.rfl
    obtain ⟨irs', compiled', plain'⟩ := ih fun v hv => below v (List.mem_cons_of_mem _ hv)
    refine ⟨irs ++ irs', List.rel_append compiled compiled', ?_⟩
    simp only [List.flatMap_cons, List.forall_mem_cons, List.forall_mem_append, plain, plain']
    tauto

variable {n : Nat} {stack graphs : List String} {toIr : String → Checked GraphIR}

theorem toolSchema_eq {helper : String → Checked GraphIR} {e : Expr} {ref : WorkflowToolRef}
    (h : workflowToolFromAst ctx helper graphs e = .ok ref) :
    toolSchema ctx e = ref.argsSchema := by
  obtain ⟨kwargs, hk, h⟩ := bind_ok_iff.mp h
  obtain ⟨_, _, h⟩ := bind_ok_iff.mp h
  obtain ⟨_, _, h⟩ := bind_ok_iff.mp h
  obtain ⟨_, _, h⟩ := bind_ok_iff.mp h
  obtain ⟨_, _, h⟩ := bind_ok_iff.mp h
  obtain ⟨_, _, h⟩ := bind_ok_iff.mp h
  obtain ⟨_, _, h⟩ := bind_ok_iff.mp h
  obtain ⟨_, _, h⟩ := bind_ok_iff.mp h
  obtain ⟨schema, hs, h⟩ := bind_ok_iff.mp h
  obtain ⟨_, _, h⟩ := bind_ok_iff.mp h
  cases pure_ok_iff.mp h
  simp only [toolSchema, hk, hs]
  rfl

theorem plain_tool (ref : WorkflowToolRef) (graph : GraphIR) :
    codec.plain (ref.value graph) = true ↔
      (∀ schema ∈ ref.argsSchema, codec.plain schema = true) ∧
        codec.plain graph.modelDump = true := by
  cases schema : ref.argsSchema <;>
    simp [WorkflowToolRef.value, schema, JsonCodec.plain, JsonCodec.plainEntries,
      plain_optionalStr, and_comm]

theorem made_tool {e : Expr} {ref : WorkflowToolRef} {v : Value}
    (own : ∀ g ir, toIr g = .ok ir → Compiles ctx b g ir)
    (h : workflowToolFromAst ctx (helperGraphIr ctx n stack) graphs e = .ok ref)
    (resolved : ref.resolve toIr = .ok v) :
    Made ctx codec v.depth (toolSchema ctx e).toList
      ((toolGraphExpr e).bind (graphAt ctx b graphs)).toList (codec.plain v = true) := by
  obtain ⟨expr, named, hr⟩ := workflowToolFromAst_ok h
  obtain ⟨ir, hir, rfl⟩ := resolve_value resolved
  obtain ⟨b', g, at_, compiles⟩ := graphRef_compiles own hr hir
  rw [named, Option.bind_some, at_, toolSchema_eq h]
  refine ⟨[ir], .cons ⟨compiles, depth_tool ..⟩ .nil, ?_⟩
  rw [plain_tool]
  simp

theorem made_entry {a : AddedNode} {key : String} {e : Expr} {entry : ConfigEntry} {v : Value}
    (own : ∀ g ir, toIr g = .ok ir → Compiles ctx b g ir)
    (h : builtinEntry ctx (helperGraphIr ctx n stack) a.graphs a.id key e = .ok entry)
    (resolved : resolveConfigGraphRefs toIr entry = .ok v) :
    Made ctx codec v.depth (writtenEntry ctx a.id (key, e))
      ((toolExprsOf (key, e)).filterMap (graphAt ctx b a.graphs)) (codec.plain v = true) := by
  rw [builtinEntry] at h
  rw [writtenEntry, toolExprsOf]
  split at h
  case isFalse other =>
    obtain ⟨v', value, h⟩ := bind_ok_iff.mp h
    cases pure_ok_iff.mp h
    cases resolved
    rw [if_neg other, if_neg other, value]
    exact made_of_written (by simp [Except.toOption])
  case isTrue tools =>
    obtain ⟨refs, hrefs, h⟩ := bind_ok_iff.mp h
    cases pure_ok_iff.mp h
    obtain ⟨vs, hvs, resolved⟩ := bind_ok_iff.mp resolved
    cases pure_ok_iff.mp resolved
    rw [if_pos tools, if_pos tools]
    have all {elts : List Expr}
        (helts : elts.mapM (workflowToolFromAst ctx (helperGraphIr ctx n stack) a.graphs) =
          .ok refs) :
        Made ctx codec (Value.list vs).depth (elts.filterMap (toolSchema ctx))
          ((elts.filterMap toolGraphExpr).filterMap (graphAt ctx b a.graphs))
          (codec.plain (.list vs) = true) := by
      have each : List.Forall₂ (fun e v => Made ctx codec v.depth (toolSchema ctx e).toList
          ((toolGraphExpr e).bind (graphAt ctx b a.graphs)).toList (codec.plain v = true))
          elts vs := by
        apply (forall₂_comp (mapM_ok_iff.mp helts) (mapM_ok_iff.mp hvs)).imp
        rintro e v ⟨ref, hr, hv⟩
        exact made_tool own hr hv
      rw [List.filterMap_filterMap, List.filterMap_eq_flatMap_toList,
        List.filterMap_eq_flatMap_toList]
      apply (made_all each fun v hv => depth_le_depthList hv).imp (Nat.le_succ _)
      rw [JsonCodec.plain, plainItems_iff]
    unfold workflowToolsFromAst at hrefs
    split at hrefs
    case h_1 elts => exact all hrefs
    case h_2 elts => exact all hrefs
    case h_3 => cases hrefs

theorem made_node {a : AddedNode} {entry : NodeEntry} {spec : NodeSpec}
    (own : ∀ g ir, toIr g = .ok ir → Compiles ctx b g ir)
    (h : nodeEntry ctx (helperGraphIr ctx n stack) a.graphs a.id a.expr = .ok entry)
    (resolved : resolveEntry toIr entry = .ok spec) :
    Made ctx codec (dumpNode spec).depth (a.written ctx) (a.nested ctx b)
      (codec.plain (dumpNode spec) = true) := by
  obtain ⟨name, hr, h⟩ := bind_ok_iff.mp h
  cases name with
  | some g =>
    cases pure_ok_iff.mp h
    obtain ⟨ir, hir, resolved⟩ := bind_ok_iff.mp resolved
    cases pure_ok_iff.mp resolved
    have none_ : a.call = none := by
      cases call : a.call with
      | none => rfl
      | some call' => cases hr.symm.trans (resolve_of_call call)
    rw [AddedNode.written, none_, AddedNode.nested, hr, plain_subgraph]
    exact ⟨[ir], .cons ⟨own g ir hir, depth_subgraph_lt a.id ir⟩ .nil, by simp⟩
  | none =>
    dsimp only at h
    unfold constructedNode at h
    split at h
    case h_1 className args keywords isCall =>
      obtain ⟨_, _, h⟩ := bind_ok_iff.mp h
      have call : a.call = some (className, keywords) := by
        rw [isCall] at hr
        simp only [AddedNode.call, isCall, hr]
      split at h
      case h_1 codeClass known =>
        obtain ⟨spec', built, h⟩ := bind_ok_iff.mp h
        cases pure_ok_iff.mp h
        cases resolved
        obtain ⟨kwargs, config, built⟩ := bind_ok_iff.mp built
        obtain ⟨_, _, built⟩ := bind_ok_iff.mp built
        obtain ⟨_, _, built⟩ := bind_ok_iff.mp built
        cases pure_ok_iff.mp built
        simp only [AddedNode.written, AddedNode.nested, call, known, hr, config,
          builtinKwargs_of_code call known, plain_code, plainEntries_iff]
        exact made_of_written Iff.rfl
      case h_2 unknown =>
        obtain ⟨_, config, rfl, entries⟩ := buildBuiltinSpec_ok h
        obtain ⟨config', hc, resolved⟩ := bind_ok_iff.mp resolved
        cases pure_ok_iff.mp resolved
        simp only [AddedNode.written, AddedNode.nested, call, unknown, hr,
          builtinKwargs_of_call call unknown, plain_builtin, plainEntries_iff, toolExprs,
          List.filterMap_flatMap]
        have each : List.Forall₂ (fun x v => Made ctx codec v.depth (writtenEntry ctx a.id x)
            ((toolExprsOf x).filterMap (graphAt ctx b a.graphs)) (codec.plain v = true))
            (keywordDict keywords []) (config'.map Prod.snd) := by
          rw [List.forall₂_map_right_iff]
          apply (forall₂_comp entries (mapM_ok_iff.mp hc)).imp
          rintro x z ⟨y, ⟨_, hy⟩, hz⟩
          obtain ⟨v, hv, hz⟩ := bind_ok_iff.mp hz
          cases pure_ok_iff.mp hz
          exact made_entry own hy hv
        apply made_all each
        intro v hv
        obtain ⟨e, he, rfl⟩ := List.mem_map.mp hv
        have inner : e.2.depth ≤ depthEntries config' := depth_le_depthEntries he
        simp only [dumpNode, BuiltinNodeSpec.modelDump, Value.depth, depthEntries]
        omega
    case h_2 => cases h
    case h_3 => cases h

end Nodes

section Workflows

variable {b : GraphBuilder} {g : String} {ir : GraphIR}

theorem Compiles.made_nodes (h : Compiles ctx b g ir) (codec : JsonCodec) :
    List.Forall₂ (fun a spec => Made ctx codec (dumpNode spec).depth (a.written ctx)
        (a.nested ctx b) (codec.plain (dumpNode spec) = true)) (b.added g) ir.nodes ∧
      (codec.plain ir.modelDump = true ↔
        ∀ node ∈ ir.nodes, codec.plain (dumpNode node) = true) := by
  obtain ⟨n, stack, toIr, w, own, entries, _, _, made⟩ := h.entries
  obtain ⟨_, _, entrypoint, nodes, _, _⟩ := ir
  cases made
  refine ⟨entries.imp ?_, plain_graph entrypoint nodes w.edges w.conditionalEdges⟩
  rintro a spec ⟨entry, hentry, resolved⟩
  exact made_node own hentry resolved

theorem plain_of_written (written : WrittenPlain ctx codec) (depth : Nat)
    (included : Included ctx b g) (compiles : Compiles ctx b g ir)
    (below : ir.modelDump.depth ≤ depth) : codec.plain ir.modelDump = true := by
  induction depth generalizing b g ir with
  | zero =>
    cases ir
    simp [GraphIR.modelDump, Value.depth] at below
  | succ depth ih =>
    obtain ⟨made, plain⟩ := compiles.made_nodes codec
    rw [plain]
    intro spec hspec
    obtain ⟨a, ha, irs, nested, plain⟩ := forall₂_exists_right made hspec
    rw [plain]
    refine ⟨written b g included a ha, ?_⟩
    intro ir' hir'
    obtain ⟨r, hr, compiles', lower⟩ := forall₂_exists_right nested hir'
    have upper := depth_dumpNode_lt hspec
    exact ih (.node included ha hr) compiles' (by omega)

theorem included_plain (entry : ∀ b g, ctx.graphBuilders.get? entrypointName = some b →
      returned b.body = some g → ∃ ir, Compiles ctx b g ir ∧ codec.plain ir.modelDump = true)
    (included : Included ctx b g) :
    ∃ ir, Compiles ctx b g ir ∧ codec.plain ir.modelDump = true := by
  induction included with
  | root found returns => exact entry _ _ found returns
  | node _ added refers ih =>
    obtain ⟨ir, compiles, plain⟩ := ih
    obtain ⟨made, nodes⟩ := compiles.made_nodes codec
    obtain ⟨spec, hspec, irs, nested, of_node⟩ := forall₂_exists_left made added
    obtain ⟨ir', hir', compiles', _⟩ := forall₂_exists_left nested refers
    exact ⟨ir', compiles', (of_node.mp (nodes.mp plain spec hspec)).2 ir' hir'⟩

variable {host : Host} {source : String} {m : Module} {enforce : Bool}

/-- A compiled workflow comes back from storage as it was exactly if its author has written
nothing that JSON changes or refuses. -/
theorem restored_iff (context : compileContext host source m enforce = .ok ctx)
    (compiled : compileWorkflowToIr host source m enforce = .ok ir) (codec : JsonCodec) :
    restore codec host ir = some ir ↔ WrittenPlain ctx codec := by
  obtain ⟨b, g, found, returns, compiles⟩ := compileWorkflowToIr_ok context compiled
  rw [restore_eq_self_iff]
  constructor
  · intro plain b' g' included a ha v hv
    have entry : ∀ b g, ctx.graphBuilders.get? entrypointName = some b →
        returned b.body = some g → ∃ ir, Compiles ctx b g ir ∧ codec.plain ir.modelDump = true := by
      intro b₁ g₁ found₁ returns₁
      cases found.symm.trans found₁
      cases returns.symm.trans returns₁
      exact ⟨ir, compiles, plain⟩
    obtain ⟨ir', compiles', plain'⟩ := included_plain entry included
    obtain ⟨made, nodes⟩ := compiles'.made_nodes codec
    obtain ⟨spec, hspec, irs, nested, of_node⟩ := forall₂_exists_left made ha
    exact (of_node.mp (nodes.mp plain' spec hspec)).1 v hv
  · intro written
    exact plain_of_written written _ (.root found returns) compiles (Nat.le_refl _)

/-! A script with one node that sets a variable. -/

def variableHost : Host := { agentHost with registered := fun type => type = "SetVariableNode" }

def variableModule (value : Expr) : Module :=
  [.functionDef { name := entrypointName, body :=
    [.assign [.name "graph"] (.call (.name "StateGraph") [.name "State"] []),
      .expr (.call (.attr (.name "graph") "add_node")
        [.str "s", .call (.name "SetVariableNode") []
          [(some "name", .str "s"), (some "variables", dictExpr [("pair", value)])]] []),
      .expr (.call (.attr (.name "graph") "add_edge") [.name "START", .str "s"] []),
      .expr (.call (.attr (.name "graph") "add_edge") [.str "s", .name "END"] []),
      .ret (some (.name "graph"))] }]

def onePair : List Expr := [.constant (.int 1), .constant (.int 2)]

def jsonModule : JsonCodec := ⟨.kept, some 4300, by simp⟩

theorem list_restored_iff : ∃ ctx ir,
    compileWorkflowToIr variableHost "" (variableModule (.list onePair)) true = .ok ir ∧
      (restore jsonModule variableHost ir = some ir ↔ WrittenPlain ctx jsonModule) := by
  cases context : compileContext variableHost "" (variableModule (.list onePair)) true with
  | error e => cases context
  | ok ctx =>
    have accepted : (compileWorkflowToIr variableHost ""
      (variableModule (.list onePair)) true).isOk := by decide
    cases compiled : compileWorkflowToIr variableHost ""
      (variableModule (.list onePair)) true with
    | error e =>
      rw [compiled] at accepted
      cases accepted
    | ok ir => exact ⟨ctx, ir, rfl, restored_iff context compiled jsonModule⟩

theorem tuple_not_restored : ¬ ∀ (codec : JsonCodec) (host : Host) (source : String) (m : Module)
    (enforce : Bool) (ir : GraphIR), compileWorkflowToIr host source m enforce = .ok ir →
      restore codec host ir = some ir := by
  intro h
  have compiled : compileWorkflowToIr variableHost "" (variableModule (.tuple onePair)) true =
      .ok (.mk currentSchemaVersion defaultStateRef "s" [.builtin ⟨"s", "SetVariableNode",
        [("variables", .dict [("pair", .tuple [.int 1, .int 2])])]⟩]
        [⟨startVertex, "s"⟩, ⟨"s", endVertex⟩] []) := by
    with_unfolding_all rfl
  have plain := restore_eq_self_iff.mp (h jsonModule _ _ _ _ _ compiled)
  simp [GraphIR.modelDump, dumpNodes, dumpNode, BuiltinNodeSpec.modelDump, JsonCodec.plain,
    JsonCodec.plainEntries, JsonCodec.plainItems] at plain

end Workflows

end Orcheo.Graph
