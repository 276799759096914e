import Orcheo.Defs.Graph.NodePolicy
import Orcheo.Defs.Graph.Simulation

/-! A compiled graph is the one that the statements of its builder register. -/

namespace Orcheo.Graph

open Lib (Dict bind_ok_iff pure_ok_iff forall₂_comp)
open ModuleStmt (bindings classDef)

section Denotes

variable (ctx : CompileContext) (m : Module)

def toolIrs (config : Config) : List GraphIR :=
  config.flatMap (fun e => if e.1 = "workflow_tools" then toolGraphs ctx.host e.2 else [])

mutual
inductive Denotes : List Registered → Nat → GraphIR → Prop
  | graph {heap : List Registered} {a : Nat} {r : Registered} {ir : GraphIR}
      (found : heap[a]? = some r) (length : r.nodes.length = ir.nodes.length)
      (nodes : ∀ x spec, (x, spec) ∈ r.nodes.zip ir.nodes → NodeDenotes heap x.1 x.2 spec)
      (edges : ir.edges = r.edges) (conditionalEdges : ir.conditionalEdges = r.conditionalEdges)
      (entry : r.entry = some ir.entrypoint) : Denotes heap a ir

inductive NodeDenotes : List Registered → String → Object → NodeSpec → Prop
  | subgraph {heap : List Registered} {a : Nat} {id : String} {ir : GraphIR}
      (nested : Denotes heap a ir) : NodeDenotes heap id (.graph a) (.subgraph id ir)
  | code {heap : List Registered} {id : String} {c : ClassDef} {codeClass : CodeNodeClass}
      {keywords : Keywords} {tools : List ToolGraph} {spec : CodeNodeSpec}
      (known : codeNodeClass c = .ok codeClass)
      (built : buildCodeSpec ctx id keywords codeClass = .ok spec) :
    NodeDenotes heap id (.node (.classDef c) keywords tools) (.code spec)
  | builtin {heap : List Registered} {id className : String} {keywords : Keywords}
      {tools : List ToolGraph} {config : Config}
      (literals : config.filter (fun e => e.1 ≠ "workflow_tools") =
        literalConfig ctx id (keywordDict keywords []))
      (length : tools.length = (toolIrs ctx config).length)
      (graphs : ∀ t ir, (t, ir) ∈ tools.zip (toolIrs ctx config) → ToolDenotes heap t ir) :
    NodeDenotes heap id (.node (.imported className) keywords tools)
      (.builtin ⟨id, className, config⟩)

inductive ToolDenotes : List Registered → ToolGraph → GraphIR → Prop
  | graph {heap : List Registered} {a : Nat} {ir : GraphIR} (nested : Denotes heap a ir) :
    ToolDenotes heap (.graph a) ir
  | helper {heap : List Registered} {b : GraphBuilder} {ir : GraphIR}
      (returned : ∀ store a, b.run m = some (store, a) → keepsNodes b.body {} = true →
        Denotes store.heap a ir) : ToolDenotes heap (.helper b) ir
end

end Denotes

section Modules

def codeClassOf : Global → Option ClassDef
  | .classDef c => if isSchemaClass c then none else some c
  | _ => none

def functionOf : Global → Option GraphBuilder
  | .function b => some b
  | _ => none

def codeClassesOf (bindings : List (String × Global)) : List (String × ClassDef) :=
  bindings.filterMap (fun e => (codeClassOf e.2).map (fun c => (e.1, c)))

def functionsOf (bindings : List (String × Global)) : List (String × GraphBuilder) :=
  bindings.filterMap (fun e => (functionOf e.2).map (fun b => (e.1, b)))

theorem codeClassesOf_imports (stmt : ModuleStmt) (h : ∀ c, stmt ≠ .classDef c) :
    codeClassesOf stmt.bindings = [] := by
  cases stmt with
  | imports names => simp [codeClassesOf, bindings, codeClassOf]
  | importFrom level module names => simp [codeClassesOf, bindings, codeClassOf]
  | classDef c => exact (h c rfl).elim
  | functionDef b => rfl
  | docstring => rfl
  | other => rfl

theorem collectCodeNodeClasses_get {m : Module} {classes classes' : Dict String CodeNodeClass}
    (h : collectCodeNodeClasses m classes = .ok classes') (f : String) :
    (∀ c, Dict.lookup f (codeClassesOf m.bindings).reverse = some c →
      ∃ codeClass, codeNodeClass c = .ok codeClass ∧ classes'.get? f = some codeClass) ∧
    (Dict.lookup f (codeClassesOf m.bindings).reverse = none → classes'.get? f = classes.get? f) := by
  have split (stmt : ModuleStmt) (m : Module) :
      Dict.lookup f (codeClassesOf (Module.bindings (stmt :: m))).reverse =
        (Dict.lookup f (codeClassesOf m.bindings).reverse).or
          (Dict.lookup f (codeClassesOf stmt.bindings).reverse) := by
    rw [Module.bindings, List.flatMap_cons, ← Module.bindings, codeClassesOf, List.filterMap_append,
      List.reverse_append, Dict.lookup_append]
    rfl
  fun_induction collectCodeNodeClasses m classes with
  | case1 =>
    cases h
    constructor
    · intro c hc
      cases hc
    · intro _
      rfl
  | case2 c m classes schema ih =>
    have none : codeClassesOf (classDef c).bindings = [] := by
      simp [codeClassesOf, bindings, codeClassOf, schema]
    rw [split, none]
    simpa [Dict.lookup] using ih h
  | case3 c m classes code ih =>
    obtain ⟨codeClass, made, h⟩ := bind_ok_iff.mp h
    have one : codeClassesOf (classDef c).bindings = [(c.name, c)] := by
      simp [codeClassesOf, bindings, codeClassOf, code]
    obtain ⟨later, same⟩ := ih codeClass h
    rw [split, one]
    cases found : Dict.lookup f (codeClassesOf (Module.bindings m)).reverse with
    | some c' =>
      constructor
      · rintro _ ⟨⟩
        exact later c' found
      · rintro ⟨⟩
    | none =>
      have same := same found
      rw [Dict.get?_set] at same
      rw [Option.none_or, List.reverse_singleton, Dict.lookup]
      by_cases named : f = c.name
      · rw [if_pos named.symm]
        rw [if_pos named] at same
        constructor
        · rintro _ ⟨⟩
          exact ⟨codeClass, made, same⟩
        · rintro ⟨⟩
      · rw [if_neg fun h => named h.symm]
        rw [if_neg named] at same
        constructor
        · rintro _ ⟨⟩
        · intro _
          exact same
  | case4 stmt m classes other ih =>
    rw [split, codeClassesOf_imports stmt fun c h => other c h]
    simpa [Dict.lookup] using ih h

theorem functionsOf_bindings (m : Module) :
    functionsOf m.bindings = m.filterMap graphBuilderOf := by
  induction m with
  | nil => rfl
  | cons stmt m ih =>
    have head : functionsOf stmt.bindings = (graphBuilderOf stmt).toList := by
      cases stmt with
      | imports names => simp [functionsOf, bindings, functionOf, graphBuilderOf]
      | importFrom level module names =>
        simp [functionsOf, bindings, functionOf, graphBuilderOf]
      | classDef c => rfl
      | functionDef b => rfl
      | docstring => rfl
      | other => rfl
    rw [Module.bindings, List.flatMap_cons, ← Module.bindings, filterMap_cons_toList, ← head, ← ih]
    exact List.filterMap_append

variable {host : Host} {source : String} {m : Module} {enforce : Bool} {ctx : CompileContext}
  {b : GraphBuilder} {f : String} (context : compileContext host source m enforce = .ok ctx)
include context

theorem collected_classes : collectCodeNodeClasses m ∅ = .ok ctx.codeClasses := by
  obtain ⟨classes, collected, h⟩ := bind_ok_iff.mp context
  cases pure_ok_iff.mp h
  exact collected

theorem codeClass_of_denotes {c : ClassDef} (code : isSchemaClass c = false)
    (h : (b.bindings m).denotes f = some (.classDef c)) :
    ∃ codeClass, codeNodeClass c = .ok codeClass ∧ ctx.codeClasses.get? f = some codeClass := by
  rw [Bindings.denotes] at h
  split at h
  case isTrue => cases h
  case isFalse =>
    apply (collectCodeNodeClasses_get (collected_classes context) f).1 c
    rw [codeClassesOf, ← List.filterMap_reverse]
    exact Dict.lookup_filterMap h (by simp [codeClassOf, code])

theorem codeClass_of_imported (plain : m.Plain) {attr : String}
    (h : (b.bindings m).denotes f = some (.imported attr)) : ctx.codeClasses.get? f = none := by
  apply (collectCodeNodeClasses_get (collected_classes context) f).2
  cases found : Dict.lookup f (codeClassesOf m.bindings).reverse with
  | none => rfl
  | some c =>
    have listed := List.mem_reverse.mp (Dict.mem_of_lookup found)
    obtain ⟨⟨name, g⟩, bound, made⟩ := List.mem_filterMap.mp listed
    obtain ⟨c', hc', made⟩ := Option.map_eq_some_iff.mp made
    cases made
    cases g with
    | classDef c'' => exact (plain.classes _ _ _ (denotes_mem h) bound).elim
    | module => cases hc'
    | imported => cases hc'
    | function => cases hc'

theorem builder_of_denotes {b' : GraphBuilder}
    (h : (b.bindings m).denotes f = some (.function b')) :
    ctx.graphBuilders.get? f = some b' := by
  have collected : ctx.graphBuilders = collectGraphBuilders m := by
    obtain ⟨classes, _, made⟩ := bind_ok_iff.mp context
    cases pure_ok_iff.mp made
    rfl
  rw [Bindings.denotes] at h
  split at h
  case isTrue => cases h
  case isFalse =>
    rw [collected, collectGraphBuilders, Dict.get?_ofList, ← functionsOf_bindings, functionsOf,
      ← List.filterMap_reverse]
    exact Dict.lookup_filterMap h rfl

end Modules

section Entries

variable {ctx : CompileContext} {b : GraphBuilder} {a : AddedNode} {graphs : List String}
  {kwargs : Kwargs} {config : Config}

theorem filter_entries
    (entries : List.Forall₂ (fun x y => x.1 = y.1 ∧ EntryOf ctx b a x.1 x.2 y.2) kwargs config) :
    config.filter (fun e => e.1 ≠ "workflow_tools") = literalConfig ctx a.id kwargs := by
  induction entries with
  | nil => rfl
  | @cons x y kwargs config first _ ih =>
    obtain ⟨_, v⟩ := y
    obtain ⟨rfl, lifted⟩ := first
    rw [literalConfig, filterMap_cons_toList, ← literalConfig, ← ih]
    by_cases tools : x.1 = "workflow_tools"
    · rw [literalEntry, if_pos tools, List.filter_cons_of_neg (by simpa using tools)]
      rfl
    · rw [entryOf_literal tools lifted, List.filter_cons_of_pos (by simpa using tools)]
      rfl

def ToolAt (ctx : CompileContext) (b : GraphBuilder) (graphs : List String) (size : Nat) (e : Expr)
    (ir : GraphIR) : Prop :=
  ∃ b' g, graphAt ctx b graphs e = some (b', g) ∧ Compiles ctx b' g ir ∧ ir.modelDump.depth < size

theorem ToolAt.mono {size size' : Nat} {e : Expr} {ir : GraphIR}
    (h : ToolAt ctx b graphs size e ir) (le : size ≤ size') : ToolAt ctx b graphs size' e ir := by
  obtain ⟨b', g, hat, compiles, small⟩ := h
  exact ⟨b', g, hat, compiles, Nat.lt_of_lt_of_le small le⟩

theorem toolAt_list {elts : List Expr} {vs : List Value}
    (all : List.Forall₂ (ToolOf ctx b graphs) elts vs) :
    List.Forall₂ (ToolAt ctx b graphs (depthList vs)) (elts.filterMap toolGraphExpr)
      (toolGraphsOfList ctx.host vs) := by
  induction all with
  | nil => exact .nil
  | @cons e v elts vs first _ ih =>
    obtain ⟨expr, b', g, ir, hexpr, hat, compiles, hgraphs, small⟩ := first
    rw [List.filterMap_cons_some hexpr, toolGraphsOfList, hgraphs, depthList]
    apply List.Forall₂.cons
    · exact ⟨b', g, hat, compiles, Nat.lt_of_lt_of_le small (Nat.le_max_left _ _)⟩
    · exact ih.imp fun _ _ h => h.mono (Nat.le_max_right _ _)

theorem toolAt_entries
    (entries : List.Forall₂ (fun x y => x.1 = y.1 ∧ EntryOf ctx b a x.1 x.2 y.2) kwargs config) :
    List.Forall₂ (ToolAt ctx b a.graphs (depthEntries config)) (toolExprs kwargs)
      (toolIrs ctx config) := by
  induction entries with
  | nil => exact .nil
  | @cons x y kwargs config first _ ih =>
    obtain ⟨_, v⟩ := y
    obtain ⟨rfl, lifted⟩ := first
    rw [toolExprs, List.flatMap_cons, ← toolExprs, toolIrs, List.flatMap_cons, ← toolIrs,
      depthEntries]
    refine List.rel_append ?_ (ih.imp fun _ _ h => h.mono (Nat.le_max_right _ _))
    rw [toolExprsOf]
    split
    case isFalse => exact .nil
    case isTrue tools =>
      rw [EntryOf, if_pos tools] at lifted
      obtain ⟨elts, vs, helts, rfl, all⟩ := lifted
      rw [helts, toolGraphs]
      apply (toolAt_list all).imp
      intro _ _ h
      apply h.mono
      rw [Value.depth]
      omega

end Entries

section Compiled

variable {host : Host} {source : String} {m : Module} {enforce : Bool} {ctx : CompileContext}
  {b : GraphBuilder} {store : Store} {a : Nat} {g : String} {ir : GraphIR}

theorem Simulates.start (bs : Bindings) : Simulates bs {} (fun _ => []) {} := by
  constructor
  case nodup => exact List.nodup_nil
  case size => rfl
  case graph =>
    intro x a hx
    cases hx
  case node =>
    intro x callee keywords tools hx
    cases hx
  case empty =>
    intro x _
    rfl
  case registered =>
    intro a x r hx
    cases hx

theorem Compiles.simulates (plain : m.Plain) (compiles : Compiles ctx b g ir)
    (run : b.run m = some (store, a)) (keeps : keepsNodes b.body {} = true) :
    Simulates (b.bindings m) (namesAt b.body {}) b.registrations store ∧
    ∃ x, returned b.body = some x ∧ (namesAt b.body {}).graphs[a]? = some x := by
  obtain ⟨n, stack, root, graphs, levels, path, interpreted, _⟩ := compiles
  obtain ⟨⟨scope, name⟩, body, _⟩ := bind_ok_iff.mp interpreted
  have start : Simulates (b.bindings m) ({} : Scope).names (fun _ => []) {} := Simulates.start _
  obtain ⟨sim, x, hx, at_⟩ := start.run plain run body keeps
  exact ⟨sim, x, (interpretBody_returned body).trans hx, at_⟩

theorem resolve_of_graphRel {graphs : List String} {e : Expr} (rel : GraphRel graphs e a) :
    ∃ x, graphs[a]? = some x ∧ resolveGraphRefExpr graphs e = .ok (some x) := by
  cases rel with
  | «variable» named =>
    refine ⟨_, named, ?_⟩
    rw [resolveGraphRefExpr, if_pos (List.mem_of_getElem? named)]
  | compiled named =>
    refine ⟨_, named, ?_⟩
    rw [resolveGraphRefExpr, if_neg fun absent => absent (List.mem_of_getElem? named)]
    rfl

theorem entry_of_matches {bs : Bindings} {graphs : List String} {rs : List Registration}
    {r : Registered} {w : Workflow} {entry : String} (same : Matches bs graphs rs r)
    (edges : w.edges = rs.filterMap Registration.edge)
    (override : w.entryOverride = (rs.filterMap Registration.entryPoint).getLast?)
    (h : resolveEntrypointName w = .ok entry) : r.entry = some entry := by
  rw [same.edges] at edges
  rw [same.entryPoints] at override
  rw [resolveEntrypointName, edges, override] at h
  rw [Registered.entry]
  split at h
  case h_1 e _ found =>
    cases h
    rw [found]
  case h_2 id none some =>
    cases h
    rw [none]
    exact some
  case h_3 => cases h

theorem depth_config_le (id type : String) (config : Config) :
    depthEntries config + 1 ≤ (dumpNode (.builtin ⟨id, type, config⟩)).depth := by
  simp only [dumpNode, BuiltinNodeSpec.modelDump, Value.depth, depthEntries]
  omega

def DenotesBelow (ctx : CompileContext) (m : Module) (size : Nat) : Prop :=
  ∀ ir b g store a₀ (a : Nat), ir.modelDump.depth < size → Compiles ctx b g ir →
    b.run m = some (store, a₀) → keepsNodes b.body {} = true →
    (namesAt b.body {}).graphs[a]? = some g → Denotes ctx m store.heap a ir

section

variable (plain : m.Plain) (context : compileContext host source m enforce = .ok ctx)
include plain context

theorem toolDenotes_of {size : Nat} (below : DenotesBelow ctx m size)
    (run : b.run m = some (store, a)) (keeps : keepsNodes b.body {} = true) {graphs : List String}
    (earlier : graphs <+: (namesAt b.body {}).graphs) {e : Expr} {t : ToolGraph}
    (rel : ToolRel (b.bindings m) graphs e t) (tool : ToolAt ctx b graphs size e ir) :
    ToolDenotes ctx m store.heap t ir := by
  obtain ⟨b', g, hat, compiles, small⟩ := tool
  cases rel with
  | graph rel =>
    obtain ⟨x, named, resolved⟩ := resolve_of_graphRel rel
    simp only [graphAt, resolved] at hat
    cases hat
    exact .graph (below ir b g store a _ small compiles run keeps (getElem?_longer earlier named))
  | @helper f b'' denotes =>
    have found := builder_of_denotes context denotes
    simp only [graphAt, resolveGraphRefExpr, found] at hat
    obtain ⟨_, ⟨⟩, hat⟩ := Option.bind_eq_some_iff.mp hat
    obtain ⟨x, hx, hat⟩ := Option.bind_eq_some_iff.mp hat
    cases hat
    apply ToolDenotes.helper
    intro store' a' run' keeps'
    obtain ⟨_, y, hy, named⟩ := compiles.simulates plain run' keeps'
    cases hx.symm.trans hy
    exact below ir _ _ store' a' a' small compiles run' keeps' named

theorem nodeDenotes_of {size : Nat} (below : DenotesBelow ctx m size)
    (run : b.run m = some (store, a)) (keeps : keepsNodes b.body {} = true) {x : AddedNode}
    {object : Object} {spec : NodeSpec} (earlier : x.graphs <+: (namesAt b.body {}).graphs)
    (rel : NodeRel (b.bindings m) x.graphs x.expr object) (node : NodeOf ctx b x spec)
    (small : (dumpNode spec).depth < size) : NodeDenotes ctx m store.heap x.id object spec := by
  obtain ⟨graphs, id, expr⟩ := x
  cases rel with
  | graph rel =>
    obtain ⟨g, named, resolved⟩ := resolve_of_graphRel rel
    cases node with
    | subgraph names compiles =>
      cases resolved.symm.trans names
      have smaller := Nat.lt_trans (depth_subgraph_lt id _) small
      exact .subgraph (below _ b g store a _ smaller compiles run keeps
        (getElem?_longer earlier named))
    | code call => cases resolved.symm.trans (resolve_of_call call)
    | builtin call => cases resolved.symm.trans (resolve_of_call call)
  | @imported f _ keywords tools denotes given =>
    cases plain.unrenamed _ _ (denotes_mem denotes)
    cases node with
    | subgraph names => cases names
    | code call known =>
      cases call
      cases (codeClass_of_imported context plain denotes).symm.trans known
    | @builtin _ _ config call unknown allowed entries =>
      cases call
      have smaller : depthEntries config + 1 < size :=
        Nat.lt_of_le_of_lt (depth_config_le _ _ config) small
      have all : List.Forall₂ (ToolDenotes ctx m store.heap) tools (toolIrs ctx config) := by
        apply (forall₂_comp given.flip (toolAt_entries entries)).imp
        rintro t ir ⟨e, rel, tool⟩
        apply toolDenotes_of plain context below run keeps earlier rel (tool.mono _)
        omega
      refine .builtin (filter_entries entries) all.length_eq ?_
      intro t ir listed
      exact List.forall₂_zip all listed
  | classDef denotes code =>
    obtain ⟨codeClass, made, found⟩ := codeClass_of_denotes context code denotes
    cases node with
    | subgraph names => cases names
    | code call known built =>
      cases call
      cases found.symm.trans known
      exact .code made built
    | builtin call unknown =>
      cases call
      cases found.symm.trans unknown

theorem denotesBelow (size : Nat) : DenotesBelow ctx m size := by
  induction size with
  | zero =>
    intro ir b g store a₀ a small
    exact absurd small (Nat.not_lt_zero _)
  | succ size below =>
    intro ir b g store a₀ a small compiles run keeps named
    obtain ⟨sim, _⟩ := compiles.simulates plain run keeps
    obtain ⟨specs, edges, conditionalEdges, w, hedges, override, entry⟩ := compiles.spec
    have inside := (List.getElem?_eq_some_iff.mp named).1
    obtain ⟨r, found⟩ : ∃ r, store.heap[a]? = some r :=
      ⟨_, List.getElem?_eq_getElem (sim.size ▸ inside)⟩
    have same := sim.registered a g r named found
    have nodes := forall₂_comp same.nodes.flip specs
    refine .graph found nodes.length_eq ?_ (edges.trans same.edges)
      (conditionalEdges.trans same.conditionalEdges)
      (entry_of_matches same (hedges.trans edges) override entry)
    rintro ⟨id, object⟩ spec listed
    obtain ⟨x, ⟨rfl, earlier, rel⟩, node⟩ := List.forall₂_zip nodes listed
    have depth := depth_dumpNode_lt (List.of_mem_zip listed).2
    apply nodeDenotes_of plain context below run keeps earlier rel node
    omega

end

/-- Where the statements of the entrypoint run, its compiled graph is what they register. -/
theorem compiled_denotes (plain : m.Plain)
    (context : compileContext host source m enforce = .ok ctx)
    (compiled : compileWorkflowToIr host source m enforce = .ok ir)
    (entry : ctx.graphBuilders.get? entrypointName = some b)
    (run : b.run m = some (store, a)) (keeps : keepsNodes b.body {} = true) :
    Denotes ctx m store.heap a ir := by
  obtain ⟨b', g, found, returns, compiles⟩ := compileWorkflowToIr_ok context compiled
  cases entry.symm.trans found
  obtain ⟨_, x, hx, named⟩ := compiles.simulates plain run keeps
  cases returns.symm.trans hx
  exact denotesBelow plain context _ ir b g store a a (Nat.lt_succ_self _) compiles run keeps named

/-! Modules with two agents, whose imports keep their names. -/

def importingModule (body : List Stmt) : Module :=
  [.importFrom 0 (some "orcheo.graph") [("START", none), ("StateGraph", none)],
    .importFrom 0 (some "orcheo.graph.state") [("State", none)],
    .importFrom 0 (some "orcheo.nodes.ai") [("AgentNode", none)],
    .functionDef { name := entrypointName, body }]

def addAgent (id : String) : Stmt :=
  .expr (.call (.attr (.name "graph") "add_node")
    [.str id, .call (.name "AgentNode") [] [(some "ai_model", .str "gpt")]] [])

def agentsBody (entries : List Stmt) : List Stmt :=
  .assign [.name "graph"] (.call (.name "StateGraph") [.name "State"] []) ::
    addAgent "a" :: addAgent "b" :: (entries ++ [.ret (some (.name "graph"))])

def startEdge (id : String) : Stmt :=
  .expr (.call (.attr (.name "graph") "add_edge") [.name "START", .str id] [])

def setEntryPoint (id : String) : Stmt :=
  .expr (.call (.attr (.name "graph") "set_entry_point") [.str id] [])

theorem plain_importingModule (body : List Stmt) : (importingModule body).Plain := by
  constructor
  · intro name attr listed
    simp [importingModule, Module.bindings, bindings] at listed
    obtain ⟨named, given⟩ | ⟨named, given⟩ | ⟨named, given⟩ | ⟨named, given⟩ := listed <;>
      exact given.trans named.symm
  · intro name attr c _ listed
    simp [importingModule, Module.bindings, bindings] at listed
  · intro c listed
    simp [importingModule, Module.bindings, bindings] at listed

def agentsModule : Module := importingModule (agentsBody [startEdge "a"])

theorem compiled_denotes_agents : ∃ (ctx : CompileContext) (ir : GraphIR) (store : Store) (a : Nat),
    compileWorkflowToIr agentHost "" agentsModule true = .ok ir ∧
      Denotes ctx agentsModule store.heap a ir := by
  have accepted : (compileWorkflowToIr agentHost "" agentsModule true).isOk := by decide
  cases context : compileContext agentHost "" agentsModule true with
  | error e => cases context
  | ok ctx =>
    cases compiled : compileWorkflowToIr agentHost "" agentsModule true with
    | error e =>
      rw [compiled] at accepted
      cases accepted
    | ok ir =>
      obtain ⟨b, entry, run, keeps⟩ : ∃ b, ctx.graphBuilders.get? entrypointName = some b ∧
          (∃ r, b.run agentsModule = some r) ∧ keepsNodes b.body {} = true := by
        cases context
        exact ⟨_, rfl, ⟨_, rfl⟩, rfl⟩
      obtain ⟨⟨store, a⟩, run⟩ := run
      exact ⟨ctx, ir, store, a, rfl,
        compiled_denotes (plain_importingModule _) context compiled entry run keeps⟩

theorem entryPoint_not_wired : ¬ ∀ (host : Host) (source : String) (m : Module) (enforce : Bool)
    (ctx : CompileContext) (ir : GraphIR) (b : GraphBuilder) (store : Store) (a : Nat)
    (r : Registered), compileContext host source m enforce = .ok ctx →
      compileWorkflowToIr host source m enforce = .ok ir →
      ctx.graphBuilders.get? entrypointName = some b → b.run m = some (store, a) →
      store.heap[a]? = some r → ∀ e ∈ r.allEdges, e ∈ Graph.wireEdges ir := by
  intro h
  let m := importingModule (agentsBody [startEdge "a", setEntryPoint "b"])
  have wired : (compileWorkflowToIr agentHost "" m true).toOption.map Graph.wireEdges =
      some [⟨startVertex, "a"⟩] := by decide
  cases context : compileContext agentHost "" m true with
  | error e => cases context
  | ok ctx =>
    cases compiled : compileWorkflowToIr agentHost "" m true with
    | error e =>
      rw [compiled] at wired
      cases wired
    | ok ir =>
      rw [compiled] at wired
      obtain ⟨b, store, a, r, entry, run, found, registered⟩ : ∃ b store a r,
          ctx.graphBuilders.get? entrypointName = some b ∧ b.run m = some (store, a) ∧
            store.heap[a]? = some r ∧ r.allEdges = [⟨startVertex, "a"⟩, ⟨startVertex, "b"⟩] := by
        cases context
        exact ⟨_, _, _, _, rfl, rfl, rfl, rfl⟩
      have wired : Graph.wireEdges ir = [⟨startVertex, "a"⟩] := Option.some.inj wired
      have missing := h agentHost "" m true ctx ir b store a r context compiled entry run found
        ⟨startVertex, "b"⟩ (registered ▸ by decide)
      rw [wired] at missing
      revert missing
      decide

end Compiled

end Orcheo.Graph
