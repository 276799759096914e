import Orcheo.Defs.Graph.Compiled

/-! What the policy at compile time covers: the graphs that an author writes as configuration
literals are the ones that it misses. -/

namespace Orcheo.Graph

open Lib (Dict bind_ok_iff pure_ok_iff forall₂_exists_left forall₂_exists_right)

section Policy

variable (ctx : CompileContext)

def Permitted : Instantiated → Prop
  | .builtin spec => restrictedModeRejectionReason ctx.host spec.type = none
  | .code spec => ∃ className codeClass, ctx.codeClasses.get? className = some codeClass ∧
      validateCodeBody codeClass.runFunc spec.injected spec.id = .ok () ∧
      validateBodyBuiltins ctx.host codeClass.runFunc spec.id = .ok () ∧
      spec.body = extractRunBody ctx.host ctx.source codeClass.runFunc

def Covered (ir : GraphIR) : Prop :=
  ∀ levels, ∀ x ∈ instantiations ctx.host levels ir, Permitted ctx x

def isMarked (config : Config) : Bool :=
  match Dict.lookup irConfigKindKey config with
  | some (.str kind) => kind = workflowToolConfigKind || kind = pydanticModelConfigKind
  | _ => false

def AddedNode.builtinKwargs (a : AddedNode) : Option Kwargs :=
  match a.call with
  | some (className, keywords) =>
    if ctx.codeClasses.contains className then none else some (keywordDict keywords [])
  | none => none

def AddedNode.literalGraphs (a : AddedNode) : List GraphIR :=
  match a.builtinKwargs ctx with
  | some kwargs => toolGraphs ctx.host (.dict (literalConfig ctx a.id kwargs))
  | none => []

def AddedNode.references (b : GraphBuilder) (a : AddedNode) : List (GraphBuilder × String) :=
  match resolveGraphRefExpr a.graphs a.expr, a.builtinKwargs ctx with
  | .ok (some g), _ => [(b, g)]
  | _, some kwargs => if isMarked (literalConfig ctx a.id kwargs) then []
    else (toolExprs kwargs).filterMap (graphAt ctx b a.graphs)
  | _, none => []

inductive Reached : GraphBuilder → String → Prop
  | root {b : GraphBuilder} {g : String} (entry : ctx.graphBuilders.get? entrypointName = some b)
      (returns : returned b.body = some g) : Reached b g
  | node {b b' : GraphBuilder} {g g' : String} {a : AddedNode} (reached : Reached b g)
      (added : a ∈ b.added g) (refers : (b', g') ∈ a.references ctx b) : Reached b' g'

/-- No configuration literal on the way to the returned graph holds a graph of its own with a
specification that is not permitted. -/
def LiteralsCovered : Prop :=
  ∀ b g, Reached ctx b g → ∀ a ∈ b.added g, ∀ ir ∈ a.literalGraphs ctx, Covered ctx ir

end Policy

section Config

variable {host : Host}

theorem mem_toolGraphsOfList {ir : GraphIR} {xs : List Value} :
    ir ∈ toolGraphsOfList host xs ↔ ∃ x ∈ xs, ir ∈ toolGraphs host x := by
  induction xs with
  | nil => simp [toolGraphsOfList]
  | cons x xs ih => simp [toolGraphsOfList, ih]

theorem mem_toolGraphsOfEntries {ir : GraphIR} {kvs : Config} :
    ir ∈ toolGraphsOfEntries host kvs ↔ ∃ e ∈ kvs, ir ∈ toolGraphs host e.2 := by
  induction kvs with
  | nil => simp [toolGraphsOfEntries]
  | cons e kvs ih => simp [toolGraphsOfEntries, ih]

theorem toolGraphs_config {config : Config} (unnamed : Dict.lookup "name" config = none) :
    toolGraphs host (.dict config) =
      if isMarked config then [] else toolGraphsOfEntries host config := by
  have incomplete : toolGraph host config = none := by simp [toolGraph, unnamed]
  cases found : Dict.lookup irConfigKindKey config with
  | none => simp [toolGraphs, Value.get?, isMarked, found]
  | some v =>
    cases v with
    | str kind =>
      by_cases tool : kind = workflowToolConfigKind
      · simp [toolGraphs, Value.get?, isMarked, found, tool, incomplete]
      · by_cases model : kind = pydanticModelConfigKind
        · simp [toolGraphs, Value.get?, isMarked, found, model, incomplete]
        · simp [toolGraphs, Value.get?, isMarked, found, tool, model]
    | _ => simp [toolGraphs, Value.get?, isMarked, found]

theorem lookup_keywordDict {keywords : Keywords} {kwargs : Kwargs}
    (h : Dict.lookup "name" kwargs = none) :
    Dict.lookup "name" (keywordDict keywords kwargs) = none := by
  fun_induction keywordDict keywords kwargs with
  | case1 => exact h
  | case2 _ _ _ ih => exact ih h
  | case3 _ _ _ ih => exact ih h
  | case4 key e keywords kwargs other ih =>
    apply ih
    rw [Dict.lookup_eq_none_iff] at h ⊢
    rw [Dict.mem_keys_insertEntry]
    rintro (same | old)
    · exact other same.symm
    · exact h old

end Config

section Entries

variable {ctx : CompileContext} {b : GraphBuilder} {a : AddedNode} {kwargs : Kwargs}
  {config : Config}

theorem lookup_entries {key : String} (h : key ≠ "workflow_tools")
    (entries : List.Forall₂ (fun x y => x.1 = y.1 ∧ EntryOf ctx b a x.1 x.2 y.2) kwargs config) :
    Dict.lookup key config = Dict.lookup key (literalConfig ctx a.id kwargs) := by
  induction entries with
  | nil => rfl
  | @cons x y kwargs config first _ ih =>
    obtain ⟨_, v⟩ := y
    obtain ⟨rfl, lifted⟩ := first
    rw [literalConfig, filterMap_cons_toList, ← literalConfig]
    by_cases tools : x.1 = "workflow_tools"
    · have other : x.1 ≠ key := fun same => h (same.symm.trans tools)
      rw [literalEntry, if_pos tools, Dict.lookup, if_neg other, ih]
      rfl
    · rw [entryOf_literal tools lifted, Dict.lookup, ih]
      rfl

section

variable (entries : List.Forall₂ (fun x y => x.1 = y.1 ∧ EntryOf ctx b a x.1 x.2 y.2) kwargs config)
include entries

theorem keys_entries :
    config.map Prod.fst = kwargs.map Prod.fst := by
  induction entries with
  | nil => rfl
  | cons first _ ih => rw [List.map_cons, List.map_cons, ih, first.1]

theorem mem_literalConfig {entry : String × Value} (h : entry ∈ literalConfig ctx a.id kwargs) :
    entry ∈ config := by
  obtain ⟨x, hx, lit⟩ := List.mem_filterMap.mp h
  obtain ⟨⟨_, v⟩, hy, rfl, lifted⟩ := forall₂_exists_left entries hx
  have literal : x.1 ≠ "workflow_tools" := by
    intro tools
    rw [literalEntry, if_pos tools] at lit
    cases lit
  rw [entryOf_literal literal lifted] at lit
  cases lit
  exact hy

theorem isMarked_entries :
    isMarked config = isMarked (literalConfig ctx a.id kwargs) := by
  rw [isMarked, lookup_entries (by decide) entries, ← isMarked]

theorem mem_toolGraphs_entries {ir : GraphIR} (h : ir ∈ toolGraphsOfEntries ctx.host config) :
    ir ∈ toolGraphsOfEntries ctx.host (literalConfig ctx a.id kwargs) ∨
    ∃ b' g, (b', g) ∈ (toolExprs kwargs).filterMap (graphAt ctx b a.graphs) ∧
      Compiles ctx b' g ir := by
  obtain ⟨⟨_, v⟩, he, hv⟩ := mem_toolGraphsOfEntries.mp h
  obtain ⟨x, hx, rfl, lifted⟩ := forall₂_exists_right entries he
  by_cases tools : x.1 = "workflow_tools"
  · rw [EntryOf, if_pos tools] at lifted
    obtain ⟨elts, vs, helts, rfl, all⟩ := lifted
    obtain ⟨v, hmem, hir⟩ := mem_toolGraphsOfList.mp hv
    obtain ⟨e, hmem, expr, b', g, ir', hexpr, hat, compiles, hgraphs, _⟩ :=
      forall₂_exists_right all hmem
    rw [hgraphs, List.mem_singleton] at hir
    refine .inr ⟨b', g, List.mem_filterMap.mpr ⟨expr, ?_, hat⟩, hir ▸ compiles⟩
    apply List.mem_flatMap.mpr ⟨x, hx, _⟩
    rw [toolExprsOf, if_pos tools, helts]
    exact List.mem_filterMap.mpr ⟨e, hmem, hexpr⟩
  · have literal : (x.1, v) ∈ literalConfig ctx a.id kwargs :=
      List.mem_filterMap.mpr ⟨x, hx, entryOf_literal tools lifted⟩
    exact .inl (mem_toolGraphsOfEntries.mpr ⟨_, literal, hv⟩)

theorem toolGraphs_of_toolExprs {b' : GraphBuilder} {g : String}
    (h : (b', g) ∈ (toolExprs kwargs).filterMap (graphAt ctx b a.graphs)) :
    ∃ ir ∈ toolGraphsOfEntries ctx.host config, Compiles ctx b' g ir := by
  obtain ⟨expr, hexpr, hat⟩ := List.mem_filterMap.mp h
  obtain ⟨x, hx, hexpr⟩ := List.mem_flatMap.mp hexpr
  rw [toolExprsOf] at hexpr
  split at hexpr
  case isFalse => cases hexpr
  case isTrue tools =>
    obtain ⟨e, he, hexpr⟩ := List.mem_filterMap.mp hexpr
    obtain ⟨⟨_, v⟩, hy, rfl, lifted⟩ := forall₂_exists_left entries hx
    rw [EntryOf, if_pos tools] at lifted
    obtain ⟨elts, vs, helts, rfl, all⟩ := lifted
    rw [helts] at he
    obtain ⟨v, hv, expr', b'', g', ir, hexpr', hat', compiles, hgraphs, _⟩ :=
      forall₂_exists_left all he
    cases hexpr.symm.trans hexpr'
    cases hat.symm.trans hat'
    refine ⟨ir, mem_toolGraphsOfEntries.mpr ⟨_, hy, ?_⟩, compiles⟩
    apply mem_toolGraphsOfList.mpr ⟨v, hv, _⟩
    rw [hgraphs]
    exact List.mem_singleton_self ir

end

end Entries

section Nodes

variable {ctx : CompileContext} {b : GraphBuilder} {a : AddedNode} {ir : GraphIR}

variable {g className : String} {keywords : Keywords} {codeClass : CodeNodeClass} {nested : GraphIR}

theorem builtinKwargs_of_graph (names : resolveGraphRefExpr a.graphs a.expr = .ok (some g)) :
    a.builtinKwargs ctx = none := by
  cases call : a.call with
  | none => simp only [AddedNode.builtinKwargs, call]
  | some call' => cases names.symm.trans (resolve_of_call call)

theorem builtinKwargs_of_call
    (call : a.call = some (className, keywords)) (unknown : ctx.codeClasses.get? className = none) :
    a.builtinKwargs ctx = some (keywordDict keywords []) := by
  simp [AddedNode.builtinKwargs, call, Dict.contains, unknown]

theorem builtinKwargs_of_code (call : a.call = some (className, keywords))
    (known : ctx.codeClasses.get? className = some codeClass) : a.builtinKwargs ctx = none := by
  simp [AddedNode.builtinKwargs, call, Dict.contains, known]

theorem permitted_of_built
    {spec : CodeNodeSpec} (known : ctx.codeClasses.get? className = some codeClass)
    (h : buildCodeSpec ctx a.id keywords codeClass = .ok spec) : Permitted ctx (.code spec) := by
  obtain ⟨kwargs, _, h⟩ := bind_ok_iff.mp h
  obtain ⟨_, body, h⟩ := bind_ok_iff.mp h
  obtain ⟨_, builtins, h⟩ := bind_ok_iff.mp h
  cases pure_ok_iff.mp h
  exact ⟨className, codeClass, known, body, builtins, rfl⟩

theorem Covered.subgraph {id : String} (h : Covered ctx ir)
    (node : .subgraph id nested ∈ ir.nodes) : Covered ctx nested := by
  intro levels x hx
  exact h (levels + 1) x (List.mem_flatMap.mpr ⟨_, node, hx⟩)

theorem Covered.tool {spec : BuiltinNodeSpec} (h : Covered ctx ir)
    (node : .builtin spec ∈ ir.nodes) (tool : nested ∈ toolGraphs ctx.host (.dict spec.config)) :
    Covered ctx nested := by
  intro levels x hx
  apply h (levels + 1) x
  apply List.mem_flatMap.mpr ⟨_, node, _⟩
  exact List.mem_append_left _ (List.mem_flatMap.mpr ⟨nested, tool, hx⟩)

theorem mem_toolGraphs_config {config : Config}
    (entries : List.Forall₂ (fun x y => x.1 = y.1 ∧ EntryOf ctx b a x.1 x.2 y.2)
      (keywordDict keywords []) config) :
    (nested ∈ toolGraphs ctx.host (.dict config) ↔
      isMarked config = false ∧ nested ∈ toolGraphsOfEntries ctx.host config) ∧
    (nested ∈ toolGraphs ctx.host (.dict (literalConfig ctx a.id (keywordDict keywords []))) ↔
      isMarked config = false ∧
      nested ∈ toolGraphsOfEntries ctx.host (literalConfig ctx a.id (keywordDict keywords []))) := by
  have unnamed : Dict.lookup "name" config = none := by
    rw [Dict.lookup_eq_none_iff, keys_entries entries, ← Dict.lookup_eq_none_iff]
    exact lookup_keywordDict rfl
  have literals := (lookup_entries (by decide) entries).symm.trans unnamed
  rw [toolGraphs_config unnamed, toolGraphs_config literals, isMarked_entries entries]
  cases isMarked (literalConfig ctx a.id (keywordDict keywords [])) <;> simp

theorem references_of_graph (names : resolveGraphRefExpr a.graphs a.expr = .ok (some g)) :
    a.references ctx b = [(b, g)] := by
  simp only [AddedNode.references, names]

theorem references_of_code (call : a.call = some (className, keywords))
    (known : ctx.codeClasses.get? className = some codeClass) : a.references ctx b = [] := by
  simp only [AddedNode.references, resolve_of_call call, builtinKwargs_of_code call known]

theorem references_of_builtin {config : Config}
    (call : a.call = some (className, keywords)) (unknown : ctx.codeClasses.get? className = none)
    (entries : List.Forall₂ (fun x y => x.1 = y.1 ∧ EntryOf ctx b a x.1 x.2 y.2)
      (keywordDict keywords []) config) :
    a.references ctx b = if isMarked config then []
      else (toolExprs (keywordDict keywords [])).filterMap (graphAt ctx b a.graphs) := by
  simp only [AddedNode.references, resolve_of_call call, builtinKwargs_of_call call unknown,
    isMarked_entries entries]

theorem covered_of_literals (enforced : ctx.enforceNodePolicy = true) (h : LiteralsCovered ctx)
    (levels : Nat) (reached : Reached ctx b g) (compiles : Compiles ctx b g ir) :
    ∀ x ∈ instantiations ctx.host levels ir, Permitted ctx x := by
  induction levels generalizing b g ir with
  | zero =>
    intro x hx
    cases hx
  | succ levels ih =>
    intro x hx
    obtain ⟨spec, hspec, hx⟩ := List.mem_flatMap.mp hx
    obtain ⟨a, ha, node⟩ := forall₂_exists_right compiles.spec.1 hspec
    cases node with
    | subgraph names nested =>
      apply ih (.node reached ha _) nested x hx
      rw [references_of_graph names]
      exact List.mem_singleton_self _
    | code call known built =>
      cases List.mem_singleton.mp hx
      exact permitted_of_built known built
    | builtin call unknown allowed entries =>
      cases List.mem_append.mp hx with
      | inr self =>
        cases List.mem_singleton.mp self
        exact allowed enforced
      | inl inside =>
        obtain ⟨nested, hn, hx⟩ := List.mem_flatMap.mp inside
        obtain ⟨plain, hn⟩ := (mem_toolGraphs_config entries).1.mp hn
        cases mem_toolGraphs_entries entries hn with
        | inl literal =>
          apply h b g reached a ha nested _ levels x hx
          rw [AddedNode.literalGraphs, builtinKwargs_of_call call unknown]
          exact (mem_toolGraphs_config entries).2.mpr ⟨plain, literal⟩
        | inr tool =>
          obtain ⟨b', g', refers, nestedOf⟩ := tool
          apply ih (.node reached ha _) nestedOf x hx
          rwa [references_of_builtin call unknown entries, plain]

theorem reached_covered (entry : ∀ b g, ctx.graphBuilders.get? entrypointName = some b →
      returned b.body = some g → ∃ ir, Compiles ctx b g ir ∧ Covered ctx ir)
    (reached : Reached ctx b g) : ∃ ir, Compiles ctx b g ir ∧ Covered ctx ir := by
  induction reached with
  | root found returns => exact entry _ _ found returns
  | node _ added refers ih =>
    obtain ⟨ir, compiles, covered⟩ := ih
    obtain ⟨spec, hspec, node⟩ := forall₂_exists_left compiles.spec.1 added
    cases node with
    | subgraph names nested =>
      rw [references_of_graph names] at refers
      cases List.mem_singleton.mp refers
      exact ⟨_, nested, covered.subgraph hspec⟩
    | code call known built =>
      rw [references_of_code call known] at refers
      cases refers
    | builtin call unknown allowed entries =>
      rw [references_of_builtin call unknown entries] at refers
      split at refers
      case isTrue => cases refers
      case isFalse plain =>
        obtain ⟨nested, hn, nestedOf⟩ := toolGraphs_of_toolExprs entries refers
        refine ⟨nested, nestedOf, covered.tool hspec ?_⟩
        exact (mem_toolGraphs_config entries).1.mpr ⟨eq_false_of_ne_true plain, hn⟩

theorem literals_covered (added : a ∈ b.added g) (compiles : Compiles ctx b g ir)
    (covered : Covered ctx ir) : ∀ nested ∈ a.literalGraphs ctx, Covered ctx nested := by
  intro nested hn
  obtain ⟨spec, hspec, node⟩ := forall₂_exists_left compiles.spec.1 added
  cases node with
  | subgraph names =>
    rw [AddedNode.literalGraphs, builtinKwargs_of_graph names] at hn
    cases hn
  | code call known built =>
    rw [AddedNode.literalGraphs, builtinKwargs_of_code call known] at hn
    cases hn
  | builtin call unknown allowed entries =>
    rw [AddedNode.literalGraphs, builtinKwargs_of_call call unknown] at hn
    obtain ⟨plain, hn⟩ := (mem_toolGraphs_config entries).2.mp hn
    apply covered.tool hspec
    refine (mem_toolGraphs_config entries).1.mpr ⟨plain, ?_⟩
    obtain ⟨e, he, hn⟩ := mem_toolGraphsOfEntries.mp hn
    exact mem_toolGraphsOfEntries.mpr ⟨e, mem_literalConfig entries he, hn⟩

end Nodes

section Compilation

variable {host : Host} {source : String} {m : Module} {enforce : Bool} {ctx : CompileContext}
  {ir : GraphIR}

/-- A compiled graph instantiates permitted specifications only, exactly where the graphs in the
configuration literals do. -/
theorem covered_iff_literals_covered (context : compileContext host source m true = .ok ctx)
    (compiled : compileWorkflowToIr host source m true = .ok ir) :
    Covered ctx ir ↔ LiteralsCovered ctx := by
  obtain ⟨b, g, found, returns, compiles⟩ := compileWorkflowToIr_ok context compiled
  constructor
  · intro covered b' g' reached a added nested hn
    have entry : ∀ b g, ctx.graphBuilders.get? entrypointName = some b →
        returned b.body = some g → ∃ ir, Compiles ctx b g ir ∧ Covered ctx ir := by
      intro b₁ g₁ found₁ returns₁
      cases found.symm.trans found₁
      cases returns.symm.trans returns₁
      exact ⟨ir, compiles, covered⟩
    obtain ⟨ir', compiles', covered'⟩ := reached_covered entry reached
    exact literals_covered added compiles' covered' nested hn
  · intro literals levels x hx
    exact covered_of_literals (compileContext_ok context).2 literals levels
      (.root found returns) compiles x hx

/-! A registry with two node types, and modules with one agent. -/

def agentHost : Host where
  numbers := ⟨fun _ => none, fun _ => none⟩
  registered type := type = "AgentNode" || type = "PostgresNode"
  restricted type := type = "PostgresNode"
  isModule _ := false
  symbol _ _ := .other
  schemaJsonSchema _ _ := reject "no schema"
  fieldAccepts _ _ := true
  policedNames := ["eval"]
  isspace := Char.isWhitespace
  splitlines source := [source]
  dedent lines := lines
  sourceSegment _ _ := none

def dictExpr (items : List (String × Expr)) : Expr :=
  .dict (items.map (fun e => (some (.str e.1), e.2)))

def agentModule (keywords : Keywords) : Module :=
  [.functionDef { name := entrypointName, body :=
    [.assign [.name "graph"] (.call (.name "StateGraph") [.name "State"] []),
      .expr (.call (.attr (.name "graph") "add_node")
        [.str "agent", .call (.name "AgentNode") [] keywords] []),
      .expr (.call (.attr (.name "graph") "add_edge") [.name "START", .str "agent"] []),
      .ret (some (.name "graph"))] }]

theorem covered_iff_literals_covered_model : ∃ ctx ir,
    compileWorkflowToIr agentHost "" (agentModule [(some "ai_model", .str "gpt")]) true = .ok ir ∧
      (Covered ctx ir ↔ LiteralsCovered ctx) := by
  cases context : compileContext agentHost "" (agentModule [(some "ai_model", .str "gpt")]) true with
  | error e => cases context
  | ok ctx =>
    have accepted : (compileWorkflowToIr agentHost ""
      (agentModule [(some "ai_model", .str "gpt")]) true).isOk := by decide
    cases compiled : compileWorkflowToIr agentHost ""
      (agentModule [(some "ai_model", .str "gpt")]) true with
    | error e =>
      rw [compiled] at accepted
      cases accepted
    | ok ir => exact ⟨ctx, ir, rfl, covered_iff_literals_covered context compiled⟩

def smuggledTool : Expr :=
  dictExpr [(irConfigKindKey, .str workflowToolConfigKind), ("name", .str "tool"),
    ("description", .str "a tool"), ("graph", dictExpr [("entrypoint", .str "query"),
      ("nodes", .list [dictExpr [("kind", .str "builtin"), ("id", .str "query"),
        ("type", .str "PostgresNode"), ("config", dictExpr [("query", .str "SELECT 1")])]])])]

def Instantiated.type : Instantiated → Option String
  | builtin spec => some spec.type
  | code _ => none

theorem smuggled_tool_not_covered : ¬ ∀ (host : Host) (source : String) (m : Module)
    (ctx : CompileContext) (ir : GraphIR), compileContext host source m true = .ok ctx →
      compileWorkflowToIr host source m true = .ok ir → Covered ctx ir := by
  intro h
  let m := agentModule [(some "ai_model", .str "gpt"),
    (some "model_kwargs", dictExpr [("tool", smuggledTool)])]
  have types : (compileWorkflowToIr agentHost "" m true).toOption.map (fun ir =>
      (instantiations agentHost 2 ir).map Instantiated.type) =
        some [some "PostgresNode", some "AgentNode"] := by decide
  cases context : compileContext agentHost "" m true with
  | error e => cases context
  | ok ctx =>
    cases compiled : compileWorkflowToIr agentHost "" m true with
    | error e =>
      rw [compiled] at types
      cases types
    | ok ir =>
      rw [compiled] at types
      have covered := h agentHost "" m ctx ir context compiled
      have built : some "PostgresNode" ∈ (instantiations agentHost 2 ir).map Instantiated.type := by
        have types : (instantiations agentHost 2 ir).map Instantiated.type =
          [some "PostgresNode", some "AgentNode"] := Option.some.inj types
        rw [types]
        exact List.mem_cons_self
      obtain ⟨x, hx, type⟩ := List.mem_map.mp built
      have permitted := covered 2 x ((compileContext_ok context).1 ▸ hx)
      cases x with
      | code spec => cases type
      | builtin spec =>
        rw [Permitted, (compileContext_ok context).1, Option.some.inj type] at permitted
        cases permitted

end Compilation

end Orcheo.Graph
