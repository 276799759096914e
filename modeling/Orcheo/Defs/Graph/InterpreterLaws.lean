import Orcheo.Defs.Graph.Interpreter
import Orcheo.Lib.Except

/-! What a builder registers on each of its graphs, read off its statements. -/

namespace Orcheo.Graph

open Lib (Dict bind_ok_iff pure_ok_iff)

inductive Action
  | newGraph (name : String)
  | newNode (name : String) (call : Expr)
  | method (graphName method : String) (args : List Expr)
  | skip

def Stmt.action : Stmt → Action
  | .assign (.name target :: _) (.call (.name "StateGraph") _ _) => .newGraph target
  | .assign (.name target :: _) (.call func args keywords) =>
    .newNode target (.call func args keywords)
  | .expr (.call (.attr (.name graphName) method) args _) => .method graphName method args
  | _ => .skip

inductive Effect
  | node (id : String) (expr : Expr)
  | edge (e : EdgeSpec)
  | conditionalEdge (c : ConditionalEdgeSpec)
  | entryPoint (id : String)
  | nothing

def effectOf (nodeAssignments : Dict String Expr) (method : String) (args : List Expr) :
    Checked Effect :=
  match method with
  | "add_node" => do
    let (id, expr) ← resolveAddNodeArgs nodeAssignments args
    return .node id expr
  | "add_edge" => do return .edge (← interpretAddEdge args)
  | "add_conditional_edges" => do return .conditionalEdge (← interpretConditionalEdge args)
  | "set_entry_point" => do return .entryPoint (← stringArg "set_entry_point" args)
  | "set_finish_point" => do return .edge ⟨← stringArg "set_finish_point" args, endVertex⟩
  | _ => .ok .nothing

structure Names where
  graphs : List String := []
  nodes : Dict String Expr := ∅

def Scope.names (scope : Scope) : Names := ⟨scope.graphs.keys, scope.nodeAssignments⟩

def Names.step (names : Names) : Action → Names
  | .newGraph target => { names with graphs := names.graphs ++ [target] }
  | .newNode target call => { names with nodes := names.nodes.set target call }
  | _ => names

structure Registration where
  graphs : List String
  effect : Effect

def Names.registration (names : Names) (g : String) : Action → List Registration
  | .method graphName method args =>
    if graphName = g then match effectOf names.nodes method args with
      | .ok effect => [⟨names.graphs, effect⟩]
      | .error _ => []
    else []
  | _ => []

/-- What the statements up to the first `return` register on a graph. -/
def registrations (g : String) : List Stmt → Names → List Registration
  | [], _ => []
  | .ret _ :: _, _ => []
  | stmt :: body, names =>
    names.registration g stmt.action ++ registrations g body (names.step stmt.action)

def returned : List Stmt → Option String
  | [] => none
  | .ret value :: _ => (returnGraphName value).toOption
  | _ :: body => returned body

section Scopes

variable (ctx : CompileContext) (helper : String → Checked GraphIR)

def Workflow.register (graphs : List String) (workflow : Workflow) : Effect → Checked Workflow
  | .node id expr => do
    require (id ∉ workflow.seenIds) ("duplicate node id '" ++ id ++ "'")
    let entry ← nodeEntry ctx helper graphs id expr
    return { workflow with
      nodes := workflow.nodes ++ [entry], seenIds := workflow.seenIds ++ [id] }
  | .edge e => .ok { workflow with edges := workflow.edges ++ [e] }
  | .conditionalEdge c =>
    .ok { workflow with conditionalEdges := workflow.conditionalEdges ++ [c] }
  | .entryPoint id => .ok { workflow with entryOverride := some id }
  | .nothing => .ok workflow

def Workflow.registerAll (workflow : Workflow) (rs : List Registration) : Checked Workflow :=
  rs.foldlM (fun w r => w.register ctx helper r.graphs r.effect) workflow

theorem interpretMethod_eq (scope : Scope) (workflow : Workflow) (method : String)
    (args : List Expr) : interpretMethod ctx helper scope workflow method args =
      effectOf scope.nodeAssignments method args >>=
        workflow.register ctx helper scope.graphs.keys := by
  fun_cases interpretMethod ctx helper scope workflow method args with
  | case1 =>
    cases h : resolveAddNodeArgs scope.nodeAssignments args <;>
      simp only [interpretAddNode, effectOf, h] <;> rfl
  | case2 =>
    cases h : interpretAddEdge args <;> simp only [effectOf, h] <;> rfl
  | case3 =>
    cases h : interpretConditionalEdge args <;> simp only [effectOf, h] <;> rfl
  | case4 =>
    cases h : stringArg "set_entry_point" args <;> simp only [effectOf, h] <;> rfl
  | case5 =>
    cases h : stringArg "set_finish_point" args <;> simp only [effectOf, h] <;> rfl
  | case6 method notNode notEdge notConditional notEntry notFinish =>
    rw [effectOf] <;> first | rfl | assumption

def Scope.perform (scope : Scope) : Action → Checked Scope
  | .newGraph target =>
    if scope.graphs.contains target then
      reject ("graph variable '" ++ target ++ "' is assigned more than once")
    else return { scope with graphs := scope.graphs.set target {} }
  | .newNode target call =>
    return { scope with nodeAssignments := scope.nodeAssignments.set target call }
  | .method graphName method args =>
    interpretGraphCall ctx helper scope (.attr (.name graphName) method) args
  | .skip => .ok scope

theorem interpretStmt_eq (scope : Scope) (stmt : Stmt) :
    interpretStmt ctx helper scope stmt = scope.perform ctx helper stmt.action := by
  fun_cases Stmt.action stmt with
  | case1 => rfl
  | case2 target _ func args keywords notGraph =>
    rw [interpretStmt]
    · rfl
    · exact notGraph
  | case3 => rfl
  | case4 _ notGraph notNode notMethod =>
    fun_cases interpretStmt ctx helper scope stmt with
    | case1 => exact (notGraph _ _ _ _ rfl).elim
    | case2 => exact (notGraph _ _ _ _ rfl).elim
    | case3 => exact (notNode _ _ _ _ _ rfl).elim
    | case4 func args keywords =>
      rw [interpretGraphCall]
      · rfl
      · rintro graphName method rfl
        exact notMethod _ _ _ _ rfl
    | case5 => rfl

variable {ctx helper}

variable {scope scope' : Scope} {body : List Stmt}

theorem perform_method {g method : String} {args : List Expr}
    (h : scope.perform ctx helper (.method g method args) = .ok scope') :
    ∃ workflow workflow' effect, scope.graphs.get? g = some workflow ∧
      effectOf scope.nodeAssignments method args = .ok effect ∧
      workflow.register ctx helper scope.graphs.keys effect = .ok workflow' ∧
      scope' = { scope with graphs := scope.graphs.set g workflow' } := by
  rw [Scope.perform, interpretGraphCall] at h
  cases hg : scope.graphs.get? g with
  | none =>
    simp only [hg] at h
    cases h
  | some workflow =>
    simp only [hg] at h
    obtain ⟨workflow', hw, h⟩ := bind_ok_iff.mp h
    rw [interpretMethod_eq] at hw
    obtain ⟨effect, he, hw⟩ := bind_ok_iff.mp hw
    exact ⟨workflow, workflow', effect, rfl, he, hw, (pure_ok_iff.mp h).symm⟩

theorem perform_newGraph {g : String} (h : scope.perform ctx helper (.newGraph g) = .ok scope') :
    g ∉ scope.graphs.keys ∧ scope' = { scope with graphs := scope.graphs.set g {} } := by
  rw [Scope.perform] at h
  split at h
  · cases h
  case isFalse absent =>
    rw [Dict.contains_iff] at absent
    exact ⟨absent, (pure_ok_iff.mp h).symm⟩

theorem perform_names {action : Action} (h : scope.perform ctx helper action = .ok scope') :
    scope'.names = scope.names.step action := by
  cases action with
  | newGraph g =>
    obtain ⟨absent, rfl⟩ := perform_newGraph h
    simp only [Scope.names, Names.step, Dict.keys_set_of_not_mem absent]
  | newNode target call =>
    cases h
    rfl
  | method g method args =>
    obtain ⟨workflow, workflow', _, hg, _, _, rfl⟩ := perform_method h
    have present : g ∈ scope.graphs.keys := (Dict.mem_keys_iff _ _).mpr ⟨workflow, hg⟩
    simp only [Scope.names, Names.step, Dict.keys_set_of_mem present]
  | skip =>
    cases h
    rfl

theorem perform_graph {action : Action} (g : String)
    (h : scope.perform ctx helper action = .ok scope') :
    ((scope.graphs.get? g).getD {}).registerAll ctx helper (scope.names.registration g action) =
      .ok ((scope'.graphs.get? g).getD {}) := by
  cases action with
  | newGraph target =>
    obtain ⟨absent, rfl⟩ := perform_newGraph h
    rw [Dict.get?_set]
    split
    case isTrue same =>
      rw [same, (Dict.get?_eq_none_iff _ _).mpr absent]
      rfl
    case isFalse => rfl
  | newNode target call =>
    cases h
    rfl
  | method target method args =>
    obtain ⟨workflow, workflow', effect, hg, he, hw, rfl⟩ := perform_method h
    rw [Names.registration, Dict.get?_set]
    split
    case isTrue same =>
      subst same
      have he : effectOf scope.names.nodes method args = .ok effect := he
      simp only [he, hg, if_pos, Option.getD_some, Workflow.registerAll, List.foldlM_cons,
        List.foldlM_nil]
      exact bind_ok_iff.mpr ⟨workflow', hw, rfl⟩
    case isFalse other =>
      rw [if_neg fun same => other same.symm]
      rfl
  | skip =>
    cases h
    rfl

theorem registerAll_append (workflow : Workflow) (rs rs' : List Registration) :
    workflow.registerAll ctx helper (rs ++ rs') =
      workflow.registerAll ctx helper rs >>= fun w => w.registerAll ctx helper rs' :=
  List.foldlM_append

theorem interpretBody_cons {stmt : Stmt} (h : ∀ value, stmt ≠ .ret value) :
    interpretBody ctx helper (stmt :: body) scope =
      scope.perform ctx helper stmt.action >>= interpretBody ctx helper body := by
  rw [interpretBody, interpretStmt_eq]
  exact h

theorem interpretBody_returned {root : Option String}
    (h : interpretBody ctx helper body scope = .ok (scope', root)) : returned body = root := by
  fun_induction returned body generalizing scope with
  | case1 =>
    cases h
    rfl
  | case2 value body =>
    obtain ⟨name, hn, h⟩ := bind_ok_iff.mp h
    cases h
    rw [hn]
    rfl
  | case3 stmt body notRet ih =>
    rw [interpretBody_cons fun value h => notRet value h] at h
    obtain ⟨next, _, h⟩ := bind_ok_iff.mp h
    exact ih h

theorem interpretBody_graph {root : Option String}
    (g : String) (h : interpretBody ctx helper body scope = .ok (scope', root)) :
    ((scope.graphs.get? g).getD {}).registerAll ctx helper (registrations g body scope.names) =
      .ok ((scope'.graphs.get? g).getD {}) := by
  fun_induction returned body generalizing scope with
  | case1 =>
    cases h
    rfl
  | case2 value body =>
    obtain ⟨name, _, h⟩ := bind_ok_iff.mp h
    cases h
    rfl
  | case3 stmt body notRet ih =>
    rw [interpretBody_cons fun value h => notRet value h] at h
    obtain ⟨next, hs, h⟩ := bind_ok_iff.mp h
    rw [registrations, registerAll_append]
    · have first := perform_graph g hs
      have rest := ih h
      rw [perform_names hs] at rest
      exact bind_ok_iff.mpr ⟨_, first, rest⟩
    · exact notRet

end Scopes

end Orcheo.Graph
