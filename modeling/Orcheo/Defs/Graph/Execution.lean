import Orcheo.Defs.Graph.Compiled

/-! The statements of a graph builder as Python executes them: names denote objects, and the
methods of a graph register on it.  A nested graph is the graph itself, with all that is
registered on it later too; `compile()` stands for its graph. -/

namespace Orcheo.Graph

open Lib (Dict)

inductive Global
  | module
  | imported (attr : String)
  | classDef (c : ClassDef)
  | function (b : GraphBuilder)

def firstSegment (name : String) : String := String.ofList (name.toList.takeWhile (· ≠ '.'))

def ModuleStmt.bindings : ModuleStmt → List (String × Global)
  | .imports names => names.map (fun e => (e.2.getD (firstSegment e.1), .module))
  | .importFrom _ _ names => names.map (fun e => (e.2.getD e.1, .imported e.1))
  | .classDef c => [(c.name, .classDef c)]
  | .functionDef b => [(b.name, .function b)]
  | _ => []

def Module.bindings (m : Module) : List (String × Global) := m.flatMap ModuleStmt.bindings

def assignedName : Expr → Option String
  | .name id => some id
  | _ => none

def Stmt.assigned : Stmt → List String
  | .assign targets _ => targets.filterMap assignedName
  | _ => []

/-- The names of a module, and those that a function assigns anywhere, which hide them. -/
structure Bindings where
  globals : List (String × Global)
  locals : List String

def GraphBuilder.bindings (b : GraphBuilder) (m : Module) : Bindings :=
  ⟨m.bindings, b.body.flatMap Stmt.assigned⟩

def Bindings.denotes (bs : Bindings) (name : String) : Option Global :=
  if name ∈ bs.locals then none else Dict.lookup name bs.globals.reverse

inductive ToolGraph
  | graph (address : Nat)
  | helper (b : GraphBuilder)

inductive Object
  | graph (address : Nat)
  | node (callee : Global) (keywords : Keywords) (tools : List ToolGraph)

def Object.address : Object → Option Nat
  | graph a => some a
  | node _ _ _ => none

structure Registered where
  nodes : List (String × Object) := []
  edges : List EdgeSpec := []
  conditionalEdges : List ConditionalEdgeSpec := []
  entryPoints : List String := []

/-- With `set_entry_point(k)` as `add_edge(START, k)`. -/
def Registered.allEdges (r : Registered) : List EdgeSpec :=
  r.edges ++ r.entryPoints.map (EdgeSpec.mk startVertex)

/-- The target of the first edge from `START`, else the last entry point. -/
def Registered.entry (r : Registered) : Option String :=
  match r.edges.find? (fun e => e.source = startVertex) with
  | some e => some e.target
  | none => r.entryPoints.getLast?

structure Store where
  env : Dict String Object := ∅
  heap : List Registered := []

def evalString : Expr → Option String
  | .constant (.str s) => some s
  | _ => none

variable (bs : Bindings)

def evalVertex : Expr → Option String
  | .constant (.str s) => some s
  | .name id => match bs.denotes id with
    | some (.imported "START") => some startVertex
    | some (.imported "END") => some endVertex
    | _ => none
  | _ => none

def dictEntries : List (Option Expr × Expr) → Kwargs → Option Kwargs
  | [], entries => some entries
  | (some (.constant (.str key)), e) :: items, entries =>
    dictEntries items (Dict.insertEntry key e entries)
  | _ :: _, _ => none

def evalMapping : Expr → Option (List (String × String))
  | .dict items => do
    (← dictEntries items []).mapM (fun e => (evalVertex bs e.2).map (fun v => (e.1, v)))
  | _ => none

def evalDefault : Option Expr → Option (Option String)
  | none => some none
  | some e => if isNone e then some none else (evalVertex bs e).map some

def evalConditionalEdge (source : Expr) : Expr → Option ConditionalEdgeSpec
  | .dict items => do
    let config ← dictEntries items []
    return ⟨← evalString source, ← evalString (← Dict.lookup "path" config),
      ← evalMapping bs (← Dict.lookup "mapping" config),
      ← evalDefault bs (Dict.lookup "default" config)⟩
  | _ => none

variable (env : Dict String Object)

def evalGraph : Expr → Option Nat
  | .name id => (env.get? id).bind Object.address
  | .call (.attr (.name id) "compile") [] [] => (env.get? id).bind Object.address
  | _ => none

def evalToolGraph : Expr → Option ToolGraph
  | .call (.name f) [] [] => match bs.denotes f with
    | some (.function b) => some (.helper b)
    | _ => none
  | e => (evalGraph env e).map .graph

def construct (f : String) (keywords : Keywords) : Option Object :=
  match bs.denotes f with
  | some (.imported className) => do
    return .node (.imported className) keywords
      (← (toolExprs (keywordDict keywords [])).mapM (evalToolGraph bs env))
  | some (.classDef c) =>
    if isSchemaClass c then none else some (.node (.classDef c) keywords [])
  | _ => none

def evalObject : Expr → Option Object
  | .name id => env.get? id
  | .call (.name f) [] keywords => construct bs env f keywords
  | e => (evalGraph env e).map .graph

def objectName : Object → Option String
  | .node _ keywords _ =>
    (keywords.find? (fun kw => kw.1 = some "name")).bind (fun kw => evalString kw.2)
  | .graph _ => none

def registerCall (r : Registered) (method : String) (args : List Expr) : Option Registered :=
  match method, args with
  | "add_node", [id, node] => do
    return { r with nodes := r.nodes ++ [(← evalString id, ← evalObject bs env node)] }
  | "add_node", [node] => do
    let object ← evalObject bs env node
    return { r with nodes := r.nodes ++ [(← objectName object, object)] }
  | "add_edge", [source, target] => do
    return { r with edges := r.edges ++ [⟨← evalVertex bs source, ← evalVertex bs target⟩] }
  | "add_conditional_edges", [source, config] => do
    return { r with
      conditionalEdges := r.conditionalEdges ++ [← evalConditionalEdge bs source config] }
  | "set_entry_point", [id] => do
    return { r with entryPoints := r.entryPoints ++ [← evalString id] }
  | "set_finish_point", [id] => do
    return { r with edges := r.edges ++ [⟨← evalString id, endVertex⟩] }
  | _, _ => none

def assign (store : Store) (target f : String) (args : List Expr) (keywords : Keywords) :
    Option Store :=
  match bs.denotes f, args with
  | some (.imported "StateGraph"), _ => some {
      env := store.env.set target (.graph store.heap.length)
      heap := store.heap ++ [{}] }
  | _, [] => do
    return { store with env := store.env.set target (← construct bs store.env f keywords) }
  | _, _ => none

def execute (store : Store) : Stmt → Option Store
  | .assign [.name target] (.call (.name f) args keywords) => assign bs store target f args keywords
  | .expr (.call (.attr (.name g) method) args _) => do
    let a ← (store.env.get? g).bind Object.address
    let r ← registerCall bs store.env (← store.heap[a]?) method args
    return { store with heap := store.heap.set a r }
  | .expr (.constant (.str _)) => some store
  | _ => none

def evalReturn : Option Expr → Option Nat
  | some (.name id) => (env.get? id).bind Object.address
  | some (.call (.attr (.name id) "compile") _ _) => (env.get? id).bind Object.address
  | _ => none

/-- The store at the first `return`, and the address of the graph that is returned. -/
def runStmts : List Stmt → Store → Option (Store × Nat)
  | [], _ => none
  | .ret value :: _, store => do return (store, ← evalReturn store.env value)
  | stmt :: body, store => do runStmts body (← execute bs store stmt)

def GraphBuilder.run (b : GraphBuilder) (m : Module) : Option (Store × Nat) :=
  runStmts (b.bindings m) b.body {}

def Names.keepsNode (names : Names) : Action → Bool
  | .newGraph target => !names.nodes.contains target
  | _ => true

/-- No name that holds a node is given to a graph later. -/
def keepsNodes : List Stmt → Names → Bool
  | [], _ => true
  | .ret _ :: _, _ => true
  | stmt :: body, names => names.keepsNode stmt.action && keepsNodes body (names.step stmt.action)

/-- Imports keep their names, no class takes the name of an import, and none is called
`StateGraph`. -/
structure Module.Plain (m : Module) : Prop where
  unrenamed : ∀ name attr, (name, .imported attr) ∈ m.bindings → attr = name
  classes : ∀ name attr c, (name, .imported attr) ∈ m.bindings → (name, .classDef c) ∉ m.bindings
  stateGraph : ∀ c, ("StateGraph", .classDef c) ∉ m.bindings

end Orcheo.Graph
