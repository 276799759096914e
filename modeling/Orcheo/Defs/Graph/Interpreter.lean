import Orcheo.Defs.Graph.Builder

/-! The restricted interpreter: a conforming script becomes a graph without being run. -/

namespace Orcheo.Graph

open Lib (Dict)

structure CodeNodeClass where
  runFunc : RunFunction
  defaults : Config := []
  declared : List String := []

structure CompileContext where
  host : Host
  source : String
  codeClasses : Dict String CodeNodeClass
  graphBuilders : Dict String GraphBuilder
  schemaClasses : Dict String ClassDef
  importedSymbols : Dict String (String × String)
  enforceNodePolicy : Bool

/-- The fields so far, and the `run` method found last. -/
def collectMembers : List Member → Config → List String → Option RunFunction →
    Checked (Config × List String × Option RunFunction)
  | [], defaults, declared, run => .ok (defaults, declared, run)
  | .annAssign (.name target) _ none :: members, defaults, declared, run =>
    collectMembers members defaults (declared ++ [target]) run
  | .annAssign (.name target) _ (some value) :: members, defaults, declared, run => do
    let v ← literalFromAst value
    collectMembers members (Dict.insertEntry target v defaults) (declared ++ [target]) run
  | .assign (.name target :: _) value :: members, defaults, declared, run => do
    let v ← literalFromAst value
    collectMembers members (Dict.insertEntry target v defaults) (declared ++ [target]) run
  | .function f :: members, defaults, declared, _ => collectMembers members defaults declared (some f)
  | _ :: members, defaults, declared, run => collectMembers members defaults declared run

def codeNodeClass (c : ClassDef) : Checked CodeNodeClass := do
  match ← collectMembers c.body [] [] none with
  | (defaults, declared, some run) => return ⟨run, defaults, declared⟩
  | (_, _, none) => reject ("class '" ++ c.name ++ "' must define a 'run' method")

def collectCodeNodeClasses : Module → Dict String CodeNodeClass →
    Checked (Dict String CodeNodeClass)
  | [], classes => .ok classes
  | .classDef c :: m, classes =>
    if isSchemaClass c then collectCodeNodeClasses m classes
    else do collectCodeNodeClasses m (classes.set c.name (← codeNodeClass c))
  | _ :: m, classes => collectCodeNodeClasses m classes

def graphBuilderOf : ModuleStmt → Option (String × GraphBuilder)
  | .functionDef f => some (f.name, f)
  | _ => none

def collectGraphBuilders (m : Module) : Dict String GraphBuilder :=
  .ofList (m.filterMap graphBuilderOf)

def schemaClassOf : ModuleStmt → Option (String × ClassDef)
  | .classDef c => if isSchemaClass c then some (c.name, c) else none
  | _ => none

def collectSchemaClasses (m : Module) : Dict String ClassDef := .ofList (m.filterMap schemaClassOf)

def importedNames : ModuleStmt → List (String × String × String)
  | .importFrom _ (some module) names => names.map (fun e => (e.2.getD e.1, module, e.1))
  | _ => []

def collectImportedSymbols (m : Module) : Dict String (String × String) :=
  .ofList (m.flatMap importedNames)

def asString (what : String) : Expr → Checked String
  | .constant (.str s) => .ok s
  | _ => reject (what ++ " must be a string literal")

def asBool (what : String) : Expr → Checked Bool
  | .constant (.bool b) => .ok b
  | _ => reject (what ++ " must be a boolean literal")

def isNone : Expr → Bool
  | .constant .none => true
  | _ => false

def vertexFromExpr : Expr → Checked String
  | .constant (.str s) => .ok s
  | .name "START" => .ok startVertex
  | .name "END" => .ok endVertex
  | _ => reject "edge endpoints must be node-id strings or START/END"

def stringArg (what : String) : List Expr → Checked String
  | [] => reject (what ++ " requires a string argument")
  | e :: _ => asString what e

variable (host : Host)

def resolveImportedSymbol (module name : String) : Checked Symbol :=
  if host.isModule module then .ok (host.symbol module name)
  else reject ("cannot import '" ++ module ++ "." ++ name ++ "'; '" ++ module ++
    "' is not an available Orcheo module")

variable (ctx : CompileContext)

def modelSchema : Option Value → Checked (Option Value)
  | some schema => .ok (some schema)
  | none => reject "the model has no JSON Schema"

def importedSchemaJsonSchema (name : String) : Checked (Option Value) :=
  match ctx.importedSymbols.get? name with
  | none => .ok none
  | some (module, attr) => do
    match ← resolveImportedSymbol ctx.host module attr with
    | .model schema | .baseModel schema => modelSchema schema
    | .other => return none

def importedModelRef (name : String) : Checked (Option Value) :=
  match ctx.importedSymbols.get? name with
  | none => .ok none
  | some (module, attr) => do
    match ← resolveImportedSymbol ctx.host module attr with
    | .model _ => return some (.dict [(irConfigKindKey, .str pydanticModelConfigKind),
        ("module", .str module), ("name", .str attr)])
    | _ => return none

def noModelRef (_ : String) : Checked (Option Value) := .ok none

def plainConfigValue (allowCredentials : Bool) (whence : String) (e : Expr) : Checked Value := do
  checkValue allowCredentials whence e
  literalFromAst e

mutual
/-- `_config_value_from_ast`; `models` finds the trusted model a name stands for. -/
def configValueFromAst (models : String → Checked (Option Value)) (allowCredentials : Bool)
    (whence : String) : Expr → Checked Value
  | .name id => do
    match ← models id with
    | some v => return v
    | none => plainConfigValue allowCredentials whence (.name id)
  | .list elts => do return .list (← configValues models allowCredentials whence elts)
  | .tuple elts => do return .tuple (← configValues models allowCredentials whence elts)
  | .dict items => do return .dict (← configDict models allowCredentials whence items items [])
  | e => plainConfigValue allowCredentials whence e

def configValues (models : String → Checked (Option Value)) (allowCredentials : Bool)
    (whence : String) : List Expr → Checked (List Value)
  | [] => .ok []
  | e :: es => do
    let v ← configValueFromAst models allowCredentials whence e
    let vs ← configValues models allowCredentials whence es
    return v :: vs

/-- `_config_dict_from_ast`; where a key is no string literal the validator of the whole
dictionary speaks. -/
def configDict (models : String → Checked (Option Value)) (allowCredentials : Bool)
    (whence : String) (whole : List (Option Expr × Expr)) :
    List (Option Expr × Expr) → Config → Checked Config
  | [], config => .ok config
  | (some (.constant (.str key)), value) :: items, config => do
    let v ← configValueFromAst models allowCredentials whence value
    configDict models allowCredentials whence whole items (Dict.insertEntry key v config)
  | _ :: _, _ => do
    checkDict allowCredentials whence whole
    reject "unreachable"
end

def schemaOrLiteralFromAst : Expr → Checked Value
  | .name id =>
    if ctx.schemaClasses.contains id then ctx.host.schemaJsonSchema id ctx.schemaClasses.values
    else do
      match ← importedSchemaJsonSchema ctx id with
      | some schema => return schema
      | none => plainConfigValue false "schema config" (.name id)
  | e => plainConfigValue false "schema config" e

/-- The graph variable that `child` or `child.compile()` names. -/
def resolveGraphRefExpr (graphs : List String) : Expr → Checked (Option String)
  | .name id => .ok (if id ∈ graphs then some id else none)
  | .call (.attr (.name id) "compile") args keywords =>
    if id ∉ graphs then .ok none
    else if args.isEmpty && keywords.isEmpty then .ok (some id)
    else reject "nested graph compile() calls may not pass arguments"
  | _ => .ok none

inductive GraphRef
  | variable (name : String)
  | helper (ir : GraphIR)

structure WorkflowToolRef where
  name : String
  description : String
  graphRef : GraphRef
  argsSchema : Option Value := none
  outputPath : Option String := none
  returnDirect : Bool := false

inductive ConfigEntry
  | value (v : Value)
  | tools (refs : List WorkflowToolRef)

abbrev Kwargs := List (String × Expr)

def toolKeywords : List String :=
  ["name", "description", "graph", "args_schema", "output_path", "return_direct"]

def addKeyword (unsupported key : String) (value : Expr) (values : Kwargs) : Checked Kwargs := do
  require (key ∈ toolKeywords)
    ("WorkflowTool " ++ unsupported ++ " '" ++ key ++ "' is not supported in restricted mode")
  require ((Dict.lookup key values).isNone)
    ("WorkflowTool " ++ unsupported ++ " '" ++ key ++ "' is duplicated")
  return values ++ [(key, value)]

def keywordMap : List (Option String × Expr) → Kwargs → Checked Kwargs
  | [], values => .ok values
  | (none, _) :: _, _ => reject "WorkflowTool may not use ** keyword unpacking"
  | (some key, value) :: keywords, values => do
    keywordMap keywords (← addKeyword "keyword" key value values)

def dictKeywordMap : List (Option Expr × Expr) → Kwargs → Checked Kwargs
  | [], values => .ok values
  | (none, _) :: _, _ => reject "WorkflowTool may not use dict unpacking"
  | (some (.constant (.str key)), value) :: items, values => do
    dictKeywordMap items (← addKeyword "key" key value values)
  | (some _, _) :: _, _ => reject "WorkflowTool dict keys must be string literals"

def workflowToolKwargs : Expr → Checked Kwargs
  | .call (.name "WorkflowTool") args keywords => do
    require args.isEmpty "WorkflowTool must be constructed with keyword arguments only"
    keywordMap keywords []
  | .dict items => dictKeywordMap items []
  | _ => reject "workflow_tools entries must be WorkflowTool(...) calls or dict literals"

def requiredKwarg (kwargs : Kwargs) (name : String) : Checked Expr :=
  match Dict.lookup name kwargs with
  | some e => .ok e
  | none => reject ("WorkflowTool requires '" ++ name ++ "'")

/-- `helper` compiles a helper builder. -/
def workflowToolGraphRef (helper : String → Checked GraphIR) (graphs : List String) (e : Expr) :
    Checked GraphRef := do
  match ← resolveGraphRefExpr graphs e with
  | some g => return .variable g
  | none => match e with
    | .call (.name f) args keywords =>
      if ctx.graphBuilders.contains f then
        if args.isEmpty && keywords.isEmpty then return .helper (← helper f)
        else reject "workflow-tool graph builder calls may not pass arguments"
      else reject "WorkflowTool graph must reference a StateGraph variable or helper graph builder"
    | _ => reject "WorkflowTool graph must reference a StateGraph variable or helper graph builder"

/-- An absent keyword, and `None` where it is allowed, give the default. -/
def optionalKwarg {α : Type} (kwargs : Kwargs) (name : String) (default : α)
    (read : Expr → Checked α) : Checked α :=
  match Dict.lookup name kwargs with
  | none => .ok default
  | some e => read e

def noneOr {α : Type} (read : Expr → Checked α) (e : Expr) : Checked (Option α) :=
  if isNone e then .ok none else do return some (← read e)

def workflowToolFromAst (helper : String → Checked GraphIR) (graphs : List String) (e : Expr) :
    Checked WorkflowToolRef := do
  let kwargs ← workflowToolKwargs e
  let name ← asString "WorkflowTool name" (← requiredKwarg kwargs "name")
  let description ← asString "WorkflowTool description" (← requiredKwarg kwargs "description")
  let graphRef ← workflowToolGraphRef ctx helper graphs (← requiredKwarg kwargs "graph")
  let outputPath ← optionalKwarg kwargs "output_path" none
    (noneOr (asString "WorkflowTool output_path"))
  let argsSchema ← optionalKwarg kwargs "args_schema" none (noneOr (schemaOrLiteralFromAst ctx))
  let returnDirect ← optionalKwarg kwargs "return_direct" false
    (asBool "WorkflowTool return_direct")
  return ⟨name, description, graphRef, argsSchema, outputPath, returnDirect⟩

def workflowToolsFromAst (helper : String → Checked GraphIR) (graphs : List String) :
    Expr → Checked (List WorkflowToolRef)
  | .list elts | .tuple elts => elts.mapM (workflowToolFromAst ctx helper graphs)
  | _ => reject "workflow_tools must be a list of WorkflowTool(...) calls or dicts"

/-- `_config_from_kwargs`, without the name; a later keyword of one name wins. -/
def configFromKwargs {α : Type} (nodeId : String) (lift : String → Expr → Checked α) :
    List (Option String × Expr) → List (String × α) → Checked (List (String × α))
  | [], config => .ok config
  | (none, _) :: _, _ => reject ("node '" ++ nodeId ++ "' may not use ** keyword unpacking")
  | (some key, e) :: keywords, config =>
    if key = "name" then configFromKwargs nodeId lift keywords config
    else do configFromKwargs nodeId lift keywords (Dict.insertEntry key (← lift key e) config)

def builtinValue (nodeId key : String) (e : Expr) : Checked Value :=
  if key = "response_format" then schemaOrLiteralFromAst ctx e
  else configValueFromAst (importedModelRef ctx) true ("node '" ++ nodeId ++ "'") e

def builtinEntry (helper : String → Checked GraphIR) (graphs : List String) (nodeId key : String)
    (e : Expr) : Checked ConfigEntry :=
  if key = "workflow_tools" then do return .tools (← workflowToolsFromAst ctx helper graphs e)
  else do return .value (← builtinValue ctx nodeId key e)

def codeValue (nodeId : String) (_ : String) (e : Expr) : Checked Value :=
  configValueFromAst noModelRef false ("node '" ++ nodeId ++ "'") e

def restrictedModeRejectionReason (nodeType : String) : Option String :=
  if host.restricted nodeType then
    some ("node type '" ++ nodeType ++ "' is marked restricted for untrusted authors")
  else none

def checkNodeTypeAllowed (nodeType nodeId : String) : Checked Unit :=
  match restrictedModeRejectionReason host nodeType with
  | none => .ok ()
  | some reason => reject ("node '" ++ nodeId ++ "': " ++ reason ++ ". This capability is " ++
      "disabled in restricted mode because it cannot be isolated from other tenants.")

inductive NodeEntry
  | builtin (id type : String) (config : List (String × ConfigEntry))
  | code (spec : CodeNodeSpec)
  | subgraph (id graphName : String)

def buildBuiltinSpec (helper : String → Checked GraphIR) (graphs : List String)
    (nodeId className : String) (keywords : List (Option String × Expr)) : Checked NodeEntry := do
  require (ctx.host.registered className)
    ("unknown node type '" ++ className ++ "' for node '" ++ nodeId ++ "'")
  if ctx.enforceNodePolicy then checkNodeTypeAllowed ctx.host className nodeId
  let config ← configFromKwargs nodeId (builtinEntry ctx helper graphs nodeId) keywords []
  return .builtin nodeId className config

def charsLe : List Char → List Char → Bool
  | [], _ => true
  | _ :: _, [] => false
  | a :: as, b :: bs => decide (a.toNat < b.toNat) || (a = b && charsLe as bs)

/-- `sorted(set(names))` -/
def sortedSet (names : List String) : List String :=
  names.eraseDups.mergeSort (fun a b => charsLe a.toList b.toList)

def mergeConfig (defaults kwargs : Config) : Config :=
  kwargs.foldl (fun config e => Dict.insertEntry e.1 e.2 config) defaults

def buildCodeSpec (nodeId : String) (keywords : List (Option String × Expr))
    (codeClass : CodeNodeClass) : Checked CodeNodeSpec := do
  let kwargs ← configFromKwargs nodeId (codeValue nodeId) keywords []
  let injected := sortedSet (codeClass.declared ++ kwargs.map Prod.fst)
  validateCodeBody codeClass.runFunc injected nodeId
  validateBodyBuiltins ctx.host codeClass.runFunc nodeId
  return ⟨nodeId, mergeConfig codeClass.defaults kwargs, injected,
    extractRunBody ctx.host ctx.source codeClass.runFunc⟩

structure Workflow where
  nodes : List NodeEntry := []
  edges : List EdgeSpec := []
  conditionalEdges : List ConditionalEdgeSpec := []
  entryOverride : Option String := none
  seenIds : List String := []

/-- The names of a builder: its graphs, and the constructor calls of its nodes. -/
structure Scope where
  graphs : Dict String Workflow := ∅
  nodeAssignments : Dict String Expr := ∅

def resolveNodeExpr (nodeAssignments : Dict String Expr) : Expr → Checked Expr
  | .call func args keywords => .ok (.call func args keywords)
  | .name id => .ok ((nodeAssignments.get? id).getD (.name id))
  | _ => reject "add_node target must be a node instance or nested graph"

def nameKwarg (keywords : List (Option String × Expr)) : Checked String :=
  match keywords.find? (fun kw => kw.1 = some "name") with
  | some kw => asString "node name" kw.2
  | none => reject "add_node(node) requires the node to set name=..."

def resolveAddNodeArgs (nodeAssignments : Dict String Expr) : List Expr → Checked (String × Expr)
  | [nodeId, node] => do
    let nodeId ← asString "add_node id" nodeId
    return (nodeId, ← resolveNodeExpr nodeAssignments node)
  | [node] => do
    match ← resolveNodeExpr nodeAssignments node with
    | .call func args keywords => return (← nameKwarg keywords, .call func args keywords)
    | _ => reject "add_node(node) requires a node constructor with name=..."
  | _ => reject "add_node expects (id, node) or (node)"

def constructedNode (helper : String → Checked GraphIR) (graphs : List String) (nodeId : String) :
    Expr → Checked NodeEntry
  | .call (.name className) args keywords => do
    require args.isEmpty
      ("node '" ++ nodeId ++ "' must be constructed with keyword arguments only")
    match ctx.codeClasses.get? className with
    | some codeClass => return .code (← buildCodeSpec ctx nodeId keywords codeClass)
    | none => buildBuiltinSpec ctx helper graphs nodeId className keywords
  | .call _ _ _ => reject ("node '" ++ nodeId ++ "' must be constructed from a node class")
  | _ => reject "add_node target must be a node instance or nested graph"

def nodeEntry (helper : String → Checked GraphIR) (graphs : List String) (nodeId : String)
    (nodeExpr : Expr) : Checked NodeEntry := do
  match ← resolveGraphRefExpr graphs nodeExpr with
  | some g => return .subgraph nodeId g
  | none => constructedNode ctx helper graphs nodeId nodeExpr

def interpretAddNode (helper : String → Checked GraphIR) (scope : Scope) (workflow : Workflow)
    (args : List Expr) : Checked Workflow := do
  let (nodeId, nodeExpr) ← resolveAddNodeArgs scope.nodeAssignments args
  require (nodeId ∉ workflow.seenIds) ("duplicate node id '" ++ nodeId ++ "'")
  let entry ← nodeEntry ctx helper scope.graphs.keys nodeId nodeExpr
  return { workflow with
    nodes := workflow.nodes ++ [entry], seenIds := workflow.seenIds ++ [nodeId] }

def interpretAddEdge : List Expr → Checked EdgeSpec
  | [source, target] => do
    let source ← vertexFromExpr source
    return ⟨source, ← vertexFromExpr target⟩
  | _ => reject "add_edge expects exactly (source, target)"

def parseConditionalMapping : List (Option Expr × Expr) → List (String × String) →
    Checked (List (String × String))
  | [], mapping => .ok mapping
  | (some (.constant (.str key)), target) :: items, mapping => do
    parseConditionalMapping items (Dict.insertEntry key (← vertexFromExpr target) mapping)
  | _ :: _, _ => reject "conditional edge mapping keys must be string literals"

structure ConditionalConfig where
  path : Option String := none
  mapping : Option (List (String × String)) := none
  default : Option String := none

def parseConditionalEntry (config : ConditionalConfig) (key : String) (value : Expr) :
    Checked ConditionalConfig :=
  match key with
  | "path" => do return { config with path := some (← asString "conditional edge path" value) }
  | "mapping" => match value with
    | .dict items => do return { config with mapping := some (← parseConditionalMapping items []) }
    | _ => reject "conditional edge 'mapping' must be a dict literal"
  | "default" => do return { config with default := ← noneOr vertexFromExpr value }
  | _ => reject ("unknown conditional edge config key '" ++ key ++ "'")

def parseConditionalConfig : List (Option Expr × Expr) → ConditionalConfig →
    Checked ConditionalConfig
  | [], config => .ok config
  | (some (.constant (.str key)), value) :: items, config => do
    parseConditionalConfig items (← parseConditionalEntry config key value)
  | _ :: _, _ => reject "conditional edge config keys must be string literals"

def interpretConditionalEdge : List Expr → Checked ConditionalEdgeSpec
  | [source, .dict items] => do
    let source ← asString "conditional edge source" source
    match ← parseConditionalConfig items {} with
    | ⟨some path, some mapping, default⟩ => return ⟨source, path, mapping, default⟩
    | _ => reject "conditional edge config requires 'path' and 'mapping'"
  | _ => reject "add_conditional_edges expects (source, \x7bpath, mapping, default\x7d)"

def interpretMethod (helper : String → Checked GraphIR) (scope : Scope) (workflow : Workflow)
    (method : String) (args : List Expr) : Checked Workflow :=
  match method with
  | "add_node" => interpretAddNode ctx helper scope workflow args
  | "add_edge" => do
    return { workflow with edges := workflow.edges ++ [← interpretAddEdge args] }
  | "add_conditional_edges" => do
    return { workflow with
      conditionalEdges := workflow.conditionalEdges ++ [← interpretConditionalEdge args] }
  | "set_entry_point" => do
    return { workflow with entryOverride := some (← stringArg "set_entry_point" args) }
  | "set_finish_point" => do
    return { workflow with
      edges := workflow.edges ++ [⟨← stringArg "set_finish_point" args, endVertex⟩] }
  | _ => .ok workflow

def interpretGraphCall (helper : String → Checked GraphIR) (scope : Scope) (func : Expr)
    (args : List Expr) : Checked Scope :=
  match func with
  | .attr (.name graphName) method => match scope.graphs.get? graphName with
    | none => reject ("method '" ++ method ++ "' targets '" ++ graphName ++
        "', which is not a StateGraph variable")
    | some workflow => do
      let workflow ← interpretMethod ctx helper scope workflow method args
      return { scope with graphs := scope.graphs.set graphName workflow }
  | _ => .ok scope

def interpretStmt (helper : String → Checked GraphIR) (scope : Scope) : Stmt → Checked Scope
  | .assign (.name target :: _) (.call (.name "StateGraph") _ _) =>
    if scope.graphs.contains target then
      reject ("graph variable '" ++ target ++ "' is assigned more than once")
    else return { scope with graphs := scope.graphs.set target {} }
  | .assign (.name target :: _) (.call func args keywords) =>
    return { scope with
      nodeAssignments := scope.nodeAssignments.set target (.call func args keywords) }
  | .expr (.call func args _) => interpretGraphCall ctx helper scope func args
  | _ => .ok scope

def returnGraphName : Option Expr → Checked String
  | some (.name id) => .ok id
  | some (.call (.attr (.name id) "compile") _ _) => .ok id
  | _ => reject "workflow entrypoint must return the graph or 'graph.compile()'"

/-- Statements after the first `return` are unreachable. -/
def interpretBody (helper : String → Checked GraphIR) : List Stmt → Scope →
    Checked (Scope × Option String)
  | [], scope => .ok (scope, none)
  | .ret value :: _, scope => do return (scope, some (← returnGraphName value))
  | stmt :: body, scope => do interpretBody helper body (← interpretStmt ctx helper scope stmt)

def interpretGraphBuilder (helper : String → Checked GraphIR) (builder : GraphBuilder) :
    Checked (String × Dict String Workflow) := do
  match ← interpretBody ctx helper builder.body {} with
  | (_, none) => reject ("graph builder '" ++ builder.name ++ "' must return the assembled graph")
  | (scope, some root) => do
    require (scope.graphs.contains root)
      ("returned graph '" ++ root ++ "' was not assigned from StateGraph(...)")
    return (root, scope.graphs)

variable (toIr : String → Checked GraphIR)

def WorkflowToolRef.resolve (ref : WorkflowToolRef) :
    Checked Value := do
  let graph ← match ref.graphRef with
    | .variable g => toIr g
    | .helper ir => pure ir
  return .dict ([(irConfigKindKey, .str workflowToolConfigKind), ("name", .str ref.name),
    ("description", .str ref.description), ("graph", graph.modelDump),
    ("output_path", optionalStr ref.outputPath), ("return_direct", .bool ref.returnDirect)] ++
    (ref.argsSchema.map (fun schema => ("args_schema", schema))).toList)

def resolveConfigGraphRefs : ConfigEntry → Checked Value
  | .value v => .ok v
  | .tools refs => do return .list (← refs.mapM (WorkflowToolRef.resolve toIr))

def resolveEntry : NodeEntry → Checked NodeSpec
  | .subgraph id g => do return .subgraph id (← toIr g)
  | .builtin id type config => do
    return .builtin ⟨id, type, ← config.mapM (fun e => do
      return (e.1, ← resolveConfigGraphRefs toIr e.2))⟩
  | .code spec => .ok (.code spec)

/-- An explicit edge from `START` wins over `set_entry_point`. -/
def resolveEntrypointName (workflow : Workflow) : Checked String :=
  match workflow.edges.find? (fun e => e.source = startVertex), workflow.entryOverride with
  | some e, _ => .ok e.target
  | none, some entry => .ok entry
  | none, none => reject
      "workflow has no entrypoint; add an edge from START or call set_entry_point"

def workflowToIr (graphs : Dict String Workflow) : Nat → List String → String → Checked GraphIR
  | 0, _, _ => reject "nested workflow depth exceeds the maximum of 32"
  | levels + 1, stack, graphName =>
    if graphName ∈ stack then
      reject ("nested workflow graph cycle detected: " ++
        " -> ".intercalate (stack ++ [graphName]))
    else match graphs.get? graphName with
      | none => reject ("unknown nested workflow graph '" ++ graphName ++ "'")
      | some workflow => do
        let nodes ← workflow.nodes.mapM
          (resolveEntry (workflowToIr graphs levels (stack ++ [graphName])))
        return .mk currentSchemaVersion defaultStateRef (← resolveEntrypointName workflow) nodes
          workflow.edges workflow.conditionalEdges

def helperCycle {α : Type} (stack : List String) (name : String) : Checked α :=
  reject ("recursive workflow-tool graph builder cycle detected: " ++
    " -> ".intercalate (stack ++ [name]))

/-- The first argument counts the builders that are not on the stack: where there are none,
the name is on it.  The cache of compiled helpers is left out, since it changes no result. -/
def helperGraphIr : Nat → List String → String → Checked GraphIR
  | n, stack, name => match ctx.graphBuilders.get? name with
    | none => reject ("unknown graph builder '" ++ name ++ "'")
    | some builder =>
      if name ∈ stack then helperCycle stack name
      else match n with
        | 0 => helperCycle stack name
        | n + 1 => do
          let (root, graphs) ← interpretGraphBuilder ctx (helperGraphIr n (stack ++ [name])) builder
          workflowToIr graphs maxGraphDepth [] root

def compileContext (source : String) (m : Module) (enforceNodePolicy : Bool) :
    Checked CompileContext := do
  return {
    host := host
    source := source
    codeClasses := ← collectCodeNodeClasses m ∅
    graphBuilders := collectGraphBuilders m
    schemaClasses := collectSchemaClasses m
    importedSymbols := collectImportedSymbols m
    enforceNodePolicy := enforceNodePolicy }

def CompileContext.helper (ctx : CompileContext) : String → Checked GraphIR :=
  helperGraphIr ctx ctx.graphBuilders.keys.length []

def compileBuilder (builder : GraphBuilder) : Checked GraphIR := do
  let (root, graphs) ← interpretGraphBuilder ctx ctx.helper builder
  workflowToIr graphs maxGraphDepth [] root

def compileWorkflowToIr (source : String) (m : Module) (enforceNodePolicy : Bool) :
    Checked GraphIR := do
  validateGrammar host m
  let ctx ← compileContext host source m enforceNodePolicy
  match ctx.graphBuilders.get? entrypointName with
  | none => reject ("script must define a '" ++ entrypointName ++ "' entrypoint")
  | some entrypoint =>
    let ir ← compileBuilder ctx entrypoint
    validateIr host ir
    return ir

end Orcheo.Graph
