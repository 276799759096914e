import Orcheo.Defs.Graph.Models

/-! The restricted grammar of workflow scripts, the vocabulary of their configuration values
and the checks on the bodies of code nodes. -/

namespace Orcheo.Graph

/-- What an imported name stands for.  A schema is absent where it cannot be made. -/
inductive Symbol
  | other
  | baseModel (schema : Option Value)
  | model (schema : Option Value)

structure Host where
  numbers : NumberReader
  /-- the registered node types, and those of them whose metadata says restricted -/
  registered : String → Bool
  restricted : String → Bool
  isModule : String → Bool
  symbol : String → String → Symbol
  /-- `schema_json_schema`: pydantic's JSON Schema of a class among the schema classes -/
  schemaJsonSchema : String → List ClassDef → Except GraphError Value
  /-- whether `Field(...)` takes the arguments -/
  fieldAccepts : List Value → Config → Bool
  /-- `dir(builtins)` -/
  policedNames : List String
  isspace : Char → Bool
  splitlines : String → List String
  dedent : String → String
  sourceSegment : String → BodyStmt → Option String

abbrev Checked (α : Type) := Except GraphError α

def reject {α : Type} (message : String) : Checked α := .error (.workflowValidation message)

def require (condition : Bool) (message : String) : Checked Unit :=
  if condition then .ok () else reject message

def closesPlaceholder : List Char → Bool
  | ']' :: ']' :: _ => true
  | '\n' :: _ => false
  | _ :: cs => closesPlaceholder cs
  | [] => false

def opensPlaceholder : List Char → Bool
  | '[' :: '[' :: c :: cs => c ≠ '\n' && closesPlaceholder cs
  | _ => false

def findsPlaceholder : List Char → Bool
  | [] => false
  | c :: cs => opensPlaceholder (c :: cs) || findsPlaceholder cs

def containsCredentialPlaceholder (value : String) : Bool := findsPlaceholder value.toList

def checkConstant (allowCredentials : Bool) (whence : String) : Constant → Checked Unit
  | .str value => require (allowCredentials || !containsCredentialPlaceholder value)
      (whence ++ ": '[[credential]]' placeholders are not allowed in CodeNode config")
  | .other typeName => reject (whence ++ ": unsupported config literal of type " ++ typeName)
  | _ => .ok ()

def notALiteral (whence : String) : String := whence ++ ": config values must be JSON literals, " ++
  "'\x7b\x7bstate.path\x7d\x7d' templates, or '[[credential]]' placeholders"

mutual
/-- `validate_config_value` -/
def checkValue (allowCredentials : Bool) (whence : String) : Expr → Checked Unit
  | .constant value => checkConstant allowCredentials whence value
  | .list elts | .tuple elts => checkValues allowCredentials whence elts
  | .dict items => checkDict allowCredentials whence items
  | .unaryOp .usub (.constant (.int _)) | .unaryOp .uadd (.constant (.int _))
  | .unaryOp .usub (.constant (.float _)) | .unaryOp .uadd (.constant (.float _))
  | .unaryOp .usub (.constant (.bool _)) | .unaryOp .uadd (.constant (.bool _)) => .ok ()
  | _ => reject (notALiteral whence)

def checkValues (allowCredentials : Bool) (whence : String) : List Expr → Checked Unit
  | [] => .ok ()
  | e :: es => do
    checkValue allowCredentials whence e
    checkValues allowCredentials whence es

def checkDict (allowCredentials : Bool) (whence : String) :
    List (Option Expr × Expr) → Checked Unit
  | [] => .ok ()
  | (none, _) :: _ => reject (whence ++ ": dict unpacking is not allowed in config")
  | (some (.constant (.str _)), value) :: items => do
    checkValue allowCredentials whence value
    checkDict allowCredentials whence items
  | (some _, _) :: _ => reject (whence ++ ": config dict keys must be string literals")
end

def negateFloat (bits : BitVec 64) : BitVec 64 := bits ^^^ 0x8000000000000000

def constantValue : Constant → Option Value
  | .none => some .none
  | .bool b => some (.bool b)
  | .int n => some (.int n)
  | .float bits => some (.float bits)
  | .str s => some (.str s)
  | .other _ => none

mutual
/-- `ast.literal_eval`; a signed boolean is no literal. -/
def literalEval : Expr → Option Value
  | .constant value => constantValue value
  | .list elts => (literalEvals elts).map .list
  | .tuple elts => (literalEvals elts).map .tuple
  | .dict items => (literalItems items []).map .dict
  | .unaryOp .usub (.constant (.int n)) => some (.int (-n))
  | .unaryOp .uadd (.constant (.int n)) => some (.int n)
  | .unaryOp .usub (.constant (.float bits)) => some (.float (negateFloat bits))
  | .unaryOp .uadd (.constant (.float bits)) => some (.float bits)
  | _ => none

def literalEvals : List Expr → Option (List Value)
  | [] => some []
  | e :: es => do
    let v ← literalEval e
    let vs ← literalEvals es
    return v :: vs

def literalItems : List (Option Expr × Expr) → Config → Option Config
  | [], config => some config
  | (some (.constant (.str key)), value) :: items, config => do
    literalItems items (Lib.Dict.insertEntry key (← literalEval value) config)
  | _ :: _, _ => none
end

def literalFromAst (e : Expr) : Checked Value :=
  match literalEval e with
  | some v => .ok v
  | none => reject "config value is not a JSON literal"

def RunFunction.trees (f : RunFunction) : List Tree := f.signature ++ f.body.map BodyStmt.tree

def RunFunction.walk (f : RunFunction) : List Tree := Tree.walkList f.trees

def startsWithDunder (name : String) : Bool := ['_', '_'].isPrefixOf name.toList

def disallowedConstruct (nodeId : String) : TreeKind → Option String
  | .importing => some ("CodeNode '" ++ nodeId ++ "' body may not import modules")
  | .name id _ => if startsWithDunder id then
      some ("CodeNode '" ++ nodeId ++ "' body may not reference dunder name '" ++ id ++
        "'; this closes builtin-allowlist escapes such as __builtins__ and __import__") else none
  | .attr attr => if startsWithDunder attr then
      some ("CodeNode '" ++ nodeId ++ "' body may not access dunder attribute '" ++ attr ++
        "'; this closes introspection gadget chains (e.g. __class__/__subclasses__/__globals__)")
      else none
  | .await => some ("CodeNode '" ++ nodeId ++
      "' body may not use 'await'; it must be a pure synchronous transform")
  | .asyncBlock => some ("CodeNode '" ++ nodeId ++ "' body may not use async constructs")
  | .asyncFunction => some ("CodeNode '" ++ nodeId ++ "' body may not define async functions")
  | .yield => some ("CodeNode '" ++ nodeId ++ "' body may not be a generator")
  | _ => none

def selfReference : Tree → Option String
  | .node (.attr attr) [.node (.name "self" _) _] => some attr
  | _ => none

def allOk {α : Type} (check : α → Option String) (xs : List α) : Checked Unit :=
  match xs.findSome? check with
  | some message => reject message
  | none => .ok ()

def returnsValue : Tree → Bool
  | .node (.ret hasValue) _ => hasValue
  | _ => false

/-- `injected` is sorted. -/
def validateCodeBody (f : RunFunction) (injected : List String) (nodeId : String) :
    Checked Unit := do
  allOk (fun t => disallowedConstruct nodeId t.kind) f.walk
  allOk (fun t => (selfReference t).bind (fun attr => if attr ∈ injected then none else
    some ("CodeNode '" ++ nodeId ++ "' body references undeclared field 'self." ++ attr ++
      "'; injected fields: " ++
      (if injected = [] then "(none)" else ", ".intercalate injected)))) f.walk
  require ((Tree.ownScopeList f.trees).any returnsValue)
    ("CodeNode '" ++ nodeId ++ "' body must return a node result payload")

def artifactVersion : String := "0.1a2"

def allowedBuiltins : List String := ["abs", "all", "any", "bin", "bool", "bytearray", "bytes",
  "callable", "chr", "classmethod", "complex", "dict", "divmod", "enumerate", "filter", "float",
  "frozenset", "hasattr", "hash", "hex", "id", "int", "isinstance", "issubclass", "iter", "len",
  "list", "map", "max", "memoryview", "min", "next", "object", "oct", "ord", "pow", "property",
  "range", "repr", "reversed", "round", "set", "slice", "sorted", "staticmethod", "str", "sum",
  "super", "tuple", "type", "zip", "ArithmeticError", "AssertionError", "AttributeError",
  "BaseException", "EOFError", "Exception", "GeneratorExit", "ImportError", "IndentationError",
  "IndexError", "KeyError", "KeyboardInterrupt", "LookupError", "MemoryError", "NameError",
  "NotImplementedError", "OSError", "OverflowError", "RuntimeError", "StopAsyncIteration",
  "StopIteration", "SyntaxError", "SystemExit", "TypeError", "UnicodeError", "ValueError",
  "ZeroDivisionError"]

def validateBodyBuiltins (host : Host) (f : RunFunction) (nodeId : String) : Checked Unit :=
  allOk (fun t => match t.kind with
    | .name id true => if id ∈ host.policedNames ∧ id ∉ allowedBuiltins then
        some ("CodeNode '" ++ nodeId ++ "' body uses builtin '" ++ id ++
          "', which is not supported by the sandbox (artifact " ++ artifactVersion ++ ")") else none
    | _ => none) f.walk

def stripNewlines (s : String) : String :=
  String.ofList ((s.toList.dropWhile (· = '\n')).reverse.dropWhile (· = '\n')).reverse

def extractRunBody (host : Host) (source : String) (f : RunFunction) : String :=
  let first := (f.body.head?.map BodyStmt.lineno).getD f.lineno
  let last := (f.body.getLast?.map BodyStmt.endLineno).getD f.lineno
  if first = f.lineno then
    stripNewlines (host.dedent ("\n".intercalate (f.body.filterMap (host.sourceSegment source))))
  else
    let lines := (host.splitlines source).take last |>.drop (first - 1)
    stripNewlines (host.dedent ("\n".intercalate lines))

def entrypointName : String := "orcheo_workflow"

def codenodeBase : String := "CodeNode"

def schemaBase : String := "BaseModel"

def graphMethods : List String :=
  ["add_node", "add_edge", "add_conditional_edges", "set_entry_point", "set_finish_point"]

def isOrcheoModule : Option String → Bool
  | none => false
  | some module => module = "orcheo" || "orcheo.".toList.isPrefixOf module.toList

def validateImport : List (String × Option String) → Checked Unit
  | [] => .ok ()
  | (name, _) :: names => do
    require (isOrcheoModule (some name))
      ("imports must come from Orcheo; '" ++ name ++ "' is not allowed")
    validateImport names

def validateImportFrom (level : Nat) (module : Option String)
    (names : List (String × Option String)) : Checked Unit := do
  require (level = 0) "relative imports are not allowed"
  require (isOrcheoModule module)
    ("imports must come from Orcheo; '" ++ module.getD "None" ++ "' is not allowed")
  require (names.all (fun e => e.1 ≠ "*")) "star imports are not allowed"

def isBaseNamed (base : String) : List Expr → Bool
  | [.name id] => id = base
  | _ => false

def isSchemaClass (c : ClassDef) : Bool := isBaseNamed schemaBase c.bases

def startsPrivate (name : String) : Bool := ['_'].isPrefixOf name.toList

def validateFieldKeywords (whence : String) : List (Option String × Expr) → Checked Unit
  | [] => .ok ()
  | (none, _) :: _ => reject (whence ++ ": Field(...) may not use ** unpacking")
  | (some _, value) :: keywords => do
    checkValue false whence value
    validateFieldKeywords whence keywords

def fieldKeywords (keywords : List (Option String × Expr)) : Option Config :=
  keywords.mapM (fun e => do return (← e.1, ← literalEval e.2))

/-- `_field_call_from_ast` -/
def validateFieldCall (host : Host) (whence : String) (func : Expr) (args : List Expr)
    (keywords : List (Option String × Expr)) : Checked Unit := do
  require (isBaseNamed "Field" [func]) (whence ++ ": only Field(...) defaults are supported")
  require (args.length ≤ 1) (whence ++ ": Field(...) accepts at most one positional default")
  checkValues false whence args
  validateFieldKeywords whence keywords
  let accepted := do return host.fieldAccepts (← literalEvals args) (← fieldKeywords keywords)
  require accepted.isSome "config value is not a JSON literal"
  require (accepted = some true) (whence ++ ": Field(...) raises")

def validateSchemaFieldValue (host : Host) (whence : String) : Expr → Checked Unit
  | .call func args keywords => validateFieldCall host whence func args keywords
  | e => checkValue false whence e

def validateSchemaMember (host : Host) (className : String) : Member → Checked Unit
  | .docstring => .ok ()
  | .annAssign (.name target) _ value => do
    require (!startsPrivate target)
      ("schema '" ++ className ++ "' field '" ++ target ++ "' may not start with '_'")
    match value with
    | none => .ok ()
    | some value => validateSchemaFieldValue host ("field '" ++ target ++ "'") value
  | .annAssign _ _ _ => reject
      ("schema '" ++ className ++ "' fields must be simple annotated assignments")
  | _ => reject ("schema '" ++ className ++ "' may only declare annotated fields")

def validateMembers (check : Member → Checked Unit) : List Member → Checked Unit
  | [] => .ok ()
  | member :: members => do
    check member
    validateMembers check members

def validateSchemaClass (host : Host) (c : ClassDef) : Checked Unit := do
  require (!c.hasDecorators) ("decorators are not allowed on schema '" ++ c.name ++ "'")
  require (!c.hasKeywords)
    ("metaclass / class keywords are not allowed on schema '" ++ c.name ++ "'")
  validateMembers (validateSchemaMember host c.name) c.body

def validateClassField (className target : String) (value : Option Expr) : Checked Unit := do
  require (!startsPrivate target)
    ("class '" ++ className ++ "' field '" ++ target ++ "' may not start with '_'")
  match value with
  | none => .ok ()
  | some value => checkValue false ("field '" ++ target ++ "'") value

def validateCodenodeMember (className : String) : Member → Checked Unit
  | .docstring => .ok ()
  | .annAssign (.name target) _ value => validateClassField className target value
  | .assign [.name target] value => validateClassField className target (some value)
  | .annAssign _ _ _ | .assign _ _ => reject
      ("class '" ++ className ++ "' fields must be simple assignments")
  | .function f => do
    require (f.name = "run") ("class '" ++ className ++ "' may only define a 'run' method, not '" ++
      f.name ++ "'; define '" ++ f.name ++ "' as a nested function inside 'run' instead")
    require (!f.hasDecorators) ("decorators are not allowed on '" ++ className ++ ".run'")
  | .other => reject
      ("class '" ++ className ++ "' may only declare config fields and a 'run' method")

def Member.isFunction : Member → Bool
  | function _ => true
  | _ => false

def validateCodenodeClass (c : ClassDef) : Checked Unit := do
  require (!c.hasDecorators) ("decorators are not allowed on class '" ++ c.name ++ "'")
  require (!c.hasKeywords) ("metaclass / class keywords are not allowed on '" ++ c.name ++ "'")
  require (isBaseNamed codenodeBase c.bases)
    ("class '" ++ c.name ++ "' must inherit only from " ++ codenodeBase)
  validateMembers (validateCodenodeMember c.name) c.body
  require (c.body.any Member.isFunction) ("class '" ++ c.name ++ "' must define a 'run' method")

def validateClass (host : Host) (c : ClassDef) : Checked Unit :=
  if isSchemaClass c then validateSchemaClass host c else validateCodenodeClass c

def validateEntrypointAssign (targets : List Expr) (value : Expr) : Checked Unit :=
  match targets, value with
  | [.name _], .call (.name _) _ _ => .ok ()
  | [.name _], .call _ _ _ => reject
      "entrypoint assignments must call a graph or node class directly"
  | [.name _], _ => reject "entrypoint assignments must construct a graph or node"
  | _, _ => reject "only single-name assignments are allowed in the entrypoint"

def validateGraphMethodCall : Expr → Checked Unit
  | .attr (.name _) method => require (method ∈ graphMethods)
      ("method '" ++ method ++ "' is not an allowed graph-assembly method")
  | _ => reject "only graph-assembly method calls are allowed as statements"

def compileMethod : String := "compile"

def validateGraphBuilderReturn (funcName : String) : Option Expr → Checked Unit
  | none => reject ("graph builder '" ++ funcName ++ "' must return the assembled graph")
  | some (.name _) => .ok ()
  | some (.call (.attr (.name _) method) _ _) => require (method = compileMethod)
      ("graph builder '" ++ funcName ++ "' must return the graph or 'graph.compile()'")
  | some _ => reject
      ("graph builder '" ++ funcName ++ "' must return the graph or 'graph.compile()'")

def validateGraphBuilderStatement (funcName : String) : Stmt → Checked Unit
  | .expr (.constant (.str _)) => .ok ()
  | .assign targets value => validateEntrypointAssign targets value
  | .expr (.call func _ _) => validateGraphMethodCall func
  | .ret value => validateGraphBuilderReturn funcName value
  | _ => reject ("graph builder '" ++ funcName ++
      "' may only build and wire the graph; this construct is not allowed")

def rejectGadgetNode : Expr → Option String
  | .other .lambda _ => some "lambdas are not allowed"
  | .other .comprehension _ => some "comprehensions are not allowed in construction code"
  | .other .subscript _ => some "subscript access is not allowed in construction code"
  | .other .starred _ => some "starred / unpacking arguments are not allowed"
  | .other .suspension _ => some "await / yield are not allowed in construction code"
  | .attr _ attr => if startsPrivate attr then
      some ("access to private/dunder attribute '" ++ attr ++ "' is not allowed") else none
  | .name id => if startsPrivate id then
      some ("private/underscore name '" ++ id ++ "' is not allowed") else none
  | _ => none

def gadgetSweep (body : List Stmt) : Checked Unit := allOk rejectGadgetNode (body.flatMap Stmt.walk)

def validateStatements (funcName : String) : List Stmt → Checked Unit
  | [] => .ok ()
  | stmt :: body => do
    validateGraphBuilderStatement funcName stmt
    validateStatements funcName body

def validateGraphBuilder (f : GraphBuilder) : Checked Unit := do
  require (!f.hasDecorators) ("decorators are not allowed on graph builder '" ++ f.name ++ "'")
  require (!f.hasArguments) ("graph builder '" ++ f.name ++ "' must take zero arguments")
  validateStatements f.name f.body
  gadgetSweep f.body

def validateModuleStmt (host : Host) : ModuleStmt → Checked Unit
  | .docstring => .ok ()
  | .imports names => validateImport names
  | .importFrom level module names => validateImportFrom level module names
  | .classDef c => validateClass host c
  | .functionDef f => validateGraphBuilder f
  | .other => reject ("only Orcheo imports, restricted schema / CodeNode classes, and " ++
      "graph-builder functions are allowed at module level")

def validateModule (host : Host) : Module → Checked Unit
  | [] => .ok ()
  | stmt :: stmts => do
    validateModuleStmt host stmt
    validateModule host stmts

def ModuleStmt.isEntrypoint : ModuleStmt → Bool
  | functionDef f => f.name = entrypointName
  | _ => false

def requireSingleEntrypoint (m : Module) : Checked Unit :=
  match m.countP ModuleStmt.isEntrypoint with
  | 0 => reject ("script must define exactly one zero-argument '" ++ entrypointName ++
      "' entrypoint")
  | 1 => .ok ()
  | _ => reject ("script must define exactly one '" ++ entrypointName ++ "' entrypoint")

def validateGrammar (host : Host) (m : Module) : Checked Unit := do
  validateModule host m
  requireSingleEntrypoint m

end Orcheo.Graph
