import Orcheo.Lib.Dict

/-! The Python syntax that workflow scripts are read from, as `ast.parse` gives it.  Line
numbers are kept where the source is sliced by them. -/

namespace Orcheo.Graph

inductive Constant
  | none
  | bool (b : Bool)
  | int (n : Int)
  | float (bits : BitVec 64)
  | str (s : String)
  /-- bytes, a complex number or an ellipsis -/
  | other (typeName : String)
  deriving DecidableEq, Repr

inductive UnaryOp
  | usub | uadd | other
  deriving DecidableEq, Repr

inductive ExprKind
  | lambda | comprehension | subscript | starred | suspension | other
  deriving DecidableEq, Repr

inductive Expr
  | constant (value : Constant)
  | name (id : String)
  | list (elts : List Expr)
  | tuple (elts : List Expr)
  | dict (items : List (Option Expr × Expr))
  | unaryOp (op : UnaryOp) (operand : Expr)
  | call (func : Expr) (args : List Expr) (keywords : List (Option String × Expr))
  | attr (value : Expr) (name : String)
  | other (kind : ExprKind) (children : List Expr)

namespace Expr

abbrev str (s : String) : Expr := .constant (.str s)

mutual
def walk : Expr → List Expr
  | constant value => [constant value]
  | name id => [name id]
  | list elts => list elts :: walkList elts
  | tuple elts => tuple elts :: walkList elts
  | dict items => dict items :: walkItems items
  | unaryOp op operand => unaryOp op operand :: operand.walk
  | call func args keywords =>
    call func args keywords :: (func.walk ++ walkList args ++ walkKeywords keywords)
  | attr value member => attr value member :: value.walk
  | other kind children => other kind children :: walkList children

def walkList : List Expr → List Expr
  | [] => []
  | e :: es => e.walk ++ walkList es

def walkItems : List (Option Expr × Expr) → List Expr
  | [] => []
  | (none, v) :: items => v.walk ++ walkItems items
  | (some k, v) :: items => k.walk ++ v.walk ++ walkItems items

def walkKeywords : List (Option String × Expr) → List Expr
  | [] => []
  | (_, v) :: keywords => v.walk ++ walkKeywords keywords
end

end Expr

inductive Stmt
  | assign (targets : List Expr) (value : Expr)
  | expr (value : Expr)
  | ret (value : Option Expr)
  /-- any other statement, with the expressions in it -/
  | other (exprs : List Expr)

def Stmt.walk : Stmt → List Expr
  | assign targets value => Expr.walkList targets ++ value.walk
  | expr value => value.walk
  | ret none => []
  | ret (some value) => value.walk
  | other exprs => Expr.walkList exprs

structure GraphBuilder where
  name : String
  hasDecorators : Bool := false
  hasArguments : Bool := false
  body : List Stmt

/-- The nodes of a `run` method that its validators look at. -/
inductive TreeKind
  | importing
  | name (id : String) (load : Bool)
  | attr (name : String)
  | await | asyncBlock | asyncFunction | function | lambda | yield
  | ret (hasValue : Bool)
  | other
  deriving DecidableEq, Repr

inductive Tree
  | node (kind : TreeKind) (children : List Tree)

namespace Tree

def kind : Tree → TreeKind
  | node kind _ => kind

def children : Tree → List Tree
  | node _ children => children

mutual
/-- `ast.walk`, in another order: only the first of several errors depends on it. -/
def walk : Tree → List Tree
  | node kind children => node kind children :: walkList children

def walkList : List Tree → List Tree
  | [] => []
  | t :: ts => t.walk ++ walkList ts
end

mutual
/-- `_walk_own_scope`, with the node itself where it does not open a scope -/
def ownScope : Tree → List Tree
  | node kind children =>
    match kind with
    | .function | .asyncFunction | .lambda => []
    | kind => node kind children :: ownScopeList children

def ownScopeList : List Tree → List Tree
  | [] => []
  | t :: ts => t.ownScope ++ ownScopeList ts
end

end Tree

structure BodyStmt where
  lineno : Nat
  endLineno : Nat
  colOffset : Nat := 0
  endColOffset : Nat := 0
  tree : Tree

structure RunFunction where
  name : String := "run"
  lineno : Nat
  hasDecorators : Bool := false
  /-- what the signature contains -/
  signature : List Tree := []
  body : List BodyStmt

inductive Member
  | docstring
  | annAssign (target : Expr) ( annotation : Expr) (value : Option Expr)
  | assign (targets : List Expr) (value : Expr)
  | function (f : RunFunction)
  | other

structure ClassDef where
  name : String
  bases : List Expr
  hasKeywords : Bool := false
  hasDecorators : Bool := false
  body : List Member

/-- An alias is a name with the local name given to it. -/
inductive ModuleStmt
  | docstring
  | imports (names : List (String × Option String))
  | importFrom (level : Nat) (module : Option String) (names : List (String × Option String))
  | classDef (c : ClassDef)
  | functionDef (f : GraphBuilder)
  | other

abbrev Module := List ModuleStmt

inductive GraphError
  | workflowValidation (message : String)
  | irValidation (message : String)
  deriving DecidableEq, Repr

end Orcheo.Graph
