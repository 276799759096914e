import Mathlib.Data.List.Dedup
import Orcheo.Defs.Graph.Interpreter

/-! Schema classes are lowered to JSON Schema by way of models that are made for them. -/

namespace Orcheo.Graph

open Lib (Dict)

inductive Annotation
  | name (id : String)
  | none
  | union (left right : Annotation)
  | list (item : Annotation)
  | dict (key value : Annotation)
  | literal (values : List Expr)
  /-- a subscript of another name, or anything else -/
  | unsupported (base : Option String)

inductive FieldType (Model : Type)
  | str | int | float | bool | any | none
  | model (m : Model)
  | union (left right : FieldType Model)
  | list (item : FieldType Model)
  | dict (key value : FieldType Model)
  | literal (values : List Value)

inductive FieldDefault
  | required
  | value (v : Value)
  | field (args : List Value) (kwargs : Config)

/-- The models of pydantic: `create_model` and `model_json_schema` may raise. -/
structure Pydantic where
  Model : Type
  annotated : Expr → Annotation
  createModel : String → List (String × FieldType Model × FieldDefault) → Option Model
  modelJsonSchema : Model → Option Value

def Member.field? : Member → Option (String × Expr × Option Expr)
  | .annAssign (.name target) ann value => some (target, ann, value)
  | _ => none

def fieldDefaultFromAst (host : Host) (fieldName : String) : Option Expr → Checked FieldDefault
  | none => .ok .required
  | some (.call func args keywords) => do
    validateFieldCall host ("field '" ++ fieldName ++ "'") func args keywords
    match literalEvals args, fieldKeywords keywords with
    | some args, some kwargs => return .field args kwargs
    | _, _ => reject "config value is not a JSON literal"
  | some e => do return .value (← plainConfigValue false ("field '" ++ fieldName ++ "'") e)

def room (names stack : List String) : Nat := (names.filter (· ∉ stack)).length

namespace Pydantic

variable (pyd : Pydantic) (host : Host) (classes : List ClassDef)

section Class

variable (build : String → Checked pyd.Model)

/-- `_annotation_from_ast`; `build` makes the model of another class. -/
def annotationFromAst : Annotation → Checked (FieldType pyd.Model)
  | .name id =>
    if id = "str" then .ok .str
    else if id = "int" then .ok .int
    else if id = "float" then .ok .float
    else if id = "bool" then .ok .bool
    else if id = "Any" then .ok .any
    else if classes.any (fun c => c.name = id) then do return .model (← build id)
    else reject ("unsupported schema annotation '" ++ id ++ "'")
  | .none => .ok .none
  | .union left right => do
    let left ← annotationFromAst left
    let right ← annotationFromAst right
    return .union left right
  | .list item => do
    let item ← annotationFromAst item
    return .list item
  | .dict key value => do
    let key ← annotationFromAst key
    let value ← annotationFromAst value
    return .dict key value
  | .literal values => do return .literal (← values.mapM (plainConfigValue false "schema literal"))
  | .unsupported (some base) => reject ("unsupported schema annotation '" ++ base ++ "[...]'")
  | .unsupported none => reject "unsupported schema annotation"

def modelFields : List (String × Expr × Option Expr) →
    List (String × FieldType pyd.Model × FieldDefault) →
    Checked (List (String × FieldType pyd.Model × FieldDefault))
  | [], fields => .ok fields
  | (target, ann, value) :: members, fields => do
    let type ← pyd.annotationFromAst classes build (pyd.annotated ann)
    let default ← fieldDefaultFromAst host target value
    modelFields members (Dict.insertEntry target (type, default) fields)

def schemaCycle {α : Type} (stack : List String) (name : String) : Checked α :=
  reject ("recursive schema references are not supported: " ++
    " -> ".intercalate (stack ++ [name]))

def createdModel (c : ClassDef) : Checked pyd.Model := do
  let fields ← pyd.modelFields host classes build (c.body.filterMap Member.field?) []
  match pyd.createModel c.name fields with
  | some model => return model
  | none => reject ("schema '" ++ c.name ++ "' declares a field name that is not allowed")

end Class

/-- `_build_model`.  The first argument counts the classes that are not on the stack.  The models
made before are left out, since they change no result. -/
def buildModel : Nat → List String → String → Checked pyd.Model
  | n, stack, name => match classes.find? (fun c => c.name = name) with
    | none => reject ("unknown schema '" ++ name ++ "'")
    | some c =>
      if name ∈ stack then schemaCycle stack name
      else match n with
        | 0 => schemaCycle stack name
        | n + 1 => pyd.createdModel host classes (buildModel n (stack ++ [name])) c

def loweredModel (name : String) (model : pyd.Model) : Checked Value :=
  match pyd.modelJsonSchema model with
  | some schema => .ok schema
  | none => reject ("schema '" ++ name ++ "' could not be lowered to JSON Schema")

def schemaJsonSchema (name : String) : Checked Value := do
  pyd.loweredModel name
    (← pyd.buildModel host classes (room (classes.map ClassDef.name).dedup []) [] name)

end Pydantic

def Host.lowering (host : Host) (pyd : Pydantic) : Host :=
  { host with schemaJsonSchema := fun name classes => pyd.schemaJsonSchema host classes name }

end Orcheo.Graph
