import Orcheo.Defs.Sandbox.CodeNode

/-! Templates and credential placeholders in the fields of a node. Values are objects with an
identity: a container is rebuilt only where an item of it has become another object. -/

namespace Orcheo.Nodes

open Lib (Dict)
open Sandbox (Text DictKey TextRuntime InputError CredentialReference Piece)

inductive Leaf
  | none
  | bool (b : Bool)
  | int (n : Int)
  | float (bits : BitVec 64)
  | str (s : Text)
  | reference (r : CredentialReference)
  | other (tag : Nat)
  deriving DecidableEq, Repr

/-- A dictionary, an instance of a subclass of `dict`, or another mapping. -/
inductive MappingKind
  | dict | subclass | other
  deriving DecidableEq, Repr

inductive Container
  | model (cls : Nat)
  | mapping (kind : MappingKind)
  | list
  | tuple
  | set (frozen : Bool)
  deriving DecidableEq, Repr

inductive Slot
  | key (k : DictKey)
  | field (name : Text)
  | item
  deriving DecidableEq, Repr

inductive Obj
  | leaf (ident : Nat) (leaf : Leaf)
  | node (ident : Nat) (kind : Container) (items : List (Slot × Obj))

abbrev Items := List (Slot × Obj)

abbrev Fields := List (Text × Obj)

def Obj.ident : Obj → Nat
  | .leaf ident _ => ident
  | .node ident _ _ => ident

mutual
def Obj.erase : Obj → Obj
  | .leaf _ l => .leaf 0 l
  | .node _ kind items => .node 0 kind (eraseItems items)

def eraseItems : Items → Items
  | [] => []
  | (slot, x) :: items => (slot, x.erase) :: eraseItems items
end

def Obj.text : Obj → Option Text
  | .leaf _ (.str s) => some s
  | _ => none

inductive DecodeError
  | credential (e : InputError)
  | unhashable
  deriving DecidableEq, Repr

abbrev Decode := StateT Nat (Except DecodeError)

def allocate (kind : Container) (items : Items) : Decode Obj := fun n =>
  .ok (.node n kind items, n + 1)

def allocateText (s : Text) : Decode Obj := fun n => .ok (.leaf n (.str s), n + 1)

/-- `resolve` answers for the active resolver, `attr` for the attributes of a model that are no
fields; `distinct` gives the items that `set` keeps, where all of them have a hash. -/
structure Runtime where
  text : TextRuntime
  attr : Nat → Text → Option Obj
  distinct : Items → Option Items
  resolve : CredentialReference → Except InputError Obj

variable (rt : Runtime)

def Obj.member : Obj → Text → Option Obj
  | .node _ (.mapping .other) _, _ => none
  | .node _ (.mapping _) items, part => Dict.lookup (.key (.str part)) items
  | .node _ (.model cls) items, part => (Dict.lookup (.field part) items).or (rt.attr cls part)
  | _, _ => none

def followPath : Obj → List Text → Option Obj
  | value, [] => some value
  | value, part :: rest => match value.member rt part with
    | none => none
    | some next => followPath next rest

def fallbackToNodeResults (state : Fields) (part : Text) : Option Obj :=
  if part = "node_results".toList then none
  else match Dict.lookup "node_results".toList state with
    | some (.node _ (.mapping .other) _) => none
    | some (.node _ (.mapping _) items) => match Dict.lookup (.key (.str part)) items with
      | some (.leaf _ .none) => none
      | found => found
    | _ => none

def resolveStateTemplatePath (state : Fields) (path : Text) : Option Obj :=
  match path.splitOn '.' with
  | [] => none
  | part :: rest => match (Dict.lookup part state).or (fallbackToNodeResults state part) with
    | none => none
    | some value => followPath rt value rest

def resolveCredentialReference (reference : CredentialReference) : Decode Obj :=
  match rt.resolve reference with
  | .ok value => pure value
  | .error e => throw (.credential e)

/-- `str(value)` of a string, a number or a boolean. -/
def Obj.shown : Obj → Option Text
  | .leaf _ (.str s) => some s
  | .leaf _ (.int n) => some (rt.text.showInt n)
  | .leaf _ (.float bits) => some (rt.text.showFloat bits)
  | .leaf _ (.bool b) => some (if b then "True".toList else "False".toList)
  | _ => none

def resolveNestedCredentialString (value : Obj) : Decode Obj :=
  match value.text.bind (Sandbox.parseCredentialReference rt.text) with
  | none => pure value
  | some reference => resolveCredentialReference rt reference

def replace (state : Fields) (body : Text) : Decode Text :=
  let template := "\x7b\x7b".toList ++ body ++ "\x7d\x7d".toList
  match resolveStateTemplatePath rt state (Sandbox.strip rt.text body) with
  | none => pure template
  | some value => do
    let resolved ← resolveNestedCredentialString rt value
    return (resolved.shown rt).getD template

def substitute (state : Fields) : List Piece → Decode Text
  | [] => pure []
  | .char c :: rest => do
    let text ← substitute state rest
    return c :: text
  | .template body :: rest => do
    let replaced ← replace rt state body
    let text ← substitute state rest
    return replaced ++ text

def Piece.isTemplate : Piece → Bool
  | .char _ => false
  | .template _ => true

/-- Where nothing matches, the pattern gives back the string it was asked to replace in. -/
def embedded (state : Fields) (ident : Nat) (value : Text) : Decode Obj :=
  let pieces := Sandbox.pieces value
  if pieces.any Piece.isTemplate then do
    let text ← substitute rt state pieces
    allocateText text
  else pure (.leaf ident (.str value))

def decodeStringValue (state : Fields) (ident : Nat) (value : Text) : Decode Obj :=
  match Sandbox.parseCredentialReference rt.text value with
  | some reference => resolveCredentialReference rt reference
  | none =>
    if Sandbox.containsTemplate value = false then pure (.leaf ident (.str value))
    else match Sandbox.singleTemplate rt.text value with
      | some path => match resolveStateTemplatePath rt state path with
        | none => pure (.leaf ident (.str value))
        | some resolved => resolveNestedCredentialString rt resolved
      | none => embedded rt state ident value

def anyChanged : Items → Items → Bool
  | (_, x) :: items, (_, y) :: decoded => y.ident != x.ident || anyChanged items decoded
  | _, _ => false

/-- `value` is the container of the items. -/
def copyOnWrite (value : Obj) (items decoded : Items) (rebuild : Items → Decode Obj) :
    Decode Obj :=
  if anyChanged items decoded then rebuild decoded else pure value

/-- `model_copy` of a model takes the fields that have changed, and the others from it. -/
def decodeModelValue (value : Obj) (cls : Nat) (items decoded : Items) : Decode Obj :=
  copyOnWrite value items decoded (allocate (.model cls))

def decodeMappingValue (value : Obj) (items decoded : Items) : Decode Obj :=
  copyOnWrite value items decoded (allocate (.mapping .dict))

def decodeListValue (value : Obj) (items decoded : Items) : Decode Obj :=
  copyOnWrite value items decoded (allocate .list)

def decodeTupleValue (value : Obj) (items decoded : Items) : Decode Obj :=
  copyOnWrite value items decoded (allocate .tuple)

def newSet (frozen : Bool) (items : Items) : Decode Obj :=
  match rt.distinct items with
  | none => throw .unhashable
  | some kept => allocate (.set frozen) kept

def decodeSetValue (value : Obj) (items decoded : Items) : Decode Obj :=
  copyOnWrite value items decoded (newSet rt false)

def decodeFrozensetValue (value : Obj) (items decoded : Items) : Decode Obj :=
  copyOnWrite value items decoded (newSet rt true)

def decodeContainer (value : Obj) (items decoded : Items) : Container → Decode Obj
  | .model cls => decodeModelValue value cls items decoded
  | .mapping _ => decodeMappingValue value items decoded
  | .list => decodeListValue value items decoded
  | .tuple => decodeTupleValue value items decoded
  | .set false => decodeSetValue rt value items decoded
  | .set true => decodeFrozensetValue rt value items decoded

mutual
def decodeValue (state : Fields) : Obj → Decode Obj
  | .leaf _ (.reference r) => resolveCredentialReference rt r
  | .leaf ident (.str s) => decodeStringValue rt state ident s
  | .leaf ident l => pure (.leaf ident l)
  | .node ident kind items => do
    let decoded ← decodeItems state items
    decodeContainer rt (.node ident kind items) items decoded kind

def decodeItems (state : Fields) : Items → Decode Items
  | [] => pure []
  | (slot, x) :: items => do
    let decoded ← decodeValue state x
    let rest ← decodeItems state items
    return (slot, decoded) :: rest
end

/-- `__dict__`, and the fields of it that an agent node resolves later. -/
structure Runnable where
  fields : Fields
  keys : (fields.map Prod.fst).Nodup
  deferred : List Text := []

/-- `__dict__.update`, with keys that are there. -/
def overlay (updates fields : Fields) : Fields :=
  fields.map fun e => (e.1, (Dict.lookup e.1 updates).getD e.2)

def mappingItem (name : String) : Obj → Option Obj
  | .node _ (.mapping _) items => Dict.lookup (.key (.str name.toList)) items
  | _ => none

def chatkitSelectedModel (config : Option Obj) : Option Text :=
  match ((config.bind (mappingItem "configurable")).bind (mappingItem "chatkit_model")).bind
      Obj.text with
  | none => none
  | some selected =>
    let normalized := Sandbox.strip rt.text selected
    if normalized = [] then none else some normalized

def runtimeRunUpdates (config : Option Obj) (fields : Fields) : Decode Fields :=
  match Dict.lookup "ai_model".toList fields, chatkitSelectedModel rt config with
  | some current, some selected =>
    if current.text = some selected then pure []
    else do
      let override ← allocateText selected
      return [("ai_model".toList, override)]
  | _, _ => pure []

namespace Runnable

variable (node : Runnable) (state : Fields) (config : Option Obj)

def decodedUpdates : Fields → Decode Fields
  | [] => pure []
  | (key, value) :: fields =>
    if node.deferred.contains key then decodedUpdates fields
    else do
      let decoded ← decodeValue rt state value
      let updates ← decodedUpdates fields
      return (key, decoded) :: updates

def computeRunUpdates : Fields → Decode Fields
  | [] => pure []
  | (key, value) :: fields =>
    if node.deferred.contains key then computeRunUpdates fields
    else do
      let decoded ← decodeValue rt state value
      let updates ← computeRunUpdates fields
      return if decoded.ident = value.ident then updates else (key, decoded) :: updates

def decodeVariables : Decode Fields := do
  let decoded := overlay (← node.decodedUpdates rt state node.fields) node.fields
  let updates ← runtimeRunUpdates rt config decoded
  return overlay updates decoded

def resolvedForRun : Decode Fields := do
  let changed ← node.computeRunUpdates rt state node.fields
  let updates ← runtimeRunUpdates rt config node.fields
  return overlay updates (overlay changed node.fields)

end Runnable

end Orcheo.Nodes
