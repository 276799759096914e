import Orcheo.Defs.Graph.Models
import Orcheo.Defs.Sandbox.Credentials

/-! What a code node hands to the sandbox: the templates of its injected configuration are
resolved against the state, and everything is projected to JSON. -/

namespace Orcheo.Sandbox

open Lib (Dict)
open Graph (Value CodeNodeSpec)

abbrev State := List (Text × StateValue)

variable (rt : TextRuntime)

def containsTemplate (value : Text) : Bool :=
  decide ("\x7b\x7b".toList <:+: value ∧ "\x7d\x7d".toList <:+: value)

def isBrace (c : Char) : Bool := c == '\x7b' || c == '\x7d'

def singleTemplate (value : Text) : Option Text :=
  match enclosed '\x7b' '\x7d' (strip rt value) with
  | none => none
  | some body => if body = [] ∨ body.any isBrace = true then none else some (strip rt body)

inductive Piece
  | char (c : Char)
  | template (body : Text)
  deriving DecidableEq, Repr

def templateAt : Text → Option (Text × Text)
  | '\x7b' :: '\x7b' :: rest =>
    match rest.takeWhile (!isBrace ·), rest.dropWhile (!isBrace ·) with
    | c :: body, '\x7d' :: '\x7d' :: after => some (c :: body, after)
    | _, _ => none
  | _ => none

def scan : Nat → Text → List Piece
  | 0, _ => []
  | _, [] => []
  | n + 1, c :: rest => match templateAt (c :: rest) with
    | some (body, after) => .template body :: scan n after
    | none => .char c :: scan n rest

/-- The matches of the template pattern from left to right, and the characters between them. -/
def pieces (value : Text) : List Piece := scan value.length value

def StateValue.member (value : StateValue) (part : Text) : Option StateValue :=
  match value with
  | .dict kvs => Dict.lookup (.str part) kvs
  | .model tag => rt.attr (.model tag) part
  | _ => .none

def followPath : StateValue → List Text → Option StateValue
  | value, [] => some value
  | value, part :: rest => match value.member rt part with
    | none => none
    | some next => followPath next rest

/-- A result of that name, unless it is `None`. -/
def fallbackToNodeResults (state : State) (part : Text) : Option StateValue :=
  if part = "node_results".toList then none
  else match Dict.lookup "node_results".toList state with
    | some (.dict kvs) => match Dict.lookup (.str part) kvs with
      | some .none => none
      | found => found
    | _ => none

def resolveStateTemplatePath (state : State) (path : Text) : Option StateValue :=
  match path.splitOn '.' with
  | [] => none
  | part :: rest => match (Dict.lookup part state).or (fallbackToNodeResults state part) with
    | none => none
    | some value => followPath rt value rest

/-- `str(value)` of a string, a number or a boolean. -/
def StateValue.shown : StateValue → Option Text
  | .str s => some s
  | .int n => some (rt.showInt n)
  | .float bits => some (rt.showFloat bits)
  | .bool b => some (if b then "True".toList else "False".toList)
  | _ => .none

def placeholder : StateValue → Option CredentialReference
  | .str s => parseCredentialReference rt s
  | _ => none

section

variable (resolve : CredentialReference → Except InputError StateValue) (state : State)

def resolveNestedCredentialString (value : StateValue) : Except InputError StateValue :=
  match placeholder rt value with
  | none => .ok value
  | some reference => resolve reference

def replace (body : Text) : Except InputError Text :=
  let template := "\x7b\x7b".toList ++ body ++ "\x7d\x7d".toList
  match resolveStateTemplatePath rt state (strip rt body) with
  | none => .ok template
  | some value => do
    let resolved ← resolveNestedCredentialString rt resolve value
    return (resolved.shown rt).getD template

def substitute : List Piece → Except InputError Text
  | [] => .ok []
  | .char c :: rest => do
    let text ← substitute rest
    return c :: text
  | .template body :: rest => do
    let replaced ← replace rt resolve state body
    let text ← substitute rest
    return replaced ++ text

def decodeStringValue (value : Text) : Except InputError StateValue :=
  match parseCredentialReference rt value with
  | some reference => resolve reference
  | none =>
    if containsTemplate value = false then .ok (.str value)
    else match singleTemplate rt value with
      | some path => match resolveStateTemplatePath rt state path with
        | none => .ok (.str value)
        | some resolved => resolveNestedCredentialString rt resolve resolved
      | none => do
        let text ← substitute rt resolve state (pieces value)
        return .str text

mutual
/-- `_decode_value`, on what configurations hold. -/
def decodeValue : Value → Except InputError StateValue
  | .none => .ok .none
  | .bool b => .ok (.bool b)
  | .int n => .ok (.int n)
  | .float bits => .ok (.float bits)
  | .str s => decodeStringValue rt resolve state s.toList
  | .list xs => do
    let items ← decodeItems xs
    return .list items
  | .tuple xs => do
    let items ← decodeItems xs
    return .tuple items
  | .dict kvs => do
    let entries ← decodeEntries kvs
    return .dict entries

def decodeItems : List Value → Except InputError (List StateValue)
  | [] => .ok []
  | x :: xs => do
    let item ← decodeValue x
    let items ← decodeItems xs
    return item :: items

def decodeEntries : List (String × Value) → Except InputError (List (DictKey × StateValue))
  | [] => .ok []
  | (key, x) :: kvs => do
    let value ← decodeValue x
    let entries ← decodeEntries kvs
    return (.str key.toList, value) :: entries
end

def decodeFields : List (String × Value) → Except InputError (List (Text × StateValue))
  | [] => .ok []
  | (field, x) :: fields => do
    let value ← decodeValue rt resolve state x
    let rest ← decodeFields fields
    return (field.toList, value) :: rest

end

inductive NonSerialisablePolicy
  | drop | raise
  deriving DecidableEq, Repr

def DictKey.serialisable : DictKey → Bool
  | .other _ => false
  | _ => true

mutual
/-- Whether `json.dumps` takes the value. -/
def StateValue.serialisable : StateValue → Bool
  | .list xs | .tuple xs => serialisableItems xs
  | .dict kvs => serialisableEntries kvs
  | .model _ | .other _ => false
  | _ => true

def serialisableItems : List StateValue → Bool
  | [] => true
  | x :: xs => x.serialisable && serialisableItems xs

def serialisableEntries : List (DictKey × StateValue) → Bool
  | [] => true
  | (key, x) :: kvs => key.serialisable && x.serialisable && serialisableEntries kvs
end

def projectMapping (policy : NonSerialisablePolicy) (label : String) :
    List (Text × StateValue) → List (Text × StateValue) →
      Except InputError (List (Text × StateValue))
  | [], projected => .ok projected
  | (key, value) :: rest, projected =>
    if value.serialisable then
      projectMapping policy label rest (Dict.insertEntry key value projected)
    else match policy with
      | .raise => .error (.marshalling
          (label ++ " field '" ++ String.ofList key ++ "' is not JSON-serialisable"))
      | .drop => projectMapping policy label rest projected

structure InputsEnvelope where
  state : List (Text × StateValue)
  config : List (Text × StateValue)
  configurable : List (Text × StateValue)

def keyText : DictKey → Text
  | .str s => s
  | key => rt.showKey key

/-- The user's part of the `configurable` mapping of the run. -/
def runConfigurable (config : Option (List (Text × StateValue))) : List (Text × StateValue) :=
  match config.bind (Dict.lookup "configurable".toList) with
  | some (.dict kvs) =>
    (kvs.map fun e => (keyText rt e.1, e.2)).filter fun e => !"__".toList.isPrefixOf e.1
  | _ => []

def buildInputsEnvelope (state : State) (config : Option (List (Text × StateValue)))
    (configurable : List (Text × StateValue)) (policy : NonSerialisablePolicy) :
    Except InputError InputsEnvelope := do
  let stateProjection ← projectMapping policy "state" state []
  let configProjection ← projectMapping policy "config" (runConfigurable rt config) []
  let injectedProjection ← projectMapping .raise "configurable" configurable []
  return ⟨stateProjection, configProjection, injectedProjection⟩

def injectedFields (spec : CodeNodeSpec) : List (String × Value) :=
  spec.injected.filterMap fun field => (Dict.lookup field spec.config).map (field, ·)

def marshalInputs (resolver : Option Vault) (spec : CodeNodeSpec)
    (policy : NonSerialisablePolicy) (state : State)
    (config : Option (List (Text × StateValue))) : Except InputError InputsEnvelope := do
  let configurable ← decodeFields rt (resolveCredentialReference rt resolver) state
    (injectedFields spec)
  buildInputsEnvelope rt state config configurable policy

end Orcheo.Sandbox
