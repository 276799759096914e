import Orcheo.Defs.Base

/-! Values of the workflow state, credential references and the resolver that looks them up in
a vault. -/

namespace Orcheo.Sandbox

abbrev Text := List Char

inductive DictKey
  | str (s : Text)
  | scalar (tag : Nat)
  | other (tag : Nat)
  deriving DecidableEq, Repr

inductive StateValue
  | none
  | bool (b : Bool)
  | int (n : Int)
  | float (bits : BitVec 64)
  | str (s : Text)
  | list (xs : List StateValue)
  | tuple (xs : List StateValue)
  | dict (kvs : List (DictKey × StateValue))
  | model (tag : Nat)
  | other (tag : Nat)

/-- The text functions of the language, and `hasattr` with `getattr`. -/
structure TextRuntime where
  isspace : Char → Bool
  lower : Text → Text
  showInt : Int → Text
  showFloat : BitVec 64 → Text
  showKey : DictKey → Text
  parseUuid : Text → Option Uuid
  attr : StateValue → Text → Option StateValue

inductive InputError
  | resolverUnavailable
  | referenceNotFound (identifier : Text)
  | duplicateReference (identifier : Text)
  | unknownPayload (message : String)
  | marshalling (message : String)
  deriving DecidableEq, Repr

variable (rt : TextRuntime)

/-- `text.strip()` -/
def strip (text : Text) : Text :=
  ((text.dropWhile rt.isspace).reverse.dropWhile rt.isspace).reverse

def enclosed (opening closing : Char) : Text → Option Text
  | a :: b :: rest =>
    if a = opening ∧ b = opening then
      match rest.reverse with
      | c :: d :: body => if c = closing ∧ d = closing then some body.reverse else none
      | _ => none
    else none
  | _ => none

structure CredentialReference where
  identifier : Text
  payloadPath : List Text := ["secret".toList]
  deriving DecidableEq, Repr

def splitPlaceholderBody (body : Text) : Text × List Text :=
  if '#' ∈ body then
    (strip rt (body.takeWhile (· ≠ '#')),
      (((body.dropWhile (· ≠ '#')).tail.splitOn '.').map (strip rt)).filter (· ≠ []))
  else (body, [])

/-- `CredentialReference.from_placeholder`: the body is not empty and on one line. -/
def parseCredentialReference (value : Text) : Option CredentialReference :=
  match enclosed '[' ']' (strip rt value) with
  | none => none
  | some raw =>
    if raw = [] ∨ '\n' ∈ raw ∨ strip rt raw = [] then none
    else
      let (identifier, payload) := splitPlaceholderBody rt (strip rt raw)
      if identifier = [] then none
      else some ⟨identifier, if payload = [] then ["secret".toList] else payload⟩

inductive CredentialKind
  | secret | oauth
  deriving DecidableEq, Repr

/-- A credential that the context of the run may read, with its decrypted payloads. The tokens
are an instance of a model. -/
structure Credential where
  id : Uuid
  name : Text
  kind : CredentialKind
  secret : Text
  tokens : Option Nat

abbrev Vault := List Credential

namespace Vault

variable (vault : Vault)

def byId? (id : Uuid) : Option Credential := vault.reverse.find? (·.id == id)

def byName (name : Text) : List Credential := vault.filter (·.name == name)

def locateMetadata (identifier : Text) : Except InputError Credential :=
  match (rt.parseUuid identifier).bind vault.byId? with
  | some credential => .ok credential
  | none => match vault.byName (strip rt identifier) with
    | [] => .error (.referenceNotFound identifier)
    | [credential] => .ok credential
    | _ => .error (.duplicateReference identifier)

end Vault

def availableAttributes (value : StateValue) : String :=
  let available := ["access_token", "refresh_token", "expires_at"].filter fun name =>
    (rt.attr value name.toList).isSome
  if available = [] then "<none>" else ", ".intercalate available

def followAttributes : StateValue → List Text → Except InputError StateValue
  | value, [] => .ok value
  | value, name :: rest => match rt.attr value name with
    | none => .error (.unknownPayload ("OAuth token payload does not expose attribute '" ++
        String.ofList name ++ "'. Available: " ++ availableAttributes rt value))
    | some next => followAttributes next rest

def extractOauth (credential : Credential) (tail : List Text) : Except InputError StateValue :=
  match credential.kind, credential.tokens with
  | .secret, _ => .error (.unknownPayload
      "OAuth payload requested for credential that is not of kind 'oauth'")
  | .oauth, none => .ok .none
  | .oauth, some tokens => followAttributes rt (.model tokens) tail

def extractPayload (credential : Credential) : List Text → Except InputError StateValue
  | [] => .ok (.str credential.secret)
  | head :: tail =>
    if rt.lower head = "secret".toList then
      if tail = [] then .ok (.str credential.secret)
      else .error (.unknownPayload "Secret payload does not support nested attributes")
    else if rt.lower head = "oauth".toList then extractOauth rt credential tail
    else .error (.unknownPayload
      ("Credential placeholder requested unsupported payload segment '" ++ String.ofList head ++
        "'"))

/-- `CredentialResolver.resolve`, without its caches. -/
def Vault.resolve (vault : Vault) (reference : CredentialReference) :
    Except InputError StateValue := do
  let credential ← vault.locateMetadata rt reference.identifier
  extractPayload rt credential reference.payloadPath

/-- `_resolve_credential_reference`: the resolver that is active, if any. -/
def resolveCredentialReference (resolver : Option Vault) (reference : CredentialReference) :
    Except InputError StateValue :=
  match resolver with
  | none => .error .resolverUnavailable
  | some vault => vault.resolve rt reference

end Orcheo.Sandbox
