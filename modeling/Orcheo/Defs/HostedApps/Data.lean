import Orcheo.Defs.HostedApps.Repository

/-! Documents of hosted apps, scoped by app, collection and owner. Each call holds the lock while
it looks at the records. -/

namespace Orcheo.HostedApps

open Lib (Dict)

/-- The text and JSON functions of the language: `str.strip`, the length of the canonical
encoding where there is one, and the base64 of cursors. -/
structure DataRuntime where
  strip : String → String
  dumps : Json → Option Nat
  encodeCursor : String → String
  decodeCursor : String → Option String

structure DataCollection extends Capability where
  scope : String
  readAccess : String
  writeAccess : String
  maxDocumentBytes : Nat
  maxRecords : Nat
  deriving DecidableEq

structure Document where
  appId : Uuid
  collectionId : Uuid
  owner : String
  key : String
  deriving DecidableEq

structure AppRecord where
  id : Uuid
  workspaceId : Uuid
  appId : Uuid
  collectionId : Uuid
  ownerSubject : String
  key : String
  value : Json
  sizeBytes : Nat
  version : Nat
  deriving DecidableEq

def AppRecord.document (record : AppRecord) : Document :=
  ⟨record.appId, record.collectionId, record.ownerSubject, record.key⟩

inductive DataError
  | conflict
  | invalid (message : String)
  | permission (message : String)
  | index
  deriving DecidableEq, Repr

structure DataCaller where
  collection : DataCollection
  workspaceId : Uuid
  appId : Uuid
  subject : Option String := none
  deriving DecidableEq

namespace DataCaller

def ensureCollectionScope (at_ : DataCaller) : Except DataError Unit :=
  if at_.collection.deletedAt.isSome then
    .error (.invalid "App collection is no longer available.")
  else if at_.collection.workspaceId ≠ at_.workspaceId ∨ at_.collection.appId ≠ at_.appId then
    .error (.invalid "App collection does not belong to this app scope.")
  else .ok ()

def anonymous (at_ : DataCaller) : Bool := at_.subject.all (· == "")

def owner (at_ : DataCaller) (write : Bool) : Except DataError String :=
  let access := if write then at_.collection.writeAccess else at_.collection.readAccess
  if access = "authenticated" ∧ at_.anonymous = true then
    .error (.permission "App collection requires an authenticated visitor.")
  else if at_.collection.scope = "user" then
    if at_.anonymous then
      .error (.permission "User-scoped app data requires an authenticated visitor.")
    else .ok (at_.subject.getD "")
  else .ok ""

end DataCaller

variable (rt : DataRuntime)

def normalizeKey (value : String) : Except DataError String :=
  let key := rt.strip value
  if key = "" ∨ 256 < key.length ∨ key.toList.any (fun c => decide (c.toNat < 32)) = true then
    .error (.invalid "App document key is invalid.")
  else .ok key

def DataCaller.document (at_ : DataCaller) (write : Bool) (key : String) :
    Except DataError Document := do
  at_.ensureCollectionScope
  let owner ← at_.owner write
  let key ← normalizeKey rt key
  return ⟨at_.appId, at_.collection.id, owner, key⟩

structure DataLimits where
  maxDepth : Nat := 16
  maxKeys : Nat := 256

mutual
def walkJson (limits : DataLimits) (depth keyCount : Nat) : Json → Except DataError Nat
  | .obj kvs =>
    if limits.maxDepth < depth then
      .error (.invalid "App document exceeds the maximum JSON depth.")
    else if limits.maxKeys < keyCount + kvs.length then
      .error (.invalid "App document exceeds the maximum JSON key count.")
    else walkEntries limits (depth + 1) (keyCount + kvs.length) kvs
  | .arr xs =>
    if limits.maxDepth < depth then
      .error (.invalid "App document exceeds the maximum JSON depth.")
    else walkList limits (depth + 1) keyCount xs
  | _ =>
    if limits.maxDepth < depth then
      .error (.invalid "App document exceeds the maximum JSON depth.")
    else .ok keyCount

def walkList (limits : DataLimits) (depth keyCount : Nat) : List Json → Except DataError Nat
  | [] => .ok keyCount
  | x :: xs => match walkJson limits depth keyCount x with
    | .error e => .error e
    | .ok keyCount => walkList limits depth keyCount xs

def walkEntries (limits : DataLimits) (depth keyCount : Nat) :
    List (String × Json) → Except DataError Nat
  | [] => .ok keyCount
  | (_, x) :: kvs => match walkJson limits depth keyCount x with
    | .error e => .error e
    | .ok keyCount => walkEntries limits depth keyCount kvs
end

def canonicalJson (limits : DataLimits) (value : Json) :
    Except DataError Nat :=
  match walkJson limits 0 0 value with
  | .error e => .error e
  | .ok _ => match rt.dumps value with
    | none => .error (.invalid "App document must be JSON serializable.")
    | some sizeBytes => .ok sizeBytes

structure AppDataService where
  limits : DataLimits := {}
  records : Dict Document AppRecord := ∅

namespace AppDataService

variable (rt : DataRuntime) (s : AppDataService)

def owned (appId collectionId : Uuid) (owner : String) : List AppRecord :=
  s.records.values.filter (fun record => decide (record.appId = appId ∧
    record.collectionId = collectionId ∧ record.ownerSubject = owner))

variable (at_ : DataCaller)

/-- The record that `put` stores; `id` is the identifier that a new document draws. -/
def newRecord (key : String) (value : Json) (expectedVersion : Option Int)
    (id : Uuid) : Except DataError AppRecord := do
  at_.ensureCollectionScope
  let owner ← at_.owner true
  let key ← normalizeKey rt key
  let sizeBytes ← canonicalJson rt s.limits value
  if at_.collection.maxDocumentBytes < sizeBytes then
    .error (.invalid "App document exceeds this collection's byte limit.")
  else
    let current := s.records.get? ⟨at_.appId, at_.collection.id, owner, key⟩
    if expectedVersion.any (fun v =>
        current.all (fun (c : AppRecord) => decide ((c.version : Int) ≠ v))) then
      .error .conflict
    else if current.isNone ∧
        at_.collection.maxRecords ≤ (s.owned at_.appId at_.collection.id owner).length then
      .error (.invalid "App collection record limit has been reached.")
    else return {
      id := (current.map AppRecord.id).getD id
      workspaceId := at_.workspaceId
      appId := at_.appId
      collectionId := at_.collection.id
      ownerSubject := owner
      key := key
      value := value
      sizeBytes := sizeBytes
      version := (current.map (fun (c : AppRecord) => c.version + 1)).getD 1 }

def put (key : String) (value : Json) (expectedVersion : Option Int)
    (id : Uuid) : AppDataService × Except DataError AppRecord :=
  match s.newRecord rt at_ key value expectedVersion id with
  | .error e => (s, .error e)
  | .ok record => ({ s with records := s.records.set record.document record }, .ok record)

def get (key : String) : Except DataError (Option AppRecord) := do
  let document ← at_.document rt false key
  return s.records.get? document

def startAfter (cursor : Option String) : Except DataError (Option String) :=
  match cursor with
  | none => .ok none
  | some cursor =>
    if cursor = "" then .ok none
    else match rt.decodeCursor cursor with
      | none => .error (.invalid "App data cursor is invalid.")
      | some key => .ok (some key)

def list (cursor : Option String) (limit : Int) :
    Except DataError (List AppRecord × Option String) := do
  at_.ensureCollectionScope
  let owner ← at_.owner false
  let startAfter ← startAfter rt cursor
  let entries := ((s.owned at_.appId at_.collection.id owner).filter (fun record =>
    startAfter.all (fun after => decide (after < record.key)))).mergeSort
      (fun a b => decide (a.key ≤ b.key))
  -- `entries[:limit]`
  let page := entries.take (if 0 ≤ limit then limit.toNat else entries.length - limit.natAbs)
  if limit < entries.length then
    match page.getLast? with
    | none => .error .index
    | some last => return (page, some (rt.encodeCursor last.key))
  else return (page, none)

def delete (key : String) (expectedVersion : Option Int) :
    AppDataService × Except DataError Bool :=
  match at_.document rt true key with
  | .error e => (s, .error e)
  | .ok document => match s.records.get? document with
    | none => (s, .ok false)
    | some current =>
      if expectedVersion.any (fun v => decide ((current.version : Int) ≠ v)) then
        (s, .error .conflict)
      else ({ s with records := s.records.erase document }, .ok true)

end AppDataService

inductive DataCall
  | put (at_ : DataCaller) (key : String) (value : Json) (expectedVersion : Option Int)
      (id : Uuid)
  | get (at_ : DataCaller) (key : String)
  | list (at_ : DataCaller) (cursor : Option String) (limit : Int)
  | delete (at_ : DataCaller) (key : String) (expectedVersion : Option Int)

def AppDataService.step (s : AppDataService) : DataCall → AppDataService
  | .put at_ key value expectedVersion id => (s.put rt at_ key value expectedVersion id).1
  | .get _ _ => s
  | .list _ _ _ => s
  | .delete at_ key expectedVersion => (s.delete rt at_ key expectedVersion).1

end Orcheo.HostedApps
