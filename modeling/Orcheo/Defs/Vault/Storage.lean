import Mathlib.Data.List.Sort
import Orcheo.Defs.Vault.Models
import Orcheo.Lib.Calls

/-! What the vault in memory and the vault in Postgres store, one statement after another. -/

namespace Orcheo.Vault

open Lib (Dict)

inductive Backend
  | inMemory | postgres
  deriving DecidableEq, Repr

/-- How names are compared, what Postgres takes, and in what order it gives the rows. -/
structure StorageRuntime extends VaultRuntime where
  casefold : String → String
  /-- `lower` of the database -/
  lowerSql : String → String
  /-- as an argument of a statement -/
  takesText : String → Bool
  /-- with columns that fit the indexes, and a payload that is stored as JSON -/
  takesCredential : CredentialMetadata → Bool
  takesTemplate : CredentialTemplate → Bool
  takesAlert : SecretGovernanceAlert → Bool
  /-- by the time of the creation -/
  order : {α : Type} → (α → Instant) → List α → List α
  order_perm {α : Type} (createdAt : α → Instant) (rows : List α) :
    (order createdAt rows).Perm rows

/-- ASCII text without null characters, and rows that come in the order of the table where they
are as old as each other. -/
def StorageRuntime.ascii : StorageRuntime where
  toVaultRuntime := .ascii
  casefold := Repository.TextRuntime.ascii.lower
  lowerSql := Repository.TextRuntime.ascii.lower
  takesText text := !text.toList.contains (Char.ofNat 0)
  takesCredential metadata := !metadata.name.toList.contains (Char.ofNat 0)
  takesTemplate template := !template.name.toList.contains (Char.ofNat 0)
  takesAlert alert := !alert.message.toList.contains (Char.ofNat 0)
  order createdAt rows := rows.insertionSort (fun a b => createdAt a ≤ createdAt b)
  order_perm _ rows := List.perm_insertionSort _ rows

/-- A row of `credentials`. Only Postgres has the column of the workspace beside the payload. -/
structure CredentialRow where
  workspaceId : Option String
  payload : CredentialMetadata
  deriving DecidableEq

def CredentialRow.metadata (row : CredentialRow) : CredentialMetadata :=
  { row.payload with workspaceId := row.payload.workspaceId.or row.workspaceId }

structure VaultStore where
  credentials : Dict Uuid CredentialRow := ∅
  templates : Dict Uuid CredentialTemplate := ∅
  alerts : Dict Uuid SecretGovernanceAlert := ∅
  deriving DecidableEq

/-- One statement on the tables, or what takes its place in memory. -/
inductive VaultOp
  | loadMetadata (credentialId : Uuid)
  | iterMetadata (workspaceId : Option String)
  | selectDuplicates (name : String) (workspaceId : Option String)
  | upsertMetadata (metadata : CredentialMetadata)
  | removeCredential (credentialId : Uuid)
  | loadTemplate (templateId : Uuid)
  | iterTemplates (workspaceId : Option String)
  | upsertTemplate (template : CredentialTemplate)
  | removeTemplate (templateId : Uuid)
  | loadAlert (alertId : Uuid)
  | iterAlerts (workspaceId : Option String)
  | upsertAlert (alert : SecretGovernanceAlert)
  | removeAlert (alertId : Uuid)
  deriving DecidableEq

abbrev VaultOp.Value : VaultOp → Type
  | loadMetadata _ => CredentialMetadata
  | iterMetadata _ => List CredentialMetadata
  | selectDuplicates _ _ => List Uuid
  | loadTemplate _ => CredentialTemplate
  | iterTemplates _ => List CredentialTemplate
  | loadAlert _ => SecretGovernanceAlert
  | iterAlerts _ => List SecretGovernanceAlert
  | upsertMetadata _ | removeCredential _ | upsertTemplate _ | removeTemplate _ | upsertAlert _
  | removeAlert _ => Unit

abbrev VaultOp.Answer (op : VaultOp) : Type := Except VaultError op.Value

def AuditDetail.asJson : AuditDetail → AuditDetail
  | scope before after _ => scope before after true
  | detail => detail

def CredentialTemplate.asJson (template : CredentialTemplate) : CredentialTemplate :=
  { template with
    auditLog := template.auditLog.map (fun e => { e with details := e.details.map .asJson }) }

def nullCharacter : VaultError := .database "PostgreSQL text fields cannot contain NUL (0x00) bytes"

def refusedRow : VaultError := .database "the row is refused"

variable (rt : StorageRuntime) (b : Backend)

def ofWorkspace {α : Type} (workspaceOf : α → Option String) (createdAt : α → Instant)
    (workspaceId : Option String) (entries : List α) : Except VaultError (List α) :=
  match b, workspaceId with
  | .inMemory, none => .ok entries
  | .inMemory, some w =>
    .ok (entries.filter (fun e => workspaceOf e = none || workspaceOf e = some w))
  | .postgres, none => .ok (rt.order createdAt entries)
  | .postgres, some w =>
    if !rt.takesText w then .error nullCharacter
    else .ok (rt.order createdAt (entries.filter (fun e => workspaceOf e = some w)))

namespace VaultStore

variable (s : VaultStore)

def loadMetadata (credentialId : Uuid) : Except VaultError CredentialMetadata :=
  match s.credentials.get? credentialId with
  | none => .error .credentialNotFound
  | some row => .ok row.metadata

def iterMetadata (workspaceId : Option String) : Except VaultError (List CredentialMetadata) :=
  (ofWorkspace rt b CredentialRow.workspaceId (·.payload.createdAt) workspaceId
    s.credentials.values).map (List.map CredentialRow.metadata)

def selectDuplicates (name : String) (workspaceId : Option String) :
    Except VaultError (List Uuid) :=
  match b with
  | .inMemory => .ok ((s.credentials.entries.filter (fun e =>
      rt.casefold e.2.payload.name = rt.casefold name && e.2.workspaceId = workspaceId)).map
      Prod.fst)
  | .postgres =>
    if !(rt.takesText name && workspaceId.all rt.takesText) then .error nullCharacter
    else .ok ((s.credentials.entries.filter (fun e =>
      rt.lowerSql e.2.payload.name = rt.lowerSql name && e.2.workspaceId = workspaceId)).map
      Prod.fst)

def upsertMetadata (metadata : CredentialMetadata) : Except VaultError Unit × VaultStore :=
  match b with
  | .inMemory => (.ok (), { s with
      credentials := s.credentials.set metadata.id ⟨metadata.workspaceId, metadata⟩ })
  | .postgres =>
    if !rt.takesCredential metadata then (.error refusedRow, s)
    else
      let column := metadata.workspaceId.or
        ((s.credentials.get? metadata.id).bind CredentialRow.workspaceId)
      (.ok (), { s with credentials := s.credentials.set metadata.id ⟨column, metadata⟩ })

def removeCredential (credentialId : Uuid) : Except VaultError Unit × VaultStore :=
  if s.credentials.contains credentialId then
    (.ok (), { s with credentials := s.credentials.erase credentialId })
  else (.error .credentialNotFound, s)

def loadTemplate (templateId : Uuid) : Except VaultError CredentialTemplate :=
  match s.templates.get? templateId with
  | none => .error .templateNotFound
  | some template => .ok template

def iterTemplates (workspaceId : Option String) : Except VaultError (List CredentialTemplate) :=
  ofWorkspace rt b CredentialTemplate.workspaceId (·.createdAt) workspaceId s.templates.values

def upsertTemplate (template : CredentialTemplate) : Except VaultError Unit × VaultStore :=
  match b with
  | .inMemory => (.ok (), { s with templates := s.templates.set template.id template })
  | .postgres =>
    if !rt.takesTemplate template then (.error refusedRow, s)
    else (.ok (), { s with templates := s.templates.set template.id template.asJson })

def removeTemplate (templateId : Uuid) : Except VaultError Unit × VaultStore :=
  if s.templates.contains templateId then
    (.ok (), { s with templates := s.templates.erase templateId })
  else (.error .templateNotFound, s)

def loadAlert (alertId : Uuid) : Except VaultError SecretGovernanceAlert :=
  match s.alerts.get? alertId with
  | none => .error .alertNotFound
  | some alert => .ok alert

def iterAlerts (workspaceId : Option String) : Except VaultError (List SecretGovernanceAlert) :=
  ofWorkspace rt b SecretGovernanceAlert.workspaceId (·.createdAt) workspaceId s.alerts.values

def upsertAlert (alert : SecretGovernanceAlert) : Except VaultError Unit × VaultStore :=
  if b = .postgres ∧ !rt.takesAlert alert then (.error refusedRow, s)
  else (.ok (), { s with alerts := s.alerts.set alert.id alert })

def removeAlert (alertId : Uuid) : VaultStore := { s with alerts := s.alerts.erase alertId }

def exec : (op : VaultOp) → VaultStore → op.Answer × VaultStore
  | .loadMetadata credentialId, s => (s.loadMetadata credentialId, s)
  | .iterMetadata workspaceId, s => (s.iterMetadata rt b workspaceId, s)
  | .selectDuplicates name workspaceId, s => (s.selectDuplicates rt b name workspaceId, s)
  | .upsertMetadata metadata, s => s.upsertMetadata rt b metadata
  | .removeCredential credentialId, s => s.removeCredential credentialId
  | .loadTemplate templateId, s => (s.loadTemplate templateId, s)
  | .iterTemplates workspaceId, s => (s.iterTemplates rt b workspaceId, s)
  | .upsertTemplate template, s => s.upsertTemplate rt b template
  | .removeTemplate templateId, s => s.removeTemplate templateId
  | .loadAlert alertId, s => (s.loadAlert alertId, s)
  | .iterAlerts workspaceId, s => (s.iterAlerts rt b workspaceId, s)
  | .upsertAlert alert, s => s.upsertAlert rt b alert
  | .removeAlert alertId, s => (.ok (), s.removeAlert alertId)

end VaultStore

end Orcheo.Vault
