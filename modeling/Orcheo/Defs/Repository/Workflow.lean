import Orcheo.Defs.Repository.Runs

/-! Workflows, their validation, and the edits that the repositories make to them. -/

namespace Orcheo.Repository

/-- Operations on Unicode text, and `UUID` as a parser; an absent result is a `ValueError`. -/
structure TextRuntime where
  strip : String → String
  lower : String → String
  isAlnum : Char → Bool
  uuid : String → Option Uuid

def TextRuntime.ascii : TextRuntime where
  strip s := String.ofList
    ((s.toList.dropWhile Char.isWhitespace).reverse.dropWhile Char.isWhitespace).reverse
  lower s := String.ofList (s.toList.map Char.toLower)
  isAlnum := Char.isAlphanum
  uuid s :=
    if s ≠ "" ∧ s.toList.all Char.isDigit then
      some (s.toList.foldl (fun n c => 10 * n + (c.toNat - '0'.toNat)) 0)
    else none

inductive WorkflowError
  | notFound
  | handleConflict (handle : String)
  | publishState (message : String)
  /-- a `ValueError` or `ValidationError` -/
  | invalid (message : String)
  deriving DecidableEq, Repr

inductive WorkflowDraftAccess
  | personal | authenticated | workspace
  deriving DecidableEq, Repr

def WorkflowDraftAccess.value : WorkflowDraftAccess → String
  | personal => "personal"
  | authenticated => "authenticated"
  | workspace => "workspace"

structure ChatKitStartScreenPrompt where
  label : String
  prompt : String
  icon : Option String := none
  deriving DecidableEq, Repr

structure ChatKitSupportedModel where
  id : String
  label : Option String := none
  description : Option String := none
  disabled : Bool := false
  default : Bool := false
  deriving DecidableEq, Repr

structure WorkflowChatKitConfig where
  startScreenPrompts : Option (List ChatKitStartScreenPrompt) := none
  supportedModels : Option (List ChatKitSupportedModel) := none
  deriving DecidableEq, Repr

def optionalJson {α : Type} (dump : α → Json) : Option α → Json
  | none => .null
  | some x => dump x

def ChatKitStartScreenPrompt.modelDump (p : ChatKitStartScreenPrompt) : Json :=
  .obj [("label", .str p.label), ("prompt", .str p.prompt), ("icon", optionalJson .str p.icon)]

def ChatKitSupportedModel.modelDump (m : ChatKitSupportedModel) : Json :=
  .obj [("id", .str m.id), ("label", optionalJson .str m.label),
    ("description", optionalJson .str m.description), ("disabled", .bool m.disabled),
    ("default", .bool m.default)]

structure Workflow where
  name : String
  handle : Option String := none
  workspaceId : Option String := none
  teamId : Option String := none
  description : Option String := none
  tags : List String := []
  isArchived : Bool := false
  draftAccess : WorkflowDraftAccess := .personal
  isPublic : Bool := false
  publishedAt : Option Instant := none
  publishedBy : Option String := none
  requireLogin : Bool := false
  chatkit : Option WorkflowChatKitConfig := none
  updatedAt : Instant
  auditLog : List AuditRecord := []
  deriving DecidableEq

section Validation

variable (rt : TextRuntime)

def workflowHandleMaxLength : Nat := 64

def isLowerAlnum (c : Char) : Bool :=
  (decide ('a' ≤ c) && decide (c ≤ 'z')) || (decide ('0' ≤ c) && decide (c ≤ '9'))

/-- `WORKFLOW_HANDLE_PATTERN.fullmatch` -/
def matchesHandlePattern (s : String) : Bool :=
  (s.toList.splitOn '-').all (fun part => !part.isEmpty && part.all isLowerAlnum)

def normalizeWorkflowHandle : Option String → Except WorkflowError (Option String)
  | none => .ok none
  | some value =>
    let normalized := rt.lower (rt.strip value)
    if normalized = "" then .error (.invalid "Workflow handle must not be empty.")
    else if workflowHandleMaxLength < normalized.length then
      .error (.invalid "Workflow handle must be at most 64 characters long.")
    else if !matchesHandlePattern normalized then
      .error (.invalid
        "Workflow handle must contain only lowercase letters, numbers, and single hyphens.")
    else if (rt.uuid normalized).isSome then
      .error (.invalid "Workflow handle must not use a UUID format.")
    else .ok (some normalized)

def normalizeName (value : String) : Except WorkflowError String :=
  let candidate := rt.strip value
  if candidate = "" then .error (.invalid "Workflow name must not be empty.")
  else if 128 < candidate.length then
    .error (.invalid "String should have at most 128 characters")
  else .ok candidate

def normalizeDescription (value : String) : Except WorkflowError (Option String) :=
  let candidate := rt.strip value
  if candidate = "" then .ok none
  else if 1024 < candidate.length then
    .error (.invalid "String should have at most 1024 characters")
  else .ok (some candidate)

def normalizeOptionalDescription : Option String → Except WorkflowError (Option String)
  | none => .ok none
  | some value => normalizeDescription rt value

def dedupeTags (tags : List String) : List String :=
  tags.foldl (fun deduped tag =>
    let key := rt.lower (rt.strip tag)
    if key = "" ∨ key ∈ deduped then deduped else deduped ++ [key]) []

end Validation

structure EventClock where
  eventAt : Instant
  recordedAt : Instant

abbrev Metadata := List (String × Json)

namespace Workflow

variable (w : Workflow)

def recordEvent (now : Instant) (actor action : String) (metadata : Metadata) :
    Workflow :=
  { w with auditLog := w.auditLog ++ [⟨actor, action, now, metadata⟩], updatedAt := now }

def publish (clock : EventClock) (requireLogin : Bool) (actor : String) :
    Except WorkflowError Workflow :=
  if w.isPublic then .error (.publishState "Workflow is already published.")
  else .ok (recordEvent { w with
    isPublic := true
    publishedAt := some clock.eventAt
    publishedBy := some actor
    requireLogin := requireLogin } clock.recordedAt actor "workflow_published"
      [("require_login", .bool requireLogin)])

def unpublished : Workflow :=
  { w with isPublic := false, publishedAt := none, publishedBy := none, requireLogin := false }

def revokePublish (now : Instant) (actor : String) :
    Except WorkflowError Workflow :=
  if w.isPublic then
    .ok (w.unpublished.recordEvent now actor "workflow_unpublished"
      [("require_login", .bool w.requireLogin)])
  else .error (.publishState "Workflow is not currently published.")

end Workflow

structure NewWorkflow where
  name : String
  handle : Option String := none
  description : Option String := none
  tags : List String := []
  draftAccess : WorkflowDraftAccess := .personal
  actor : String := "system"
  workspaceId : Option String := none
  teamId : Option String := none

def Workflow.create (rt : TextRuntime) (r : NewWorkflow) (handle : Option String)
    (now : Instant) : Except WorkflowError Workflow := do
  let name ← normalizeName rt r.name
  let description ← normalizeOptionalDescription rt r.description
  return recordEvent {
    name := name
    handle := handle
    workspaceId := r.workspaceId
    teamId := r.teamId
    description := description
    tags := dedupeTags rt r.tags
    draftAccess := r.draftAccess
    updatedAt := now } now r.actor "workflow_created" []

structure WorkflowUpdate where
  name : Option String := none
  handle : Option String := none
  description : Option String := none
  tags : Option (List String) := none
  startScreenPrompts : Option (List ChatKitStartScreenPrompt) := none
  supportedModels : Option (List ChatKitSupportedModel) := none
  clearStartScreenPrompts : Bool := false
  clearSupportedModels : Bool := false
  draftAccess : Option WorkflowDraftAccess := none
  isArchived : Option Bool := none
  actor : String := "system"

def change (key : String) (old new : Json) : Metadata :=
  [(key, .obj [("from", old), ("to", new)])]

namespace Workflow

abbrev Edited := Except (Workflow × WorkflowError) (Workflow × Metadata)

variable (rt : TextRuntime)

def editHandle (handle : Option String) (e : Workflow × Metadata) : Workflow × Metadata :=
  match handle with
  | none => e
  | some h =>
    if some h = e.1.handle then e
    else ({ e.1 with handle := some h },
      e.2 ++ change "handle" (optionalJson .str e.1.handle) (.str h))

def editName (name : Option String) (e : Workflow × Metadata) : Edited :=
  match name with
  | none => .ok e
  | some name =>
    if name = e.1.name then .ok e
    else match normalizeName rt name with
      | .error error => .error (e.1, error)
      | .ok candidate => .ok ({ e.1 with name := candidate },
          e.2 ++ change "name" (.str e.1.name) (.str name))

def editDescription (description : Option String) (e : Workflow × Metadata) : Edited :=
  match description with
  | none => .ok e
  | some description =>
    if some description = e.1.description then .ok e
    else match normalizeDescription rt description with
      | .error error => .error (e.1, error)
      | .ok candidate => .ok ({ e.1 with description := candidate },
          e.2 ++ change "description" (optionalJson .str e.1.description) (.str description))

def editTags (tags : Option (List String)) (e : Workflow × Metadata) : Workflow × Metadata :=
  match tags with
  | none => e
  | some tags =>
    if tags = e.1.tags then e
    else ({ e.1 with tags := dedupeTags rt tags },
      e.2 ++ change "tags" (.arr (e.1.tags.map .str)) (.arr (tags.map .str)))

def dumpList {α : Type} (dump : α → Json) (xs : List α) : Json := .arr (xs.map dump)

/-- `apply_chatkit_start_screen_prompts_update` -/
def editStartScreenPrompts (prompts : Option (List ChatKitStartScreenPrompt)) (clear : Bool)
    (e : Workflow × Metadata) : Workflow × Metadata :=
  let config := e.1.chatkit.getD {}
  let dump := dumpList ChatKitStartScreenPrompt.modelDump
  if clear then match config.startScreenPrompts with
    | none => e
    | some old =>
      ({ e.1 with chatkit :=
          if config.supportedModels = none then none
          else some { config with startScreenPrompts := none } },
        e.2 ++ change "chatkit_start_screen_prompts" (dump old) .null)
  else match prompts with
    | none => e
    | some prompts =>
      if some prompts = config.startScreenPrompts then e
      else ({ e.1 with chatkit := some { config with startScreenPrompts := some prompts } },
        e.2 ++ change "chatkit_start_screen_prompts"
          (optionalJson dump config.startScreenPrompts) (dump prompts))

/-- `apply_chatkit_supported_models_update` -/
def editSupportedModels (models : Option (List ChatKitSupportedModel)) (clear : Bool)
    (e : Workflow × Metadata) : Workflow × Metadata :=
  let config := e.1.chatkit.getD {}
  let dump := dumpList ChatKitSupportedModel.modelDump
  if clear then match config.supportedModels with
    | none => e
    | some old =>
      ({ e.1 with chatkit :=
          if config.startScreenPrompts = none then none
          else some { config with supportedModels := none } },
        e.2 ++ change "chatkit_supported_models" (dump old) .null)
  else match models with
    | none => e
    | some models =>
      if some models = config.supportedModels then e
      else ({ e.1 with chatkit := some { config with supportedModels := some models } },
        e.2 ++ change "chatkit_supported_models"
          (optionalJson dump config.supportedModels) (dump models))

def editDraftAccess (draftAccess : Option WorkflowDraftAccess) (e : Workflow × Metadata) :
    Workflow × Metadata :=
  match draftAccess with
  | none => e
  | some access =>
    if access = e.1.draftAccess then e
    else ({ e.1 with draftAccess := access },
      e.2 ++ change "draft_access" (.str e.1.draftAccess.value) (.str access.value))

def editArchived (isArchived : Option Bool) (now : Instant) (actor : String)
    (e : Workflow × Metadata) : Workflow × Metadata :=
  match isArchived with
  | none => e
  | some archived =>
    if archived = e.1.isArchived then e
    else
      let w := if archived && e.1.isPublic then
          e.1.unpublished.recordEvent now actor "workflow_unpublished"
            [("require_login", .bool e.1.requireLogin)]
        else e.1
      ({ w with isArchived := archived },
        e.2 ++ change "is_archived" (.bool e.1.isArchived) (.bool archived))

/-- The assignments of `update_workflow`, with a handle that is normalised already. -/
def applyUpdate (w : Workflow) (clock : EventClock) (u : WorkflowUpdate)
    (handle : Option String) : Except (Workflow × WorkflowError) Workflow := do
  let e ← editName rt u.name (editHandle handle (w, []))
  let e ← editDescription rt u.description e
  let e := editTags rt u.tags e
  let e := editStartScreenPrompts u.startScreenPrompts u.clearStartScreenPrompts e
  let e := editSupportedModels u.supportedModels u.clearSupportedModels e
  let e := editDraftAccess u.draftAccess e
  let e := editArchived u.isArchived clock.eventAt u.actor e
  return e.1.recordEvent clock.recordedAt u.actor "workflow_updated" e.2

end Workflow

end Orcheo.Repository
