import Orcheo.Lib.Except
import Orcheo.Defs.Repository.Workflow

/-! What each edit of a workflow leaves as it is, and what an update does to the whole. -/

namespace Orcheo.Repository

open Lib (bind_ok_iff)

/-- What requests ask for, and what no request changes. -/
inductive WorkflowField
  | name | handle | description | tags | startScreenPrompts | supportedModels | draftAccess
  | isArchived | publication | scope
  deriving DecidableEq, Repr

inductive FieldValue
  | text (s : String)
  | optionalText (s : Option String)
  | texts (ss : List String)
  | prompts (ps : Option (List ChatKitStartScreenPrompt))
  | models (ms : Option (List ChatKitSupportedModel))
  | access (a : WorkflowDraftAccess)
  | flag (b : Bool)
  | publication (isPublic : Bool) (publishedAt : Option Instant) (publishedBy : Option String)
      (requireLogin : Bool)
  | scope (workspaceId teamId : Option String)
  deriving DecidableEq

namespace Workflow

def value (w : Workflow) : WorkflowField → FieldValue
  | .name => .text w.name
  | .handle => .optionalText w.handle
  | .description => .optionalText w.description
  | .tags => .texts w.tags
  | .startScreenPrompts => .prompts (w.chatkit.bind WorkflowChatKitConfig.startScreenPrompts)
  | .supportedModels => .models (w.chatkit.bind WorkflowChatKitConfig.supportedModels)
  | .draftAccess => .access w.draftAccess
  | .isArchived => .flag w.isArchived
  | .publication => .publication w.isPublic w.publishedAt w.publishedBy w.requireLogin
  | .scope => .scope w.workspaceId w.teamId

section Edits

variable {rt : TextRuntime} {e e' : Workflow × Metadata} {f : WorkflowField}

theorem editHandle_fst (handle : Option String) (e : Workflow × Metadata) :
    (editHandle handle e).1 = { e.1 with handle := handle.or e.1.handle } := by
  unfold editHandle
  cases handle with
  | none => rfl
  | some h =>
    dsimp only
    split
    case isTrue same => rw [Option.some_or, same]
    case isFalse => rfl

theorem value_editHandle {handle : Option String} (other : f ≠ .handle) :
    (editHandle handle e).1.value f = e.1.value f := by
  rw [editHandle_fst]
  cases f <;> first | rfl | exact absurd rfl other

variable {name : Option String} {actor : String} {isArchived : Option Bool} {now : Instant}

theorem value_editName (h : editName rt name e = .ok e') (other : f = .name → name = none) :
    e'.1.value f = e.1.value f := by
  unfold editName at h
  split at h
  case h_1 =>
    cases h
    rfl
  case h_2 =>
    split at h
    · cases h
      rfl
    · split at h
      · cases h
      · cases h
        cases f <;> first | rfl | cases other rfl

theorem editName_error {p : Workflow × WorkflowError} (h : editName rt name e = .error p) :
    p.1 = e.1 := by
  unfold editName at h
  split at h
  case h_1 => cases h
  case h_2 =>
    split at h
    · cases h
    · split at h
      · cases h
        rfl
      · cases h

theorem editName_ok (h : editName rt name e = .ok e') :
    ∃ candidate : String, e'.1 = { e.1 with name := candidate } := by
  unfold editName at h
  split at h
  case h_1 =>
    cases h
    exact ⟨e.1.name, rfl⟩
  case h_2 =>
    split at h
    · cases h
      exact ⟨e.1.name, rfl⟩
    · split at h
      · cases h
      · cases h
        exact ⟨_, rfl⟩

variable {description : Option String}

theorem value_editDescription (h : editDescription rt description e = .ok e')
    (other : f = .description → description = none) : e'.1.value f = e.1.value f := by
  unfold editDescription at h
  split at h
  case h_1 =>
    cases h
    rfl
  case h_2 =>
    split at h
    · cases h
      rfl
    · split at h
      · cases h
      · cases h
        cases f <;> first | rfl | cases other rfl

theorem editDescription_error {p : Workflow × WorkflowError}
    (h : editDescription rt description e = .error p) : p.1 = e.1 := by
  unfold editDescription at h
  split at h
  case h_1 => cases h
  case h_2 =>
    split at h
    · cases h
    · split at h
      · cases h
        rfl
      · cases h

theorem value_editTags {tags : Option (List String)} (other : f = .tags → tags = none) :
    (editTags rt tags e).1.value f = e.1.value f := by
  unfold editTags
  split
  case h_1 => rfl
  case h_2 =>
    split
    · rfl
    · cases f <;> first | rfl | cases other rfl

theorem value_editStartScreenPrompts {prompts : Option (List ChatKitStartScreenPrompt)}
    {clear : Bool} (other : f = .startScreenPrompts → prompts = none ∧ clear = false) :
    (editStartScreenPrompts prompts clear e).1.value f = e.1.value f := by
  unfold editStartScreenPrompts
  cases f
  case startScreenPrompts =>
    obtain ⟨rfl, rfl⟩ := other rfl
    rfl
  case supportedModels =>
    cases config : e.1.chatkit with
    | none => grind [value]
    | some c => grind [value]
  all_goals grind [value]

theorem value_editSupportedModels {models : Option (List ChatKitSupportedModel)}
    {clear : Bool} (other : f = .supportedModels → models = none ∧ clear = false) :
    (editSupportedModels models clear e).1.value f = e.1.value f := by
  unfold editSupportedModels
  cases f
  case supportedModels =>
    obtain ⟨rfl, rfl⟩ := other rfl
    rfl
  case startScreenPrompts =>
    cases config : e.1.chatkit with
    | none => grind [value]
    | some c => grind [value]
  all_goals grind [value]

theorem value_editDraftAccess {access : Option WorkflowDraftAccess}
    (other : f = .draftAccess → access = none) :
    (editDraftAccess access e).1.value f = e.1.value f := by
  unfold editDraftAccess
  split
  case h_1 => rfl
  case h_2 =>
    split
    · rfl
    · cases f <;> first | rfl | cases other rfl

theorem value_editArchived (other : f = .isArchived → isArchived = none)
    (published : f = .publication → isArchived ≠ some true) :
    (editArchived isArchived now actor e).1.value f = e.1.value f := by
  unfold editArchived
  split
  case h_1 => rfl
  case h_2 archived =>
    split
    · rfl
    · cases archived with
      | false => cases f <;> first | rfl | cases other rfl
      | true =>
        dsimp only
        split
        · cases f <;> first | rfl | cases other rfl | exact absurd rfl (published rfl)
        · cases f <;> first | rfl | cases other rfl

theorem value_recordEvent {w : Workflow} {action : String} {metadata : Metadata} :
    (w.recordEvent now actor action metadata).value f = w.value f := by
  cases f <;> rfl

theorem isArchived_editArchived :
    (editArchived isArchived now actor e).1.isArchived = isArchived.getD e.1.isArchived := by
  unfold editArchived
  split
  case h_1 => rfl
  case h_2 =>
    split
    case isTrue same => exact same.symm
    case isFalse => rfl

theorem isPublic_editArchived (kept : e.1.isArchived = true → e.1.isPublic = false)
    (archived : (editArchived isArchived now actor e).1.isArchived = true) :
    (editArchived isArchived now actor e).1.isPublic = false := by
  revert archived
  unfold editArchived
  split
  case h_1 => exact kept
  case h_2 target =>
    split
    case isTrue => exact kept
    case isFalse =>
      cases target with
      | false => nofun
      | true =>
        intro _
        dsimp only
        split
        case isTrue => rfl
        case isFalse hidden => simpa using hidden

end Edits

end Workflow

/-- The fields that a request asks to change; archiving takes a publication back too. -/
def WorkflowUpdate.touches (u : WorkflowUpdate) : WorkflowField → Bool
  | .name => u.name.isSome
  | .handle => u.handle.isSome
  | .description => u.description.isSome
  | .tags => u.tags.isSome
  | .startScreenPrompts => u.startScreenPrompts.isSome || u.clearStartScreenPrompts
  | .supportedModels => u.supportedModels.isSome || u.clearSupportedModels
  | .draftAccess => u.draftAccess.isSome
  | .isArchived => u.isArchived.isSome
  | .publication => u.isArchived = some true
  | .scope => false

def WorkflowUpdate.acceptable (rt : TextRuntime) (u : WorkflowUpdate) (w : Workflow) : Bool :=
  (match u.name with
    | none => true
    | some name => decide (name = w.name) || (normalizeName rt name).isOk) &&
  match u.description with
    | none => true
    | some description =>
      decide (some description = w.description) || (normalizeDescription rt description).isOk

namespace Workflow

variable {rt : TextRuntime} {w : Workflow} {clock : EventClock} {u : WorkflowUpdate}
  {handle : Option String}

theorem create_ok {r : NewWorkflow} {now : Instant} {w : Workflow}
    (h : Workflow.create rt r handle now = .ok w) :
    w.handle = handle ∧ w.workspaceId = r.workspaceId ∧ w.teamId = r.teamId ∧
      w.isArchived = false := by
  unfold Workflow.create at h
  obtain ⟨name, _, h⟩ := bind_ok_iff.mp h
  obtain ⟨description, _, h⟩ := bind_ok_iff.mp h
  cases h
  exact ⟨rfl, rfl, rfl, rfl⟩

def laterEdits (rt : TextRuntime) (u : WorkflowUpdate) (e : Workflow × Metadata) :
    Workflow × Metadata :=
  editDraftAccess u.draftAccess
    (editSupportedModels u.supportedModels u.clearSupportedModels
      (editStartScreenPrompts u.startScreenPrompts u.clearStartScreenPrompts
        (editTags rt u.tags e)))

theorem applyUpdate_ok {w' : Workflow} (h : w.applyUpdate rt clock u handle = .ok w') :
    ∃ e₁ e₂ : Workflow × Metadata,
      editName rt u.name (editHandle handle (w, [])) = .ok e₁ ∧
      editDescription rt u.description e₁ = .ok e₂ ∧
      w' = (editArchived u.isArchived clock.eventAt u.actor (laterEdits rt u e₂)).1.recordEvent
        clock.recordedAt u.actor "workflow_updated"
        (editArchived u.isArchived clock.eventAt u.actor (laterEdits rt u e₂)).2 := by
  unfold applyUpdate at h
  obtain ⟨e₁, h₁, h⟩ := bind_ok_iff.mp h
  obtain ⟨e₂, h₂, h⟩ := bind_ok_iff.mp h
  cases h
  exact ⟨e₁, e₂, h₁, h₂, rfl⟩

variable {e : Workflow × Metadata}

theorem value_laterEdits {f : WorkflowField}
    (asked : u.touches f = true → f = .handle ∨ f = .isArchived ∨ f = .publication) :
    (laterEdits rt u e).1.value f = e.1.value f := by
  unfold laterEdits
  rw [value_editDraftAccess, value_editSupportedModels, value_editStartScreenPrompts,
    value_editTags]
  all_goals
    rintro rfl
    simpa [WorkflowUpdate.touches] using asked

theorem value_beforeArchived {e₁ e₂ : Workflow × Metadata} {f : WorkflowField}
    (named : editName rt u.name (editHandle handle (w, [])) = .ok e₁)
    (described : editDescription rt u.description e₁ = .ok e₂)
    (asked : u.touches f = true → f = .handle ∨ f = .isArchived ∨ f = .publication) :
    (laterEdits rt u e₂).1.value f = (editHandle handle (w, [])).1.value f := by
  rw [value_laterEdits asked]
  trans e₁.1.value f
  · apply value_editDescription described
    rintro rfl
    simpa [WorkflowUpdate.touches] using asked
  · apply value_editName named
    rintro rfl
    simpa [WorkflowUpdate.touches] using asked

variable {w' : Workflow}

section

variable (h : w.applyUpdate rt clock u handle = .ok w')
include h

theorem value_applyUpdate {f : WorkflowField}
    (handled : handle.isSome = u.handle.isSome) (untouched : u.touches f = false) :
    w'.value f = w.value f := by
  obtain ⟨e₁, e₂, named, described, rfl⟩ := applyUpdate_ok h
  have archived : f = .isArchived → u.isArchived = none := by
    rintro rfl
    simpa [WorkflowUpdate.touches] using untouched
  have published : f = .publication → u.isArchived ≠ some true := by
    rintro rfl
    simpa [WorkflowUpdate.touches] using untouched
  rw [value_recordEvent, value_editArchived archived published,
    value_beforeArchived named described (by simp [untouched])]
  cases handle with
  | none => rfl
  | some given =>
    apply value_editHandle
    rintro rfl
    rw [WorkflowUpdate.touches, ← handled] at untouched
    cases untouched

theorem handle_applyUpdate :
    w'.handle = handle.or w.handle := by
  obtain ⟨e₁, e₂, named, described, rfl⟩ := applyUpdate_ok h
  have before := value_beforeArchived (f := .handle) named described (by simp)
  rw [editHandle_fst] at before
  have kept : (editArchived u.isArchived clock.eventAt u.actor (laterEdits rt u e₂)).1.value
      .handle = (laterEdits rt u e₂).1.value .handle := value_editArchived nofun nofun
  exact FieldValue.optionalText.inj (kept.trans before)

theorem isArchived_applyUpdate :
    w'.isArchived = u.isArchived.getD w.isArchived := by
  obtain ⟨e₁, e₂, named, described, rfl⟩ := applyUpdate_ok h
  have before := value_beforeArchived (f := .isArchived) named described (by simp)
  rw [editHandle_fst] at before
  have before : (laterEdits rt u e₂).1.isArchived = w.isArchived := FieldValue.flag.inj before
  rw [← before]
  exact isArchived_editArchived

theorem isPublic_applyUpdate
    (kept : w.isArchived = true → w.isPublic = false) (archived : w'.isArchived = true) :
    w'.isPublic = false := by
  obtain ⟨e₁, e₂, named, described, rfl⟩ := applyUpdate_ok h
  have flag := value_beforeArchived (f := .isArchived) named described (by simp)
  have publication := value_beforeArchived (f := .publication) named described (by simp)
  rw [editHandle_fst] at flag publication
  have flag : (laterEdits rt u e₂).1.isArchived = w.isArchived := FieldValue.flag.inj flag
  have publication : (laterEdits rt u e₂).1.isPublic = w.isPublic :=
    (FieldValue.publication.inj publication).1
  apply isPublic_editArchived _ archived
  rw [flag, publication]
  exact kept

theorem scope_applyUpdate :
    w'.workspaceId = w.workspaceId ∧ w'.teamId = w.teamId := by
  obtain ⟨e₁, e₂, named, described, rfl⟩ := applyUpdate_ok h
  have before := value_beforeArchived (f := .scope) named described nofun
  rw [editHandle_fst] at before
  have kept : (editArchived u.isArchived clock.eventAt u.actor (laterEdits rt u e₂)).1.value
      .scope = (laterEdits rt u e₂).1.value .scope := value_editArchived nofun nofun
  exact FieldValue.scope.inj (kept.trans before)

end

theorem applyUpdate_error {p : Workflow × WorkflowError}
    (h : w.applyUpdate rt clock u handle = .error p) :
    ∃ name : String, p.1 = { w with handle := handle.or w.handle, name := name } := by
  unfold applyUpdate at h
  cases named : editName rt u.name (editHandle handle (w, [])) with
  | error q =>
    rw [named] at h
    cases h
    rw [editName_error named, editHandle_fst]
    exact ⟨w.name, rfl⟩
  | ok e₁ =>
    rw [named] at h
    cases described : editDescription rt u.description e₁ with
    | error q =>
      dsimp only [bind, Except.bind] at h
      rw [described] at h
      cases h
      rw [editDescription_error described]
      obtain ⟨name, renamed⟩ := editName_ok named
      rw [editHandle_fst] at renamed
      exact ⟨name, renamed⟩
    | ok e₂ =>
      dsimp only [bind, Except.bind] at h
      rw [described] at h
      cases h

theorem isOk_editName {name : Option String} : (editName rt name e).isOk = match name with
      | none => true
      | some name => decide (name = e.1.name) || (normalizeName rt name).isOk := by
  unfold editName
  cases name with
  | none => rfl
  | some name =>
    dsimp only
    split
    case isTrue same => simp [same, Except.isOk, Except.toBool]
    case isFalse other =>
      rw [decide_eq_false other, Bool.false_or]
      cases normalizeName rt name <;> rfl

theorem isOk_editDescription {description : Option String} :
    (editDescription rt description e).isOk = match description with
      | none => true
      | some description => decide (some description = e.1.description) ||
          (normalizeDescription rt description).isOk := by
  unfold editDescription
  cases description with
  | none => rfl
  | some description =>
    dsimp only
    split
    case isTrue same => simp [same, Except.isOk, Except.toBool]
    case isFalse other =>
      rw [decide_eq_false other, Bool.false_or]
      cases normalizeDescription rt description <;> rfl

theorem isOk_applyUpdate : (w.applyUpdate rt clock u handle).isOk = u.acceptable rt w := by
  have named : (editName rt u.name (editHandle handle (w, []))).isOk = _ := isOk_editName
  rw [editHandle_fst] at named
  unfold applyUpdate WorkflowUpdate.acceptable
  rw [← named]
  cases edited : editName rt u.name (editHandle handle (w, [])) with
  | error p => rfl
  | ok e₁ =>
    have described : (editDescription rt u.description e₁).isOk = _ := isOk_editDescription
    obtain ⟨name, renamed⟩ := editName_ok edited
    rw [renamed, editHandle_fst] at described
    rw [← described]
    dsimp only [bind, Except.bind]
    cases editDescription rt u.description e₁ <;> rfl

end Workflow

end Orcheo.Repository
