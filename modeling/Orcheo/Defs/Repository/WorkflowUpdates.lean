import Orcheo.Defs.Repository.WorkflowLaws
import Orcheo.Lib.Run

/-! Two processes that change one workflow of the Postgres repository. A call reads the whole
payload in one transaction, edits its copy, and writes the whole payload back in another. -/

namespace Orcheo.Repository

open Lib (bind_ok_iff)

/-- The calls, with what they read besides the row: clocks, and whether the handle that an
update asks for is free among the other workflows. -/
inductive WorkflowCall
  | updateWorkflow (u : WorkflowUpdate) (clock : EventClock) (available : Bool)
  | publishWorkflow (clock : EventClock) (requireLogin : Bool) (actor : String)
  | revokePublish (now : Instant) (actor : String)

namespace WorkflowCall

def archiveWorkflow (clock : EventClock) (actor : String) : WorkflowCall :=
  .updateWorkflow { isArchived := some true, actor := actor } clock true

def apply (rt : TextRuntime) (w : Workflow) : WorkflowCall → Except WorkflowError Workflow
  | .updateWorkflow u clock available => do
    let handle ← normalizeWorkflowHandle rt u.handle
    if handle.isSome ∧ handle ≠ w.handle ∧ available = false then
      .error (.handleConflict (handle.getD ""))
    else
      (w.applyUpdate rt clock u handle).mapError Prod.snd
  | .publishWorkflow clock requireLogin actor =>
    if w.isArchived then .error .notFound else w.publish clock requireLogin actor
  | .revokePublish now actor =>
    if w.isArchived then .error .notFound else w.revokePublish now actor

def touches (f : WorkflowField) : WorkflowCall → Bool
  | .updateWorkflow u _ _ => u.touches f
  | .publishWorkflow _ _ _ => f = .publication
  | .revokePublish _ _ => f = .publication

end WorkflowCall

section Requested

variable (rt : TextRuntime)

def requestedName (name : Option String) (stored : String) : String :=
  match name with
  | none => stored
  | some name => if name = stored then stored else (normalizeName rt name).toOption.getD stored

def requestedDescription (description stored : Option String) : Option String :=
  match description with
  | none => stored
  | some description =>
    if some description = stored then stored
    else (normalizeDescription rt description).toOption.getD stored

def requestedTags (tags : Option (List String)) (stored : List String) : List String :=
  match tags with
  | none => stored
  | some tags => if tags = stored then stored else dedupeTags rt tags

end Requested

def WorkflowUpdate.requested (rt : TextRuntime) (u : WorkflowUpdate) (w : Workflow) :
    WorkflowField → FieldValue
  | .name => .text (requestedName rt u.name w.name)
  | .handle => .optionalText
      (((normalizeWorkflowHandle rt u.handle).toOption.getD none).or w.handle)
  | .description => .optionalText (requestedDescription rt u.description w.description)
  | .tags => .texts (requestedTags rt u.tags w.tags)
  | .startScreenPrompts => if u.clearStartScreenPrompts then .prompts none
    else .prompts (u.startScreenPrompts.or (w.chatkit.bind WorkflowChatKitConfig.startScreenPrompts))
  | .supportedModels => if u.clearSupportedModels then .models none
    else .models (u.supportedModels.or (w.chatkit.bind WorkflowChatKitConfig.supportedModels))
  | .draftAccess => .access (u.draftAccess.getD w.draftAccess)
  | .isArchived => .flag (u.isArchived.getD w.isArchived)
  | .publication =>
    if u.isArchived = some true ∧ w.isArchived = false ∧ w.isPublic = true then
      .publication false none none false
    else w.value .publication
  | .scope => w.value .scope

def WorkflowCall.requested (rt : TextRuntime) (w : Workflow) (f : WorkflowField) :
    WorkflowCall → FieldValue
  | .updateWorkflow u _ _ => u.requested rt w f
  | .publishWorkflow clock requireLogin actor =>
    if f = .publication then .publication true (some clock.eventAt) (some actor) requireLogin
    else w.value f
  | .revokePublish _ _ =>
    if f = .publication then .publication false none none false else w.value f

namespace Workflow

variable {rt : TextRuntime} {w w' : Workflow} {clock : EventClock} {u : WorkflowUpdate}
  {handle : Option String} {e e' : Workflow × Metadata}

theorem name_editName {name : Option String} (h : editName rt name e = .ok e') :
    e'.1.name = requestedName rt name e.1.name := by
  unfold editName at h
  unfold requestedName
  cases name with
  | none =>
    cases h
    rfl
  | some given =>
    dsimp only at h ⊢
    by_cases same : given = e.1.name
    · rw [if_pos same] at h ⊢
      cases h
      rfl
    · rw [if_neg same] at h ⊢
      cases normalized : normalizeName rt given with
      | error error =>
        rw [normalized] at h
        cases h
      | ok candidate =>
        rw [normalized] at h
        cases h
        rfl

theorem description_editDescription {description : Option String}
    (h : editDescription rt description e = .ok e') :
    e'.1.description = requestedDescription rt description e.1.description := by
  unfold editDescription at h
  unfold requestedDescription
  cases description with
  | none =>
    cases h
    rfl
  | some given =>
    dsimp only at h ⊢
    by_cases same : some given = e.1.description
    · rw [if_pos same] at h ⊢
      cases h
      rfl
    · rw [if_neg same] at h ⊢
      cases normalized : normalizeDescription rt given with
      | error error =>
        rw [normalized] at h
        cases h
      | ok candidate =>
        rw [normalized] at h
        cases h
        rfl

theorem tags_editTags {tags : Option (List String)} :
    (editTags rt tags e).1.tags = requestedTags rt tags e.1.tags := by
  unfold editTags requestedTags
  cases tags with
  | none => rfl
  | some tags => exact apply_ite (fun e : Workflow × Metadata => e.1.tags) _ _ _

theorem startScreenPrompts_edit {prompts : Option (List ChatKitStartScreenPrompt)} {clear : Bool} :
    (editStartScreenPrompts prompts clear e).1.value .startScreenPrompts =
      if clear then .prompts none
      else .prompts (prompts.or (e.1.chatkit.bind WorkflowChatKitConfig.startScreenPrompts)) := by
  unfold editStartScreenPrompts
  cases config : e.1.chatkit with
  | none => cases clear <;> cases prompts <;> grind [value]
  | some c => cases clear <;> cases prompts <;> grind [value]

theorem supportedModels_edit {models : Option (List ChatKitSupportedModel)} {clear : Bool} :
    (editSupportedModels models clear e).1.value .supportedModels =
      if clear then .models none
      else .models (models.or (e.1.chatkit.bind WorkflowChatKitConfig.supportedModels)) := by
  unfold editSupportedModels
  cases config : e.1.chatkit with
  | none => cases clear <;> cases models <;> grind [value]
  | some c => cases clear <;> cases models <;> grind [value]

theorem draftAccess_edit {access : Option WorkflowDraftAccess} :
    (editDraftAccess access e).1.draftAccess = access.getD e.1.draftAccess := by
  unfold editDraftAccess
  cases access with
  | none => rfl
  | some access =>
    dsimp only
    split
    case isTrue same => exact same.symm
    case isFalse => rfl

theorem publication_editArchived {isArchived : Option Bool} {now : Instant} {actor : String} :
    (editArchived isArchived now actor e).1.value .publication =
      if isArchived = some true ∧ e.1.isArchived = false ∧ e.1.isPublic = true then
        .publication false none none false
      else e.1.value .publication := by
  unfold editArchived
  cases isArchived with
  | none => rfl
  | some archived =>
    cases archived with
    | false =>
      rw [if_neg nofun]
      dsimp only
      split <;> rfl
    | true =>
      cases stored : e.1.isArchived with
      | true => simp
      | false =>
        cases shown : e.1.isPublic with
        | true => simp [stored, value, unpublished, recordEvent]
        | false => simp [shown, value]

theorem value_named {e₁ e₂ : Workflow × Metadata} {f : WorkflowField}
    (named : editName rt u.name (editHandle handle (w, [])) = .ok e₁)
    (described : editDescription rt u.description e₁ = .ok e₂) (notHandle : f ≠ .handle)
    (notName : f ≠ .name) (notDescription : f ≠ .description) : e₂.1.value f = w.value f := by
  trans e₁.1.value f
  · exact value_editDescription described fun same => absurd same notDescription
  · trans (editHandle handle (w, [])).1.value f
    · exact value_editName named fun same => absurd same notName
    · exact value_editHandle notHandle

theorem requested_applyUpdate {f : WorkflowField} (h : w.applyUpdate rt clock u handle = .ok w')
    (normalized : normalizeWorkflowHandle rt u.handle = .ok handle) :
    w'.value f = u.requested rt w f := by
  obtain ⟨e₁, e₂, named, described, rfl⟩ := applyUpdate_ok h
  rw [value_recordEvent]
  -- every edit but that of the field itself leaves it as it is
  cases f with
  | name =>
    rw [value_editArchived, laterEdits, value_editDraftAccess, value_editSupportedModels,
      value_editStartScreenPrompts, value_editTags, value_editDescription described]
    · rw [value, name_editName named, editHandle_fst]
      rfl
    all_goals simp
  | handle =>
    rw [value_editArchived, value_beforeArchived named described, editHandle_fst]
    · dsimp only [WorkflowUpdate.requested]
      rw [normalized]
      rfl
    · exact fun _ => Or.inl rfl
    all_goals simp
  | description =>
    rw [value_editArchived, laterEdits, value_editDraftAccess, value_editSupportedModels,
      value_editStartScreenPrompts, value_editTags]
    · rw [value, description_editDescription described]
      obtain ⟨name, renamed⟩ := editName_ok named
      rw [renamed, editHandle_fst]
      rfl
    all_goals simp
  | tags =>
    rw [value_editArchived, laterEdits, value_editDraftAccess, value_editSupportedModels,
      value_editStartScreenPrompts]
    · have kept : e₂.1.value .tags = w.value .tags :=
        value_named named described (by simp) (by simp) (by simp)
      rw [value, tags_editTags, FieldValue.texts.inj kept]
      rfl
    all_goals simp
  | startScreenPrompts =>
    rw [value_editArchived, laterEdits, value_editDraftAccess, value_editSupportedModels,
      startScreenPrompts_edit]
    · have kept : (editTags rt u.tags e₂).1.value .startScreenPrompts =
          w.value .startScreenPrompts :=
        (value_editTags (f := .startScreenPrompts) (by simp)).trans
          (value_named named described (by simp) (by simp) (by simp))
      rw [FieldValue.prompts.inj kept]
      rfl
    all_goals simp
  | supportedModels =>
    rw [value_editArchived, laterEdits, value_editDraftAccess, supportedModels_edit]
    · have kept : (editStartScreenPrompts u.startScreenPrompts u.clearStartScreenPrompts
          (editTags rt u.tags e₂)).1.value .supportedModels = w.value .supportedModels :=
        (value_editStartScreenPrompts (f := .supportedModels) (by simp)).trans
          ((value_editTags (f := .supportedModels) (by simp)).trans
            (value_named named described (by simp) (by simp) (by simp)))
      rw [FieldValue.models.inj kept]
      rfl
    all_goals simp
  | draftAccess =>
    rw [value_editArchived]
    · have kept : (editSupportedModels u.supportedModels u.clearSupportedModels
          (editStartScreenPrompts u.startScreenPrompts u.clearStartScreenPrompts
            (editTags rt u.tags e₂))).1.value .draftAccess = w.value .draftAccess :=
        (value_editSupportedModels (f := .draftAccess) (by simp)).trans
          ((value_editStartScreenPrompts (f := .draftAccess) (by simp)).trans
            ((value_editTags (f := .draftAccess) (by simp)).trans
              (value_named named described (by simp) (by simp) (by simp))))
      rw [value, laterEdits, draftAccess_edit, FieldValue.access.inj kept]
      rfl
    all_goals simp
  | isArchived =>
    have kept := value_beforeArchived (f := .isArchived) named described (by simp)
    rw [editHandle_fst] at kept
    rw [value, isArchived_editArchived, FieldValue.flag.inj kept]
    rfl
  | publication =>
    have kept := value_beforeArchived (f := .publication) named described (by simp)
    have flag := value_beforeArchived (f := .isArchived) named described (by simp)
    rw [editHandle_fst] at kept flag
    rw [publication_editArchived, kept, FieldValue.flag.inj flag,
      (FieldValue.publication.inj kept).1]
    rfl
  | scope =>
    rw [value_editArchived, value_beforeArchived named described, editHandle_fst]
    · rfl
    all_goals simp [WorkflowUpdate.touches]

end Workflow

theorem isSome_normalizeWorkflowHandle {rt : TextRuntime} {given handle : Option String}
    (h : normalizeWorkflowHandle rt given = .ok handle) : handle.isSome = given.isSome := by
  unfold normalizeWorkflowHandle at h
  cases given with
  | none =>
    cases h
    rfl
  | some value =>
    dsimp only at h
    split at h
    · cases h
    · split at h
      · cases h
      · split at h
        · cases h
        · split at h
          · cases h
          · cases h
            rfl

namespace WorkflowCall

variable {rt : TextRuntime} {w w' : Workflow} {f : WorkflowField}

theorem apply_updateWorkflow {u : WorkflowUpdate} {clock : EventClock} {available : Bool}
    (h : apply rt w (.updateWorkflow u clock available) = .ok w') :
    ∃ handle, normalizeWorkflowHandle rt u.handle = .ok handle ∧
      w.applyUpdate rt clock u handle = .ok w' := by
  unfold apply at h
  obtain ⟨handle, normalized, h⟩ := bind_ok_iff.mp h
  refine ⟨handle, normalized, ?_⟩
  split at h
  case isTrue => cases h
  case isFalse =>
    cases updated : w.applyUpdate rt clock u handle with
    | error q =>
      rw [updated] at h
      cases h
    | ok v =>
      rw [updated] at h
      cases h
      rfl

theorem value_apply {call : WorkflowCall} (h : call.apply rt w = .ok w') :
    w'.value f = call.requested rt w f := by
  cases call with
  | updateWorkflow u clock available =>
    obtain ⟨handle, normalized, updated⟩ := apply_updateWorkflow h
    exact Workflow.requested_applyUpdate updated normalized
  | publishWorkflow clock requireLogin actor =>
    dsimp only [apply] at h
    split at h
    · cases h
    · unfold Workflow.publish at h
      split at h
      · cases h
      · cases h
        cases f <;> rfl
  | revokePublish now actor =>
    dsimp only [apply] at h
    split at h
    · cases h
    · unfold Workflow.revokePublish at h
      split at h
      · cases h
        cases f <;> rfl
      · cases h

theorem value_apply_of_untouched {call : WorkflowCall} (h : call.apply rt w = .ok w')
    (untouched : call.touches f = false) : w'.value f = w.value f := by
  cases call with
  | updateWorkflow u clock available =>
    obtain ⟨handle, normalized, updated⟩ := apply_updateWorkflow h
    exact Workflow.value_applyUpdate updated (isSome_normalizeWorkflowHandle normalized) untouched
  | publishWorkflow clock requireLogin actor =>
    rw [value_apply h]
    exact if_neg (of_decide_eq_false untouched)
  | revokePublish now actor =>
    rw [value_apply h]
    exact if_neg (of_decide_eq_false untouched)

end WorkflowCall

inductive Session
  | idle
  /-- The row as it was read, and whether the other call had succeeded by then. -/
  | loaded (view : Workflow) (afterOther : Bool)
  | succeeded (returned : Workflow) (afterOther : Bool)
  | failed (e : WorkflowError)

def Session.hasSucceeded : Session → Bool
  | succeeded _ _ => true
  | _ => false

structure Contention where
  row : Workflow
  session : Bool → Session
  lastCommit : Option Bool

namespace Contention

variable (rt : TextRuntime) (calls : Bool → WorkflowCall)

def start (w : Workflow) : Contention where
  row := w
  session _ := .idle
  lastCommit := none

variable (s : Contention)

def setSession (p : Bool) (session : Session) : Contention :=
  { s with session := Function.update s.session p session }

/-- The next transaction of a process: the one that reads, or the one that writes. -/
def step (p : Bool) : Contention :=
  match s.session p with
  | .idle => s.setSession p (.loaded s.row (s.session (!p)).hasSucceeded)
  | .loaded view afterOther => match (calls p).apply rt view with
    | .error e => s.setSession p (.failed e)
    | .ok returned => { s.setSession p (.succeeded returned afterOther) with
        row := returned
        lastCommit := some p }
  | .succeeded _ _ => s
  | .failed _ => s

def readAfterOther (p : Bool) : Bool :=
  match s.session p with
  | .succeeded _ afterOther => afterOther
  | _ => false

def ReflectsBoth : Prop :=
  ∀ p f returned afterOther, s.session p = .succeeded returned afterOther →
    (calls p).touches f = true → (calls !p).touches f = false →
    s.row.value f = returned.value f

structure Consistent (w : Workflow) (s : Contention) : Prop where
  untouched : s.lastCommit = none → s.row = w
  unfinished : s.lastCommit = none → ∀ p, (s.session p).hasSucceeded = false
  written : ∀ p, s.lastCommit = some p → ∃ afterOther, s.session p = .succeeded s.row afterOther
  loadedFirst : ∀ p view, s.session p = .loaded view false → view = w
  loadedSecond : ∀ p view, s.session p = .loaded view true →
    s.session (!p) = .succeeded view false
  first : ∀ p returned, s.session p = .succeeded returned false →
    (calls p).apply rt w = .ok returned
  second : ∀ p returned, s.session p = .succeeded returned true →
    s.lastCommit = some p ∧ ∃ before, s.session (!p) = .succeeded before false ∧
      (calls p).apply rt before = .ok returned

variable {rt calls} {w : Workflow} {s : Contention}

theorem session_setSession (p q : Bool) (session : Session) :
    (s.setSession p session).session q = if q = p then session else s.session q :=
  Function.update_apply s.session p session q

theorem consistent_start : Consistent rt calls w (start w) := by
  constructor <;> simp [start, Session.hasSucceeded]

theorem hasSucceeded_iff {session : Session} : session.hasSucceeded = true ↔
    ∃ returned afterOther, session = .succeeded returned afterOther := by
  cases session <;> simp [Session.hasSucceeded]

section

variable (h : Consistent rt calls w s)
include h

variable {p : Bool}

theorem Consistent.row_of_unfinished (unfinished : (s.session p).hasSucceeded = false) :
    ((s.session (!p)).hasSucceeded = false ∧ s.row = w) ∨
      s.session (!p) = .succeeded s.row false := by
  cases last : s.lastCommit with
  | none => exact Or.inl ⟨h.unfinished last (!p), h.untouched last⟩
  | some q =>
    obtain ⟨afterOther, succeeded⟩ := h.written q last
    have other : q = !p := by
      apply Bool.eq_not_of_ne
      rintro rfl
      rw [succeeded] at unfinished
      cases unfinished
    subst other
    cases afterOther with
    | false => exact Or.inr succeeded
    | true =>
      obtain ⟨_, before, first, _⟩ := h.second _ _ succeeded
      rw [Bool.not_not] at first
      rw [first] at unfinished
      cases unfinished

theorem Consistent.read (idle : s.session p = .idle) :
    Consistent rt calls w
      (s.setSession p (.loaded s.row (s.session (!p)).hasSucceeded)) := by
  have unfinished : (s.session p).hasSucceeded = false := by
    rw [idle]
    rfl
  have row := h.row_of_unfinished unfinished
  obtain ⟨untouched, unfinished, written, loadedFirst, loadedSecond, first, second⟩ := h
  constructor <;> grind [session_setSession, setSession, Session.hasSucceeded]

theorem Consistent.refuse {view : Workflow}
    {afterOther : Bool} (loaded : s.session p = .loaded view afterOther) (e : WorkflowError) :
    Consistent rt calls w (s.setSession p (.failed e)) := by
  obtain ⟨untouched, unfinished, written, loadedFirst, loadedSecond, first, second⟩ := h
  constructor <;> grind [session_setSession, setSession, Session.hasSucceeded]

theorem Consistent.write {view returned : Workflow}
    {afterOther : Bool} (loaded : s.session p = .loaded view afterOther)
    (applied : (calls p).apply rt view = .ok returned) :
    Consistent rt calls w { s.setSession p (.succeeded returned afterOther) with
      row := returned
      lastCommit := some p } := by
  have other (q : Bool) (ne : q ≠ p) : (!q) = p := by
    cases p <;> cases q <;> first | rfl | exact absurd rfl ne
  obtain ⟨untouched, unfinished, written, loadedFirst, loadedSecond, first, second⟩ := h
  constructor <;> grind [session_setSession, setSession, Session.hasSucceeded]

theorem Consistent.step (p : Bool) :
    Consistent rt calls w (s.step rt calls p) := by
  unfold Contention.step
  split
  case h_1 idle => exact h.read idle
  case h_2 view afterOther loaded =>
    split
    case h_1 e _ => exact h.refuse loaded e
    case h_2 returned applied => exact h.write loaded applied
  case h_3 => exact h
  case h_4 => exact h

end

theorem Consistent.run (schedule : List Bool) :
    Consistent rt calls w (schedule.foldl (Contention.step rt calls) (start w)) :=
  Lib.foldl_invariant (P := Consistent rt calls w) (fun _ p h => h.step p) consistent_start schedule

/-- The call that succeeded last read the row after the other one had succeeded, or the other
one asked for nothing new outside the fields that the last one was asked to change. -/
def LastCommitCovers (rt : TextRuntime) (calls : Bool → WorkflowCall) (w : Workflow)
    (s : Contention) : Prop :=
  ∀ last, s.lastCommit = some last → s.readAfterOther last = true ∨
    ∀ f, (calls !last).touches f = true → (calls last).touches f = false →
      (calls !last).requested rt w f = w.value f

/-- Both of two successful calls are reflected exactly if the last commit covers the other. -/
theorem updates_not_lost (rt : TextRuntime) (calls : Bool → WorkflowCall) (w : Workflow)
    (schedule : List Bool) {s : Contention}
    (run : schedule.foldl (Contention.step rt calls) (start w) = s)
    (succeeded : ∀ p, (s.session p).hasSucceeded = true) :
    s.ReflectsBoth calls ↔ s.LastCommitCovers rt calls w := by
  have h : Consistent rt calls w s := run ▸ Consistent.run schedule
  cases committed : s.lastCommit with
  | none =>
    have unfinished := h.unfinished committed true
    rw [succeeded] at unfinished
    cases unfinished
  | some last =>
    obtain ⟨afterOther, lastReturned⟩ := h.written last committed
    obtain ⟨firstRow, after, firstReturned⟩ := hasSucceeded_iff.mp (succeeded !last)
    cases after with
    | true =>
      have later := (h.second _ _ firstReturned).1
      rw [committed] at later
      cases last <;> cases later
    | false =>
      have first := h.first _ _ firstReturned
      have asks (f : WorkflowField) : firstRow.value f = (calls !last).requested rt w f :=
        WorkflowCall.value_apply first
      constructor
      · intro reflects q same
        cases committed.symm.trans same
        cases afterOther with
        | true =>
          left
          rw [readAfterOther, lastReturned]
        | false =>
          right
          intro f asked untouched
          have stale := h.first _ _ lastReturned
          calc (calls !last).requested rt w f
            _ = firstRow.value f := (asks f).symm
            _ = s.row.value f := by
              apply Eq.symm
              apply reflects (!last) f firstRow false firstReturned asked
              rw [Bool.not_not]
              exact untouched
            _ = w.value f := WorkflowCall.value_apply_of_untouched stale untouched
      · intro covers p f returned afterOther' done asked untouched
        by_cases same : p = last
        · subst same
          rw [lastReturned] at done
          cases done
          rfl
        · have same : p = !last := Bool.eq_not_of_ne same
          subst same
          rw [firstReturned] at done
          cases done
          rw [Bool.not_not] at untouched
          cases afterOther with
          | true =>
            obtain ⟨_, before, read, written⟩ := h.second _ _ lastReturned
            cases firstReturned.symm.trans read
            exact WorkflowCall.value_apply_of_untouched written untouched
          | false =>
            have stale := h.first _ _ lastReturned
            have covered := (covers last committed).resolve_left (by
              rw [readAfterOther, lastReturned]
              exact Bool.false_ne_true)
            calc s.row.value f
              _ = w.value f := WorkflowCall.value_apply_of_untouched stale untouched
              _ = (calls !last).requested rt w f := (covered f asked untouched).symm
              _ = firstRow.value f := (asks f).symm

def renameAndPublish : Bool → WorkflowCall
  | true => .updateWorkflow { name := some "Bot" } ⟨1, 1⟩ true
  | false => .publishWorkflow ⟨2, 2⟩ true "owner"

def renamedAndPublished (schedule : List Bool) : Contention :=
  schedule.foldl (Contention.step .ascii renameAndPublish)
    (start { name := "Draft", updatedAt := 0 })

theorem updates_not_lost_serial :
    (renamedAndPublished [true, true, false, false]).ReflectsBoth renameAndPublish :=
  (updates_not_lost .ascii renameAndPublish _ [true, true, false, false] rfl (by decide)).mpr
    fun last committed => Or.inl (by cases committed; rfl)

theorem rename_lost : (∀ p, ((renamedAndPublished [true, false, true, false]).session
      p).hasSucceeded = true) ∧
    ¬ (renamedAndPublished [true, false, true, false]).ReflectsBoth renameAndPublish := by
  constructor
  · decide
  · intro reflects
    have kept := reflects true .name _ _ rfl rfl rfl
    revert kept
    decide

end Contention

end Orcheo.Repository
