import Orcheo.Defs.Repository.HandleUniqueness

/-! What an update of a workflow that raises leaves behind in the in-memory repository. -/

namespace Orcheo.Repository

open Lib (Dict)

def WorkflowUpdate.renamed (rt : TextRuntime) (u : WorkflowUpdate) (w : Workflow) :
    Except WorkflowError String :=
  match u.name with
  | none => .ok w.name
  | some name => if name = w.name then .ok w.name else normalizeName rt name

namespace Workflow

variable {rt : TextRuntime} {w : Workflow} {clock : EventClock} {u : WorkflowUpdate}
  {handle : Option String} {e e' : Workflow × Metadata}

theorem editName_renamed (named : editName rt u.name e = .ok e') : ∃ name : String,
    u.renamed rt e.1 = .ok name ∧ e'.1 = { e.1 with name := name } := by
  unfold editName at named
  unfold WorkflowUpdate.renamed
  cases asked : u.name with
  | none =>
    rw [asked] at named
    cases named
    exact ⟨e.1.name, rfl, rfl⟩
  | some name =>
    rw [asked] at named
    dsimp only at named ⊢
    by_cases same : name = e.1.name
    · rw [if_pos same] at named ⊢
      cases named
      exact ⟨e.1.name, rfl, rfl⟩
    · rw [if_neg same] at named ⊢
      cases normalized : normalizeName rt name with
      | error error => simp [normalized] at named
      | ok candidate =>
        rw [normalized] at named
        cases named
        exact ⟨candidate, rfl, rfl⟩

variable {p : Workflow × WorkflowError}

theorem editName_refused (named : editName rt u.name e = .error p) :
    (u.renamed rt e.1).isOk = false := by
  unfold editName at named
  unfold WorkflowUpdate.renamed
  cases asked : u.name with
  | none =>
    rw [asked] at named
    cases named
  | some name =>
    rw [asked] at named
    dsimp only at named ⊢
    by_cases same : name = e.1.name
    · rw [if_pos same] at named
      cases named
    · rw [if_neg same] at named ⊢
      cases normalized : normalizeName rt name with
      | error error => rfl
      | ok candidate => simp [normalized] at named

theorem applyUpdate_refused (refused : w.applyUpdate rt clock u handle = .error p) :
    p.1 = { w with
      handle := handle.or w.handle
      name := (u.renamed rt w).toOption.getD w.name } := by
  have kept : u.renamed rt (editHandle handle (w, [])).1 = u.renamed rt w := by
    rw [editHandle_fst]
    rfl
  unfold applyUpdate at refused
  cases named : editName rt u.name (editHandle handle (w, [])) with
  | error q =>
    have notNamed := editName_refused named
    rw [kept] at notNamed
    rw [named] at refused
    cases refused
    rw [editName_error named, editHandle_fst]
    cases renamed : u.renamed rt w with
    | ok name => simp [renamed, Except.isOk, Except.toBool] at notNamed
    | error error => rfl
  | ok e₁ =>
    obtain ⟨name, renamed, left⟩ := editName_renamed named
    rw [kept] at renamed
    rw [editHandle_fst] at left
    rw [named] at refused
    dsimp only [bind, Except.bind] at refused
    cases described : editDescription rt u.description e₁ with
    | error q =>
      rw [described] at refused
      cases refused
      rw [editDescription_error described, left, renamed]
      rfl
    | ok e₂ =>
      rw [described] at refused
      cases refused

end Workflow

/-- What a request that the workflow refuses would leave unchanged: it asks for the handle that
the workflow has, and for no other name. -/
structure WorkflowUpdate.Harmless (rt : TextRuntime) (u : WorkflowUpdate) (w : Workflow)
    (handle : Option String) : Prop where
  handle : handle.or w.handle = w.handle
  name : ∀ name, u.renamed rt w = .ok name → name = w.name

namespace InMemoryRepositoryState

structure Untouched (s t : InMemoryRepositoryState) : Prop where
  workflows : ∀ x, t.workflows.get? x = s.workflows.get? x
  active : t.activeWorkflowHandles = s.activeWorkflowHandles
  archived : t.archivedWorkflowHandles = s.archivedWorkflowHandles

/-- An update that raises leaves everything untouched exactly where the request is accepted after
the handle was checked, or asks for nothing before the field that is refused. -/
theorem update_atomic_iff (rt : TextRuntime) (s : InMemoryRepositoryState) (x : Uuid)
    (clock : EventClock) (disabledAt : Instant) (u : WorkflowUpdate) :
    ((s.updateWorkflow rt x clock disabledAt u).2.isOk = false →
      s.Untouched (s.updateWorkflow rt x clock disabledAt u).1) ↔
      ∀ w handle, s.checkUpdate rt x u = .ok (w, handle) →
        u.acceptable rt w = true ∨ u.Harmless rt w handle := by
  cases checked : s.checkUpdate rt x u with
  | error e =>
    have same : s.updateWorkflow rt x clock disabledAt u = (s, .error e) := by
      simp only [updateWorkflow, checked]
    rw [same]
    exact iff_of_true (fun _ => ⟨fun _ => rfl, rfl, rfl⟩) (fun _ _ there => by cases there)
  | ok p =>
    obtain ⟨w, handle⟩ := p
    have found := (checkUpdate_ok checked).1
    have accepted : (w.applyUpdate rt clock u handle).isOk = u.acceptable rt w :=
      Workflow.isOk_applyUpdate
    cases updated : w.applyUpdate rt clock u handle with
    | ok w' =>
      rw [updated] at accepted
      have succeeded : (s.updateWorkflow rt x clock disabledAt u).2.isOk = true := by
        simp only [updateWorkflow, checked, updated]
        rfl
      refine iff_of_true (fun raised => by rw [succeeded] at raised; cases raised) ?_
      intro w'' handle' there
      cases there
      exact Or.inl accepted.symm
    | error q =>
      obtain ⟨edited, e⟩ := q
      rw [updated] at accepted
      have left := Workflow.applyUpdate_refused updated
      have raised : (s.updateWorkflow rt x clock disabledAt u).2.isOk = false := by
        simp only [updateWorkflow, checked, updated]
        rfl
      rw [updateWorkflow_refused checked updated]
      constructor
      · intro untouched w'' handle' there
        cases there
        have stored := (untouched raised).workflows x
        rw [Dict.get?_set, if_pos rfl, found] at stored
        have same := left.symm.trans (Option.some.inj stored)
        refine Or.inr ⟨congrArg Workflow.handle same, ?_⟩
        intro name renamed
        have kept := congrArg Workflow.name same
        rw [renamed] at kept
        exact kept
      · intro condition _
        refine ⟨?_, rfl, rfl⟩
        intro y
        rw [Dict.get?_set]
        by_cases here : y = x
        · rw [if_pos here, here, found]
          cases condition w handle rfl with
          | inl accepted' => cases accepted.trans accepted'
          | inr harmless =>
            dsimp only at left
            rw [left, harmless.handle]
            cases renamed : u.renamed rt w with
            | error _ => rfl
            | ok name =>
              have kept := harmless.name name renamed
              rw [kept]
              rfl
        · rw [if_neg here]

theorem refused_name_leaves_handle : ¬ ∀ (rt : TextRuntime) (s : InMemoryRepositoryState)
    (x : Uuid) (clock : EventClock) (disabledAt : Instant) (u : WorkflowUpdate),
    (s.updateWorkflow rt x clock disabledAt u).2.isOk = false →
      s.Untouched (s.updateWorkflow rt x clock disabledAt u).1 := by
  intro atomic
  have untouched := atomic .ascii
    { workflows := Dict.set ∅ 1 { name := "Report", updatedAt := 0 } } 1 ⟨1, 1⟩ 1
    { handle := some "daily", name := some "" } (by decide +kernel)
  exact absurd (untouched.workflows 1) (by decide +kernel)

end InMemoryRepositoryState

end Orcheo.Repository
