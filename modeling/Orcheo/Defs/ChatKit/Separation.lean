import Orcheo.Defs.ChatKit.Conversation
import Orcheo.Lib.Run

/-! Which workflows the state of a conversation comes from, and when every turn starts from
its own workflow's. -/

namespace Orcheo.ChatKit

open Lib (AllSteps Dict)
open Routers (AppState RouterRuntime)

inductive Place
  | checkpoint (threadId : String)
  | thread (t : String)
  deriving DecidableEq, Repr

namespace ChatState

def marks (s : ChatState) : Place → List Uuid
  | .checkpoint threadId => ((s.checkpoints.get? threadId).map Checkpoint.writers).getD []
  | .thread t => (s.itemsOf t).filterMap ThreadItem.writer

def holds (s : ChatState) : Place → Bool
  | .checkpoint threadId => (s.checkpoints.get? threadId).isSome
  | .thread t => (s.threads.get? t).isSome

theorem holds_of_mark {s : ChatState} {p : Place} {w : Uuid} (h : w ∈ s.marks p) :
    s.holds p = true := by
  cases p with
  | checkpoint threadId =>
    cases hc : s.checkpoints.get? threadId with
    | none => simp [marks, hc] at h
    | some c => simp [holds, hc]
  | thread t =>
    cases ht : s.threads.get? t with
    | none => simp [marks, itemsOf, ht] at h
    | some thread => simp [holds, ht]

end ChatState

def Marks (new : List (Place × Uuid)) (s s' : ChatState) : Prop :=
  ∀ p w, w ∈ s'.marks p → w ∈ s.marks p ∨ (p, w) ∈ new

section Marks

variable {new : List (Place × Uuid)} {s s' s'' : ChatState}

theorem Marks.of_eq (h : ∀ p, s'.marks p = s.marks p) : Marks new s s' :=
  fun p _ hw => .inl (h p ▸ hw)

theorem Marks.refl (s : ChatState) : Marks new s s := .of_eq fun _ => rfl

theorem Marks.trans (h : Marks new s s') (h' : Marks new s' s'') : Marks new s s'' := by
  intro p w hw
  cases h' p w hw with
  | inl hw => exact h p w hw
  | inr hn => exact .inr hn

variable (s)

@[simp] theorem marks_saveThread (t : String) (metadata : Dict String Json)
    (ctx : ChatKitRequestContext) (p : Place) :
    (s.saveThread t metadata ctx).marks p = s.marks p := by
  cases p with
  | checkpoint threadId => rfl
  | thread t' =>
    simp only [ChatState.marks, ChatState.itemsOf, ChatState.saveThread, Dict.get?_set]
    by_cases ht : t' = t
    · subst ht
      cases hd : s.threads.get? t' <;> simp [Thread.saved]
    · simp [ht]

@[simp] theorem marks_withApp (app : AppState) (p : Place) :
    (s.withApp app).marks p = s.marks p := by
  cases p <;> rfl

variable {t : String} {items : List ThreadItem}

theorem setItems_marks
    (h : ∀ i ∈ items, ∀ w, i.writer = some w → w ∈ s.marks (.thread t) ∨ (.thread t, w) ∈ new) :
    Marks new s (s.setItems t items) := by
  intro p w hw
  cases hd : s.threads.get? t with
  | none => exact .inl (by simpa only [ChatState.setItems, hd] using hw)
  | some thread =>
    simp only [ChatState.setItems, hd] at hw
    cases p with
    | checkpoint threadId => exact .inl hw
    | thread t' =>
      simp only [ChatState.marks, ChatState.itemsOf, Dict.get?_set] at hw
      by_cases ht : t' = t
      · subst ht
        simp only [if_true, Option.map_some, Option.getD_some, List.mem_filterMap] at hw
        obtain ⟨i, hi, hw⟩ := hw
        exact h i hi w hw
      · simp only [ht, if_false] at hw
        exact .inl hw

theorem mark_of_item {i : ThreadItem} {w : Uuid} (hi : i ∈ s.itemsOf t) (hw : i.writer = some w) :
    w ∈ s.marks (.thread t) :=
  List.mem_filterMap.mpr ⟨i, hi, hw⟩

theorem addThreadItems_marks (h : ∀ i ∈ items, ∀ w, i.writer = some w → (.thread t, w) ∈ new) :
    Marks new s (s.addThreadItems t items) := by
  apply setItems_marks
  intro i hi w hw
  cases List.mem_append.mp hi with
  | inl hi => exact .inl (mark_of_item s hi hw)
  | inr hi => exact .inr (h i hi w hw)

theorem dropCheckpoints_marks (threadIds : List String) :
    Marks new s (s.dropCheckpoints threadIds) := by
  intro p w hw
  cases p with
  | thread t => exact .inl hw
  | checkpoint threadId =>
    simp only [ChatState.marks, ChatState.dropCheckpoints, Dict.get?_foldl_erase] at hw
    by_cases hm : threadId ∈ threadIds
    · simp [hm] at hw
    · simp only [hm, if_false] at hw
      exact .inl hw

variable (env : Surroundings)

theorem deleteThreads_marks (threadIds : List String) :
    Marks new s (s.deleteThreads env threadIds) := by
  have hrows : Marks new s { s with threads := threadIds.foldl Dict.erase s.threads } := by
    intro p w hw
    cases p with
    | checkpoint threadId => exact .inl hw
    | thread t =>
      simp only [ChatState.marks, ChatState.itemsOf, Dict.get?_foldl_erase] at hw
      by_cases hm : t ∈ threadIds
      · simp [hm] at hw
      · simp only [hm, if_false] at hw
        exact .inl hw
  simp only [ChatState.deleteThreads]
  cases env.hookFails with
  | true => exact hrows
  | false => exact hrows.trans (dropCheckpoints_marks _ threadIds)

theorem deleteThread_marks (t : String) (ctx : ChatKitRequestContext) :
    Marks new s (s.deleteThread env t ctx) := by
  cases h : s.loadThread t ctx with
  | error _ => simpa only [ChatState.deleteThread, h] using Marks.refl s
  | ok _ => simpa only [ChatState.deleteThread, h] using deleteThreads_marks s env [t]

theorem storeSnapshot_marks {w : Uuid} {threadId : String} {snapshot : Option Snapshot}
    (h : (.checkpoint threadId, w) ∈ new) : Marks new s (s.storeSnapshot w threadId snapshot) := by
  cases snapshot with
  | none => exact Marks.refl s
  | some snapshot =>
    intro p w' hw
    cases p with
    | thread t => exact .inl hw
    | checkpoint k =>
      simp only [ChatState.storeSnapshot, ChatState.marks, Dict.get?_set] at hw
      by_cases hk : k = threadId
      · subst hk
        simp only [if_true, Option.map_some, Option.getD_some, List.mem_cons] at hw
        cases hw with
        | inl hw => exact .inr (hw ▸ h)
        | inr hw => exact .inl hw
      · simp only [hk, if_false] at hw
        exact .inl hw

theorem discardRunCheckpoints_marks (threadId : String) :
    Marks new s (s.discardRunCheckpoints env threadId) := by
  simp only [ChatState.discardRunCheckpoints]
  cases env.discardFails with
  | true => exact Marks.refl s
  | false => exact dropCheckpoints_marks s [threadId]

theorem releaseChatkitCheckpoints_marks (rt : RouterRuntime) (env : Surroundings)
    (threadId : String) (inputs : Dict String Json) :
    Marks new s (s.releaseChatkitCheckpoints rt env threadId inputs) := by
  simp only [ChatState.releaseChatkitCheckpoints]
  by_cases ht : threadId = ""
  · simpa only [ht, if_true] using Marks.refl s
  · simp only [ht, if_false]
    cases conversationThreadId rt inputs with
    | none => exact discardRunCheckpoints_marks s env threadId
    | some _ =>
      cases !env.existsUnknown && (s.threads.get? threadId).isNone with
      | true => exact discardRunCheckpoints_marks s env threadId
      | false => exact Marks.refl s

end Marks

open Marks (refl)

structure Execution.StartedIn (e : Execution) (s : ChatState) (t : Option String) : Prop where
  checkpoint : ∀ c ∈ e.checkpoint, ∀ w ∈ c.writers, w ∈ s.marks (.checkpoint e.runtimeThreadId)
  resumed : ∀ v, e.payload = .resume v → ∃ c ∈ e.checkpoint, c.snapshot.interrupts ≠ []
  history : ∀ i ∈ e.history, ∀ w ∈ i.writer, ∃ t' ∈ t, w ∈ s.marks (.thread t')

structure Execution.Separate (e : Execution) : Prop where
  checkpoint : ∀ c ∈ e.checkpoint, ∀ w ∈ c.writers, w = e.workflowId
  resumed : ∀ v, e.payload = .resume v →
    ∃ c ∈ e.checkpoint, c.snapshot.interrupts ≠ [] ∧ ∀ w ∈ c.writers, w = e.workflowId
  history : ∀ i ∈ e.history, ∀ w ∈ i.writer, w = e.workflowId

def Outcome.replied (outcome : Option Outcome) : Bool := (outcome.bind Outcome.reply).isSome

def Ran.places (ran : Ran) (t : Option String) : List (Place × Uuid) :=
  match ran.execution with
  | none => []
  | some e => (.checkpoint e.runtimeThreadId, e.workflowId) ::
      if Outcome.replied ran.outcome then (t.map (fun t => (.thread t, e.workflowId))).toList
      else []

structure Ran.Turn (ran : Ran) (s : ChatState) (t : Option String) : Prop where
  marks : Marks (ran.places t) s ran.state
  started : ∀ e ∈ ran.execution, e.StartedIn s t

variable {t : Option String} {s s' : ChatState}

theorem Execution.StartedIn.of_marks {e : Execution}
    (h : e.StartedIn s' t) (hm : Marks [] s s') : e.StartedIn s t := by
  have hkeep : ∀ p w, w ∈ s'.marks p → w ∈ s.marks p :=
    fun p w hw => (hm p w hw).resolve_right List.not_mem_nil
  refine ⟨fun c hc w hw => hkeep _ _ (h.checkpoint c hc w hw), h.resumed, ?_⟩
  intro i hi w hw
  obtain ⟨t', ht, hw⟩ := h.history i hi w hw
  exact ⟨t', ht, hkeep _ _ hw⟩

theorem Marks.mono {new new' : List (Place × Uuid)} (h : Marks new s s')
    (hsub : ∀ e ∈ new, e ∈ new') : Marks new' s s' :=
  fun p w hw => (h p w hw).imp id (hsub (p, w))

theorem Ran.Turn.of_marks {ran : Ran} (h : ran.Turn s' t) (hm : Marks [] s s') :
    ran.Turn s t where
  marks := (hm.mono (fun _ he => absurd he List.not_mem_nil)).trans h.marks
  started e he := (h.started e he).of_marks hm

theorem Ran.Turn.idle (hm : Marks [] s s') :
    Ran.Turn { state := s' } s t where
  marks := hm
  started _ he := by cases he

section Run

variable (rt : RouterRuntime) (lib : GraphLibrary) (env : Surroundings) (s : ChatState)

variable {inputs : Dict String Json} {w : Uuid} {ran : Ran}

theorem resumed_of_payloadFor {checkpoint : Option Checkpoint}
    {v : Json} (h : payloadFor env checkpoint inputs = .resume v) :
    ∃ c ∈ checkpoint, c.snapshot.interrupts ≠ [] := by
  cases checkpoint with
  | none => simp [payloadFor, pendingInterrupts] at h
  | some c =>
    refine ⟨c, rfl, fun hc => ?_⟩
    simp [payloadFor, pendingInterrupts, hc] at h

theorem executeGraph_none {graph : Json} {threadId : String} {s' : ChatState}
    (h : s.executeGraph rt lib env w graph inputs threadId = (s', none)) : s' = s := by
  simp only [ChatState.executeGraph] at h
  cases hb : lib.builds graph inputs with
  | true => simp [hb] at h
  | false => simpa [hb, eq_comm] using h

theorem executeGraph_some {graph : Json}
    {threadId : String} {s' : ChatState} {payload : Payload} {outcome : Outcome}
    (h : s.executeGraph rt lib env w graph inputs threadId = (s', some (payload, outcome))) :
    payload = payloadFor env (s.checkpoints.get? threadId) inputs ∧
      Marks [(.checkpoint threadId, w)] s s' := by
  simp only [ChatState.executeGraph] at h
  cases hb : lib.builds graph inputs with
  | false => simp [hb] at h
  | true =>
    simp only [hb, Bool.not_true, Bool.false_eq_true, if_false, Prod.mk.injEq,
      Option.some.injEq] at h
    obtain ⟨rfl, rfl, -⟩ := h
    refine ⟨rfl, ?_⟩
    exact (storeSnapshot_marks s (List.mem_singleton.mpr rfl)).trans
      (releaseChatkitCheckpoints_marks _ rt env threadId inputs)

theorem createRunRecord_eq (w v : Uuid) (actor : String) (workspaceId : Option String) :
    ∃ app, (s.createRunRecord env w v actor workspaceId).1 = s.withApp app := by
  simp only [ChatState.createRunRecord]
  cases h : s.app.createRun w v actor none workspaceId env.readings with
  | mk app result => cases result <;> exact ⟨app, rfl⟩

structure Ran.Call (ran : Ran) (s : ChatState) (w : Uuid) (history : List ThreadItem) : Prop where
  marks : Marks (ran.places none) s ran.state
  idle : ran.execution = none → ran.outcome = none
  workflowId : ∀ e ∈ ran.execution, e.workflowId = w
  checkpoint : ∀ e ∈ ran.execution, e.checkpoint = s.checkpoints.get? e.runtimeThreadId
  resumed : ∀ e ∈ ran.execution, ∀ v, e.payload = .resume v →
    ∃ c ∈ e.checkpoint, c.snapshot.interrupts ≠ []
  history : ∀ e ∈ ran.execution, e.history = history

theorem Ran.Call.unstarted {s s' : ChatState} {history : List ThreadItem}
    {r : Option String} (hm : Marks [] s s') :
    Ran.Call { state := s', runId := r } s w history where
  marks := hm
  idle _ := rfl
  workflowId _ he := by cases he
  checkpoint _ he := by cases he
  resumed _ he := by cases he
  history _ he := by cases he

theorem run_call (w : Uuid) (inputs : Dict String Json) (actor : String)
    (workspaceId : Option String) (history : List ThreadItem) :
    (s.run rt lib env w inputs actor workspaceId history).Call s w history := by
  simp only [ChatState.run]
  cases s.app.getLatestVersion w with
  | error _ => exact .unstarted (refl s)
  | ok found =>
    obtain ⟨v, version⟩ := found
    dsimp only
    by_cases hws : workspaceId.isSome ∧ (s.app.getWorkflowWorkspaceId w).isSome ∧
      s.app.getWorkflowWorkspaceId w ≠ workspaceId
    · rw [if_pos hws]
      exact .unstarted (refl s)
    · rw [if_neg hws]
      obtain ⟨app, happ⟩ := createRunRecord_eq env s w v actor
        (workspaceId.or (s.app.getWorkflowWorkspaceId w))
      have hm : Marks [] s (s.withApp app) := .of_eq (marks_withApp s app)
      simp only [happ]
      split
      · rename_i s' hx
        rw [executeGraph_none rt lib env _ hx]
        exact .unstarted hm
      · rename_i s' payload outcome hx
        obtain ⟨hpayload, hx⟩ := executeGraph_some rt lib env _ hx
        constructor
        · have hnew := (hm.mono (fun _ h => absurd h List.not_mem_nil)).trans hx
          simpa only [Ran.places, Option.map_none, Option.toList_none, ite_self] using hnew
        · intro h
          cases h
        · rintro e ⟨⟩
          rfl
        · rintro e ⟨⟩
          rfl
        · rintro e ⟨⟩ v hv
          exact resumed_of_payloadFor env (hpayload.symm.trans hv)
        · rintro e ⟨⟩
          rfl

variable {rt lib env s}

theorem concludeTurn_marks (t : String) (metadata : Dict String Json) (ctx : ChatKitRequestContext)
    (hasSender : Bool) {new : List (Place × Uuid)}
    (h : Outcome.replied ran.outcome = true → (.thread t, w) ∈ new) :
    Marks new ran.state (ChatState.concludeTurn env t metadata ctx w hasSender ran) := by
  simp only [ChatState.concludeTurn]
  cases hr : ran.outcome.bind Outcome.reply with
  | none =>
    simp only
    cases env.savesThread with
    | true => exact .of_eq (marks_saveThread _ t metadata ctx)
    | false => exact refl _
  | some reply =>
    have hnew : (.thread t, w) ∈ new := h (by simp [Outcome.replied, hr])
    refine Marks.trans ?_ (.of_eq (marks_saveThread _ t _ ctx))
    apply addThreadItems_marks
    intro i hi w' hw
    cases List.mem_append.mp hi with
    | inl hi =>
      obtain ⟨_, _, rfl⟩ := List.mem_map.mp hi
      cases hw
      exact hnew
    | inr hi =>
      cases List.mem_singleton.mp hi
      cases hw
      exact hnew

theorem Ran.Call.checkpoint_marks {history : List ThreadItem} (h : ran.Call s w history) :
    ∀ e ∈ ran.execution, ∀ c ∈ e.checkpoint, ∀ w ∈ c.writers,
      w ∈ s.marks (.checkpoint e.runtimeThreadId) := by
  intro e he c hc w' hw
  have hget : s.checkpoints.get? e.runtimeThreadId = some c := (h.checkpoint e he).symm.trans hc
  simpa only [ChatState.marks, hget, Option.map_some, Option.getD_some] using hw

theorem Ran.Call.turn_of_none (h : ran.Call s w []) :
    ran.Turn s none where
  marks := h.marks
  started e he := by
    refine ⟨h.checkpoint_marks e he, h.resumed e he, ?_⟩
    intro i hi
    rw [h.history e he] at hi
    cases hi

theorem Ran.Call.turn {t : String} (metadata : Dict String Json) (ctx : ChatKitRequestContext)
    (hasSender : Bool) (h : ran.Call s w (shownItems (s.itemsOf t))) :
    Ran.Turn { ran with state := ChatState.concludeTurn env t metadata ctx w hasSender ran } s
      (some t) := by
  constructor
  · apply Marks.trans
    · apply h.marks.mono
      intro e he
      simp only [Ran.places] at he ⊢
      cases hx : ran.execution with
      | none => simp [hx] at he
      | some x =>
        simp only [hx, Option.map_none, Option.toList_none, ite_self, List.mem_singleton] at he
        exact he ▸ List.mem_cons_self
    · apply concludeTurn_marks
      intro hr
      cases hx : ran.execution with
      | none => simp [h.idle hx, Outcome.replied] at hr
      | some e =>
        have hw := h.workflowId e hx
        simp [Ran.places, hr, hw]
  · intro e he
    refine ⟨h.checkpoint_marks e he, h.resumed e he, ?_⟩
    intro i hi w' hw
    rw [h.history e he] at hi
    have hitem : i ∈ s.itemsOf t := List.mem_of_mem_take (List.mem_of_mem_filter hi)
    exact ⟨t, rfl, mark_of_item s hitem hw⟩

theorem respond_turn (t : String) (metadata : Dict String Json) (ctx : ChatKitRequestContext)
    (messageText : String) (model : Option Json) (documents : List Json) :
    (s.respond rt lib env t metadata ctx messageText model documents).Turn s (some t) := by
  simp only [ChatState.respond]
  cases requireWorkflowId rt (ensureWorkflowMetadata metadata ctx) with
  | error _ => exact .idle (refl s)
  | ok w =>
    cases hw : s.app.workflows.get? w with
    | none => simpa only [hw] using Ran.Turn.idle (refl s)
    | some _ =>
      simp only [hw]
      apply Ran.Call.turn
      exact run_call rt lib env s w _ _ _ _

theorem action_turn (allowed : List String) (t : String) (metadata : Dict String Json)
    (ctx : ChatKitRequestContext) (action : WidgetAction) (sender : Option (String × Json)) :
    (s.action rt lib env allowed t metadata ctx action sender).Turn s (some t) := by
  simp only [ChatState.action]
  cases requireWorkflowId rt (ensureWorkflowMetadata metadata ctx) with
  | error _ => exact .idle (refl s)
  | ok w =>
    by_cases ha : action.type ∉ allowed
    · simpa only [ha, not_false_eq_true, if_true] using Ran.Turn.idle (refl s)
    · simp only [ha, if_false]
      apply Ran.Call.turn
      exact run_call rt lib env s w _ _ _ _

end Run

section Requests

variable (host : ChatHost) (env : Surroundings)

theorem takeMessage_turn (s : ChatState) (t : String) (metadata : Dict String Json)
    (ctx : ChatKitRequestContext) (text : String) (o : MessageOptions) :
    (takeMessage host env s t metadata ctx text o).Turn s (some t) := by
  apply Ran.Turn.of_marks (respond_turn t metadata ctx text o.model o.documents)
  apply addThreadItems_marks
  intro i hi w hw
  cases List.mem_singleton.mp hi
  cases hw

theorem loadThread_items {s : ChatState} {t : String} {ctx : ChatKitRequestContext}
    {thread : Thread} (h : s.loadThread t ctx = .ok thread) : thread.items = s.itemsOf t := by
  simp only [ChatState.loadThread] at h
  cases hf : (s.threads.get? t).filter (fun thread => ownerMatches thread.ownerKey ctx.ownerKey) with
  | none => simp [hf] at h
  | some found =>
    simp only [hf, Except.ok.injEq] at h
    cases h
    rw [ChatState.itemsOf, (Option.filter_eq_some_iff.mp hf).1]
    rfl

theorem handle_turn (s : ChatState) (r : ChatRequest) :
    (handle host s r env).Turn s r.threadId := by
  cases r with
  | createThread t ctx text o =>
    apply Ran.Turn.of_marks (takeMessage_turn host env _ t _ ctx text o)
    exact .of_eq (marks_saveThread s t ∅ ctx)
  | addUserMessage t ctx text o =>
    simp only [handle]
    cases s.loadThread t ctx with
    | error _ => exact .idle (refl s)
    | ok thread => exact takeMessage_turn host env s t _ ctx text o
  | retryAfterItem t ctx kept o =>
    simp only [handle]
    cases h : s.loadThread t ctx with
    | error _ => exact .idle (refl s)
    | ok thread =>
      simp only
      split
      · apply Ran.Turn.of_marks (respond_turn t _ ctx _ o.model o.documents)
        apply setItems_marks
        intro i hi w hw
        have hitem : i ∈ s.itemsOf t := loadThread_items h ▸ List.mem_of_mem_take hi
        exact .inl (mark_of_item s hitem hw)
      · exact .idle (refl s)
  | customAction t ctx action sender =>
    simp only [handle]
    cases s.loadThread t ctx with
    | error _ => exact .idle (refl s)
    | ok thread => exact action_turn host.allowedActionTypes t _ ctx action sender
  | updateThread t ctx =>
    simp only [handle]
    cases s.loadThread t ctx with
    | error _ => exact .idle (refl s)
    | ok thread => exact .idle (.of_eq (marks_saveThread s t _ ctx))
  | deleteThread t ctx => exact .idle (deleteThread_marks s env t ctx)
  | pruneThreads threadIds => exact .idle (deleteThreads_marks s env threadIds)
  | runWorkflow w inputs actor workspaceId =>
    exact (run_call host.rt host.lib env s w inputs actor workspaceId []).turn_of_none
  | changeRepository app models =>
    apply Ran.Turn.idle
    apply Marks.of_eq
    intro p
    cases p <;> rfl

end Requests

structure Traced where
  chat : ChatState
  turns : List (Place × Uuid) := []

namespace Traced

variable (host : ChatHost)

def start (app : AppState) (models : Dict Uuid (List ChatKitModel)) : Traced where
  chat := { app := app, models := models }

variable (σ : Traced) (x : ChatRequest × Surroundings)

def ran : Ran := handle host σ.chat x.1 x.2

def step : Traced where
  chat := (σ.ran host x).state
  turns := (σ.turns ++ (σ.ran host x).places x.1.threadId).filter
    (fun turn => (σ.ran host x).state.holds turn.1)

def Recorded : Prop := ∀ p w, w ∈ σ.chat.marks p → (p, w) ∈ σ.turns

def Separated : Prop :=
  ∀ e ∈ (σ.ran host x).execution, e.Separate

/-- The earlier turns on the thread, and those under its LangGraph thread identifier, were
for the workflow of this turn. -/
def KeepsWorkflow : Prop :=
  ∀ e ∈ (σ.ran host x).execution, ∀ turn ∈ σ.turns,
    (turn.1 = .checkpoint e.runtimeThreadId ∨ ∃ t ∈ x.1.threadId, turn.1 = .thread t) →
      turn.2 = e.workflowId

instance (σ : Traced) (x : ChatRequest × Surroundings) : Decidable (σ.KeepsWorkflow host x) :=
  inferInstanceAs (Decidable (∀ e ∈ (σ.ran host x).execution, ∀ turn ∈ σ.turns,
    (turn.1 = .checkpoint e.runtimeThreadId ∨ ∃ t ∈ x.1.threadId, turn.1 = .thread t) →
      turn.2 = e.workflowId))

variable {host}

theorem recorded_start (app : AppState) (models : Dict Uuid (List ChatKitModel)) :
    (start app models).Recorded := by
  intro p w hw
  cases p <;> cases hw

theorem Recorded.step {σ : Traced} (h : σ.Recorded) (x : ChatRequest × Surroundings) :
    (σ.step host x).Recorded := by
  intro p w hw
  apply List.mem_filter.mpr
  refine ⟨?_, ChatState.holds_of_mark hw⟩
  cases (handle_turn host x.2 σ.chat x.1).marks p w hw with
  | inl hw => exact List.mem_append_left _ (h p w hw)
  | inr hn => exact List.mem_append_right _ hn

theorem Recorded.separated {σ : Traced} (h : σ.Recorded) {x : ChatRequest × Surroundings}
    (hk : σ.KeepsWorkflow host x) : σ.Separated host x := by
  intro e he
  have hstart := (handle_turn host x.2 σ.chat x.1).started e he
  have hcheckpoint : ∀ c ∈ e.checkpoint, ∀ w ∈ c.writers, w = e.workflowId := by
    intro c hc w hw
    exact hk e he _ (h _ _ (hstart.checkpoint c hc w hw)) (.inl rfl)
  refine ⟨hcheckpoint, ?_, ?_⟩
  · intro v hv
    obtain ⟨c, hc, hi⟩ := hstart.resumed v hv
    exact ⟨c, hc, hi, hcheckpoint c hc⟩
  · intro i hi w hw
    obtain ⟨t, ht, hm⟩ := hstart.history i hi w hw
    exact hk e he _ (h _ _ hm) (.inr ⟨t, ht, rfl⟩)

/-- Over any run of the chat: where no turn follows one for another workflow on the same
thread, every graph starts from the state and the messages of its own workflow. -/
theorem turns_separated (app : AppState) (models : Dict Uuid (List ChatKitModel))
    (xs : List (ChatRequest × Surroundings))
    (h : AllSteps (step host) (KeepsWorkflow host) (start app models) xs) :
    AllSteps (step host) (Separated host) (start app models) xs := by
  apply AllSteps.of_invariant _ (recorded_start app models) h
  intro σ x hσ hk
  exact ⟨hσ.step x, hσ.separated hk⟩

end Traced

namespace TwoWorkflows

def lib : GraphLibrary where
  builds _ _ := true
  invoke graph _ payload := match payload with
    | .initial _ => { snapshot := some ⟨graph, [.str "Proceed?"]⟩, reply := some "Proceed?" }
    | .resume answer => { snapshot := some ⟨answer, []⟩, reply := some "Done" }

def host : ChatHost := { rt := .ascii, lib := lib }

def app : AppState where
  workflows := .ofList [(1, { isPublic := true }), (2, { isPublic := true })]
  versions := .ofList [(11, { workflowId := 1 }), (12, { workflowId := 2 })]

def env : Surroundings := { readings := ⟨0, 0, 0, 0⟩ }

def context (w : Uuid) : ChatKitRequestContext :=
  buildRequestContext host.rt ⟨w, "workflow", "publish", none, none⟩ "visitor:12345678" ∅

def opening : List (ChatRequest × Surroundings) :=
  [(.createThread "thr" (context 1) "Hello" {}, env)]

def answer (w : Uuid) : ChatRequest × Surroundings :=
  (.addUserMessage "thr" (context w) "Yes" {}, env)

def begun : Traced := Traced.start app ∅

theorem same_workflow_separated :
    AllSteps (Traced.step host) (Traced.KeepsWorkflow host) begun (opening ++ [answer 1]) ∧
      AllSteps (Traced.step host) (Traced.Separated host) begun (opening ++ [answer 1]) := by
  have hk : AllSteps (Traced.step host) (Traced.KeepsWorkflow host) begun
      (opening ++ [answer 1]) := by decide
  exact ⟨hk, Traced.turns_separated app ∅ _ hk⟩

theorem second_workflow_resumes_first :
    ¬ AllSteps (Traced.step host) (Traced.Separated host) begun (opening ++ [answer 2]) := by
  intro h
  have hstep := h.last
  obtain ⟨e, he, hwriters⟩ : ∃ e ∈ ((opening.foldl (Traced.step host) begun).ran host
      (answer 2)).execution, e.checkpoint.map Checkpoint.writers = some [1] ∧ e.workflowId = 2 ∧
        e.payload = .resume (.str "Yes") := ⟨_, rfl, by decide⟩
  obtain ⟨c, hc, -, hown⟩ := (hstep e he).resumed _ hwriters.2.2
  have hone : c.writers = [1] := by
    have hmap := hwriters.1
    rw [Option.mem_def.mp hc] at hmap
    exact Option.some.inj hmap
  have habsurd := hown 1 (hone ▸ List.mem_singleton.mpr rfl)
  rw [hwriters.2.1] at habsurd
  exact absurd habsurd (by decide)

end TwoWorkflows

end Orcheo.ChatKit
