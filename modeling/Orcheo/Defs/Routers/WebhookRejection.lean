import Orcheo.Defs.Routers.Webhook

/-! Which rejected webhook requests leave no trace. -/

namespace Orcheo.Routers

open Lib (Dict)
open Repository (Readings)
open Triggers (TriggerLayer WebhookClock WebhookRequest)

namespace AppState

section WithGovernance

variable (s : AppState) (g : WorkspaceGovernance)

@[simp] theorem workflows_withGovernance : (s.withGovernance g).workflows = s.workflows := rfl

@[simp] theorem versions_withGovernance : (s.withGovernance g).versions = s.versions := rfl

@[simp] theorem runs_withGovernance : (s.withGovernance g).runs = s.runs := rfl

@[simp] theorem ensureWorkspace_withGovernance (workspaceId : Option String) :
    (s.withGovernance g).ensureWorkspace workspaceId = s.ensureWorkspace workspaceId := by
  cases workspaceId <;> rfl

theorem createRunLocked_withGovernance (w v : Uuid) (triggeredBy actor : String)
    (workspaceId : Option String) (c : Readings) :
    (s.withGovernance g).createRunLocked w v triggeredBy actor workspaceId c =
      ((s.createRunLocked w v triggeredBy actor workspaceId c).1.withGovernance g,
        (s.createRunLocked w v triggeredBy actor workspaceId c).2) := by
  simp only [createRunLocked, versions_withGovernance, ensureWorkspace_withGovernance]
  cases s.versions.get? v with
  | none => rfl
  | some version =>
    dsimp only
    split
    · rfl
    · cases s.ensureWorkspace workspaceId with
      | error e => rfl
      | ok u =>
        dsimp only
        split
        · have hlayer : (s.withGovernance g).newRunId = s.newRunId := rfl
          have hl : (s.withGovernance g).layer = s.layer := rfl
          simp only [hlayer, hl]
          split <;> rfl
        · rfl

theorem handleWebhookTrigger_withGovernance (rt : RouterRuntime) (clock : WebhookClock)
    (c : Readings) (w : Uuid) (r : WebhookRequest) :
    (s.withGovernance g).handleWebhookTrigger rt clock c w r =
      ((s.handleWebhookTrigger rt clock c w r).1.withGovernance g,
        (s.handleWebhookTrigger rt clock c w r).2) := by
  have hv : (s.withGovernance g).latestVersionId w = s.latestVersionId w := rfl
  simp only [handleWebhookTrigger, workflows_withGovernance, hv]
  cases s.workflows.get? w with
  | none => rfl
  | some workflow =>
    dsimp only
    split
    · rfl
    · cases s.latestVersionId w with
      | none => rfl
      | some v =>
        dsimp only
        have hh : (s.withGovernance g).healthy = s.healthy := rfl
        have hl : (s.withGovernance g).layer = s.layer := rfl
        have hg : (s.withGovernance g).guard = s.guard := rfl
        simp only [hh, hl, hg]
        split
        · rfl
        · split
          · rfl
          · exact createRunLocked_withGovernance (s.withLayer _) g w v _ _ _ c

end WithGovernance

theorem prepareWebhookDispatch_triggeredBy {rt : Triggers.WebhookRuntime} {clock : WebhookClock}
    {guard : Option Triggers.CredentialHealthGuard} {layer layer' : TriggerLayer} {w : Uuid}
    {r : WebhookRequest} {dispatch : Triggers.TriggerDispatch}
    (h : layer.prepareWebhookDispatch rt clock guard w r = (layer', .ok dispatch)) :
    dispatch.triggeredBy = "webhook" := by
  simp only [TriggerLayer.prepareWebhookDispatch] at h
  split at h
  · cases h
  · split at h
    · cases h
    · cases h
      rfl

theorem runs_createRunLocked {s : AppState} {w v : Uuid} {triggeredBy actor : String}
    {workspaceId : Option String} {c : Readings} {e : RepositoryError} (ht : triggeredBy ≠ "cron")
    (h : (s.createRunLocked w v triggeredBy actor workspaceId c).2 = .error e) :
    (s.createRunLocked w v triggeredBy actor workspaceId c).1.runs = s.runs := by
  simp only [createRunLocked, ht, if_false] at h ⊢
  split at h
  · simp_all
  · split at h
    · simp_all
    · split at h
      · simp_all
      · cases h

theorem runs_handleWebhookTrigger {rt : RouterRuntime} {clock : WebhookClock} {c : Readings}
    {s : AppState} {w : Uuid} {r : WebhookRequest} {e : RepositoryError}
    (h : (s.handleWebhookTrigger rt clock c w r).2 = .error e) :
    (s.handleWebhookTrigger rt clock c w r).1.runs = s.runs := by
  simp only [handleWebhookTrigger] at h ⊢
  cases hw : s.workflows.get? w with
  | none => rfl
  | some workflow =>
    simp only [hw] at h ⊢
    cases ha : workflow.isArchived with
    | true => rfl
    | false => cases hv : s.latestVersionId w with
      | none => rfl
      | some v =>
        simp only [hv] at h ⊢
        cases hh : s.healthy w workflow.workspaceId with
        | false => rfl
        | true => cases hd : s.layer.prepareWebhookDispatch rt.toWebhookRuntime clock s.guard w r with
          | mk layer verdict => cases verdict with
            | error e => rfl
            | ok dispatch =>
              have ht : dispatch.triggeredBy ≠ "cron" := by
                rw [prepareWebhookDispatch_triggeredBy hd]
                decide
              simp only [hh, hd, ha, Bool.not_true, Bool.false_eq_true, if_false] at h ⊢
              exact runs_createRunLocked ht h

end AppState

theorem checkRateLimit_eq (s : AppState) (workspaceId : String) (now : Instant) :
    ∃ g, (checkRateLimit s workspaceId now).1 = s.withGovernance g := by
  simp only [checkRateLimit]
  split <;> exact ⟨_, rfl⟩

variable (store : StoreKind) (rt : RouterRuntime)

theorem WebhookRoute.target_eq (s : AppState) (now : Instant) (route : WebhookRoute) :
    ∃ g, (route.target store rt s now).1 = s.withGovernance g := by
  cases route with
  | invokeWebhookTrigger workflowRef =>
    simp only [WebhookRoute.target]
    cases s.resolveWorkflowRef store rt workflowRef none with
    | none => exact ⟨s.governance, rfl⟩
    | some w => cases hw : s.getWorkflowWorkspaceId w with
      | none =>
        simp only [hw]
        exact ⟨s.governance, rfl⟩
      | some workspaceId =>
        obtain ⟨g, hg⟩ := checkRateLimit_eq s workspaceId now
        refine ⟨g, ?_⟩
        rw [← hg]
        simp only [hw]
        split <;> simp_all
  | invokeWorkspaceWebhook workspaceSlug triggerId =>
    simp only [WebhookRoute.target]
    cases s.getWorkspaceBySlug rt workspaceSlug with
    | none => exact ⟨s.governance, rfl⟩
    | some workspaceId =>
      obtain ⟨g, hg⟩ := checkRateLimit_eq s workspaceId now
      refine ⟨g, ?_⟩
      rw [← hg]
      dsimp only
      split
      · simp_all
      · split <;> simp_all

/-- `handle_webhook_trigger` would reject the request in the state in which it arrives. -/
def Rejected (clock : WebhookClock) (c : Readings)
    (s : AppState) (now : Instant) (route : WebhookRoute) (req : HttpRequest) : Prop :=
  ∀ s' w payload parsed, route.target store rt s now = (s', .ok w) →
    req.read rt = .ok (payload, parsed) →
    ∃ e, (s.handleWebhookTrigger rt clock c w (req.webhookRequest payload)).2 = .error e

def Served.Quiet (s : AppState) (served : Served) : Prop :=
  served.executed = [] ∧ served.state.runs = s.runs

/-- The request selects the synchronous path of a workflow that has a version, and running
its graph executes a node. -/
def ReachesNodes (g : GraphRuntime) (s : AppState)
    (now : Instant) (route : WebhookRoute) (req : HttpRequest) : Prop :=
  ∃ s' w payload parsed v version, route.target store rt s now = (s', .ok w) ∧
    req.read rt = .ok (payload, parsed) ∧ maybeHandleSlackUrlVerification rt parsed = none ∧
    shouldTryImmediateResponse (req.webhookRequest payload).queryParams = true ∧
    s'.getLatestVersion w = .ok (v, version) ∧
    (immediateExecution g s' version (req.inputs payload)).executed ≠ []

section Served

variable (rt : RouterRuntime) (clock : WebhookClock) (c : Readings) (s : AppState) (w : Uuid)
  (r : WebhookRequest) (executed : List (CredentialAccessContext × String))

@[simp] theorem executed_queueWebhookRun (immediate : Option HttpResponse) :
    (queueWebhookRun rt clock c s w r executed immediate).executed = executed := by
  simp only [queueWebhookRun]
  split <;> rfl

@[simp] theorem executed_afterImmediate (answer : Except HttpError (Option HttpResponse × Bool)) :
    (afterImmediate rt clock c w r s executed answer).executed = executed := by
  cases answer with
  | error e => rfl
  | ok answer =>
    obtain ⟨immediate, shouldQueue⟩ := answer
    cases shouldQueue with
    | true => exact executed_queueWebhookRun rt clock c s w r executed immediate
    | false => rfl

variable {rt clock c s w r} {e : RepositoryError}
  (h : (s.handleWebhookTrigger rt clock c w r).2 = .error e)

include h

theorem runs_queueWebhookRun (immediate : Option HttpResponse) :
    (queueWebhookRun rt clock c s w r executed immediate).state.runs = s.runs := by
  have hr := AppState.runs_handleWebhookTrigger h
  simp only [queueWebhookRun]
  split <;> simp_all

theorem runs_afterImmediate (answer : Except HttpError (Option HttpResponse × Bool)) :
    (afterImmediate rt clock c w r s executed answer).state.runs = s.runs := by
  cases answer with
  | error e => rfl
  | ok answer =>
    obtain ⟨immediate, shouldQueue⟩ := answer
    cases shouldQueue with
    | true => exact runs_queueWebhookRun executed h immediate
    | false => rfl

end Served

theorem receiveWebhook_quiet_iff {rt : RouterRuntime} {g : GraphRuntime} {clock : WebhookClock}
    {c : Readings} {s : AppState} {w : Uuid} {req : HttpRequest} {payload : Triggers.Payload}
    {parsed : Option (List (String × Json))} {e : RepositoryError}
    (hr : req.read rt = .ok (payload, parsed))
    (h : (s.handleWebhookTrigger rt clock c w (req.webhookRequest payload)).2 = .error e) :
    (receiveWebhook rt g clock c s w req).Quiet s ↔
      ¬ (maybeHandleSlackUrlVerification rt parsed = none ∧
        shouldTryImmediateResponse (req.webhookRequest payload).queryParams = true ∧
        ∃ v version, s.getLatestVersion w = .ok (v, version) ∧
          (immediateExecution g s version (req.inputs payload)).executed ≠ []) := by
  simp only [receiveWebhook, hr, Served.Quiet]
  cases hs : maybeHandleSlackUrlVerification rt parsed with
  | some response => simp
  | none =>
    cases ht : shouldTryImmediateResponse (req.webhookRequest payload).queryParams with
    | false => simp [runs_queueWebhookRun [] h none]
    | true => cases hv : s.getLatestVersion w with
      | error e => cases e <;> simp
      | ok latest =>
        obtain ⟨v, version⟩ := latest
        cases hx : (immediateExecution g s version (req.inputs payload)).executed with
        | nil =>
          have hstate : (immediateExecution g s version (req.inputs payload)).state = s :=
            g.idle s version _ _ hx
          simp [tryImmediateResponse, hx, hstate, runs_afterImmediate _ h]
        | cons node nodes => simp [tryImmediateResponse, hx]

/-- A rejected request leaves no trace exactly when it does not reach a node through the
synchronous path, which validates nothing. -/
theorem rejected_webhook_quiet_iff (g : GraphRuntime)
    (clock : WebhookClock) (c : Readings) (s : AppState) (now : Instant) (route : WebhookRoute)
    (req : HttpRequest) (hrejected : Rejected store rt clock c s now route req) :
    (route.serve store rt g clock c s now req).Quiet s ↔
      ¬ ReachesNodes store rt g s now route req := by
  obtain ⟨gov, hgov⟩ := route.target_eq store rt s now
  simp only [WebhookRoute.serve]
  cases ht : route.target store rt s now with
  | mk s' target =>
    have hs : s' = s.withGovernance gov := by simpa only [ht] using hgov
    subst hs
    cases target with
    | error e => simp [Served.Quiet, ReachesNodes, ht]
    | ok w => cases hread : req.read rt with
      | error e => simp [Served.Quiet, ReachesNodes, receiveWebhook, hread]
      | ok body =>
        obtain ⟨payload, parsed⟩ := body
        obtain ⟨e, he⟩ := hrejected _ w payload parsed ht hread
        have he' : ((s.withGovernance gov).handleWebhookTrigger rt clock c w
            (req.webhookRequest payload)).2 = .error e := by
          rw [AppState.handleWebhookTrigger_withGovernance]
          exact he
        have hiff := receiveWebhook_quiet_iff (g := g) hread he'
        simp only [Served.Quiet, AppState.runs_withGovernance] at hiff ⊢
        rw [hiff]
        apply not_congr
        constructor
        · rintro ⟨hslack, htry, v, version, hv, hx⟩
          exact ⟨_, w, payload, parsed, v, version, ht, hread, hslack, htry, hv, hx⟩
        · rintro ⟨_, _, _, _, v, version, ht', hread', hslack, htry, hv, hx⟩
          rw [ht] at ht'
          rw [hread] at hread'
          cases ht'
          cases hread'
          exact ⟨hslack, htry, v, version, hv, hx⟩

theorem Rejected.intro {store : StoreKind} {rt : RouterRuntime} {clock : WebhookClock}
    {c : Readings} {s : AppState} {now : Instant} {route : WebhookRoute} {req : HttpRequest}
    {w : Uuid} {b : Triggers.Payload × Option (List (String × Json))} {e : RepositoryError}
    (ht : (route.target store rt s now).2.toOption = some w)
    (hread : (req.read rt).toOption = some b)
    (h : (s.handleWebhookTrigger rt clock c w (req.webhookRequest b.1)).2 = .error e) :
    Rejected store rt clock c s now route req := by
  intro s' w' payload parsed ht' hread'
  rw [ht'] at ht
  rw [hread'] at hread
  cases ht
  cases hread
  exact ⟨e, h⟩

def secretWebhook : AppState where
  workflows := (∅ : Dict Uuid Workflow).set 1 {}
  versions := (∅ : Dict Uuid WorkflowVersion).set 10 { workflowId := 1 }
  layer := ({} : TriggerLayer).configureWebhook 1
    { sharedSecretHeader := some "x-secret", sharedSecret := some "s3cr3t" }

def agentGraph : GraphRuntime where
  ainvoke s _ _ _ := ⟨["agent"], s, some []⟩
  idle _ _ _ _ _ := rfl

/-- `POST /workflows/1/triggers/webhook` without the secret -/
def postSecretWebhook (queryParams : List (String × String)) : Served :=
  (WebhookRoute.invokeWebhookTrigger "1").serve .inMemory .ascii agentGraph ⟨0, 0, 0⟩
    ⟨0, 0, 0, 0⟩ secretWebhook 0 { method := "POST", queryParams := queryParams }

theorem post_without_nonce_quiet : (postSecretWebhook []).Quiet secretWebhook := by
  refine (rejected_webhook_quiet_iff _ _ _ _ _ _ _ _ _ (Rejected.intro
    (w := 1) (b := (.json (.obj []), none)) (e := .webhook .authentication)
    (by decide) (by decide) (by decide))).mpr ?_
  rintro ⟨_, _, _, _, _, _, _, _, _, htry, _⟩
  cases htry

theorem secret_not_asked : ¬ (Rejected .inMemory .ascii ⟨0, 0, 0⟩ ⟨0, 0, 0, 0⟩ secretWebhook 0
      (.invokeWebhookTrigger "1") { method := "POST", queryParams := [("nonce", "1")] } →
    (postSecretWebhook [("nonce", "1")]).Quiet secretWebhook) := by
  intro h
  have hexecuted := (h (Rejected.intro (w := 1) (b := (.json (.obj []), none))
    (e := .webhook .authentication) (by decide) (by decide) (by decide))).1
  revert hexecuted
  decide

end Orcheo.Routers
