import Orcheo.Defs.Routers.EntryPoints

/-! Which executions are authorised: the link from the caller to the workspace of the
workflow, at each entry point. -/

namespace Orcheo.Routers

open Lib (Dict)
open Repository (Readings)

namespace AppState

theorem ensureWorkspace_none (s : AppState) : s.ensureWorkspace none = .ok () := rfl

variable {s : AppState} {v : Uuid} {version : WorkflowVersion} {w : Uuid}

theorem runs_createRunLocked_none (hv : s.versions.get? v = some version)
    (hw : version.workflowId = w) (triggeredBy actor : String) (c : Readings) :
    (s.createRunLocked w v triggeredBy actor none c).1.runs =
      s.runs.set s.newRunId (newRun w triggeredBy actor none c) := by
  simp only [createRunLocked, hv, hw, ensureWorkspace_none, ne_eq, not_true_eq_false, if_false]
  split
  · split <;> rfl
  · rfl

theorem latestVersion_workflowId (h : s.getLatestVersion w = .ok (v, version)) :
    s.versions.get? v = some version ∧ version.workflowId = w := by
  simp only [getLatestVersion] at h
  cases hworkflow : s.workflows.get? w with
  | none => simp [hworkflow] at h
  | some workflow => cases hlast : s.latestVersionId w with
    | none => simp [hworkflow, hlast] at h
    | some v' => cases hv : s.versions.get? v' with
      | none => simp [hworkflow, hlast, hv] at h
      | some version' =>
        simp only [hworkflow, hlast, hv, Except.ok.injEq, Prod.mk.injEq] at h
        obtain ⟨rfl, rfl⟩ := h
        refine ⟨hv, ?_⟩
        have hm : v' ∈ (s.versions.entries.filter
            (fun e => decide (e.2.workflowId = w))).map Prod.fst := List.mem_of_getLast? hlast
        obtain ⟨e, he, hfst⟩ := List.mem_map.mp hm
        rw [List.mem_filter] at he
        have hget : s.versions.get? v' = some e.2 := by
          rw [Dict.get?_eq_some_iff, ← hfst]
          exact he.1
        rw [hv] at hget
        cases hget
        simpa using he.2

def Accepts (s : AppState) (w : Uuid) : Prop :=
  ∃ workflow, s.workflows.get? w = some workflow ∧ workflow.isArchived = false ∧
    s.healthy w none = true

theorem createRun_of_accepts (h : s.Accepts w)
    (hv : s.getLatestVersion w = .ok (v, version)) (triggeredBy : String) (c : Readings) :
    s.newRunId ∈ (s.createRun w v triggeredBy none none c).1.runs.keys := by
  obtain ⟨workflow, hw, ha, hh⟩ := h
  obtain ⟨hget, hid⟩ := latestVersion_workflowId hv
  rw [Dict.mem_keys_iff]
  refine ⟨newRun w triggeredBy ((Triggers.WebhookTriggerState.truthy none).getD triggeredBy)
    none c, ?_⟩
  simp [createRun, hw, ha, hh, runs_createRunLocked_none hget hid]

theorem createRun_of_not_accepts (h : ¬ s.Accepts w) (v : Uuid)
    (triggeredBy : String) (c : Readings) :
    (s.createRun w v triggeredBy none none c).1 = s := by
  simp only [createRun]
  cases hw : s.workflows.get? w with
  | none => rfl
  | some workflow =>
    cases ha : workflow.isArchived with
    | true => simp [ha]
    | false => cases hh : s.healthy w none with
      | false => simp [ha]
      | true => exact absurd ⟨workflow, hw, ha, hh⟩ h

end AppState

theorem mem_createdRun {s s' : AppState} {context : CredentialAccessContext} {effect : Effect}
    (h : effect ∈ createdRun s s' context) : effect.context = context := by
  simp only [createdRun] at h
  split at h
  · simp_all [Effect.context]
  · cases h

theorem createdRun_self (s : AppState) (context : CredentialAccessContext) :
    createdRun s s context = [] := by
  have hfresh : s.newRunId ∉ s.runs.keys := (Dict.get?_eq_none_iff _ _).mp s.runs.get?_fresh
  simp [createdRun, hfresh]

inductive EntryRequest
  | websocket (req : CallerRequest) (workflowRef : String) (messages : List Json)
  | trigger (req : CallerRequest) (workflowRef actor : String)
  | gateway (req : CallerRequest) (workflowValue : Json) (executes : Bool)

structure Setting where
  store : StoreKind
  rt : AuthRuntime
  host : GraphHost
  auth : AuthState
  app : AppState
  readings : Readings
  now : Instant

namespace Setting

variable (σ : Setting)

def effects : EntryRequest → List Effect
  | .websocket req workflowRef messages =>
    workflowWebsocket σ.store σ.rt σ.host σ.auth σ.app σ.now req workflowRef messages
  | .trigger req workflowRef actor =>
    (triggerChatkitWorkflow σ.store σ.rt σ.auth σ.app σ.readings σ.now req workflowRef actor).2
  | .gateway req workflowValue executes =>
    (ChatKit.gateway σ.rt σ.auth σ.host σ.app σ.readings req workflowValue executes).2

def Covers (context : RequestContext) (w : Uuid) : Prop :=
  ∀ workspaceId, σ.app.getWorkflowWorkspaceId w = some workspaceId →
    σ.rt.normalized workspaceId ∈ σ.rt.workspaceItems context.workspaceIds ∨
      (workspaceId, context.subject) ∈ σ.auth.memberships

def SessionCovers (chatkit : Claims) (w : Uuid) : Prop :=
  (∃ claimed, Json.field? chatkit "workflow_id" = some claimed ∧ truthyJson claimed = true ∧
      σ.rt.parseUuid (pyStr σ.rt.toRouterRuntime claimed) = some w) ∨
    ∀ workspaceId, σ.app.getWorkflowWorkspaceId w = some workspaceId →
      σ.rt.normalized workspaceId ∈ ChatKit.claimedWorkspaces σ.rt chatkit

variable (req : CallerRequest)

def PublishedFor (w : Uuid) : Prop :=
  ∃ workflow, σ.app.workflows.get? w = some workflow ∧ workflow.isArchived = false ∧
    workflow.isPublic = true ∧
    ChatKit.loginMet σ.rt workflow (ChatKit.extractProxyIdentity σ.rt σ.auth req).1
      (ChatKit.extractProxyIdentity σ.rt σ.auth req).2 (σ.app.getWorkflowWorkspaceId w) = true

def websocketCaller : Except AuthenticationError RequestContext :=
  Authentication.authenticateWebsocket σ.rt σ.auth req.headers req.queryParams req.cookies
    req.clientHost σ.now

def httpCaller : Except AuthenticationError RequestContext :=
  Authentication.authenticateHttp σ.rt σ.auth req.headers req.cookies req.clientHost σ.now

def Permitted (w : Uuid) : EntryRequest → Prop
  | .websocket req _ _ => ∃ context, σ.websocketCaller req = .ok context ∧ σ.Covers context w
  | .trigger req _ _ => ∃ context, σ.httpCaller req = .ok context ∧ σ.Covers context w
  | .gateway req _ _ =>
    (∃ header claims chatkit, Authentication.present req.headers "authorization" = some header ∧
      ChatKit.sessionClaims σ.rt header = some (claims, chatkit) ∧ σ.SessionCovers chatkit w) ∨
    σ.PublishedFor req w

def Authorised (request : EntryRequest) : Prop :=
  ∀ effect ∈ σ.effects request, ∀ w, effect.context.workflowId = some w → σ.Permitted w request

def WebsocketReaches (workflowRef : String) (messages : List Json) (w : Uuid) : Prop :=
  σ.app.resolveWorkflowRef σ.store σ.rt.toRouterRuntime workflowRef none = some w ∧
    ∃ kind message graph, firstCommand messages = some (kind, message) ∧
      ((σ.app.getWorkflowWorkspaceId w).map (σ.auth.admits .workspace)).getD true = true ∧
      Json.field? message "graph_config" = some graph ∧ σ.host.accepts kind message = true

def TriggerReaches (workflowRef : String) (w : Uuid) : Prop :=
  σ.app.resolveWorkflowRef σ.store σ.rt.toRouterRuntime workflowRef none = some w ∧
    σ.app.Accepts w ∧ ∃ v version, σ.app.getLatestVersion w = .ok (v, version)

variable {σ} {req : CallerRequest} {workflowRef : String} {messages : List Json} {w : Uuid}
  {effect : Effect} {context : RequestContext}

theorem effects_websocket_of_reaches (hc : σ.websocketCaller req = .ok context)
    (h : σ.WebsocketReaches workflowRef messages w) :
    ∃ effect ∈ σ.effects (.websocket req workflowRef messages),
      effect.context.workflowId = some w := by
  obtain ⟨hw, kind, message, graph, hcommand, hlimit, hgraph, haccepts⟩ := h
  simp only [websocketCaller] at hc
  simp only [effects, workflowWebsocket, hc, hw, hcommand, hlimit, executeWorkflow, hgraph,
    haccepts, if_true]
  exact ⟨_, List.mem_singleton_self _, rfl⟩

theorem reaches_of_effects_websocket
    (h : effect ∈ σ.effects (.websocket req workflowRef messages)) :
    ∃ context w, σ.websocketCaller req = .ok context ∧
      σ.WebsocketReaches workflowRef messages w ∧ effect.context.workflowId = some w := by
  simp only [effects, workflowWebsocket] at h
  cases hc : σ.websocketCaller req with
  | error e =>
    simp only [websocketCaller] at hc
    simp [hc] at h
  | ok context =>
    have hc' := hc
    simp only [websocketCaller] at hc'
    simp only [hc'] at h
    cases hw : σ.app.resolveWorkflowRef σ.store σ.rt.toRouterRuntime workflowRef none with
    | none => simp [hw] at h
    | some w => cases hcommand : firstCommand messages with
      | none => simp [hw, hcommand] at h
      | some command =>
        obtain ⟨kind, message⟩ := command
        simp only [hw, hcommand, executeWorkflow] at h
        split at h
        · rename_i hlimit
          cases hgraph : Json.field? message "graph_config" with
          | none => simp [hgraph] at h
          | some graph =>
            simp only [hgraph] at h
            split at h
            · rename_i haccepts
              refine ⟨context, w, rfl, ⟨hw, kind, message, graph, hcommand, hlimit, hgraph,
                haccepts⟩, ?_⟩
              simp only [List.mem_singleton] at h
              simp [h, Effect.context, credentialContextFromWorkflow]
            · cases h
        · cases h

theorem effects_trigger_of_reaches (actor : String) (hc : σ.httpCaller req = .ok context)
    (ha : context.isAuthenticated = true) (h : σ.TriggerReaches workflowRef w) :
    ∃ effect ∈ σ.effects (.trigger req workflowRef actor), effect.context.workflowId = some w := by
  obtain ⟨hw, haccepts, v, version, hv⟩ := h
  have hcreated := AppState.createRun_of_accepts haccepts hv actor σ.readings
  simp only [httpCaller] at hc
  simp only [effects, triggerChatkitWorkflow, hc, hw, ha, hv, createdRun, hcreated, if_true,
    Bool.not_true, Bool.false_eq_true, if_false]
  exact ⟨_, List.mem_singleton_self _, rfl⟩

theorem reaches_of_effects_trigger {actor : String}
    (h : effect ∈ σ.effects (.trigger req workflowRef actor)) :
    ∃ context w, σ.httpCaller req = .ok context ∧ context.isAuthenticated = true ∧
      σ.TriggerReaches workflowRef w ∧ effect.context.workflowId = some w := by
  simp only [effects, triggerChatkitWorkflow] at h
  cases hc : σ.httpCaller req with
  | error e =>
    simp only [httpCaller] at hc
    simp [hc] at h
  | ok context =>
    have hc' := hc
    simp only [httpCaller] at hc'
    simp only [hc'] at h
    cases hw : σ.app.resolveWorkflowRef σ.store σ.rt.toRouterRuntime workflowRef none with
    | none => simp [hw] at h
    | some w => cases ha : context.isAuthenticated with
      | false => simp [hw, ha] at h
      | true => cases hv : σ.app.getLatestVersion w with
        | error e => simp [hw, ha, hv] at h
        | ok latest =>
          obtain ⟨v, version⟩ := latest
          simp only [hw, ha, hv, Bool.not_true, Bool.false_eq_true, if_false] at h
          by_cases haccepts : σ.app.Accepts w
          · refine ⟨context, w, rfl, ha, ⟨hw, haccepts, v, version, hv⟩, ?_⟩
            rw [mem_createdRun h]
            rfl
          · rw [AppState.createRun_of_not_accepts haccepts, createdRun_self] at h
            cases h

theorem sessionCovers_of_resolve {chatkit : Claims} {workspaceId : Option String}
    (h : ChatKit.resolveJwtWorkspaceId σ.rt chatkit (σ.app.getWorkflowWorkspaceId w) =
      some workspaceId) : σ.SessionCovers chatkit w := by
  right
  intro stored hstored
  simp only [hstored, ChatKit.resolveJwtWorkspaceId] at h
  split at h
  · assumption
  · cases h

variable {result : ChatKitAuthResult}

theorem sessionCovers_of_jwt {header : String}
    (h : ChatKit.authenticateJwtRequest σ.rt σ.auth σ.app w header = some result) :
    result.workflowId = w ∧ ∃ claims chatkit,
      ChatKit.sessionClaims σ.rt header = some (claims, chatkit) ∧ σ.SessionCovers chatkit w := by
  simp only [ChatKit.authenticateJwtRequest] at h
  cases hsession : ChatKit.sessionClaims σ.rt header with
  | none => simp [hsession] at h
  | some session =>
    obtain ⟨claims, chatkit⟩ := session
    simp only [hsession] at h
    split at h
    · cases h
    · split at h
      · cases h
      · cases hlive : ChatKit.liveWorkflow σ.app w with
        | none => simp [hlive] at h
        | some workflow =>
          cases hresolve : ChatKit.resolveJwtWorkspaceId σ.rt chatkit
              (σ.app.getWorkflowWorkspaceId w) with
          | none => simp [hlive, hresolve] at h
          | some workspaceId =>
            simp only [hlive, hresolve, Option.some.injEq] at h
            subst h
            exact ⟨rfl, claims, chatkit, rfl, sessionCovers_of_resolve hresolve⟩

theorem publishedFor_of_publish
    (h : ChatKit.authenticatePublishRequest σ.rt σ.auth σ.app w req = some result) :
    result.workflowId = w ∧ σ.PublishedFor req w := by
  simp only [ChatKit.authenticatePublishRequest] at h
  cases hlive : ChatKit.liveWorkflow σ.app w with
  | none => simp [hlive] at h
  | some workflow =>
    simp only [hlive] at h
    simp only [ChatKit.liveWorkflow, Option.filter_eq_some_iff] at hlive
    obtain ⟨hw, ha⟩ := hlive
    split at h
    · cases h
    · rename_i hpublic
      split at h
      · cases h
      · split at h
        · cases h
        · rename_i hlogin
          split at h
          · cases h
          · cases h
            exact ⟨rfl, workflow, hw, by simpa using ha, by simpa using hpublic,
              by simpa using hlogin⟩

theorem permitted_of_invocation {workflowValue : Json} {executes : Bool}
    (h : ChatKit.authenticateChatkitInvocation σ.rt σ.auth σ.app req workflowValue = some result) :
    σ.Permitted result.workflowId (.gateway req workflowValue executes) := by
  simp only [ChatKit.authenticateChatkitInvocation] at h
  split at h
  · cases h
  · cases hparse : σ.rt.parseUuid (pyStr σ.rt.toRouterRuntime workflowValue) with
    | none => simp [hparse] at h
    | some w =>
      simp only [hparse] at h
      split at h
      · cases h
      · cases hheader : Authentication.present req.headers "authorization" with
        | some header =>
          simp only [hheader] at h
          obtain ⟨rfl, claims, chatkit, hsession, hcovers⟩ := sessionCovers_of_jwt h
          exact .inl ⟨header, claims, chatkit, hheader, hsession, hcovers⟩
        | none =>
          simp only [hheader] at h
          obtain ⟨rfl, hpublished⟩ := publishedFor_of_publish h
          exact .inr hpublished

theorem workflowId_of_runWorkflow {host : GraphHost} {s : AppState} {c : Readings}
    {actor : String} {workspaceId : Option String}
    (h : effect ∈ (ChatKit.runWorkflow host s c w actor workspaceId).2) :
    effect.context.workflowId = some w := by
  simp only [ChatKit.runWorkflow] at h
  split at h
  · cases h
  · split at h
    · cases h
    · rcases List.mem_append.mp h with hm | hm
      · rw [mem_createdRun hm]
        rfl
      · split at hm
        · rw [List.mem_singleton.mp hm]
          rfl
        · cases hm

theorem gateway_authorised (req : CallerRequest) (workflowValue : Json) (executes : Bool) :
    σ.Authorised (.gateway req workflowValue executes) := by
  intro effect heffect w hw
  simp only [effects, ChatKit.gateway] at heffect
  cases hauth : ChatKit.authenticateChatkitInvocation σ.rt σ.auth σ.app req workflowValue with
  | none => simp [hauth] at heffect
  | some result =>
    simp only [hauth] at heffect
    split at heffect
    · cases heffect
    · split at heffect
      · rw [workflowId_of_runWorkflow heffect] at hw
        cases hw
        exact permitted_of_invocation hauth
      · cases heffect

/-- The condition that the websocket and the trigger route leave to their callers: whoever
gets as far as an execution has to cover the workspace, which they do not check. -/
def CallerCovers : EntryRequest → Prop
  | .websocket req workflowRef messages => ∀ context w, σ.websocketCaller req = .ok context →
      σ.WebsocketReaches workflowRef messages w → σ.Covers context w
  | .trigger req workflowRef _ => ∀ context w, σ.httpCaller req = .ok context →
      context.isAuthenticated = true → σ.TriggerReaches workflowRef w → σ.Covers context w
  | .gateway _ _ _ => True

theorem entry_points_authorised_iff (σ : Setting) (request : EntryRequest) :
    σ.Authorised request ↔ σ.CallerCovers request := by
  cases request with
  | websocket req workflowRef messages =>
    constructor
    · intro h context w hc hreaches
      obtain ⟨effect, heffect, hw⟩ := effects_websocket_of_reaches hc hreaches
      obtain ⟨context', hc', hcovers⟩ := h effect heffect w hw
      rw [hc] at hc'
      cases hc'
      exact hcovers
    · intro h effect heffect w hw
      obtain ⟨context, w', hc, hreaches, hw'⟩ := reaches_of_effects_websocket heffect
      rw [hw'] at hw
      cases hw
      exact ⟨context, hc, h context w hc hreaches⟩
  | trigger req workflowRef actor =>
    constructor
    · intro h context w hc ha hreaches
      obtain ⟨effect, heffect, hw⟩ :=
        effects_trigger_of_reaches actor hc ha hreaches
      obtain ⟨context', hc', hcovers⟩ := h effect heffect w hw
      rw [hc] at hc'
      cases hc'
      exact hcovers
    · intro h effect heffect w hw
      obtain ⟨context, w', hc, ha, hreaches, hw'⟩ := reaches_of_effects_trigger heffect
      rw [hw'] at hw
      cases hw
      exact ⟨context, hc, h context w hc ha hreaches⟩
  | gateway req workflowValue executes =>
    exact ⟨fun _ => trivial, fun _ => gateway_authorised req workflowValue executes⟩

def globexToken : ServiceTokenRecord where
  identifier := "svc"
  secretHash := "tok"
  workspaceIds := ["globex"]

def foreignToken : Setting where
  store := .inMemory
  rt := .ascii
  host := ⟨fun _ _ => true, fun _ => true⟩
  auth := { serviceTokens := (∅ : Dict String ServiceTokenRecord).set "tok" globexToken }
  app := {
    workflows := (∅ : Dict Uuid Workflow).set 1 { workspaceId := some "acme" }
    versions := (∅ : Dict Uuid WorkflowVersion).set 10 { workflowId := 1 } }
  readings := ⟨0, 0, 0, 0⟩
  now := 0

def bearerTok : CallerRequest where
  headers := (∅ : Dict String String).set "authorization" "Bearer tok"

theorem not_covers_foreignToken {context : RequestContext}
    (h : context.workspaceIds = ["globex"]) : ¬ foreignToken.Covers context 1 := by
  intro hcovers
  have hacme := hcovers "acme" (by decide)
  rw [h] at hacme
  revert hacme
  simp only [foreignToken, List.not_mem_nil, or_false]
  decide

theorem foreign_token_executes :
    ¬ foreignToken.Authorised (.websocket bearerTok "1"
      [.obj [("type", .str "run_workflow"), ("graph_config", .obj [])]]) ∧
    ¬ foreignToken.Authorised (.trigger bearerTok "1" "chatkit") := by
  have hws : (foreignToken.websocketCaller bearerTok).toOption.map RequestContext.workspaceIds =
      some ["globex"] := by decide
  have hhttp : (foreignToken.httpCaller bearerTok).toOption.map RequestContext.workspaceIds =
      some ["globex"] := by decide
  constructor
  · intro h
    obtain ⟨context, hc, hcovers⟩ := h (.executed ⟨some 1, some "acme", []⟩ (.obj []))
      (by decide) 1 rfl
    rw [hc] at hws
    exact not_covers_foreignToken (Option.some.inj hws) hcovers
  · intro h
    obtain ⟨context, hc, hcovers⟩ := h (.runCreated ⟨some 1, none, []⟩ 1) (by decide) 1 rfl
    rw [hc] at hhttp
    exact not_covers_foreignToken (Option.some.inj hhttp) hcovers

end Setting

end Orcheo.Routers
