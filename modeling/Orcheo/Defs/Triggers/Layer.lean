import Orcheo.Defs.Triggers.Cron
import Orcheo.Defs.Triggers.Retry
import Orcheo.Defs.Triggers.Webhook

namespace Orcheo.Triggers

open Lib (Dict)

structure StateCleanupConfig where
  maxRetryStates : Nat := 1000
  maxCompletedWorkflows : Nat := 500
  cleanupIntervalHours : Nat := 1
  completedWorkflowTtlHours : Nat := 24
  deriving DecidableEq, Repr

structure TriggerLayer where
  cleanupConfig : StateCleanupConfig := {}
  webhookStates : Dict Uuid WebhookTriggerState := ∅
  cronStates : Dict Uuid CronTriggerState := ∅
  cronRunIndex : Dict Uuid Uuid := ∅
  retryConfigs : Dict Uuid RetryPolicyConfig := ∅
  retryStates : Dict Uuid RetryPolicyState := ∅
  runWorkflows : Dict Uuid Uuid := ∅
  completedWorkflows : Dict Uuid Instant := ∅
  lastCleanup : Instant := 0

structure CredentialHealthGuard where
  isWorkflowHealthy : Uuid → Bool
  hasReport : Uuid → Bool

structure CronDispatchPlan where
  workflowId : Uuid
  scheduledFor : Instant
  timezone : String
  deriving DecidableEq, Repr

structure TriggerDispatch where
  triggeredBy : String
  actor : String
  body : Json
  headers : Dict String String
  queryParams : Dict String String
  sourceIp : Option String

inductive DispatchError
  | credentialHealth
  | webhook (e : WebhookError)
  deriving DecidableEq, Repr

namespace TriggerLayer

def hours (n : Nat) : Duration := seconds (n * 3600)

variable (s : TriggerLayer)

def cleanupCompletedWorkflows (now : Instant) : TriggerLayer :=
  let ttl := hours s.cleanupConfig.completedWorkflowTtlHours
  let kept := s.completedWorkflows.filter (fun _ completedAt => decide (now - completedAt ≤ ttl))
  let excess := kept.entries.length - s.cleanupConfig.maxCompletedWorkflows
  let oldest := (kept.entries.mergeSort (fun a b => decide (a.2 ≤ b.2))).take excess
  { s with completedWorkflows := (oldest.map Prod.fst).foldl Dict.erase kept }

def maybeCleanupStates (now : Instant) : TriggerLayer :=
  if hours s.cleanupConfig.cleanupIntervalHours ≤ now - s.lastCleanup ∨
      s.cleanupConfig.maxRetryStates < s.retryStates.entries.length then
    { s.cleanupCompletedWorkflows now with lastCleanup := now }
  else s

def configureWebhook (w : Uuid) (config : WebhookTriggerConfig) :
    TriggerLayer :=
  { s with webhookStates := s.webhookStates.set w (WebhookTriggerState.updateConfig config) }

/-- `setdefault(workflow_id, WebhookTriggerState())` -/
def webhookState (w : Uuid) : WebhookTriggerState :=
  (s.webhookStates.get? w).getD {}

def getWebhookConfig (w : Uuid) : TriggerLayer × WebhookTriggerConfig :=
  ({ s with webhookStates := s.webhookStates.set w (s.webhookState w) }, (s.webhookState w).config)

def ensureHealthy (guard : Option CredentialHealthGuard) (w : Uuid) : Bool :=
  match guard with
  | none => true
  | some guard => guard.isWorkflowHealthy w || !guard.hasReport w

def prepareWebhookDispatch (rt : WebhookRuntime) (clock : WebhookClock)
    (guard : Option CredentialHealthGuard) (s : TriggerLayer) (w : Uuid) (r : WebhookRequest) :
    TriggerLayer × Except DispatchError TriggerDispatch :=
  if !ensureHealthy guard w then (s, .error .credentialHealth)
  else
    let (state, verdict) := (s.webhookState w).validate rt clock r
    let s := { s with webhookStates := s.webhookStates.set w state }
    match verdict with
    | .error e => (s, .error (.webhook e))
    | .ok () => (s, .ok {
        triggeredBy := "webhook"
        actor := "webhook"
        body := WebhookTriggerState.serializePayload rt r.payload
        headers := state.scrubHeadersForStorage (r.normalizedHeaders rt)
        queryParams := r.normalizedQuery
        sourceIp := r.sourceIp })

def configureCron (w : Uuid) (config : CronTriggerConfig)
    (lastDispatchedAt : Option Instant) : TriggerLayer :=
  let state := match s.cronStates.get? w with
    | none => CronTriggerState.new config lastDispatchedAt
    | some existing => existing.updateConfig config lastDispatchedAt
  { s with cronStates := s.cronStates.set w state }

def getCronConfig (w : Uuid) : Option CronTriggerConfig :=
  (s.cronStates.get? w).map CronTriggerState.config

def removeCronConfig (w : Uuid) : TriggerLayer :=
  match s.cronStates.get? w with
  | none => s
  | some _ => { s with
      cronStates := s.cronStates.erase w
      cronRunIndex := s.cronRunIndex.filter (fun _ stored => decide (stored ≠ w)) }

def guardedHealthy (guard : Option CredentialHealthGuard) (w : Uuid) : Bool :=
  match guard with
  | none => true
  | some guard => guard.isWorkflowHealthy w

def planFor (cal : Calendar) (guard : Option CredentialHealthGuard) (now : Instant)
    (w : Uuid) (state : CronTriggerState) : Option CronDispatchPlan :=
  if !guardedHealthy guard w then none
  else match (state.peekDue cal now).2 with
    | .ok (some dueAt) =>
      if state.canDispatch then some ⟨w, dueAt, state.config.timezone⟩ else none
    | _ => none

/-- Looking at a schedule stores its pending occurrence; unhealthy workflows are not looked at. -/
def collectDueCronDispatches (cal : Calendar) (guard : Option CredentialHealthGuard)
    (s : TriggerLayer) (now : Instant) : TriggerLayer × List CronDispatchPlan :=
  ({ s with cronStates := s.cronStates.mapValues (fun w state =>
      if guardedHealthy guard w then (state.peekDue cal now).1 else state) },
    s.cronStates.entries.filterMap (fun e => planFor cal guard now e.1 e.2))

def commitCronDispatch (cal : Calendar) (s : TriggerLayer) (w : Uuid) :
    TriggerLayer × Except CronError Unit :=
  match s.cronStates.get? w with
  | none => (s, .ok ())
  | some state =>
    let (state, consumed) := state.consumeDue cal
    ({ s with cronStates := s.cronStates.set w state }, consumed.map (fun _ => ()))

def registerCronRun (r : Uuid) : TriggerLayer × Except CronError Unit :=
  match s.runWorkflows.get? r with
  | none => (s, .ok ())
  | some w =>
    let indexed := { s with cronRunIndex := s.cronRunIndex.set r w }
    match s.cronStates.get? w with
    | none => (indexed, .ok ())
    | some state =>
      match state.registerRun r with
      | .ok state => ({ indexed with cronStates := s.cronStates.set w state }, .ok ())
      | .error e => ({ indexed with cronRunIndex := indexed.cronRunIndex.erase r }, .error e)

def releaseCronRun (r : Uuid) : TriggerLayer :=
  match s.cronRunIndex.get? r with
  | none => s
  | some w =>
    let s := { s with cronRunIndex := s.cronRunIndex.erase r }
    match s.cronStates.get? w with
    | none => s
    | some state => { s with cronStates := s.cronStates.set w (state.releaseRun r) }

/-- `runIds` lists the set the source iterates over. -/
def syncCronActiveRuns (w : Uuid) (runIds : List Uuid) : TriggerLayer :=
  match s.cronStates.get? w with
  | none => s
  | some state =>
    let kept := s.cronRunIndex.filter (fun _ stored => decide (stored ≠ w))
    { s with
      cronStates := s.cronStates.set w (state.syncActiveRuns runIds.toFinset)
      cronRunIndex := runIds.foldl (fun index r => index.set r w) kept }

def configureRetryPolicy (w : Uuid) (config : RetryPolicyConfig) :
    TriggerLayer := { s with retryConfigs := s.retryConfigs.set w config }

def getRetryPolicyConfig (w : Uuid) : TriggerLayer × RetryPolicyConfig :=
  match s.retryConfigs.get? w with
  | some config => (s, config)
  | none => (s.configureRetryPolicy w {}, {})

def trackRun (w r : Uuid) (now : Instant) : TriggerLayer :=
  let config := (s.retryConfigs.get? w).getD {}
  maybeCleanupStates { s with
    runWorkflows := s.runWorkflows.set r w
    retryStates := s.retryStates.set r { config := config } } now

def nextRetryForRun (r : Uuid) (failedAt : Instant) (draw : ℚ) :
    TriggerLayer × Option RetryDecision :=
  match s.retryStates.get? r with
  | none => (s, none)
  | some state =>
    match state.nextRetry failedAt draw with
    | (_, none) => ({ s with
        retryStates := s.retryStates.erase r
        runWorkflows := s.runWorkflows.erase r }, none)
    | (state, some decision) =>
      ({ s with retryStates := s.retryStates.set r state }, some decision)

def clearRetryState (r : Uuid) (now : Instant) : TriggerLayer :=
  { s with
    runWorkflows := s.runWorkflows.erase r
    retryStates := s.retryStates.erase r
    completedWorkflows := match s.runWorkflows.get? r with
      | some w => s.completedWorkflows.set w now
      | none => s.completedWorkflows }

def runsOf (w : Uuid) : List Uuid :=
  (s.runWorkflows.filter (fun _ stored => decide (stored = w))).keys

def removeWorkflow (w : Uuid) (now : Instant) : TriggerLayer :=
  { s with
    webhookStates := s.webhookStates.erase w
    cronStates := s.cronStates.erase w
    retryConfigs := s.retryConfigs.erase w
    retryStates := (s.runsOf w).foldl Dict.erase s.retryStates
    runWorkflows := (s.runsOf w).foldl Dict.erase s.runWorkflows
    cronRunIndex := (s.runsOf w).foldl Dict.erase s.cronRunIndex
    completedWorkflows := s.completedWorkflows.set w now }

def reset (now : Instant) : TriggerLayer :=
  { cleanupConfig := s.cleanupConfig, lastCleanup := now }

end TriggerLayer

inductive LayerOp
  | configureWebhook (w : Uuid) (config : WebhookTriggerConfig)
  | getWebhookConfig (w : Uuid)
  | prepareWebhookDispatch (clock : WebhookClock) (guard : Option CredentialHealthGuard)
      (w : Uuid) (r : WebhookRequest)
  | configureCron (w : Uuid) (config : CronTriggerConfig) (lastDispatchedAt : Option Instant)
  | removeCronConfig (w : Uuid)
  | collect (guard : Option CredentialHealthGuard) (now : Instant)
  | commit (w : Uuid)
  | register (r : Uuid)
  | release (r : Uuid)
  | sync (w : Uuid) (runIds : List Uuid)
  | configureRetryPolicy (w : Uuid) (config : RetryPolicyConfig)
  | trackRun (w r : Uuid) (now : Instant)
  | nextRetryForRun (r : Uuid) (failedAt : Instant) (draw : ℚ)
  | clearRetryState (r : Uuid) (now : Instant)
  | removeWorkflow (w : Uuid) (now : Instant)
  | reset (now : Instant)

def TriggerLayer.step (rt : WebhookRuntime) (cal : Calendar) (s : TriggerLayer) :
    LayerOp → TriggerLayer
  | .configureWebhook w config => s.configureWebhook w config
  | .getWebhookConfig w => (s.getWebhookConfig w).1
  | .prepareWebhookDispatch clock guard w r => (s.prepareWebhookDispatch rt clock guard w r).1
  | .configureCron w config last => s.configureCron w config last
  | .removeCronConfig w => s.removeCronConfig w
  | .collect guard now => (s.collectDueCronDispatches cal guard now).1
  | .commit w => (s.commitCronDispatch cal w).1
  | .register r => (s.registerCronRun r).1
  | .release r => s.releaseCronRun r
  | .sync w runIds => s.syncCronActiveRuns w runIds
  | .configureRetryPolicy w config => s.configureRetryPolicy w config
  | .trackRun w r now => s.trackRun w r now
  | .nextRetryForRun r failedAt draw => (s.nextRetryForRun r failedAt draw).1
  | .clearRetryState r now => s.clearRetryState r now
  | .removeWorkflow w now => s.removeWorkflow w now
  | .reset now => s.reset now

end Orcheo.Triggers
