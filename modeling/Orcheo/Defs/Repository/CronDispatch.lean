import Orcheo.Defs.Repository.Runs
import Orcheo.Defs.Triggers.Layer

/-! Cron dispatch by several processes over one database.  Each process keeps its own
trigger layer; the row of a schedule is locked while a run is created from it. -/

universe u

namespace Orcheo.Repository

open Lib (Dict)
open Triggers (Calendar CredentialHealthGuard CronDispatchPlan CronTriggerConfig LayerOp
  TriggerLayer WebhookRuntime)

structure CronRow where
  config : CronTriggerConfig
  lastDispatchedAt : Option Instant := none
  deriving DecidableEq

inductive TxStep
  | locked | checked | inserted (r : Uuid) (row : RunRow)
  deriving DecidableEq

/-- The open transaction of `_create_cron_run_once`, which holds the row of the schedule:
the configuration it read there, and how far it has come. -/
structure Tx where
  plan : CronDispatchPlan
  config : CronTriggerConfig
  done : TxStep := .locked
  deriving DecidableEq

inductive Stage
  | idle | resolved (plan : CronDispatchPlan) | inTx (tx : Tx)
  deriving DecidableEq

structure Process where
  layer : TriggerLayer := {}
  plans : List CronDispatchPlan := []
  stage : Stage := .idle

structure CronSystem (P : Type u) where
  /-- `is_archived` of each workflow -/
  workflows : Dict Uuid Bool := ∅
  triggers : Dict Uuid CronRow := ∅
  runs : RunTable := ∅
  locks : Dict Uuid P := ∅
  procs : P → Process := fun _ => {}

inductive CronOp (P : Type u)
  | createWorkflow (w : Uuid)
  | unarchiveWorkflow (w : Uuid)
  | archiveWorkflow (p : P) (w : Uuid)
  | configureCronTrigger (p : P) (w : Uuid) (config : CronTriggerConfig)
  | deleteCronTrigger (p : P) (w : Uuid)
  | onRuns (op : RunOp)
  | markRun (r : Uuid) (actor : String) (m : RunTable.Mark) (c : Readings)
  | onLayer (p : P) (op : LayerOp)
  | refresh (p : P)
  | collect (p : P) (guard : Option CredentialHealthGuard) (now : Instant)
      (inWorkspace : Uuid → Bool)
  | resolve (p : P) (versioned healthy : Bool)
  | lockRow (p : P)
  | checkOverlap (p : P)
  | insertRun (p : P) (r : Uuid) (c : Readings)
  | rollback (p : P) (quotaExceeded : Bool)
  | commit (p : P) (now : Instant)

def WorkflowRunStatus.isActive (status : WorkflowRunStatus) : Bool :=
  decide (status = .pending ∨ status = .running)

/-- `workflow_id = %s AND triggered_by = 'cron' AND status IN ('pending', 'running')` -/
def RunRow.isActiveCronRunOf (w : Uuid) (row : RunRow) : Bool :=
  decide (row.payload.workflowId = w) && decide (row.payload.triggeredBy = "cron") &&
    row.status.isActive

/-- The layer after `_refresh_cron_triggers` read `desired` and the active runs. -/
def refreshCronTriggers (layer : TriggerLayer) (desired : List (Uuid × CronRow))
    (activeRuns : Uuid → List Uuid) : TriggerLayer :=
  let stale := layer.cronStates.keys.filter (· ∉ desired.map Prod.fst)
  let layer := stale.foldl TriggerLayer.removeCronConfig layer
  desired.foldl (fun layer e =>
    let current := (layer.cronStates.get? e.1).any (fun state =>
      decide (state.config = e.2.config ∧ state.lastDispatchedAt = e.2.lastDispatchedAt))
    let layer := if current then layer
      else layer.configureCron e.1 e.2.config e.2.lastDispatchedAt
    layer.syncCronActiveRuns e.1 (activeRuns e.1)) layer

/-- What follows the commit in the process.  An exception leaves the dispatch loop. -/
def advanceLayer (cal : Calendar) (layer : TriggerLayer) (w r : Uuid) (now : Instant) :
    TriggerLayer × Bool :=
  match (layer.trackRun w r now).registerCronRun r with
  | (layer, .error _) => (layer, false)
  | (layer, .ok ()) => match layer.commitCronDispatch cal w with
    | (layer, .error _) => (layer, false)
    | (layer, .ok ()) => (layer, true)

def Stage.tx : Stage → Option Tx
  | idle => none
  | resolved _ => none
  | inTx tx => some tx

namespace CronSystem

variable {P : Type u} [DecidableEq P] (s : CronSystem P) (p : P)

def setProc (proc : Process) : CronSystem P :=
  { s with procs := Function.update s.procs p proc }

def activeCronRuns (w : Uuid) : List Uuid :=
  (s.runs.entries.filter (fun e => e.2.isActiveCronRunOf w)).map Prod.fst

def desired : List (Uuid × CronRow) :=
  s.triggers.entries.filter (fun e => decide (s.workflows.get? e.1 = some false))

def isLocked (w : Uuid) : Bool := (s.locks.get? w).isSome

/-- The transaction of `p` ends: its lock is released. -/
def endTx (keepPlans : Bool) : CronSystem P :=
  let proc := s.procs p
  { s.setProc p { proc with stage := .idle, plans := if keepPlans then proc.plans else [] } with
    locks := match proc.stage.tx with
      | some tx => s.locks.erase tx.plan.workflowId
      | none => s.locks }

def archiveWorkflow (w : Uuid) : CronSystem P :=
  if s.workflows.get? w = some false ∧ s.isLocked w = false then
    { s.setProc p { s.procs p with layer := (s.procs p).layer.removeCronConfig w } with
      workflows := s.workflows.set w true
      triggers := s.triggers.erase w }
  else s

def configureCronTrigger (w : Uuid) (config : CronTriggerConfig) :
    CronSystem P :=
  if s.workflows.get? w = some false ∧ s.isLocked w = false then
    { s.setProc p { s.procs p with layer := (s.procs p).layer.configureCron w config none } with
      triggers := s.triggers.set w (match s.triggers.get? w with
        | some row => { row with config := config }
        | none => { config := config }) }
  else s

def deleteCronTrigger (w : Uuid) : CronSystem P :=
  if (s.workflows.get? w).isSome ∧ s.isLocked w = false then
    { s.setProc p { s.procs p with layer := (s.procs p).layer.removeCronConfig w } with
      triggers := s.triggers.erase w }
  else s

def refresh : CronSystem P :=
  s.setProc p { s.procs p with
    layer := refreshCronTriggers (s.procs p).layer s.desired s.activeCronRuns }

def collect (cal : Calendar) (s : CronSystem P) (p : P) (guard : Option CredentialHealthGuard)
    (now : Instant) (inWorkspace : Uuid → Bool) : CronSystem P :=
  match (s.procs p).stage with
  | .idle =>
    let (layer, plans) := (s.procs p).layer.collectDueCronDispatches cal guard now
    s.setProc p { s.procs p with
      layer := layer
      plans := plans.filter (fun plan => inWorkspace plan.workflowId) }
  | _ => s

/-- The next plan: a workflow that is gone or archived loses its cached schedule, one
without a version or with unhealthy credentials is passed over. -/
def resolve (versioned healthy : Bool) : CronSystem P :=
  let proc := s.procs p
  match proc.stage, proc.plans with
  | .idle, plan :: plans =>
    if s.workflows.get? plan.workflowId ≠ some false then
      s.setProc p { proc with
        layer := proc.layer.removeCronConfig plan.workflowId
        plans := plans }
    else if versioned && healthy then
      s.setProc p { proc with plans := plans, stage := .resolved plan }
    else s.setProc p { proc with plans := plans }
  | _, _ => s

/-- `FOR UPDATE SKIP LOCKED`, and the comparisons with the row it returned. -/
def lockRow : CronSystem P :=
  let proc := s.procs p
  match proc.stage with
  | .resolved plan =>
    match s.triggers.get? plan.workflowId with
    | none => s.endTx p true
    | some row =>
      if s.isLocked plan.workflowId then s.endTx p true
      else if some row.config ≠ proc.layer.getCronConfig plan.workflowId then s.endTx p true
      else if row.lastDispatchedAt.any (fun last => decide (plan.scheduledFor ≤ last)) then
        s.endTx p true
      else
        { s.setProc p { proc with stage := .inTx ⟨plan, row.config, .locked⟩ } with
          locks := s.locks.set plan.workflowId p }
  | _ => s

def checkOverlap : CronSystem P :=
  let proc := s.procs p
  match proc.stage with
  | .inTx ⟨plan, config, .locked⟩ =>
    if !config.allowOverlapping && !(s.activeCronRuns plan.workflowId).isEmpty then
      s.endTx p true
    else s.setProc p { proc with stage := .inTx ⟨plan, config, .checked⟩ }
  | _ => s

def insertRun (r : Uuid) (c : Readings) : CronSystem P :=
  let proc := s.procs p
  match proc.stage with
  | .inTx ⟨plan, config, .checked⟩ =>
    let input : CronInput := ⟨plan.scheduledFor, plan.timezone⟩
    let row : RunRow := .new plan.workflowId "cron" "cron" (some input) true c
    s.setProc p { proc with stage := .inTx ⟨plan, config, .inserted r row⟩ }
  | _ => s

/-- The run and `last_dispatched_at` become visible together; a repeated primary key
fails the transaction. -/
def commit (cal : Calendar) (s : CronSystem P) (p : P) (now : Instant) : CronSystem P :=
  let proc := s.procs p
  match proc.stage with
  | .inTx ⟨plan, _, .inserted r row⟩ =>
    match s.runs.get? r with
    | some _ => s.endTx p false
    | none =>
      let (layer, completed) := advanceLayer cal proc.layer plan.workflowId r now
      { s.setProc p {
          layer := layer
          plans := if completed then proc.plans else []
          stage := .idle } with
        runs := s.runs.set r row
        triggers := match s.triggers.get? plan.workflowId with
          | some trigger => s.triggers.set plan.workflowId
              { trigger with lastDispatchedAt := some plan.scheduledFor }
          | none => s.triggers
        locks := s.locks.erase plan.workflowId }
  | _ => s

def step (rt : WebhookRuntime) (cal : Calendar) (s : CronSystem P) : CronOp P → CronSystem P
  | .createWorkflow w =>
    if s.workflows.get? w = none then { s with workflows := s.workflows.set w false } else s
  | .unarchiveWorkflow w =>
    if s.workflows.get? w = some true then { s with workflows := s.workflows.set w false } else s
  | .archiveWorkflow p w => s.archiveWorkflow p w
  | .configureCronTrigger p w config => s.configureCronTrigger p w config
  | .deleteCronTrigger p w => s.deleteCronTrigger p w
  | .onRuns op => { s with runs := s.runs.step op }
  | .markRun r actor m c => { s with runs := (s.runs.markRun r actor m c).1 }
  | .onLayer p op => s.setProc p { s.procs p with layer := (s.procs p).layer.step rt cal op }
  | .refresh p => s.refresh p
  | .collect p guard now inWorkspace => s.collect cal p guard now inWorkspace
  | .resolve p versioned healthy => s.resolve p versioned healthy
  | .lockRow p => s.lockRow p
  | .checkOverlap p => s.checkOverlap p
  | .insertRun p r c => s.insertRun p r c
  | .rollback p quotaExceeded => s.endTx p quotaExceeded
  | .commit p now => s.commit cal p now

end CronSystem

end Orcheo.Repository
