import Orcheo.Defs.Repository.RunsLaws
import Orcheo.Defs.Repository.CronDispatch

universe u

namespace Orcheo.Repository

open Lib
open Triggers (Calendar WebhookRuntime)

/-- How runs move outside the dispatcher: they keep what they are, and an inactive run
stays inactive. -/
structure RunRow.Evolves (row row' : RunRow) : Prop where
  workflowId : row'.payload.workflowId = row.payload.workflowId
  triggeredBy : row'.payload.triggeredBy = row.payload.triggeredBy
  cronInput : row'.payload.cronInput = row.payload.cronInput
  inactive : row.status.isActive = false → row'.status.isActive = false

def RunRow.Agrees (row : RunRow) : Prop := row.status = row.payload.status

theorem WorkflowRunStatus.isActive_eq (status : WorkflowRunStatus) :
    status.isActive = !status.isTerminal := by
  cases status <;> rfl

namespace RunRow

theorem evolves_refl (row : RunRow) : row.Evolves row := ⟨rfl, rfl, rfl, id⟩

theorem evolves_store {row : RunRow} {run : WorkflowRun} (h : row.Agrees)
    (hd : row.payload.status.isTerminal = false) (hw : run.workflowId = row.payload.workflowId)
    (ht : run.triggeredBy = row.payload.triggeredBy) (hc : run.cronInput = row.payload.cronInput) :
    row.Evolves (row.store run) where
  workflowId := hw
  triggeredBy := ht
  cronInput := hc
  inactive hi := by
    rw [h, WorkflowRunStatus.isActive_eq, hd] at hi
    cases hi

end RunRow

namespace WorkflowRun

variable {c : Readings} {actor error : String} {run run' : WorkflowRun}
  {output : Option (List (String × Json))} {reason : Option String}

theorem keeps_markStarted (h : run.markStarted c actor = .ok run') :
    run'.workflowId = run.workflowId ∧ run'.triggeredBy = run.triggeredBy ∧
      run'.cronInput = run.cronInput := by
  unfold markStarted at h
  split at h
  case isTrue => cases h; exact ⟨rfl, rfl, rfl⟩
  case isFalse => cases h

theorem keeps_markSucceeded (h : run.markSucceeded c actor output = .ok run') :
    run'.workflowId = run.workflowId ∧ run'.triggeredBy = run.triggeredBy ∧
      run'.cronInput = run.cronInput := by
  unfold markSucceeded at h
  split at h
  case isTrue => cases h; exact ⟨rfl, rfl, rfl⟩
  case isFalse => cases h

theorem keeps_markFailed (h : run.markFailed c actor error = .ok run') :
    run'.workflowId = run.workflowId ∧ run'.triggeredBy = run.triggeredBy ∧
      run'.cronInput = run.cronInput := by
  unfold markFailed at h
  split at h
  case isTrue => cases h; exact ⟨rfl, rfl, rfl⟩
  case isFalse => cases h

theorem keeps_markCancelled (h : run.markCancelled c actor reason = .ok run') :
    run'.workflowId = run.workflowId ∧ run'.triggeredBy = run.triggeredBy ∧
      run'.cronInput = run.cronInput := by
  unfold markCancelled at h
  split at h
  case isTrue => cases h
  case isFalse => cases h; exact ⟨rfl, rfl, rfl⟩

end WorkflowRun

open WorkflowRun (keeps_markStarted keeps_markSucceeded status_markSucceeded keeps_markFailed status_markFailed)

theorem RowStep.evolves {r : Uuid} {row row' : RunRow} {op : RunOp} (h : row.Agrees)
    (hs : RowStep r row op row') : row'.Agrees ∧ row.Evolves row' := by
  cases hs with
  | same => exact ⟨h, row.evolves_refl⟩
  | claim hp hm =>
    obtain ⟨hw, ht, hc⟩ := keeps_markStarted hm
    have he := RunRow.evolves_store h (by rw [hp]; rfl) hw ht hc
    exact ⟨rfl, he.workflowId, he.triggeredBy, he.cronInput, he.inactive⟩
  | renew => exact ⟨h, rfl, rfl, rfl, id⟩
  | succeed _ hm =>
    obtain ⟨hw, ht, hc⟩ := keeps_markSucceeded hm
    have hr := (status_markSucceeded hm).1
    have he := RunRow.evolves_store h (by rw [hr]; rfl) hw ht hc
    exact ⟨rfl, he.workflowId, he.triggeredBy, he.cronInput, he.inactive⟩
  | fail _ hm =>
    obtain ⟨hw, ht, hc⟩ := keeps_markFailed hm
    have he := RunRow.evolves_store h (status_markFailed hm).1 hw ht hc
    exact ⟨rfl, he.workflowId, he.triggeredBy, he.cronInput, he.inactive⟩
  | orphan _ hm =>
    obtain ⟨hw, ht, hc⟩ := keeps_markFailed hm
    have he := RunRow.evolves_store h (status_markFailed hm).1 hw ht hc
    exact ⟨rfl, he.workflowId, he.triggeredBy, he.cronInput, he.inactive⟩
  | cancel hm =>
    obtain ⟨hw, ht, hc⟩ := WorkflowRun.keeps_markCancelled hm
    have he := RunRow.evolves_store h (WorkflowRun.status_markCancelled hm).1 hw ht hc
    exact ⟨rfl, he.workflowId, he.triggeredBy, he.cronInput, he.inactive⟩
  | stale => exact ⟨h, rfl, rfl, rfl, id⟩
  | enqueued => exact ⟨h, rfl, rfl, rfl, id⟩

theorem RunTable.Mark.keeps {c : Readings} {actor : String} {m : Mark} {run run' : WorkflowRun}
    (h : m.apply c actor run = .ok run') :
    run.status.isTerminal = false ∧ run'.workflowId = run.workflowId ∧
      run'.triggeredBy = run.triggeredBy ∧ run'.cronInput = run.cronInput := by
  cases m with
  | started =>
    refine ⟨?_, keeps_markStarted h⟩
    rw [(WorkflowRun.status_markStarted h).1]
    rfl
  | succeeded output =>
    refine ⟨?_, keeps_markSucceeded h⟩
    rw [(status_markSucceeded h).1]
    rfl
  | failed error => exact ⟨(status_markFailed h).1, keeps_markFailed h⟩

namespace RunRow

variable {row row' : RunRow} {c : Readings} {actor : String} {m : RunTable.Mark}
  {run : WorkflowRun}

theorem update_mark (h : row.update (m.apply c actor) none = .ok (row', run)) :
    m.apply c actor row.payload = .ok run ∧
      (row' = row.store run ∨ row' = (row.store run).disowned) := by
  cases hm : m.apply c actor row.payload with
  | error e => simp [update, hm] at h
  | ok run' =>
    simp only [update, hm, ne_eq, not_true_eq_false, false_and, if_false, Except.ok.injEq,
      Prod.mk.injEq] at h
    obtain ⟨rfl, rfl⟩ := h
    refine ⟨rfl, ?_⟩
    split
    · exact .inr rfl
    · exact .inl rfl

theorem agrees_update (h : row.update (m.apply c actor) none = .ok (row', run)) :
    row'.Agrees := by
  cases (update_mark h).2 with
  | inl h => rw [h]; rfl
  | inr h => rw [h]; rfl

theorem evolves_update (agrees : row.Agrees)
    (h : row.update (m.apply c actor) none = .ok (row', run)) : row.Evolves row' := by
  obtain ⟨hm, stored⟩ := update_mark h
  obtain ⟨hd, hw, ht, hc⟩ := RunTable.Mark.keeps hm
  have he := evolves_store agrees hd hw ht hc
  cases stored with
  | inl h => rw [h]; exact he
  | inr h => rw [h]; exact ⟨he.workflowId, he.triggeredBy, he.cronInput, he.inactive⟩

end RunRow

namespace RunTable

def Agrees (t : RunTable) : Prop := ∀ r row, t.get? r = some row → row.Agrees

def Evolves (t t' : RunTable) : Prop :=
  ∀ r row', t'.get? r = some row' →
    (∃ row, t.get? r = some row ∧ row.Evolves row') ∨ row'.payload.cronInput = none

theorem evolves_step {t : RunTable} (h : t.Agrees) (op : RunOp) :
    (t.step op).Agrees ∧ t.Evolves (t.step op) := by
  have hrow : ∀ r row', (t.step op).get? r = some row' → row'.Agrees ∧
      ((∃ row, t.get? r = some row ∧ row.Evolves row') ∨ row'.payload.cronInput = none) := by
    intro r row' hr'
    cases hr : t.get? r with
    | none =>
      cases t.get?_step_none op hr with
      | inl hn => exact absurd (hn.symm.trans hr') (by simp)
      | inr hn =>
        obtain ⟨_, _, _, _, _, hn⟩ := hn
        cases hn.symm.trans hr'
        exact ⟨rfl, .inr rfl⟩
    | some row =>
      obtain ⟨row'', hr'', hs⟩ := t.get?_step op hr
      cases hr''.symm.trans hr'
      obtain ⟨ha, he⟩ := hs.evolves (h r row hr)
      exact ⟨ha, .inl ⟨row, rfl, he⟩⟩
  exact ⟨fun r row' hr' => (hrow r row' hr').1, fun r row' hr' => (hrow r row' hr').2⟩

theorem evolves_markRun {t : RunTable} (h : t.Agrees) (q : Uuid) (actor : String) (m : Mark)
    (c : Readings) : (t.markRun q actor m c).1.Agrees ∧ t.Evolves (t.markRun q actor m c).1 := by
  have hrow : ∀ r row', (t.markRun q actor m c).1.get? r = some row' → row'.Agrees ∧
      ∃ row, t.get? r = some row ∧ row.Evolves row' := by
    intro r row' hr'
    cases t.get?_onRow q r (RunRow.update (m.apply c actor) none) with
    | inl hs =>
      have hr := hs.symm.trans hr'
      exact ⟨h r row' hr, row', hr, row'.evolves_refl⟩
    | inr hs =>
      obtain ⟨rfl, row, row'', run, hr, hu, hs⟩ := hs
      cases hs.symm.trans hr'
      exact ⟨RunRow.agrees_update hu, row, hr, RunRow.evolves_update (h r row hr) hu⟩
  exact ⟨fun r row' hr' => (hrow r row' hr').1, fun r row' hr' => .inl (hrow r row' hr').2⟩

end RunTable

section System

variable {P : Type u}

def CronOp.Deletes (w : Uuid) : CronOp P → Prop
  | archiveWorkflow _ w' => w' = w
  | deleteCronTrigger _ w' => w' = w
  | _ => False

namespace CronSystem

def tx (s : CronSystem P) (p : P) : Option Tx := (s.procs p).stage.tx

def lastDispatched (s : CronSystem P) (w : Uuid) : Option Instant :=
  (s.triggers.get? w).bind CronRow.lastDispatchedAt

variable [DecidableEq P]

inductive Effect (s : CronSystem P) : CronOp P → CronSystem P → Prop
  | quiet {op s'} : s'.triggers = s.triggers → s'.runs = s.runs → s'.locks = s.locks →
      (∀ q, s'.tx q = s.tx q) → Effect s op s'
  | runs {op s'} : s'.triggers = s.triggers → s'.locks = s.locks → (∀ q, s'.tx q = s.tx q) →
      (s.runs.Agrees → s'.runs.Agrees ∧ s.runs.Evolves s'.runs) → Effect s op s'
  | trigger {op s'} (w) : s.locks.get? w = none → s'.runs = s.runs → s'.locks = s.locks →
      (∀ q, s'.tx q = s.tx q) → (∀ w', w' ≠ w → s'.triggers.get? w' = s.triggers.get? w') →
      (¬ op.Deletes w → s'.lastDispatched w = s.lastDispatched w) → Effect s op s'
  | ended {op s'} (p tx) : s.tx p = some tx → s'.triggers = s.triggers → s'.runs = s.runs →
      s'.locks = s.locks.erase tx.plan.workflowId →
      (∀ q, s'.tx q = if q = p then none else s.tx q) → Effect s op s'
  | locked {op s'} (p plan row) : s.tx p = none → s.locks.get? plan.workflowId = none →
      s.triggers.get? plan.workflowId = some row →
      (∀ last, row.lastDispatchedAt = some last → last < plan.scheduledFor) →
      s'.triggers = s.triggers → s'.runs = s.runs → s'.locks = s.locks.set plan.workflowId p →
      (∀ q, s'.tx q = if q = p then some ⟨plan, row.config, .locked⟩ else s.tx q) → Effect s op s'
  | checked {op s'} (p plan config) : s.tx p = some ⟨plan, config, .locked⟩ →
      (config.allowOverlapping = false → s.activeCronRuns plan.workflowId = []) →
      s'.triggers = s.triggers → s'.runs = s.runs → s'.locks = s.locks →
      (∀ q, s'.tx q = if q = p then some ⟨plan, config, .checked⟩ else s.tx q) → Effect s op s'
  | inserted {op s'} (p plan config r c) : s.tx p = some ⟨plan, config, .checked⟩ →
      s'.triggers = s.triggers → s'.runs = s.runs → s'.locks = s.locks →
      (∀ q, s'.tx q = if q = p then some ⟨plan, config, .inserted r (.new plan.workflowId "cron"
        "cron" (some ⟨plan.scheduledFor, plan.timezone⟩) true c)⟩ else s.tx q) → Effect s op s'
  | committed {op s'} (p plan config r row) : s.tx p = some ⟨plan, config, .inserted r row⟩ →
      s.runs.get? r = none → s'.runs = s.runs.set r row →
      s'.locks = s.locks.erase plan.workflowId →
      (∀ w, w ≠ plan.workflowId → s'.triggers.get? w = s.triggers.get? w) →
      s'.triggers.get? plan.workflowId = (s.triggers.get? plan.workflowId).map
        (fun row => { row with lastDispatchedAt := some plan.scheduledFor }) →
      (∀ q, s'.tx q = if q = p then none else s.tx q) → ¬ op.Deletes plan.workflowId →
      Effect s op s'

theorem tx_setProc (s : CronSystem P) (p q : P) (proc : Process) :
    (s.setProc p proc).tx q = if q = p then proc.stage.tx else s.tx q := by
  by_cases h : q = p
  · simp [tx, setProc, h]
  · simp [tx, setProc, h]

theorem tx_setProc_of_eq {s : CronSystem P} {p : P} {proc : Process}
    (h : proc.stage.tx = s.tx p) (q : P) : (s.setProc p proc).tx q = s.tx q := by
  rw [tx_setProc]
  split
  case isTrue hq => rw [hq, h]
  case isFalse => rfl

section

variable (s : CronSystem P) (op : CronOp P) (p : P)
include s op p

theorem effect_endTx (keepPlans : Bool) :
    s.Effect op (s.endTx p keepPlans) := by
  cases h : (s.procs p).stage.tx with
  | none =>
    apply Effect.quiet
    · rfl
    · rfl
    · simp [endTx, h]
    · exact tx_setProc_of_eq h.symm
  | some tx =>
    apply Effect.ended p tx h
    · rfl
    · rfl
    · simp [endTx, h]
    · exact fun q => tx_setProc s p q _

theorem effect_lockRow :
    s.Effect op (s.lockRow p) := by
  simp only [lockRow]
  split
  case h_2 => exact .quiet rfl rfl rfl fun _ => rfl
  case h_1 plan hstage =>
    split
    case h_1 => exact s.effect_endTx op p true
    case h_2 row hrow =>
      split
      case isTrue => exact s.effect_endTx op p true
      case isFalse hl =>
        split
        case isTrue => exact s.effect_endTx op p true
        case isFalse =>
          split
          case isTrue => exact s.effect_endTx op p true
          case isFalse hlast =>
            apply Effect.locked p plan row
            · simp [tx, hstage, Stage.tx]
            · simpa [isLocked] using hl
            · exact hrow
            · intro last h
              simpa [h] using hlast
            · rfl
            · rfl
            · rfl
            · exact fun q => tx_setProc s p q _

theorem effect_checkOverlap :
    s.Effect op (s.checkOverlap p) := by
  simp only [checkOverlap]
  split
  case h_2 => exact .quiet rfl rfl rfl fun _ => rfl
  case h_1 plan config hstage =>
    split
    case isTrue => exact s.effect_endTx op p true
    case isFalse hc =>
      apply Effect.checked p plan config
      · simp [tx, hstage, Stage.tx]
      · intro h
        simpa [h] using hc
      · rfl
      · rfl
      · rfl
      · exact fun q => tx_setProc s p q _

theorem effect_insertRun (r : Uuid) (c : Readings) :
    s.Effect op (s.insertRun p r c) := by
  simp only [insertRun]
  split
  case h_2 => exact .quiet rfl rfl rfl fun _ => rfl
  case h_1 plan config hstage =>
    apply Effect.inserted p plan config r c
    · simp [tx, hstage, Stage.tx]
    · rfl
    · rfl
    · rfl
    · exact fun q => tx_setProc s p q _

end

theorem effect_commit (cal : Calendar) (s : CronSystem P) (p : P) (now : Instant) :
    s.Effect (.commit p now) (s.commit cal p now) := by
  simp only [commit]
  split
  case h_2 => exact .quiet rfl rfl rfl fun _ => rfl
  case h_1 plan config r row hstage =>
    split
    case h_1 => exact s.effect_endTx _ p false
    case h_2 hr =>
      apply Effect.committed p plan config r row
      · simp [tx, hstage, Stage.tx]
      · exact hr
      · rfl
      · rfl
      · intro w hw
        cases s.triggers.get? plan.workflowId with
        | none => rfl
        | some trigger => simp [hw]
      · cases h : s.triggers.get? plan.workflowId with
        | none => simpa using h
        | some trigger => simp
      · exact fun q => tx_setProc s p q _
      · exact id

theorem effect_step (rt : WebhookRuntime) (cal : Calendar) (s : CronSystem P) (op : CronOp P) :
    s.Effect op (s.step rt cal op) := by
  cases op with
  | createWorkflow w =>
    simp only [step]
    split <;> exact .quiet rfl rfl rfl fun _ => rfl
  | unarchiveWorkflow w =>
    simp only [step]
    split <;> exact .quiet rfl rfl rfl fun _ => rfl
  | archiveWorkflow p w =>
    simp only [step, archiveWorkflow]
    split
    case isFalse => exact .quiet rfl rfl rfl fun _ => rfl
    case isTrue h =>
      apply Effect.trigger w
      · simpa [isLocked] using h.2
      · rfl
      · rfl
      · exact tx_setProc_of_eq rfl
      · intro w' hw
        simp [hw]
      · exact fun hd => absurd rfl hd
  | deleteCronTrigger p w =>
    simp only [step, deleteCronTrigger]
    split
    case isFalse => exact .quiet rfl rfl rfl fun _ => rfl
    case isTrue h =>
      apply Effect.trigger w
      · simpa [isLocked] using h.2
      · rfl
      · rfl
      · exact tx_setProc_of_eq rfl
      · intro w' hw
        simp [hw]
      · exact fun hd => absurd rfl hd
  | configureCronTrigger p w config =>
    simp only [step, configureCronTrigger]
    split
    case isFalse => exact .quiet rfl rfl rfl fun _ => rfl
    case isTrue h =>
      apply Effect.trigger w
      · simpa [isLocked] using h.2
      · rfl
      · rfl
      · exact tx_setProc_of_eq rfl
      · intro w' hw
        simp [hw]
      · intro _
        cases ht : s.triggers.get? w with
        | none => simp [lastDispatched, ht]
        | some row => simp [lastDispatched, ht]
  | onRuns op => exact .runs rfl rfl (fun _ => rfl) fun h => RunTable.evolves_step h op
  | markRun r actor m c =>
    exact .runs rfl rfl (fun _ => rfl) fun h => RunTable.evolves_markRun h r actor m c
  | onLayer p op => exact .quiet rfl rfl rfl (tx_setProc_of_eq rfl)
  | refresh p => exact .quiet rfl rfl rfl (tx_setProc_of_eq rfl)
  | collect p guard now inWorkspace =>
    simp only [step, collect]
    split
    · exact .quiet rfl rfl rfl (tx_setProc_of_eq rfl)
    · exact .quiet rfl rfl rfl fun _ => rfl
  | resolve p versioned healthy =>
    simp only [step, resolve]
    split
    case h_2 => exact .quiet rfl rfl rfl fun _ => rfl
    case h_1 plan plans hstage hplans =>
      have htx : s.tx p = none := by simp [tx, hstage, Stage.tx]
      split
      · exact .quiet rfl rfl rfl (tx_setProc_of_eq rfl)
      · split
        · exact .quiet rfl rfl rfl (tx_setProc_of_eq htx.symm)
        · exact .quiet rfl rfl rfl (tx_setProc_of_eq rfl)
  | lockRow p => exact s.effect_lockRow _ p
  | checkOverlap p => exact s.effect_checkOverlap _ p
  | insertRun p r c => exact s.effect_insertRun _ p r c
  | rollback p quotaExceeded => exact s.effect_endTx _ p quotaExceeded
  | commit p now => exact s.effect_commit cal p now

end CronSystem

end System

end Orcheo.Repository
