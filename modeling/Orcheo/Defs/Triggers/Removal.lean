import Orcheo.Defs.Triggers.RetrySchedule

/-! What the removal of a workflow leaves behind in the trigger layer. -/

namespace Orcheo.Triggers.TriggerLayer

open Lib

def RunOf (s : TriggerLayer) (w r : Uuid) : Prop :=
  s.runWorkflows.get? r = some w ∨ s.cronRunIndex.get? r = some w ∨ r ∈ s.activeRuns w

structure Forgotten (s : TriggerLayer) (w : Uuid) : Prop where
  webhook : s.webhookStates.get? w = none
  cron : s.cronStates.get? w = none
  retry : s.retryConfigs.get? w = none
  runs : ∀ r, ¬ s.RunOf w r

structure ForgottenRun (s : TriggerLayer) (r : Uuid) : Prop where
  retry : s.retryStates.get? r = none
  workflow : s.runWorkflows.get? r = none
  cron : s.cronRunIndex.get? r = none
  active : ∀ v, r ∉ s.activeRuns v

structure Unchanged (s t : TriggerLayer) (v : Uuid) : Prop where
  webhook : t.webhookStates.get? v = s.webhookStates.get? v
  cron : t.cronStates.get? v = s.cronStates.get? v
  retry : t.retryConfigs.get? v = s.retryConfigs.get? v
  tracked : ∀ r, s.runWorkflows.get? r = some v →
    t.runWorkflows.get? r = some v ∧ t.retryStates.get? r = s.retryStates.get? r
  indexed : ∀ r, s.cronRunIndex.get? r = some v → t.cronRunIndex.get? r = some v

/-- From `s` to `t` the workflow has gone without a trace. -/
structure Removed (w : Uuid) (s t : TriggerLayer) : Prop where
  workflow : t.Forgotten w
  runs : ∀ r, s.RunOf w r → t.ForgottenRun r
  others : ∀ v, v ≠ w → Unchanged s t v

/-- Every run recorded for the workflow is still tracked for it, or no longer indexed at all, and
is recorded for no other workflow. -/
structure Together (s : TriggerLayer) (w : Uuid) : Prop where
  indexed : ∀ r, s.RunOf w r →
    (s.runWorkflows.get? r = some w ∧ ∀ v, s.cronRunIndex.get? r = some v → v = w) ∨
      (s.runWorkflows.get? r = none ∧ s.cronRunIndex.get? r = none)
  active : ∀ r, s.RunOf w r → ∀ v, r ∈ s.activeRuns v → v = w

def Paired (s : TriggerLayer) : Prop :=
  ∀ r, s.retryStates.get? r = none ↔ s.runWorkflows.get? r = none

section Removal

variable {rt : WebhookRuntime} {cal : Calendar} {s : TriggerLayer} {w : Uuid} {now : Instant}

theorem paired_new (config : StateCleanupConfig) (start : Instant) : (new config start).Paired :=
  fun _ => iff_of_true rfl rfl

theorem Paired.nextRetryForRun (paired : s.Paired) (r : Uuid) (failedAt : Instant) (u : ℚ) :
    (s.nextRetryForRun r failedAt u).1.Paired := by
  unfold TriggerLayer.nextRetryForRun
  cases found : s.retryStates.get? r with
  | none => exact paired
  | some state =>
    have tracked : s.runWorkflows.get? r ≠ none := mt (paired r).mpr (by rw [found]; simp)
    dsimp only
    split
    · intro r'
      by_cases same : r' = r <;> simp [same, paired r']
    · intro r'
      by_cases same : r' = r <;> simp [same, tracked, paired r']

theorem Paired.step (paired : s.Paired) (op : LayerOp) : (s.step rt cal op).Paired := by
  cases retries : op.retries with
  | false =>
    obtain ⟨states, workflows, -⟩ := step_retry rt cal s retries
    intro r
    rw [states, workflows]
    exact paired r
  | true =>
    cases op with
    | configureRetryPolicy v config => exact paired
    | trackRun v r now =>
      intro r'
      obtain ⟨states, workflows⟩ := get?_trackRun s v r r' now
      rw [TriggerLayer.step, states, workflows]
      by_cases same : r' = r <;> simp [same, paired r']
    | nextRetryForRun r failedAt u => exact paired.nextRetryForRun r failedAt u
    | clearRetryState r now =>
      intro r'
      by_cases same : r' = r <;> simp [TriggerLayer.step, clearRetryState, same, paired r']
    | removeWorkflow v now =>
      intro r'
      obtain ⟨states, workflows⟩ := get?_removeWorkflow s v r' now
      rw [TriggerLayer.step, states, workflows]
      split
      · exact iff_of_true rfl rfl
      · exact paired r'
    | reset now => exact fun _ => iff_of_true rfl rfl
    | _ => cases retries

theorem get?_cronRunIndex_removeWorkflow (s : TriggerLayer) (w r : Uuid) (now : Instant) :
    (s.removeWorkflow w now).cronRunIndex.get? r =
      if s.runWorkflows.get? r = some w then none else s.cronRunIndex.get? r := by
  simp only [removeWorkflow, Dict.get?_foldl_erase, mem_runsOf]

theorem mem_activeRuns_removeWorkflow (s : TriggerLayer) (w v r : Uuid) (now : Instant) :
    r ∈ (s.removeWorkflow w now).activeRuns v ↔ v ≠ w ∧ r ∈ s.activeRuns v := by
  by_cases same : v = w <;> simp [activeRuns, removeWorkflow, same]

theorem forgotten_tracked {r : Uuid} (tracked : s.runWorkflows.get? r = some w)
    (active : ∀ v, r ∈ s.activeRuns v → v = w) : (s.removeWorkflow w now).ForgottenRun r where
  retry := by rw [(get?_removeWorkflow s w r now).1, if_pos tracked]
  workflow := by rw [(get?_removeWorkflow s w r now).2, if_pos tracked]
  cron := by rw [get?_cronRunIndex_removeWorkflow, if_pos tracked]
  active := by
    intro v mem
    obtain ⟨other, mem⟩ := (mem_activeRuns_removeWorkflow s w v r now).mp mem
    exact other (active v mem)

theorem forgotten_untracked (paired : s.Paired) {r : Uuid}
    (untracked : s.runWorkflows.get? r = none) (unindexed : s.cronRunIndex.get? r = none)
    (active : ∀ v, r ∈ s.activeRuns v → v = w) : (s.removeWorkflow w now).ForgottenRun r where
  retry := by simp [(get?_removeWorkflow s w r now).1, (paired r).mpr untracked]
  workflow := by simp [(get?_removeWorkflow s w r now).2, untracked]
  cron := by simp [get?_cronRunIndex_removeWorkflow, unindexed]
  active := by
    intro v mem
    obtain ⟨other, mem⟩ := (mem_activeRuns_removeWorkflow s w v r now).mp mem
    exact other (active v mem)

theorem Together.unchanged (together : s.Together w) {v : Uuid} (other : v ≠ w) :
    Unchanged s (s.removeWorkflow w now) v where
  webhook := by simp [removeWorkflow, other]
  cron := by simp [removeWorkflow, other]
  retry := by simp [removeWorkflow, other]
  tracked := by
    intro r tracked
    have kept : ¬ s.runWorkflows.get? r = some w := by
      rw [tracked]
      exact fun same => other (Option.some.inj same)
    rw [(get?_removeWorkflow s w r now).1, (get?_removeWorkflow s w r now).2, if_neg kept,
      if_neg kept]
    exact ⟨tracked, rfl⟩
  indexed := by
    intro r indexed
    rw [get?_cronRunIndex_removeWorkflow]
    split
    next tracked =>
      cases together.indexed r (Or.inl tracked) with
      | inl here => exact absurd (here.2 v indexed) other
      | inr gone => cases gone.1.symm.trans tracked
    next => exact indexed

theorem Together.removed (together : s.Together w) (paired : s.Paired) :
    Removed w s (s.removeWorkflow w now) where
  workflow := by
    refine ⟨by simp [removeWorkflow], by simp [removeWorkflow], by simp [removeWorkflow], ?_⟩
    rintro r (tracked | indexed | active)
    · rw [(get?_removeWorkflow s w r now).2] at tracked
      split at tracked
      · cases tracked
      · contradiction
    · rw [get?_cronRunIndex_removeWorkflow] at indexed
      split at indexed
      · cases indexed
      next untracked =>
        cases together.indexed r (Or.inr (Or.inl indexed)) with
        | inl here => exact untracked here.1
        | inr gone => cases gone.2.symm.trans indexed
    · exact ((mem_activeRuns_removeWorkflow s w w r now).mp active).1 rfl
  runs := by
    intro r recorded
    cases together.indexed r recorded with
    | inl here => exact forgotten_tracked here.1 (together.active r recorded)
    | inr gone => exact forgotten_untracked paired gone.1 gone.2 (together.active r recorded)
  others := fun _ other => together.unchanged other

theorem Removed.together (removed : Removed w s (s.removeWorkflow w now)) : s.Together w where
  indexed := by
    intro r recorded
    have gone := removed.runs r recorded
    by_cases tracked : s.runWorkflows.get? r = some w
    · refine Or.inl ⟨tracked, ?_⟩
      intro v indexed
      by_contra other
      cases gone.cron.symm.trans ((removed.others v other).indexed r indexed)
    · have workflow := gone.workflow
      have cron := gone.cron
      rw [(get?_removeWorkflow s w r now).2, if_neg tracked] at workflow
      rw [get?_cronRunIndex_removeWorkflow, if_neg tracked] at cron
      exact Or.inr ⟨workflow, cron⟩
  active := by
    intro r recorded v mem
    by_contra other
    exact (removed.runs r recorded).active v
      ((mem_activeRuns_removeWorkflow s w v r now).mpr ⟨other, mem⟩)

end Removal

/-- In every state the layer reaches, a removal leaves no trace exactly where the runs of the
workflow are recorded together. -/
theorem workflow_removed_iff (rt : WebhookRuntime) (cal : Calendar) (config : StateCleanupConfig)
    (start : Instant) (ops : List LayerOp) (w : Uuid) (now : Instant) :
    Removed w (ops.foldl (step rt cal) (new config start))
        ((ops.foldl (step rt cal) (new config start)).removeWorkflow w now) ↔
      (ops.foldl (step rt cal) (new config start)).Together w := by
  have paired : (ops.foldl (step rt cal) (new config start)).Paired :=
    foldl_invariant (P := Paired) (fun _ op paired => paired.step op) (paired_new config start) ops
  exact ⟨Removed.together, fun together => together.removed paired⟩

theorem cleared_run_remains : ¬ ∀ (ops : List LayerOp) (w : Uuid) (now : Instant),
    Removed w (ops.foldl (step .ascii .hourly) (new {} 0))
      ((ops.foldl (step .ascii .hourly) (new {} 0)).removeWorkflow w now) := by
  intro removed
  have gone := (removed [.configureCron 1 {} none, .trackRun 1 7 0, .register 7,
    .clearRetryState 7 0] 1 0).workflow.runs 7
  exact gone (Or.inr (Or.inl (by decide)))

end Orcheo.Triggers.TriggerLayer
