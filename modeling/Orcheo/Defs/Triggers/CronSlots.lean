import Orcheo.Lib.Run
import Orcheo.Defs.Triggers.Layer

/-! Overlap slots.  A run occupies its workflow's slot while it is in the active set of
the workflow's schedule; releasing it goes through the run index. -/

namespace Orcheo.Triggers.TriggerLayer

open Lib

variable (s : TriggerLayer)

def activeRuns (w : Uuid) : Finset Uuid :=
  ((s.cronStates.get? w).map CronTriggerState.activeRuns).getD ∅

def SlotsIndexed : Prop :=
  ∀ w r, r ∈ s.activeRuns w → s.cronRunIndex.get? r = some w

def ReleaseFrees : Prop :=
  ∀ r w, r ∉ (s.releaseCronRun r).activeRuns w

/-- The operations that keep slots indexed: a run is registered, synced or removed under
one workflow only while no other workflow's slot holds it, and it is not registered
again while it holds a slot that admits no second run. -/
def SlotSafe : LayerOp → Prop
  | .register r => ∀ v, s.runWorkflows.get? r = some v → ∀ w, r ∈ s.activeRuns w →
      w = v ∧ ∀ state, s.cronStates.get? v = some state → state.canDispatch = true
  | .sync v runIds => s.cronStates.get? v ≠ none → ∀ r ∈ runIds, ∀ w, r ∈ s.activeRuns w → w = v
  | .removeWorkflow v _ => ∀ r, s.runWorkflows.get? r = some v → ∀ w, r ∈ s.activeRuns w → w = v
  | _ => True

variable {s : TriggerLayer}

theorem activeRuns_eq {w : Uuid} {state : CronTriggerState}
    (h : s.cronStates.get? w = some state) : s.activeRuns w = state.activeRuns := by
  simp [activeRuns, h]

theorem slotsIndexed_congr {t : TriggerLayer} (ha : ∀ w, t.activeRuns w = s.activeRuns w)
    (hi : t.cronRunIndex = s.cronRunIndex) (h : s.SlotsIndexed) : t.SlotsIndexed := by
  intro w r hr
  rw [ha w] at hr
  rw [hi]
  exact h w r hr

theorem activeRuns_set_of_eq {v : Uuid} {state state' : CronTriggerState}
    (h : s.cronStates.get? v = some state) (hs : state'.activeRuns = state.activeRuns) (w : Uuid) :
    ({ s with cronStates := s.cronStates.set v state' } : TriggerLayer).activeRuns w =
      s.activeRuns w := by
  by_cases hw : w = v
  · subst hw
    simp [activeRuns, h, hs]
  · simp [activeRuns, hw]

@[simp] theorem activeRuns_configureCron (s : TriggerLayer) (v w : Uuid)
    (config : CronTriggerConfig) (last : Option Instant) :
    (s.configureCron v config last).activeRuns w = s.activeRuns w := by
  cases h : s.cronStates.get? v with
  | some state =>
    simp only [configureCron, h]
    have hs : (state.updateConfig config last).activeRuns = state.activeRuns := rfl
    exact activeRuns_set_of_eq h hs w
  | none =>
    simp only [configureCron, h]
    by_cases hw : w = v
    · subst hw
      simp [activeRuns, h]
    · simp [activeRuns, hw]

@[simp] theorem activeRuns_collect (cal : Calendar) (guard : Option CredentialHealthGuard)
    (s : TriggerLayer) (now : Instant) (w : Uuid) :
    (s.collectDueCronDispatches cal guard now).1.activeRuns w = s.activeRuns w := by
  simp only [activeRuns, collectDueCronDispatches, Dict.get?_mapValues, Option.map_map]
  cases s.cronStates.get? w with
  | none => rfl
  | some state =>
    by_cases hg : guardedHealthy guard w = true
    · simp [hg]
    · simp [hg]

@[simp] theorem activeRuns_commit (cal : Calendar) (s : TriggerLayer) (v w : Uuid) :
    (s.commitCronDispatch cal v).1.activeRuns w = s.activeRuns w := by
  unfold commitCronDispatch
  cases h : s.cronStates.get? v with
  | none => rfl
  | some state => exact activeRuns_set_of_eq h (CronTriggerState.activeRuns_consumeDue cal state) w

@[simp] theorem cronRunIndex_commit (cal : Calendar) (s : TriggerLayer) (v : Uuid) :
    (s.commitCronDispatch cal v).1.cronRunIndex = s.cronRunIndex := by
  unfold commitCronDispatch
  cases s.cronStates.get? v <;> rfl

theorem activeRuns_removeCronConfig (s : TriggerLayer) (v w : Uuid) :
    (s.removeCronConfig v).activeRuns w = if w = v then ∅ else s.activeRuns w := by
  unfold removeCronConfig
  cases h : s.cronStates.get? v with
  | none =>
    by_cases hw : w = v
    · subst hw
      simp [activeRuns, h]
    · simp [hw]
  | some state =>
    by_cases hw : w = v
    · simp [activeRuns, hw]
    · simp [activeRuns, hw]

theorem slotsIndexed_removeCronConfig (h : s.SlotsIndexed) (v : Uuid) :
    (s.removeCronConfig v).SlotsIndexed := by
  intro w r hr
  rw [activeRuns_removeCronConfig] at hr
  by_cases hw : w = v
  · simp [hw] at hr
  · simp only [hw, if_false] at hr
    have hi := h w r hr
    unfold removeCronConfig
    cases s.cronStates.get? v with
    | none => exact hi
    | some state => simp [hi, Option.filter, hw]

theorem activeRuns_releaseCronRun (r w : Uuid) : (s.releaseCronRun r).activeRuns w =
      if s.cronRunIndex.get? r = some w then (s.activeRuns w).erase r else s.activeRuns w := by
  cases hi : s.cronRunIndex.get? r with
  | none => simp [releaseCronRun, hi]
  | some v =>
    cases hv : s.cronStates.get? v with
    | none =>
      by_cases hw : v = w
      · subst hw
        simp [releaseCronRun, hi, activeRuns, hv]
      · simp [releaseCronRun, hi, activeRuns, hv, hw]
    | some state =>
      by_cases hw : v = w
      · subst hw
        simp [releaseCronRun, hi, activeRuns, hv]
      · simp [releaseCronRun, hi, activeRuns, hv, hw, Ne.symm hw]

theorem get?_cronRunIndex_releaseCronRun (s : TriggerLayer) (r r' : Uuid) :
    (s.releaseCronRun r).cronRunIndex.get? r' =
      if r' = r then none else s.cronRunIndex.get? r' := by
  cases hi : s.cronRunIndex.get? r with
  | none =>
    by_cases hr : r' = r
    · subst hr
      simp [releaseCronRun, hi]
    · simp [releaseCronRun, hi, hr]
  | some v => cases hv : s.cronStates.get? v <;> simp [releaseCronRun, hi, hv]

theorem releaseFrees_iff : s.ReleaseFrees ↔ s.SlotsIndexed := by
  constructor
  · intro h w r hr
    by_contra hi
    apply h r w
    rw [activeRuns_releaseCronRun, if_neg hi]
    exact hr
  · intro h r w hr
    rw [activeRuns_releaseCronRun] at hr
    by_cases hi : s.cronRunIndex.get? r = some w
    · simp [hi] at hr
    · rw [if_neg hi] at hr
      exact hi (h w r hr)

theorem slotsIndexed_releaseCronRun (h : s.SlotsIndexed) (r : Uuid) :
    (s.releaseCronRun r).SlotsIndexed := by
  intro w r' hr'
  by_cases hr : r' = r
  · subst hr
    exact absurd hr' (releaseFrees_iff.mpr h r' w)
  · rw [get?_cronRunIndex_releaseCronRun, if_neg hr]
    apply h w r'
    rw [activeRuns_releaseCronRun] at hr'
    by_cases hi : s.cronRunIndex.get? r = some w
    · rw [if_pos hi] at hr'
      exact Finset.mem_of_mem_erase hr'
    · rwa [if_neg hi] at hr'

theorem registerCronRun_cases (s : TriggerLayer) (r : Uuid) :
    (s.runWorkflows.get? r = none ∧ (s.registerCronRun r).1 = s) ∨
    ∃ v, s.runWorkflows.get? r = some v ∧
      ((s.cronStates.get? v = none ∧
        (s.registerCronRun r).1 = { s with cronRunIndex := s.cronRunIndex.set r v }) ∨
      ∃ state, s.cronStates.get? v = some state ∧
        ((state.canDispatch = true ∧ (s.registerCronRun r).1 = { s with
            cronRunIndex := s.cronRunIndex.set r v
            cronStates := s.cronStates.set v
              { state with activeRuns := insert r state.activeRuns } }) ∨
        (state.canDispatch = false ∧ (s.registerCronRun r).1 = { s with
            cronRunIndex := (s.cronRunIndex.set r v).erase r }))) := by
  cases hr : s.runWorkflows.get? r with
  | none => exact .inl ⟨rfl, by simp [registerCronRun, hr]⟩
  | some v =>
    refine .inr ⟨v, rfl, ?_⟩
    cases hv : s.cronStates.get? v with
    | none => exact .inl ⟨rfl, by simp [registerCronRun, hr, hv]⟩
    | some state =>
      refine .inr ⟨state, rfl, ?_⟩
      cases hc : state.canDispatch with
      | true =>
        exact .inl ⟨rfl, by simp [registerCronRun, hr, hv, CronTriggerState.registerRun, hc]⟩
      | false =>
        exact .inr ⟨rfl, by simp [registerCronRun, hr, hv, CronTriggerState.registerRun, hc]⟩

theorem slotsIndexed_register_iff (h : s.SlotsIndexed) (r : Uuid) :
    (s.registerCronRun r).1.SlotsIndexed ↔ s.SlotSafe (.register r) := by
  obtain ⟨hr, he⟩ | ⟨v, hr, ⟨hv, he⟩ | ⟨state, hv, ⟨hc, he⟩ | ⟨hc, he⟩⟩⟩ :=
    registerCronRun_cases s r
  · simp [he, SlotSafe, hr, h]
  · rw [he]
    constructor
    · intro hi v' hv' w hw
      rw [hr] at hv'
      obtain rfl := Option.some.inj hv'
      have := hi w r hw
      simp only [Dict.get?_set, if_true, Option.some.injEq] at this
      exact ⟨this.symm, fun state hs => by simp [hv] at hs⟩
    · intro hsafe w r' hw
      by_cases hrr : r' = r
      · subst hrr
        simpa using (hsafe v hr w hw).1.symm
      · simpa [hrr] using h w r' hw
  · rw [he]
    constructor
    · intro hi v' hv' w hw
      rw [hr] at hv'
      obtain rfl := Option.some.inj hv'
      refine ⟨?_, fun state' hs => by rw [hv] at hs; cases hs; exact hc⟩
      by_contra hne
      have := hi w r (by simpa [activeRuns, hne] using hw)
      simp only [Dict.get?_set, if_true, Option.some.injEq] at this
      exact hne this.symm
    · intro hsafe w r' hw
      by_cases hwv : w = v
      · subst hwv
        by_cases hrr : r' = r
        · simp [hrr]
        · have : r' ∈ s.activeRuns w := by
            rw [activeRuns_eq hv]
            simpa [activeRuns, hrr] using hw
          simpa [hrr] using h w r' this
      · have hw' : r' ∈ s.activeRuns w := by simpa [activeRuns, hwv] using hw
        by_cases hrr : r' = r
        · subst hrr
          exact absurd (hsafe v hr w hw').1 hwv
        · simpa [hrr] using h w r' hw'
  · rw [he]
    -- the refused run is no longer indexed, so it may hold no slot at all
    constructor
    · intro hi v' hv' w hw
      have := hi w r hw
      simp at this
    · intro hsafe w r' hw
      by_cases hrr : r' = r
      · subst hrr
        have := (hsafe v hr w hw).2 state hv
        simp [hc] at this
      · simpa [hrr] using h w r' hw

theorem slotsIndexed_sync_iff (h : s.SlotsIndexed) (v : Uuid) (runIds : List Uuid) :
    (s.syncCronActiveRuns v runIds).SlotsIndexed ↔ s.SlotSafe (.sync v runIds) := by
  unfold syncCronActiveRuns
  cases hv : s.cronStates.get? v with
  | none => simp [SlotSafe, hv, h]
  | some state =>
    constructor
    · intro hi _ r hr w hw
      by_contra hwv
      have := hi w r (by simpa [activeRuns, hwv] using hw)
      simp only [Dict.get?_foldl_set, hr, if_true, Option.some.injEq] at this
      exact hwv this.symm
    · intro hsafe w r hw
      simp only [Dict.get?_foldl_set]
      by_cases hwv : w = v
      · subst hwv
        have hr : r ∈ runIds := by simpa [activeRuns] using hw
        rw [if_pos hr]
      · have hw' : r ∈ s.activeRuns w := by simpa [activeRuns, hwv] using hw
        by_cases hr : r ∈ runIds
        · exact absurd (hsafe (by simp [hv]) r hr w hw') hwv
        · simp [hr, h w r hw', Option.filter, hwv]

theorem mem_runsOf {v r : Uuid} :
    r ∈ s.runsOf v ↔ s.runWorkflows.get? r = some v := by
  unfold runsOf
  rw [Dict.mem_keys_iff]
  cases hr : s.runWorkflows.get? r with
  | none => simp [hr]
  | some w => simp [hr, Option.filter]

theorem slotsIndexed_removeWorkflow_iff (h : s.SlotsIndexed) (v : Uuid) (now : Instant) :
    (s.removeWorkflow v now).SlotsIndexed ↔ s.SlotSafe (.removeWorkflow v now) := by
  have hactive : ∀ w r, r ∈ (s.removeWorkflow v now).activeRuns w ↔
      w ≠ v ∧ r ∈ s.activeRuns w := by
    intro w r
    by_cases hwv : w = v
    · simp [activeRuns, removeWorkflow, hwv]
    · simp [activeRuns, removeWorkflow, hwv]
  have hindex : ∀ r, (s.removeWorkflow v now).cronRunIndex.get? r =
      if s.runWorkflows.get? r = some v then none else s.cronRunIndex.get? r := by
    intro r
    simp only [removeWorkflow, Dict.get?_foldl_erase, mem_runsOf]
  constructor
  · intro hi r hr w hw
    by_contra hwv
    have := hi w r ((hactive w r).mpr ⟨hwv, hw⟩)
    rw [hindex, if_pos hr] at this
    cases this
  · intro hsafe w r hw
    obtain ⟨hwv, hw'⟩ := (hactive w r).mp hw
    rw [hindex]
    by_cases hr : s.runWorkflows.get? r = some v
    · exact absurd (hsafe r hr w hw') hwv
    · rw [if_neg hr]
      exact h w r hw'

theorem maybeCleanupStates_cron (s : TriggerLayer) (now : Instant) :
    (s.maybeCleanupStates now).cronStates = s.cronStates ∧
      (s.maybeCleanupStates now).cronRunIndex = s.cronRunIndex := by
  unfold maybeCleanupStates
  split <;> exact ⟨rfl, rfl⟩

theorem slotsIndexed_of_cron_eq {t : TriggerLayer} (h : s.SlotsIndexed)
    (hc : t.cronStates = s.cronStates) (hi : t.cronRunIndex = s.cronRunIndex) :
    t.SlotsIndexed :=
  slotsIndexed_congr (fun w => by simp [activeRuns, hc]) hi h

theorem nextRetryForRun_cron (s : TriggerLayer) (r : Uuid) (failedAt : Instant) (draw : ℚ) :
    (s.nextRetryForRun r failedAt draw).1.cronStates = s.cronStates ∧
      (s.nextRetryForRun r failedAt draw).1.cronRunIndex = s.cronRunIndex := by
  unfold nextRetryForRun
  cases s.retryStates.get? r with
  | none => exact ⟨rfl, rfl⟩
  | some state =>
    cases hd : state.nextRetry failedAt draw with
    | mk state' decision => cases decision <;> simp [hd]

variable (rt : WebhookRuntime)

theorem prepareWebhookDispatch_cron (clock : WebhookClock)
    (guard : Option CredentialHealthGuard) (s : TriggerLayer) (w : Uuid) (r : WebhookRequest) :
    (s.prepareWebhookDispatch rt clock guard w r).1.cronStates = s.cronStates ∧
      (s.prepareWebhookDispatch rt clock guard w r).1.cronRunIndex = s.cronRunIndex := by
  unfold prepareWebhookDispatch
  split
  · exact ⟨rfl, rfl⟩
  · cases (s.webhookState w).validate rt clock r with
    | mk state verdict => cases verdict <;> exact ⟨rfl, rfl⟩

theorem slotsIndexed_step_iff (cal : Calendar) (s : TriggerLayer)
    (op : LayerOp) (h : s.SlotsIndexed) :
    (s.step rt cal op).SlotsIndexed ↔ s.SlotSafe op := by
  cases op with
  | register r => exact slotsIndexed_register_iff h r
  | sync v runIds => exact slotsIndexed_sync_iff h v runIds
  | removeWorkflow v now => exact slotsIndexed_removeWorkflow_iff h v now
  | release r => exact iff_of_true (slotsIndexed_releaseCronRun h r) trivial
  | removeCronConfig v => exact iff_of_true (slotsIndexed_removeCronConfig h v) trivial
  | configureCron v config last =>
    exact iff_of_true (slotsIndexed_congr (activeRuns_configureCron s v · config last) rfl h) trivial
  | collect guard now =>
    exact iff_of_true (slotsIndexed_congr (activeRuns_collect cal guard s now) rfl h) trivial
  | commit v =>
    exact iff_of_true
      (slotsIndexed_congr (activeRuns_commit cal s v) (cronRunIndex_commit cal s v) h) trivial
  | configureWebhook v config => exact iff_of_true (slotsIndexed_of_cron_eq h rfl rfl) trivial
  | getWebhookConfig v => exact iff_of_true (slotsIndexed_of_cron_eq h rfl rfl) trivial
  | configureRetryPolicy v config => exact iff_of_true (slotsIndexed_of_cron_eq h rfl rfl) trivial
  | clearRetryState r now => exact iff_of_true (slotsIndexed_of_cron_eq h rfl rfl) trivial
  | prepareWebhookDispatch clock guard v r =>
    obtain ⟨hc, hi⟩ := prepareWebhookDispatch_cron rt clock guard s v r
    exact iff_of_true (slotsIndexed_of_cron_eq h hc hi) trivial
  | nextRetryForRun r failedAt draw =>
    obtain ⟨hc, hi⟩ := nextRetryForRun_cron s r failedAt draw
    exact iff_of_true (slotsIndexed_of_cron_eq h hc hi) trivial
  | trackRun v r now =>
    obtain ⟨hc, hi⟩ := maybeCleanupStates_cron _ now
    exact iff_of_true (slotsIndexed_of_cron_eq h hc hi) trivial
  | reset now =>
    refine iff_of_true ?_ trivial
    intro w r hr
    simp [activeRuns, step, reset] at hr

/-- `TriggerLayer(cleanup_config=...)` -/
def new (config : StateCleanupConfig) (now : Instant) : TriggerLayer :=
  { cleanupConfig := config, lastCleanup := now }

theorem slotsIndexed_new (config : StateCleanupConfig) (now : Instant) :
    (new config now).SlotsIndexed := by
  intro w r hr
  simp [activeRuns, new] at hr

/-- Along every sequence of operations, slots stay indexed and releases free them
exactly when every operation is safe. -/
theorem slots_freed_iff (cal : Calendar) (config : StateCleanupConfig)
    (now : Instant) (ops : List LayerOp) :
    Always (step rt cal) (fun s => s.SlotsIndexed ∧ s.ReleaseFrees) (new config now) ops ↔
      AllSteps (step rt cal) SlotSafe (new config now) ops := by
  have hstep : ∀ (s : TriggerLayer) op, (s.SlotsIndexed ∧ s.ReleaseFrees) →
      (((s.step rt cal op).SlotsIndexed ∧ (s.step rt cal op).ReleaseFrees) ↔ s.SlotSafe op) := by
    intro s op h
    rw [releaseFrees_iff, and_self]
    exact slotsIndexed_step_iff rt cal s op h.1
  have hnew := slotsIndexed_new config now
  exact always_iff_allSteps hstep ⟨hnew, releaseFrees_iff.mpr hnew⟩ ops

theorem register_twice_leaks_slot :
    ¬ ∀ ops, Always (step .ascii .hourly) (fun s => s.SlotsIndexed ∧ s.ReleaseFrees)
      (new {} 0) ops := by
  intro h
  have hend := (h [.configureCron 1 {} none, .trackRun 1 7 0, .register 7, .register 7]).last
  exact hend.2 7 1 (by decide)

end Orcheo.Triggers.TriggerLayer
