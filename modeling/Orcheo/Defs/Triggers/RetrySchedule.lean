import Mathlib.Tactic.Positivity
import Orcheo.Defs.Triggers.CronSlots

/-! The delays a retry policy computes, and the decisions a tracked run receives. -/

namespace Orcheo.Triggers

open Lib
open TriggerLayer (step)

structure RetryPolicyConfig.Valid (c : RetryPolicyConfig) : Prop where
  attempts : 1 ≤ c.maxAttempts
  initial : 0 ≤ c.initialDelaySeconds
  backoff : 1 ≤ c.backoffFactor
  ceiling : ∀ m, c.maxDelaySeconds = some m → 0 ≤ m
  jitter : 0 ≤ c.jitterFactor
  share : c.jitterFactor ≤ 1

/-- The range of `Random.random()`. -/
def IsDraw (u : ℚ) : Prop := 0 ≤ u ∧ u < 1

namespace RetryPolicyConfig

theorem valid_default : ({} : RetryPolicyConfig).Valid where
  attempts := by decide
  initial := by norm_num
  backoff := by norm_num
  ceiling := by
    rintro m ⟨⟩
    norm_num
  jitter := by norm_num
  share := by norm_num

section Delays

variable {c : RetryPolicyConfig} {n : Nat} {u : ℚ}

def InRange (c : RetryPolicyConfig) (delay : ℚ) : Prop :=
  0 ≤ delay ∧ ∀ m, c.maxDelaySeconds = some m → delay ≤ m

def backedOff (c : RetryPolicyConfig) (n : Nat) : ℚ := c.initialDelaySeconds * c.backoffFactor ^ n

def capped (c : RetryPolicyConfig) (n : Nat) : ℚ :=
  match c.maxDelaySeconds with
  | some ceiling => min (c.backedOff n) ceiling
  | none => c.backedOff n

def JitterBelow (c : RetryPolicyConfig) (n : Nat) (u : ℚ) : Prop :=
  ∀ m, c.maxDelaySeconds = some m → m = 0 ∨ c.jitterFactor = 0 ∨ u ≤ 1 / 2 ∨
    c.backedOff n * (1 + c.jitterFactor * (2 * u - 1)) ≤ m

theorem Valid.backedOff_nonneg (valid : c.Valid) : 0 ≤ c.backedOff n := by
  have backoff := valid.backoff
  exact mul_nonneg valid.initial (by positivity)

theorem Valid.capped_nonneg (valid : c.Valid) : 0 ≤ c.capped n := by
  have delayed := valid.backedOff_nonneg (n := n)
  unfold capped
  cases ceiling : c.maxDelaySeconds with
  | none => exact delayed
  | some m => exact le_min delayed (valid.ceiling m ceiling)

theorem Valid.scale_nonneg (valid : c.Valid) (draw : IsDraw u) :
    0 ≤ 1 + c.jitterFactor * (2 * u - 1) := by
  have low : c.jitterFactor * (1 - 2 * u) ≤ 1 := by
    by_cases half : u ≤ 1 / 2
    · calc c.jitterFactor * (1 - 2 * u)
          ≤ 1 * (1 - 2 * u) := mul_le_mul_of_nonneg_right valid.share (by linarith)
        _ ≤ 1 := by linarith [draw.1]
    · have negative : c.jitterFactor * (1 - 2 * u) ≤ 0 :=
        mul_nonpos_of_nonneg_of_nonpos valid.jitter (by linarith [not_le.mp half])
      linarith
  linarith

theorem computeDelaySeconds_eq (valid : c.Valid) (draw : IsDraw u) :
    c.computeDelaySeconds n u = c.capped n * (1 + c.jitterFactor * (2 * u - 1)) := by
  have unfolded : c.computeDelaySeconds n u =
      if c.jitterFactor = 0 ∨ c.capped n = 0 then c.capped n
      else max 0 (c.capped n + (-(c.capped n * c.jitterFactor) +
        (c.capped n * c.jitterFactor + c.capped n * c.jitterFactor) * u)) := by
    unfold computeDelaySeconds capped backedOff
    cases c.maxDelaySeconds with
    | none => rfl
    | some m => rfl
  rw [unfolded]
  by_cases still : c.jitterFactor = 0 ∨ c.capped n = 0
  · rw [if_pos still]
    cases still with
    | inl noJitter => rw [noJitter]; ring
    | inr noDelay => rw [noDelay]; ring
  · rw [if_neg still]
    have scaled : c.capped n + (-(c.capped n * c.jitterFactor) +
        (c.capped n * c.jitterFactor + c.capped n * c.jitterFactor) * u) =
        c.capped n * (1 + c.jitterFactor * (2 * u - 1)) := by ring
    rw [scaled]
    exact max_eq_right (mul_nonneg valid.capped_nonneg (valid.scale_nonneg draw))

theorem scaled_le_iff {m j : ℚ} (nonneg : 0 ≤ m) (jitter : 0 ≤ j) :
    m * (1 + j * (2 * u - 1)) ≤ m ↔ m = 0 ∨ j = 0 ∨ u ≤ 1 / 2 := by
  constructor
  · intro below
    by_contra none
    simp only [not_or, not_le] at none
    obtain ⟨m_ne, j_ne, high⟩ := none
    have positive : 0 < m * (j * (2 * u - 1)) :=
      mul_pos (lt_of_le_of_ne nonneg (Ne.symm m_ne))
        (mul_pos (lt_of_le_of_ne jitter (Ne.symm j_ne)) (by linarith))
    linarith
  · rintro (rfl | rfl | low)
    · simp
    · simp
    · have negative : m * (j * (2 * u - 1)) ≤ 0 :=
        mul_nonpos_of_nonneg_of_nonpos nonneg
          (mul_nonpos_of_nonneg_of_nonpos jitter (by linarith))
      linarith

theorem inRange_iff (valid : c.Valid) (draw : IsDraw u) :
    c.InRange (c.computeDelaySeconds n u) ↔ c.JitterBelow n u := by
  have scale := valid.scale_nonneg draw
  have nonneg : 0 ≤ c.computeDelaySeconds n u := by
    rw [computeDelaySeconds_eq valid draw]
    exact mul_nonneg valid.capped_nonneg scale
  refine (and_iff_right nonneg).trans (forall₂_congr ?_)
  intro m ceiling
  have atCeiling := scaled_le_iff (u := u) (valid.ceiling m ceiling) valid.jitter
  have cap : c.capped n = min (c.backedOff n) m := by
    unfold capped
    rw [ceiling]
  rw [computeDelaySeconds_eq valid draw, cap]
  by_cases within : c.backedOff n ≤ m
  · rw [min_eq_left within]
    constructor
    · exact fun below => Or.inr (Or.inr (Or.inr below))
    · intro cases'
      rw [← or_assoc, ← or_assoc, or_assoc (b := c.jitterFactor = 0)] at cases'
      refine cases'.elim ?_ id
      intro flat
      calc c.backedOff n * (1 + c.jitterFactor * (2 * u - 1))
          ≤ m * (1 + c.jitterFactor * (2 * u - 1)) := mul_le_mul_of_nonneg_right within scale
        _ ≤ m := atCeiling.mpr flat
  · have beyond := le_of_lt (not_le.mp within)
    rw [min_eq_right beyond, atCeiling]
    constructor
    · rintro (zero | flat | low)
      · exact Or.inl zero
      · exact Or.inr (Or.inl flat)
      · exact Or.inr (Or.inr (Or.inl low))
    · rintro (zero | flat | low | below)
      · exact Or.inl zero
      · exact Or.inr (Or.inl flat)
      · exact Or.inr (Or.inr low)
      · exact atCeiling.mp (le_trans (mul_le_mul_of_nonneg_right beyond scale) below)

end Delays

end RetryPolicyConfig

/-- What the calls of an operation bring along: configurations that pass the checks of their
fields, draws of `random.Random`. -/
def LayerOp.Checked : LayerOp → Prop
  | .configureRetryPolicy _ config => config.Valid
  | .nextRetryForRun _ _ draw => IsDraw draw
  | _ => True

/-- The operation neither tracks the run `r` of `w` again nor clears its state. -/
def LayerOp.Keeps (w r : Uuid) : LayerOp → Prop
  | .trackRun _ r' _ => r' ≠ r
  | .clearRetryState r' _ => r' ≠ r
  | .removeWorkflow w' _ => w' ≠ w
  | .reset _ => False
  | _ => True

def LayerOp.retries : LayerOp → Bool
  | .configureRetryPolicy .. | .trackRun .. | .nextRetryForRun .. | .clearRetryState .. |
    .removeWorkflow .. | .reset .. => true
  | _ => false

def RetryPolicyConfig.decision (config : RetryPolicyConfig) (k : Nat) (call : Instant × ℚ) :
    Option RetryDecision :=
  if k + 1 < config.maxAttempts then
    some ⟨k + 1, call.1 + RetryPolicyState.timedelta (config.computeDelaySeconds k call.2),
      config.computeDelaySeconds k call.2⟩
  else none

variable {config : RetryPolicyConfig}

theorem nextRetry_left {k : Nat} (more : k + 1 < config.maxAttempts)
    (failedAt : Instant) (u : ℚ) : RetryPolicyState.nextRetry ⟨config, k⟩ failedAt u =
      (⟨config, k + 1⟩, some ⟨k + 1,
        failedAt + RetryPolicyState.timedelta (config.computeDelaySeconds k u),
        config.computeDelaySeconds k u⟩) := by
  have left : ¬ config.maxAttempts - 1 - k = 0 := by omega
  exact if_neg left

theorem nextRetry_spent {k : Nat}
    (spent : ¬ k + 1 < config.maxAttempts) (failedAt : Instant) (u : ℚ) :
    RetryPolicyState.nextRetry ⟨config, k⟩ failedAt u = (⟨config, k⟩, none) := by
  have nothing : config.maxAttempts - 1 - k = 0 := by omega
  exact if_pos nothing

namespace TriggerLayer

section Answers

variable (rt : WebhookRuntime) (cal : Calendar) (r : Uuid)

def answer? (s : TriggerLayer) : LayerOp → Option (Option RetryDecision)
  | .nextRetryForRun r' failedAt draw =>
    if r' = r then some (s.nextRetryForRun r failedAt draw).2 else none
  | _ => none

def retryAnswers : TriggerLayer → List LayerOp → List (Option RetryDecision)
  | _, [] => []
  | s, op :: ops => (s.answer? r op).toList ++ retryAnswers (s.step rt cal op) ops

def retryCalls (ops : List LayerOp) : List (Instant × ℚ) :=
  ops.filterMap fun
    | .nextRetryForRun r' failedAt draw => if r' = r then some (failedAt, draw) else none
    | _ => none

end Answers

def Numbered (config : RetryPolicyConfig) (answers : List (Option RetryDecision)) : Prop :=
  answers.map (Option.map RetryDecision.retryNumber) =
    (List.range answers.length).map
      (fun i => if i + 1 < config.maxAttempts then some (i + 1) else none)

structure Scheduled (config : RetryPolicyConfig) (answers : List (Option RetryDecision)) :
    Prop where
  numbered : Numbered config answers
  inRange : ∀ d, some d ∈ answers → config.InRange d.delaySeconds

section Steps

variable {rt : WebhookRuntime} {cal : Calendar} {s : TriggerLayer} {w r : Uuid}

theorem maybeCleanupStates_retry (s : TriggerLayer) (now : Instant) :
    (s.maybeCleanupStates now).retryStates = s.retryStates ∧
      (s.maybeCleanupStates now).runWorkflows = s.runWorkflows ∧
      (s.maybeCleanupStates now).retryConfigs = s.retryConfigs := by
  unfold maybeCleanupStates
  split <;> exact ⟨rfl, rfl, rfl⟩

theorem get?_trackRun (s : TriggerLayer) (v r' r : Uuid) (now : Instant) :
    (s.trackRun v r' now).retryStates.get? r = (if r = r' then
        some { config := (s.retryConfigs.get? v).getD {} } else s.retryStates.get? r) ∧
      (s.trackRun v r' now).runWorkflows.get? r =
        if r = r' then some v else s.runWorkflows.get? r := by
  obtain ⟨states, workflows, -⟩ := maybeCleanupStates_retry { s with
    runWorkflows := s.runWorkflows.set r' v
    retryStates := s.retryStates.set r' { config := (s.retryConfigs.get? v).getD {} } } now
  unfold trackRun
  dsimp only
  rw [states, workflows, Dict.get?_set, Dict.get?_set]
  exact ⟨rfl, rfl⟩

theorem get?_removeWorkflow (s : TriggerLayer) (v r : Uuid) (now : Instant) :
    (s.removeWorkflow v now).retryStates.get? r =
        (if s.runWorkflows.get? r = some v then none else s.retryStates.get? r) ∧
      (s.removeWorkflow v now).runWorkflows.get? r =
        if s.runWorkflows.get? r = some v then none else s.runWorkflows.get? r := by
  unfold removeWorkflow
  simp only [Dict.get?_foldl_erase, mem_runsOf, and_self]

theorem get?_nextRetryForRun_other {r' : Uuid} (other : r' ≠ r) (failedAt : Instant) (u : ℚ) :
    (s.nextRetryForRun r' failedAt u).1.retryStates.get? r = s.retryStates.get? r ∧
      (s.nextRetryForRun r' failedAt u).1.runWorkflows.get? r = s.runWorkflows.get? r := by
  unfold nextRetryForRun
  cases s.retryStates.get? r' with
  | none => exact ⟨rfl, rfl⟩
  | some state =>
    cases next : state.nextRetry failedAt u with
    | mk state' decision => cases decision <;> simp [next, Ne.symm other]

variable {op : LayerOp} {config : RetryPolicyConfig} {k : Nat} {ops : List LayerOp}

theorem step_retry (rt : WebhookRuntime) (cal : Calendar) (s : TriggerLayer)
    (other : op.retries = false) :
    (s.step rt cal op).retryStates = s.retryStates ∧
      (s.step rt cal op).runWorkflows = s.runWorkflows ∧
      (s.step rt cal op).retryConfigs = s.retryConfigs := by
  cases op with
  | configureWebhook | getWebhookConfig | configureCron | collect => exact ⟨rfl, rfl, rfl⟩
  | configureRetryPolicy | trackRun | nextRetryForRun | clearRetryState | removeWorkflow | reset =>
    cases other
  | prepareWebhookDispatch clock guard w r =>
    dsimp only [step, prepareWebhookDispatch]
    split
    · exact ⟨rfl, rfl, rfl⟩
    · split <;> exact ⟨rfl, rfl, rfl⟩
  | removeCronConfig w =>
    dsimp only [step, removeCronConfig]
    split <;> exact ⟨rfl, rfl, rfl⟩
  | commit w =>
    dsimp only [step, commitCronDispatch]
    split <;> exact ⟨rfl, rfl, rfl⟩
  | register r =>
    dsimp only [step, registerCronRun]
    split
    · exact ⟨rfl, rfl, rfl⟩
    · split
      · exact ⟨rfl, rfl, rfl⟩
      · split <;> exact ⟨rfl, rfl, rfl⟩
  | release r =>
    dsimp only [step, releaseCronRun]
    split
    · exact ⟨rfl, rfl, rfl⟩
    · split <;> exact ⟨rfl, rfl, rfl⟩
  | sync w runIds =>
    dsimp only [step, syncCronActiveRuns]
    split <;> exact ⟨rfl, rfl, rfl⟩

theorem untracked_step (untracked : s.retryStates.get? r = none)
    (notTracked : ∀ v now, op ≠ .trackRun v r now) :
    (s.step rt cal op).retryStates.get? r = none := by
  cases retries : op.retries with
  | false => rw [(step_retry rt cal s retries).1, untracked]
  | true =>
    cases op with
    | trackRun v r' now =>
      have other : r ≠ r' := fun same => notTracked v now (by rw [same])
      rw [step, (get?_trackRun s v r' r now).1, if_neg other, untracked]
    | nextRetryForRun r' failedAt u =>
      by_cases same : r' = r
      · simp [step, nextRetryForRun, same, untracked]
      · rw [step, (get?_nextRetryForRun_other same failedAt u).1, untracked]
    | clearRetryState r' now => simp [step, clearRetryState, untracked]
    | removeWorkflow v now => simp [step, (get?_removeWorkflow s v r now).1, untracked]
    | reset now => rfl
    | configureRetryPolicy v config => exact untracked
    | _ => cases retries

theorem tracked_step (rt : WebhookRuntime) (cal : Calendar)
    (tracked : s.runWorkflows.get? r = some w)
    (keeps : op.Keeps w r) (notCalled : ∀ failedAt u, op ≠ .nextRetryForRun r failedAt u) :
    (s.step rt cal op).retryStates.get? r = s.retryStates.get? r ∧
      (s.step rt cal op).runWorkflows.get? r = some w := by
  cases retries : op.retries with
  | false =>
    obtain ⟨states, workflows, -⟩ := step_retry rt cal s retries
    rw [states, workflows]
    exact ⟨rfl, tracked⟩
  | true =>
    cases op with
    | trackRun v r' now =>
      have other : r ≠ r' := Ne.symm keeps
      rw [step, (get?_trackRun s v r' r now).1, (get?_trackRun s v r' r now).2, if_neg other,
        if_neg other]
      exact ⟨rfl, tracked⟩
    | nextRetryForRun r' failedAt u =>
      have other : r' ≠ r := fun same => notCalled failedAt u (by rw [same])
      obtain ⟨states, workflows⟩ := get?_nextRetryForRun_other (s := s) other failedAt u
      exact ⟨states, workflows.trans tracked⟩
    | clearRetryState r' now =>
      have other : r ≠ r' := Ne.symm keeps
      simp [step, clearRetryState, other, tracked]
    | removeWorkflow v now =>
      have other : ¬ some w = some v := fun same => keeps (Option.some.inj same).symm
      rw [step, (get?_removeWorkflow s v r now).1, (get?_removeWorkflow s v r now).2, tracked,
        if_neg other, if_neg other]
      exact ⟨rfl, rfl⟩
    | configureRetryPolicy v config => exact ⟨rfl, tracked⟩
    | reset now => exact keeps.elim
    | _ => cases retries

def Progress (config : RetryPolicyConfig) (w r : Uuid) (k : Nat) (s : TriggerLayer) : Prop :=
  if k < config.maxAttempts then
    s.retryStates.get? r = some ⟨config, k⟩ ∧ s.runWorkflows.get? r = some w
  else s.retryStates.get? r = none

section

variable (at_k : Progress config w r k s)
include at_k

theorem Progress.call (failedAt : Instant) (u : ℚ) :
    Progress config w r (k + 1) (s.nextRetryForRun r failedAt u).1 ∧
      (s.nextRetryForRun r failedAt u).2 = config.decision k (failedAt, u) := by
  unfold Progress at at_k ⊢
  unfold nextRetryForRun RetryPolicyConfig.decision
  by_cases left : k < config.maxAttempts
  · rw [if_pos left] at at_k
    rw [at_k.1]
    dsimp only
    by_cases more : k + 1 < config.maxAttempts
    · rw [nextRetry_left more]
      simp [more, at_k.2]
    · rw [nextRetry_spent more]
      simp [more]
  · rw [if_neg left] at at_k
    rw [at_k, if_neg (by omega), if_neg (by omega)]
    exact ⟨at_k, rfl⟩

theorem Progress.other (keeps : op.Keeps w r)
    (notCalled : ∀ failedAt u, op ≠ .nextRetryForRun r failedAt u) :
    Progress config w r k (s.step rt cal op) := by
  unfold Progress at at_k ⊢
  by_cases left : k < config.maxAttempts
  · rw [if_pos left] at at_k ⊢
    obtain ⟨states, workflows⟩ := tracked_step rt cal at_k.2 keeps notCalled
    exact ⟨states.trans at_k.1, workflows⟩
  · rw [if_neg left] at at_k ⊢
    refine untracked_step at_k ?_
    rintro v now rfl
    exact keeps rfl

theorem retryAnswers_eq (keeps : ∀ op ∈ ops, op.Keeps w r) :
    retryAnswers rt cal r s ops =
      (retryCalls r ops).mapIdx (fun i call => config.decision (k + i) call) := by
  induction ops generalizing s k with
  | nil => rfl
  | cons op ops ih =>
    obtain ⟨keeps_op, keeps_ops⟩ := List.forall_mem_cons.mp keeps
    have uncalled (notCalled : ∀ failedAt u, op ≠ .nextRetryForRun r failedAt u)
        (answer : s.answer? r op = none) (call : retryCalls r (op :: ops) = retryCalls r ops) :
        retryAnswers rt cal r s (op :: ops) =
          (retryCalls r (op :: ops)).mapIdx (fun i call => config.decision (k + i) call) := by
      rw [retryAnswers, answer, call, Option.toList_none, List.nil_append]
      exact ih (at_k.other keeps_op notCalled) keeps_ops
    cases op with
    | nextRetryForRun r' failedAt u =>
      by_cases same : r' = r
      · subst same
        obtain ⟨next, answered⟩ := at_k.call failedAt u
        have rest := ih (s := s.step rt cal (.nextRetryForRun r' failedAt u)) next keeps_ops
        have call : retryCalls r' (.nextRetryForRun r' failedAt u :: ops) =
            (failedAt, u) :: retryCalls r' ops := by
          simp [retryCalls]
        rw [retryAnswers, call, rest, List.mapIdx_cons]
        simp only [answer?, if_true, Option.toList_some, List.singleton_append, answered,
          Nat.add_zero, Nat.add_right_comm k 1, Nat.add_assoc]
      · apply uncalled
        · rintro failedAt' u' ⟨⟩
          exact same rfl
        · exact if_neg same
        · simp [retryCalls, same]
    | _ =>
      apply uncalled
      · rintro failedAt' u' ⟨⟩
      · rfl
      · simp [retryCalls]

end

theorem retryAnswers_untracked (untracked : s.retryStates.get? r = none)
    (notTracked : ∀ v now, .trackRun v r now ∉ ops) :
    ∀ answer ∈ retryAnswers rt cal r s ops, answer = none := by
  induction ops generalizing s with
  | nil =>
    intro answer mem
    cases mem
  | cons op ops ih =>
    have first : s.answer? r op = none ∨ s.answer? r op = some none := by
      cases op with
      | nextRetryForRun r' failedAt u =>
        by_cases same : r' = r
        · simp [answer?, same, nextRetryForRun, untracked]
        · exact Or.inl (if_neg same)
      | _ => exact Or.inl rfl
    have rest := ih (s := s.step rt cal op)
      (untracked_step untracked (fun v now same => notTracked v now (same ▸ List.mem_cons_self)))
      (fun v now mem => notTracked v now (List.mem_cons_of_mem _ mem))
    intro answer mem
    rw [retryAnswers] at mem
    cases List.mem_append.mp mem with
    | inl here =>
      cases first with
      | inl silent => simp [silent] at here
      | inr spent => simpa [spent] using here
    | inr later => exact rest answer later

theorem numbered_decisions (config : RetryPolicyConfig) (calls : List (Instant × ℚ)) :
    Numbered config (calls.mapIdx config.decision) := by
  apply List.ext_getElem
  · simp
  · intro i there _
    simp only [List.getElem_map, List.getElem_mapIdx, List.getElem_range,
      RetryPolicyConfig.decision]
    split <;> rfl

theorem some_mem_decisions {calls : List (Instant × ℚ)} {d : RetryDecision} :
    some d ∈ calls.mapIdx config.decision ↔
      ∃ i call, calls[i]? = some call ∧ config.decision i call = some d := by
  constructor
  · intro mem
    obtain ⟨i, here⟩ := List.mem_iff_getElem?.mp mem
    rw [List.getElem?_mapIdx] at here
    obtain ⟨call, at_i, decided⟩ := Option.map_eq_some_iff.mp here
    exact ⟨i, call, at_i, decided⟩
  · rintro ⟨i, call, at_i, decided⟩
    apply List.mem_iff_getElem?.mpr
    exact ⟨i, by rw [List.getElem?_mapIdx, at_i, Option.map_some, decided]⟩

theorem scheduled_decisions_iff (valid : config.Valid)
    {calls : List (Instant × ℚ)} (draws : ∀ call ∈ calls, IsDraw call.2) :
    Scheduled config (calls.mapIdx config.decision) ↔ ∀ i call, calls[i]? = some call →
      i + 1 < config.maxAttempts → config.JitterBelow i call.2 := by
  have exact' (i : Nat) (call : Instant × ℚ) (at_i : calls[i]? = some call) :=
    RetryPolicyConfig.inRange_iff (n := i) valid (draws call (List.mem_of_getElem? at_i))
  constructor
  · intro scheduled i call at_i more
    apply (exact' i call at_i).mp
    exact scheduled.inRange _ (some_mem_decisions.mpr ⟨i, call, at_i, if_pos more⟩)
  · intro below
    refine ⟨numbered_decisions config calls, ?_⟩
    intro d mem
    obtain ⟨i, call, at_i, decided⟩ := some_mem_decisions.mp mem
    by_cases more : i + 1 < config.maxAttempts
    · cases (if_pos more).symm.trans decided
      exact (exact' i call at_i).mpr (below i call at_i more)
    · cases (if_neg more).symm.trans decided

theorem progress_trackRun (s : TriggerLayer) (w r : Uuid) (now : Instant)
    (valid : ((s.retryConfigs.get? w).getD {}).Valid) :
    Progress ((s.retryConfigs.get? w).getD {}) w r 0 (s.trackRun w r now) := by
  obtain ⟨states, workflows⟩ := get?_trackRun s w r r now
  rw [if_pos rfl] at states workflows
  unfold Progress
  rw [if_pos (Nat.lt_of_succ_le valid.attempts)]
  exact ⟨states, workflows⟩

def ConfigsValid (s : TriggerLayer) : Prop := ∀ w c, s.retryConfigs.get? w = some c → c.Valid

theorem ConfigsValid.getD (valid : s.ConfigsValid) (w : Uuid) :
    ((s.retryConfigs.get? w).getD {}).Valid := by
  cases found : s.retryConfigs.get? w with
  | none => exact RetryPolicyConfig.valid_default
  | some c => exact valid w c found

theorem ConfigsValid.of_eq {t : TriggerLayer} (valid : s.ConfigsValid)
    (same : t.retryConfigs = s.retryConfigs) : t.ConfigsValid := by
  intro w c found
  rw [same] at found
  exact valid w c found

theorem ConfigsValid.step (valid : s.ConfigsValid) (checked : op.Checked) :
    (s.step rt cal op).ConfigsValid := by
  cases retries : op.retries with
  | false => exact valid.of_eq (step_retry rt cal s retries).2.2
  | true =>
    cases op with
    | configureRetryPolicy w config =>
      intro v c found
      rw [step, configureRetryPolicy, Dict.get?_set] at found
      by_cases here : v = w
      · rw [if_pos here] at found
        exact Option.some.inj found ▸ checked
      · rw [if_neg here] at found
        exact valid v c found
    | removeWorkflow w now =>
      intro v c found
      rw [step, removeWorkflow, Dict.get?_erase] at found
      by_cases here : v = w
      · rw [if_pos here] at found
        cases found
      · rw [if_neg here] at found
        exact valid v c found
    | reset now =>
      intro v c found
      cases found
    | trackRun w r now => exact valid.of_eq (maybeCleanupStates_retry _ now).2.2
    | nextRetryForRun r failedAt u =>
      apply valid.of_eq
      dsimp only [step, nextRetryForRun]
      split
      · rfl
      · split <;> rfl
    | clearRetryState r now => exact valid.of_eq rfl
    | _ => cases retries

theorem configsValid_reached (config : StateCleanupConfig) (start : Instant)
    (checked : ∀ op ∈ ops, op.Checked) :
    (ops.foldl (step rt cal) (new config start)).ConfigsValid := by
  have fresh : (new config start).ConfigsValid := by
    intro w c found
    cases found
  generalize new config start = s at fresh
  induction ops generalizing s with
  | nil => exact fresh
  | cons op ops ih =>
    obtain ⟨checked_op, checked_ops⟩ := List.forall_mem_cons.mp checked
    exact ih checked_ops _ (fresh.step checked_op)

theorem draws_of_checked (checked : ∀ op ∈ ops, op.Checked) :
    ∀ call ∈ retryCalls r ops, IsDraw call.2 := by
  intro call mem
  obtain ⟨op, mem_op, called⟩ := List.mem_filterMap.mp mem
  cases op with
  | nextRetryForRun r' failedAt u =>
    dsimp only at called
    split at called
    · cases called
      exact checked _ mem_op
    · cases called
  | _ => cases called

end Steps

def tenSeconds : RetryPolicyConfig where
  maxAttempts := 2
  initialDelaySeconds := 10
  maxDelaySeconds := some 10

theorem valid_tenSeconds : tenSeconds.Valid where
  attempts := by decide
  initial := by norm_num [tenSeconds]
  backoff := by norm_num [tenSeconds]
  ceiling := by
    rintro m ⟨⟩
    norm_num
  jitter := by norm_num [tenSeconds]
  share := by norm_num [tenSeconds]

theorem checked_configured : ∀ op ∈ [LayerOp.configureRetryPolicy 1 tenSeconds], op.Checked := by
  intro op mem
  rw [List.mem_singleton.mp mem]
  exact valid_tenSeconds

theorem checked_called {u : ℚ} (draw : IsDraw u) :
    ∀ op ∈ [LayerOp.nextRetryForRun 7 0 u], op.Checked ∧ op.Keeps 1 7 := by
  intro op mem
  rw [List.mem_singleton.mp mem]
  exact ⟨draw, trivial⟩

end TriggerLayer

end Orcheo.Triggers
