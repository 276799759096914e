import Orcheo.Lib.Run
import Orcheo.Defs.Listeners.Dispatch

/-! What becomes of a listener event that is delivered, once or again. -/

namespace Orcheo.Listeners

open Lib
open Repository (Readings RunError RunTable WorkflowRun)

namespace ListenerRepository

variable (s : ListenerRepository)

def IsRunOf (x : Uuid) (key : String) (r : Uuid) : Prop :=
  (s.runs.get? r).bind WorkflowRun.listenerInput = some ⟨x, key⟩

instance (s : ListenerRepository) (x : Uuid) (key : String) (r : Uuid) : Decidable (s.IsRunOf x key r) :=
  inferInstanceAs (Decidable ((s.runs.get? r).bind WorkflowRun.listenerInput = some ⟨x, key⟩))

def IsActive (x : Uuid) : Prop :=
  ∃ sub, s.listeners.subscriptions.get? x = some sub ∧ sub.status = .active

def live (b : Backend) (s : ListenerRepository) (x : Uuid) (now : Instant) : ListenerRepository :=
  s.withDedupe (s.liveDedupe b x now)

def failsAtCreation (b : Backend) (s : ListenerRepository) (x : Uuid) (key : String)
    (now : Instant) :
    Bool :=
  match s.listeners.subscriptions.get? x with
  | none => false
  | some sub => decide (sub.status = .active) && sub.dedupeWindowSeconds.isSome &&
      !(s.live b x now).listeners.dedupe.contains (x, key) &&
      (decide (b = .postgres) || (s.versions.get? sub.workflowVersionId).isSome) &&
      !(s.ensureCreatable sub.workflowId sub.workflowVersionId).isOk

inductive Delivered (b : Backend) (s : ListenerRepository) (x : Uuid) (key : String)
    (now : Instant) :
    ListenerRepository × Except DispatchError (Option Uuid) → Prop
  | refused {e} : Delivered b s x key now (s, .error e)
  | inactive : ¬ s.IsActive x → Delivered b s x key now (s, .ok none)
  | duplicate : (s.live b x now).listeners.dedupe.contains (x, key) = true →
      Delivered b s x key now (s.live b x now, .ok none)
  | failed {e sub window} : s.failsAtCreation b x key now = true →
      (s.live b x now).listeners.dedupe.contains (x, key) = false →
      Delivered b s x key now ((s.live b x now).recordDelivery x sub key window now, .error e)
  | created {sub window run} : s.listeners.subscriptions.get? x = some sub →
      sub.dedupeWindowSeconds = some window →
      (s.live b x now).listeners.dedupe.contains (x, key) = false →
      run.listenerInput = some ⟨x, key⟩ →
      Delivered b s x key now
        ({ (s.live b x now).recordDelivery x sub key window now with
          runs := s.runs.set s.newRunId run }, .ok (some s.newRunId))

theorem get?_newRunId : s.runs.get? s.newRunId = none :=
  s.runs.get?_fresh

theorem createListenerRun_cases (x : Uuid) (sub : ListenerSubscription)
    (key : String) (c : Readings) :
    ((s.ensureCreatable sub.workflowId sub.workflowVersionId).isOk = false ∧
      ∃ e, s.createListenerRun x sub key c = (s, .error e)) ∨
    ∃ run, run.listenerInput = some ⟨x, key⟩ ∧ s.createListenerRun x sub key c =
      ({ s with runs := s.runs.set s.newRunId run }, .ok (some s.newRunId)) := by
  cases h : s.ensureCreatable sub.workflowId sub.workflowVersionId with
  | error e => exact .inl ⟨rfl, e, by simp [createListenerRun, createRunLocked, h]⟩
  | ok workspaceId =>
    refine .inr ⟨listenerRun workspaceId sub.workflowId ⟨x, key⟩ c, rfl, ?_⟩
    simp only [createListenerRun, createRunLocked, h]

variable {b : Backend} {now : Instant} {s : ListenerRepository} {x : Uuid} {k : Uuid × String}

theorem delivered_create {key : String} {c : Readings} {sub : ListenerSubscription} {window : Int}
    (hx : s.listeners.subscriptions.get? x = some sub) (ha : sub.status = .active)
    (hw : sub.dedupeWindowSeconds = some window)
    (hv : b = .postgres ∨ (s.versions.get? sub.workflowVersionId).isSome)
    (hd : (s.live b x now).listeners.dedupe.contains (x, key) = false) :
    Delivered b s x key now
      (((s.live b x now).recordDelivery x sub key window now).createListenerRun x sub key c) := by
  cases createListenerRun_cases ((s.live b x now).recordDelivery x sub key window now) x sub key c with
  | inl h =>
    obtain ⟨hc, e, he⟩ := h
    rw [he]
    apply Delivered.failed _ hd
    -- neither the eviction nor the record changes what a creation depends on
    change (s.ensureCreatable sub.workflowId sub.workflowVersionId).isOk = false at hc
    simp only [failsAtCreation, hx, ha, hw, hd, hc]
    cases hv with
    | inl hv => simp [hv]
    | inr hv => simp [hv]
  | inr h =>
    obtain ⟨run, hr, he⟩ := h
    rw [he]
    exact .created hx hw hd hr

theorem delivered (b : Backend) (s : ListenerRepository) (x : Uuid) (key : String) (now : Instant)
    (c : Readings) : Delivered b s x key now (s.dispatchListenerEvent b x key now c) := by
  have hinactive : ∀ sub, s.listeners.subscriptions.get? x = some sub → sub.status ≠ .active →
      ¬ s.IsActive x := by
    rintro sub hx hs ⟨sub', hx', ha⟩
    cases hx.symm.trans hx'
    exact hs ha
  cases b with
  | inMemory =>
    simp only [dispatchListenerEvent, dispatchInMemory]
    split
    case h_1 => exact .refused
    case h_2 sub hx =>
      split
      case isTrue hs => exact .inactive (hinactive sub hx hs)
      case isFalse ha =>
        split
        case isTrue => exact .refused
        case isFalse hv =>
          split
          case h_1 => exact .refused
          case h_2 window hw =>
            split
            case isTrue hd => exact .duplicate hd
            case isFalse hd =>
              have hv := Option.isSome_iff_ne_none.mpr hv
              exact delivered_create hx (not_not.mp ha) hw (.inr hv) (Bool.eq_false_iff.mpr hd)
  | postgres =>
    simp only [dispatchListenerEvent, dispatchPostgres]
    split
    case h_1 => exact .refused
    case h_2 sub hx =>
      split
      case isTrue hs => exact .inactive (hinactive sub hx hs)
      case isFalse ha =>
        split
        case isTrue hd => exact .duplicate hd
        case isFalse hd =>
          split
          case h_1 => exact .refused
          case h_2 window hw =>
            exact delivered_create hx (not_not.mp ha) hw (.inl rfl) (Bool.eq_false_iff.mpr hd)

variable {record : ListenerDedupeRecord}

theorem get?_live (h : (s.live b x now).listeners.dedupe.get? k = some record) :
    s.listeners.dedupe.get? k = some record := by
  simp only [live, withDedupe, liveDedupe, Dict.get?_filter] at h
  exact (Option.filter_eq_some_iff.mp h).1

theorem get?_live_of_lt
    (h : s.listeners.dedupe.get? k = some record) (hl : now < record.expiresAt) :
    (s.live b x now).listeners.dedupe.get? k = some record := by
  simp only [live, withDedupe, liveDedupe, Dict.get?_filter, h]
  cases b <;> simp [Option.filter, hl]

theorem contains_iff :
    s.listeners.dedupe.contains k = true ↔ ∃ record, s.listeners.dedupe.get? k = some record :=
  Option.isSome_iff_exists

theorem isRunOf_create {s' : ListenerRepository} {run : WorkflowRun} {key : String}
    (h : s'.runs = s.runs.set s.newRunId run) (hr : run.listenerInput = some ⟨x, key⟩)
    (y : Uuid) (key' : String) (r : Uuid) : s'.IsRunOf y key' r ↔
      (r = s.newRunId ∧ x = y ∧ key = key') ∨ s.IsRunOf y key' r := by
  simp only [IsRunOf, h, Dict.get?_set]
  by_cases hn : r = s.newRunId
  · subst hn
    simp [hr, get?_newRunId]
  · simp [hn]

end ListenerRepository

namespace ListenerStore

@[simp] theorem dedupe_claim (b : Backend) (s : ListenerStore) (x : Uuid) (runtimeId : String)
    (leaseSeconds : Nat) (now : Instant) :
    (s.claimListenerSubscription b x runtimeId leaseSeconds now).1.dedupe = s.dedupe := by
  unfold claimListenerSubscription
  split
  · rfl
  · split <;> rfl

@[simp] theorem dedupe_release (s : ListenerStore) (x : Uuid) (runtimeId : String)
    (now : Instant) : (s.releaseListenerSubscription x runtimeId now).1.dedupe = s.dedupe := by
  unfold releaseListenerSubscription
  split
  · rfl
  · split <;> rfl

@[simp] theorem dedupe_updateStatus (s : ListenerStore) (x : Uuid)
    (status : ListenerSubscriptionStatus) (actor : String) (lastError : Option String)
    (now : Instant) :
    (s.updateListenerSubscriptionStatus x status actor lastError now).1.dedupe = s.dedupe := by
  unfold updateListenerSubscriptionStatus
  split <;> rfl

theorem dedupe_insertCompiled (w : Uuid) (actor : String) (now : Instant)
    (compiled : List (Uuid × ListenerSubscription)) (s : ListenerStore) :
    (compiled.foldl (fun s e => s.insertCompiled w actor now e) s).dedupe = s.dedupe := by
  induction compiled generalizing s with
  | nil => rfl
  | cons e compiled ih => exact ih (s.insertCompiled w actor now e)

@[simp] theorem dedupe_sync (b : Backend) (s : ListenerStore) (w : Uuid) (actor : String)
    (compiled : List (Uuid × ListenerSubscription)) (now : Instant) :
    (s.syncListenerSubscriptions b w actor compiled now).dedupe = s.dedupe :=
  dedupe_insertCompiled w actor now compiled _

end ListenerStore

theorem listenerInput_cancel {c : Readings} {actor : String} {reason : Option String}
    {run run' : WorkflowRun} (h : run.markCancelled c actor reason = .ok run') :
    run'.listenerInput = run.listenerInput := by
  unfold WorkflowRun.markCancelled at h
  split at h
  case isTrue => cases h
  case isFalse => cases h; rfl

theorem listenerInput_mark {c : Readings} {actor : String} {m : RunTable.Mark}
    {run run' : WorkflowRun} (h : m.apply c actor run = .ok run') :
    run'.listenerInput = run.listenerInput := by
  cases m with
  | started =>
    simp only [RunTable.Mark.apply, WorkflowRun.markStarted] at h
    split at h
    case isTrue => cases h; rfl
    case isFalse => cases h
  | succeeded output =>
    simp only [RunTable.Mark.apply, WorkflowRun.markSucceeded] at h
    split at h
    case isTrue => cases h; rfl
    case isFalse => cases h
  | failed error =>
    simp only [RunTable.Mark.apply, WorkflowRun.markFailed] at h
    split at h
    case isTrue => cases h; rfl
    case isFalse => cases h

namespace ListenerRepository

variable {s : ListenerRepository} {key : String} {x : Uuid} {b : Backend}

theorem isRunOf_updateRun {q : Uuid} {updater : WorkflowRun → Except RunError WorkflowRun}
    (h : ∀ run run', updater run = .ok run' → run'.listenerInput = run.listenerInput) (x : Uuid)
    (key : String) (r : Uuid) :
    (s.updateRun q updater).IsRunOf x key r ↔ s.IsRunOf x key r := by
  unfold updateRun
  split
  case h_1 => rfl
  case h_2 run hq =>
    split
    case h_1 => rfl
    case h_2 run' hu =>
      by_cases hr : r = q
      · subst hr
        simp [IsRunOf, hq, h run run' hu]
      · simp [IsRunOf, hr]

theorem step_other (b : Backend) (s : ListenerRepository) (op : ListenerRepositoryOp)
    (h : ∀ x key now c, op ≠ .deliver x key now c) :
    (s.step b op).listeners.dedupe = s.listeners.dedupe ∧
      ∀ x key r, (s.step b op).IsRunOf x key r ↔ s.IsRunOf x key r := by
  cases op with
  | deliver x key now c => exact absurd rfl (h x key now c)
  | putWorkflow w workspaceId => exact ⟨rfl, fun _ _ _ => Iff.rfl⟩
  | deleteWorkflow w => exact ⟨rfl, fun _ _ _ => Iff.rfl⟩
  | putVersion v w => exact ⟨rfl, fun _ _ _ => Iff.rfl⟩
  | deleteVersion v => exact ⟨rfl, fun _ _ _ => Iff.rfl⟩
  | setQuota workspaceId limit => exact ⟨rfl, fun _ _ _ => Iff.rfl⟩
  | deleteWorkspace workspaceId => exact ⟨rfl, fun _ _ _ => Iff.rfl⟩
  | claim x runtimeId leaseSeconds now =>
    exact ⟨ListenerStore.dedupe_claim b _ x runtimeId leaseSeconds now, fun _ _ _ => Iff.rfl⟩
  | release x runtimeId now =>
    exact ⟨ListenerStore.dedupe_release _ x runtimeId now, fun _ _ _ => Iff.rfl⟩
  | updateStatus x status actor lastError now =>
    exact ⟨ListenerStore.dedupe_updateStatus _ x status actor lastError now, fun _ _ _ => Iff.rfl⟩
  | disable w actor now => exact ⟨rfl, fun _ _ _ => Iff.rfl⟩
  | sync w actor compiled now =>
    exact ⟨ListenerStore.dedupe_sync b _ w actor compiled now, fun _ _ _ => Iff.rfl⟩
  | markRun r actor m c =>
    refine ⟨?_, isRunOf_updateRun fun _ _ => listenerInput_mark⟩
    simp only [step, updateRun]
    split
    · rfl
    · split <;> rfl
  | cancelRun r actor reason c =>
    refine ⟨?_, isRunOf_updateRun fun _ _ => listenerInput_cancel⟩
    simp only [step, updateRun]
    split
    · rfl
    · split <;> rfl

theorem deliver_or_other (op : ListenerRepositoryOp) :
    (∃ x key now c, op = .deliver x key now c) ∨ ∀ x key now c, op ≠ .deliver x key now c := by
  cases op with
  | deliver x key now c => exact .inl ⟨x, key, now, c, rfl⟩
  | _ => exact .inr fun _ _ _ _ h => by cases h

theorem isRunOf_step (b : Backend) (op : ListenerRepositoryOp) {r : Uuid} (h : s.IsRunOf x key r) :
    (s.step b op).IsRunOf x key r := by
  cases deliver_or_other op with
  | inr ho => exact ((s.step_other b op ho).2 x key r).mpr h
  | inl ho =>
    obtain ⟨y, key', now, c, rfl⟩ := ho
    have hd := s.delivered b y key' now c
    simp only [step]
    cases hr : s.dispatchListenerEvent b y key' now c with
    | mk s' result =>
      rw [hr] at hd
      cases hd with
      | refused => exact h
      | inactive => exact h
      | duplicate => exact h
      | failed => exact h
      | created _ _ _ hi => exact (isRunOf_create rfl hi x key r).mpr (.inr h)

def DedupeBacked (s : ListenerRepository) : Prop :=
  ∀ x key record, s.listeners.dedupe.get? (x, key) = some record → ∃ r, s.IsRunOf x key r

def CreatesOnDemand (b : Backend) (s : ListenerRepository) : ListenerRepositoryOp → Prop
  | .deliver x key now _ => s.failsAtCreation b x key now = false
  | _ => True

instance (b : Backend) (s : ListenerRepository) (op : ListenerRepositoryOp) :
    Decidable (s.CreatesOnDemand b op) := by
  cases op <;> unfold CreatesOnDemand <;> infer_instance

theorem get?_recordDelivery (s : ListenerRepository) (x : Uuid) (sub : ListenerSubscription)
    (key : String) (window : Int) (now : Instant) (k : Uuid × String) :
    (s.recordDelivery x sub key window now).listeners.dedupe.get? k =
      if k = (x, key) then some ⟨now, now + seconds window⟩ else s.listeners.dedupe.get? k :=
  Dict.get?_set _ _ _ _

theorem DedupeBacked.step (h : s.DedupeBacked)
    {op : ListenerRepositoryOp} (hop : s.CreatesOnDemand b op) : (s.step b op).DedupeBacked := by
  cases deliver_or_other op with
  | inr ho =>
    obtain ⟨hd, hr⟩ := s.step_other b op ho
    intro x key record hrec
    rw [hd] at hrec
    obtain ⟨r, hrun⟩ := h x key record hrec
    exact ⟨r, (hr x key r).mpr hrun⟩
  | inl ho =>
    obtain ⟨y, key', now, c, rfl⟩ := ho
    have hd := s.delivered b y key' now c
    simp only [ListenerRepository.step]
    cases hr : s.dispatchListenerEvent b y key' now c with
    | mk s' result =>
      rw [hr] at hd
      cases hd with
      | refused => exact h
      | inactive => exact h
      | duplicate => exact fun x key record hrec => h x key record (get?_live hrec)
      | failed hf =>
        rw [show s.failsAtCreation b y key' now = false from hop] at hf
        cases hf
      | created _ _ _ hi =>
        intro x key record hrec
        change ((s.live b y now).recordDelivery y _ key' _ now).listeners.dedupe.get? (x, key) =
          some record at hrec
        rw [get?_recordDelivery] at hrec
        split at hrec
        case isTrue hk =>
          cases hk
          exact ⟨s.newRunId, (isRunOf_create rfl hi y key' _).mpr (.inl ⟨rfl, rfl, rfl⟩)⟩
        case isFalse =>
          obtain ⟨r, hrun⟩ := h x key record (get?_live hrec)
          exact ⟨r, (isRunOf_create rfl hi x key r).mpr (.inr hrun)⟩

def Deduped (s : ListenerRepository) (x : Uuid) (key : String) (expiry : Instant) : Prop :=
  ∃ record, s.listeners.dedupe.get? (x, key) = some record ∧ record.expiresAt = expiry

def Before (expiry : Instant) : ListenerRepositoryOp → Prop
  | .deliver _ _ now _ => now < expiry
  | _ => True

theorem Deduped.step {expiry : Instant} (h : s.Deduped x key expiry) {op : ListenerRepositoryOp}
    (hop : Before expiry op) : (s.step b op).Deduped x key expiry ∧
      ∀ r, (s.step b op).IsRunOf x key r ↔ s.IsRunOf x key r := by
  cases deliver_or_other op with
  | inr ho =>
    obtain ⟨hd, hr⟩ := s.step_other b op ho
    unfold Deduped
    rw [hd]
    exact ⟨h, hr x key⟩
  | inl ho =>
    obtain ⟨y, key', now, c, rfl⟩ := ho
    obtain ⟨record, hrec, rfl⟩ := h
    have hlive := get?_live_of_lt (b := b) (x := y) hrec hop
    have hd := s.delivered b y key' now c
    simp only [ListenerRepository.step]
    -- a delivery that stores a record found none, so it is one of another event
    have hne : (s.live b y now).listeners.dedupe.contains (y, key') = false →
        (x, key) ≠ (y, key') := by
      intro hc he
      rw [← he, contains_iff.mpr ⟨record, hlive⟩] at hc
      cases hc
    cases hr : s.dispatchListenerEvent b y key' now c with
    | mk s' result =>
      rw [hr] at hd
      cases hd with
      | refused => exact ⟨⟨record, hrec, rfl⟩, fun _ => Iff.rfl⟩
      | inactive => exact ⟨⟨record, hrec, rfl⟩, fun _ => Iff.rfl⟩
      | duplicate => exact ⟨⟨record, hlive, rfl⟩, fun _ => Iff.rfl⟩
      | failed _ hc =>
        refine ⟨⟨record, ?_, rfl⟩, fun _ => Iff.rfl⟩
        rw [get?_recordDelivery, if_neg (hne hc)]
        exact hlive
      | @created sub window _ _ _ hc hi =>
        refine ⟨⟨record, ?_, rfl⟩, fun r => ?_⟩
        · change ((s.live b y now).recordDelivery y sub key' window now).listeners.dedupe.get?
            (x, key) = some record
          rw [get?_recordDelivery, if_neg (hne hc)]
          exact hlive
        · rw [isRunOf_create rfl hi x key r]
          refine ⟨fun hor => hor.resolve_left ?_, .inr⟩
          rintro ⟨-, rfl, rfl⟩
          exact hne hc rfl

theorem Deduped.run {expiry : Instant} (h : s.Deduped x key expiry)
    {more : List ListenerRepositoryOp} (hmore : ∀ op ∈ more, Before expiry op) (r : Uuid) :
    (more.foldl (ListenerRepository.step b) s).IsRunOf x key r ↔ s.IsRunOf x key r := by
  induction more generalizing s with
  | nil => rfl
  | cons op more ih =>
    obtain ⟨hd, hr⟩ := h.step (b := b) (hmore op List.mem_cons_self)
    exact (ih hd fun op' hop' => hmore op' (List.mem_cons_of_mem op hop')).trans (hr r)

theorem isRunOf_run (b : Backend) (more : List ListenerRepositoryOp)
    {r : Uuid} (h : s.IsRunOf x key r) :
    (more.foldl (step b) s).IsRunOf x key r :=
  foldl_invariant (P := fun s : ListenerRepository => s.IsRunOf x key r)
    (fun _ op hs => isRunOf_step b op hs) h more

theorem dedupeBacked_run (hs : s.DedupeBacked)
    {ops : List ListenerRepositoryOp} (h : AllSteps (step b) (CreatesOnDemand b) s ops) :
    (ops.foldl (step b) s).DedupeBacked := by
  induction ops generalizing s with
  | nil => exact hs
  | cons op ops ih => exact ih (hs.step h.1) h.2

structure DeliversOnce (b : Backend) (s : ListenerRepository) (x : Uuid) (key : String)
    (now : Instant) (c : Readings) : Prop where
  /-- an error for another reason than the creation of the run changes nothing -/
  raised : ∀ e, (s.dispatchListenerEvent b x key now c).2 = .error e →
    s.failsAtCreation b x key now = false → (s.dispatchListenerEvent b x key now c).1 = s
  /-- an answered event of an active subscription has a run, for good -/
  answered : ∀ out, (s.dispatchListenerEvent b x key now c).2 = .ok out → s.IsActive x →
    ∃ r, ∀ more : List ListenerRepositoryOp,
      (more.foldl (step b) (s.dispatchListenerEvent b x key now c).1).IsRunOf x key r
  /-- the run is one more, and there is no further one until the dedupe window ends -/
  created : ∀ r, (s.dispatchListenerEvent b x key now c).2 = .ok (some r) →
    ¬ s.IsRunOf x key r ∧ ∃ sub window, s.listeners.subscriptions.get? x = some sub ∧
      sub.dedupeWindowSeconds = some window ∧
      ∀ more : List ListenerRepositoryOp, (∀ op ∈ more, Before (now + seconds window) op) →
        ∀ r', (more.foldl (step b) (s.dispatchListenerEvent b x key now c).1).IsRunOf x key r' ↔
          r' = r ∨ s.IsRunOf x key r'

theorem DedupeBacked.deliversOnce (h : s.DedupeBacked)
    (x : Uuid) (key : String) (now : Instant) (c : Readings) : s.DeliversOnce b x key now c := by
  have hd := s.delivered b x key now c
  constructor
  · intro e he hf
    cases hr : s.dispatchListenerEvent b x key now c with
    | mk s' result =>
      rw [hr] at hd he
      cases hd with
      | refused => rfl
      | inactive => cases he
      | duplicate => cases he
      | failed hf' =>
        rw [hf] at hf'
        cases hf'
      | created => cases he
  · intro out ho ha
    cases hr : s.dispatchListenerEvent b x key now c with
    | mk s' result =>
      rw [hr] at hd ho
      cases hd with
      | refused => cases ho
      | inactive hn => exact absurd ha hn
      | duplicate hc =>
        obtain ⟨record, hrec⟩ := contains_iff.mp hc
        obtain ⟨r, hrun⟩ := h x key record (get?_live hrec)
        exact ⟨r, fun more => isRunOf_run b more hrun⟩
      | failed => cases ho
      | created _ _ _ hi =>
        refine ⟨s.newRunId, fun more => isRunOf_run b more ?_⟩
        exact (isRunOf_create rfl hi x key _).mpr (.inl ⟨rfl, rfl, rfl⟩)
  · intro r ho
    cases hr : s.dispatchListenerEvent b x key now c with
    | mk s' result =>
      rw [hr] at hd ho
      cases hd with
      | refused => cases ho
      | inactive => cases ho
      | duplicate => cases ho
      | failed => cases ho
      | @created sub window run hx hw hc hi =>
        cases ho
        refine ⟨by simp [IsRunOf, get?_newRunId], sub, window, hx, hw, fun more hmore r' => ?_⟩
        rw [Deduped.run _ hmore]
        · rw [isRunOf_create rfl hi x key r']
          simp
        · refine ⟨⟨now, now + seconds window⟩, ?_, rfl⟩
          change ((s.live b x now).recordDelivery x sub key window now).listeners.dedupe.get?
            (x, key) = _
          rw [get?_recordDelivery, if_pos rfl]

/-- In both stores and over every sequence of deliveries whose runs can be created: errors
change nothing, answered events have their run, and no second one within the window. -/
theorem listener_events_delivered (b : Backend) (ops : List ListenerRepositoryOp)
    (h : AllSteps (step b) (CreatesOnDemand b) {} ops) (x : Uuid) (key : String) (now : Instant)
    (c : Readings) : (ops.foldl (step b) {}).DeliversOnce b x key now c := by
  have hinit : ({} : ListenerRepository).DedupeBacked := fun _ _ _ hrec => by cases hrec
  exact (dedupeBacked_run hinit h).deliversOnce x key now c

section Redelivery

def readings : Readings := ⟨0, 0, 0, 0⟩

def oneListener : List ListenerRepositoryOp :=
  [.putWorkflow 1 none, .putVersion 2 1,
    .sync 1 "owner" [(5, { workflowId := 1, workflowVersionId := 2 })] 0]

def oneDelivery : List ListenerRepositoryOp := oneListener ++ [.deliver 5 "k" 0 readings]

theorem listener_events_delivered_again :
    (oneDelivery.foldl (step .postgres) {}).DeliversOnce .postgres 5 "k" 1 readings :=
  listener_events_delivered .postgres oneDelivery (by decide) 5 "k" 1 readings

def ExactlyOnce (b : Backend) : Prop :=
  ∀ (ops : List ListenerRepositoryOp) x key now c, ∀ s, s = ops.foldl (step b) {} →
    (∀ e, s.IsActive x → (s.dispatchListenerEvent b x key now c).2 = .error e → ∀ k,
      (s.dispatchListenerEvent b x key now c).1.listeners.dedupe.get? (x, k) =
        s.listeners.dedupe.get? (x, k)) ∧
    ∀ out, (s.dispatchListenerEvent b x key now c).2 = .ok out →
      ∀ more : List ListenerRepositoryOp,
        ∃! r, (more.foldl (step b) (s.dispatchListenerEvent b x key now c).1).IsRunOf x key r

theorem redelivery_after_window : ¬ ∃ b, ExactlyOnce b := by
  rintro ⟨b, h⟩
  cases b with
  | inMemory =>
    obtain ⟨r, -, hr⟩ := (h oneListener 5 "k" 0 readings _ rfl).2 (some 1) (by decide)
      [.deliver 5 "k" 300000000 readings]
    have h1 := hr 1 (by decide)
    have h2 := hr 2 (by decide)
    exact absurd (h1.trans h2.symm) (by decide)
  | postgres =>
    obtain ⟨r, -, hr⟩ := (h oneListener 5 "k" 0 readings _ rfl).2 (some 1) (by decide)
      [.deliver 5 "k" 300000000 readings]
    have h1 := hr 1 (by decide)
    have h2 := hr 2 (by decide)
    exact absurd (h1.trans h2.symm) (by decide)

end Redelivery

end ListenerRepository

end Orcheo.Listeners
