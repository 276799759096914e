import Orcheo.Defs.Repository.RunsLaws

/-! Ownership of a run by the worker that claimed it. -/

namespace Orcheo.Repository

open Lib
open WorkflowRun (status_markCancelled status_markFailed status_markStarted status_markSucceeded)

structure RunRow.WellFormed (row : RunRow) : Prop where
  status_eq : row.status = row.payload.status
  owned_iff : row.workerOwnerToken.isSome ↔ row.status = .running
  leased : row.workerLeaseExpiresAt.isSome = row.workerOwnerToken.isSome
  heartbeat : row.workerOwnerToken.isSome → row.workerHeartbeatAt.isSome

/-- How a row may look later on: it never returns to pending, a started run gets no new
owner, and a finished run stays as it is. -/
structure RunRow.Later (row row' : RunRow) : Prop where
  started : row.payload.status ≠ .pending → row'.payload.status ≠ .pending
  owner : row.payload.status ≠ .pending →
    ∀ token, row'.workerOwnerToken = some token → row.workerOwnerToken = some token
  finished : row.payload.status.isTerminal = true → row'.payload = row.payload

namespace RunRow

theorem later_refl (row : RunRow) : row.Later row := ⟨id, fun _ _ h => h, fun _ => rfl⟩

theorem Later.trans {row₁ row₂ row₃ : RunRow} (h : row₁.Later row₂) (h' : row₂.Later row₃) :
    row₁.Later row₃ where
  started hs := h'.started (h.started hs)
  owner hs token ht := h.owner hs token (h'.owner (h.started hs) token ht)
  finished hs := by
    have he := h.finished hs
    rw [← he] at hs ⊢
    exact h'.finished hs

theorem wellFormed_new (workflowId : Uuid) (triggeredBy actor : String)
    (cronInput : Option CronInput) (dispatchRequested : Bool) (c : Readings) :
    (new workflowId triggeredBy actor cronInput dispatchRequested c).WellFormed where
  status_eq := rfl
  owned_iff := by simp [new]
  leased := rfl
  heartbeat h := by cases h

theorem wellFormed_disowned {row : RunRow} {run : WorkflowRun} (h : run.status.isTerminal = true) :
    (row.store run).disowned.WellFormed where
  status_eq := rfl
  owned_iff := by
    have hr : run.status ≠ .running := fun hr => by rw [hr] at h; cases h
    simp [disowned, store, hr]
  leased := rfl
  heartbeat h := by cases h

theorem later_disowned {row : RunRow} {run : WorkflowRun}
    (h : row.payload.status.isTerminal = false) (h' : run.status.isTerminal = true) :
    row.Later (row.store run).disowned where
  started _ := fun hp => by
    change run.status = .pending at hp
    rw [hp] at h'
    cases h'
  owner _ token ht := by cases ht
  finished hs := by
    rw [h] at hs
    cases hs

variable {row row' : RunRow} {r : Uuid} {op : RunOp}

theorem WellFormed.step (h : row.WellFormed) (hs : RowStep r row op row') : row'.WellFormed := by
  cases hs with
  | same => exact h
  | claim _ hm =>
    have hr := (status_markStarted hm).2
    exact ⟨rfl, iff_of_true rfl hr, rfl, fun _ => rfl⟩
  | renew hs ht => exact ⟨h.status_eq, h.owned_iff, by simp [ht], fun _ => rfl⟩
  | succeed _ hm =>
    apply wellFormed_disowned
    rw [(status_markSucceeded hm).2]
    rfl
  | fail _ hm =>
    apply wellFormed_disowned
    rw [(status_markFailed hm).2.1]
    rfl
  | orphan _ hm =>
    apply wellFormed_disowned
    rw [(status_markFailed hm).2.1]
    rfl
  | cancel hm =>
    apply wellFormed_disowned
    rw [(status_markCancelled hm).2]
    rfl
  | stale => exact ⟨h.status_eq, h.owned_iff, h.leased, h.heartbeat⟩
  | enqueued => exact ⟨h.status_eq, h.owned_iff, h.leased, h.heartbeat⟩

theorem Later.step (hs : RowStep r row op row') : row.Later row' := by
  cases hs with
  | same => exact later_refl row
  | claim hp hm =>
    refine ⟨fun h => absurd hp h, fun h => absurd hp h, fun h => ?_⟩
    rw [hp] at h
    cases h
  | renew hs ht => exact ⟨id, fun _ _ h => h, fun _ => rfl⟩
  | succeed _ hm =>
    obtain ⟨hr, hd⟩ := status_markSucceeded hm
    apply later_disowned
    · rw [hr]; rfl
    · rw [hd]; rfl
  | fail _ hm =>
    obtain ⟨hr, hd, -⟩ := status_markFailed hm
    apply later_disowned hr
    rw [hd]
    rfl
  | orphan _ hm =>
    obtain ⟨hr, hd, -⟩ := status_markFailed hm
    apply later_disowned hr
    rw [hd]
    rfl
  | cancel hm =>
    obtain ⟨hr, hd⟩ := status_markCancelled hm
    apply later_disowned hr
    rw [hd]
    rfl
  | stale => exact ⟨id, fun _ _ h => h, fun _ => rfl⟩
  | enqueued => exact ⟨id, fun _ _ h => h, fun _ => rfl⟩

end RunRow

namespace RunTable

variable (t : RunTable)

def WellFormed : Prop := ∀ r row, t.get? r = some row → row.WellFormed

def Later (t t' : RunTable) : Prop :=
  ∀ r row, t.get? r = some row → ∃ row', t'.get? r = some row' ∧ row.Later row'

def Owns (r : Uuid) (token : String) : Prop :=
  (t.get? r).bind RunRow.workerOwnerToken = some token

def runOf (r : Uuid) : Option WorkflowRun := (t.get? r).map RunRow.payload

/-- A success stored by the operation is the current owner's result; a failure is the
current owner's, or that of an orphan whose lease ran out before the grace period. -/
structure StoredByOwner (t : RunTable) (op : RunOp) (r : Uuid) : Prop where
  succeeded : ∀ run run', t.runOf r = some run → (t.step op).runOf r = some run' →
    run.status ≠ .succeeded → run'.status = .succeeded →
    ∃ token actor output c, op = .markWorkerRunSucceeded r token actor output c ∧ t.Owns r token
  failed : ∀ run run', t.runOf r = some run → (t.step op).runOf r = some run' →
    run.status ≠ .failed → run'.status = .failed →
    (∃ token actor error c, op = .markWorkerRunFailed r token actor error c ∧ t.Owns r token) ∨
    ∃ limit candidates now c, op = .failOrphanedWorkerRuns limit candidates now c ∧
      (t.get? r).any (RunRow.isOrphaned now) = true ∧ run'.error = some orphanedWorkerRunError

theorem owns_iff {t : RunTable} {r : Uuid} {token : String} :
    t.Owns r token ↔ ∃ row, t.get? r = some row ∧ row.workerOwnerToken = some token :=
  Option.bind_eq_some_iff

theorem runOf_eq_some {t : RunTable} {r : Uuid} {run : WorkflowRun} :
    t.runOf r = some run ↔ ∃ row, t.get? r = some row ∧ row.payload = run :=
  Option.map_eq_some_iff

theorem WellFormed.step {t : RunTable} (h : t.WellFormed) (op : RunOp) :
    (t.step op).WellFormed := by
  intro r row' hr'
  cases hr : t.get? r with
  | none =>
    cases t.get?_step_none op hr with
    | inl hn => exact absurd (hn.symm.trans hr') (by simp)
    | inr hn =>
      obtain ⟨workflowId, triggeredBy, actor, dispatchRequested, c, hn⟩ := hn
      cases hn.symm.trans hr'
      apply RunRow.wellFormed_new
  | some row =>
    obtain ⟨row'', hr'', hs⟩ := t.get?_step op hr
    cases hr''.symm.trans hr'
    exact (h r row hr).step hs

theorem later_refl : t.Later t := fun _ row h => ⟨row, h, row.later_refl⟩

theorem Later.trans {t₁ t₂ t₃ : RunTable} (h : t₁.Later t₂) (h' : t₂.Later t₃) :
    t₁.Later t₃ := by
  intro r row hr
  obtain ⟨row', hr', hl⟩ := h r row hr
  obtain ⟨row'', hr'', hl'⟩ := h' r row' hr'
  exact ⟨row'', hr'', hl.trans hl'⟩

theorem Later.step (op : RunOp) : t.Later (t.step op) := by
  intro r row hr
  obtain ⟨row', hr', hs⟩ := t.get?_step op hr
  exact ⟨row', hr', .step hs⟩

theorem wellFormed_run (ops : List RunOp) : (ops.foldl RunTable.step ∅).WellFormed :=
  foldl_invariant (P := WellFormed) (fun _ op h => h.step op) (fun _ _ h => by cases h) ops

theorem later_run (ops : List RunOp) : t.Later (ops.foldl RunTable.step t) :=
  foldl_relates (P := fun _ => True) (fun _ _ _ => trivial) later_refl
    (fun _ _ _ => Later.trans) (fun t op _ => Later.step t op) trivial ops

theorem Later.owner_eq {t t' : RunTable} (hw : t.WellFormed) (hl : t.Later t') {r : Uuid}
    {a b : String} (ha : t.Owns r a) (hb : t'.Owns r b) : a = b := by
  obtain ⟨row, hr, ha⟩ := owns_iff.mp ha
  obtain ⟨row', hr', hb⟩ := owns_iff.mp hb
  obtain ⟨row'', hr'', h⟩ := hl r row hr
  cases hr''.symm.trans hr'
  have hrun := (hw r row hr).owned_iff.mp (by simp [ha])
  rw [(hw r row hr).status_eq] at hrun
  have hb := h.owner (by simp [hrun]) b hb
  exact Option.some.inj (ha.symm.trans hb)

theorem Later.runOf_eq {t t' : RunTable} (hl : t.Later t') {r : Uuid} {run : WorkflowRun}
    (h : t.runOf r = some run) (hd : run.status.isTerminal = true) : t'.runOf r = some run := by
  obtain ⟨row, hr, rfl⟩ := runOf_eq_some.mp h
  obtain ⟨row', hr', hl⟩ := hl r row hr
  exact runOf_eq_some.mpr ⟨row', hr', hl.finished hd⟩

theorem storedByOwner (op : RunOp) (r : Uuid) : t.StoredByOwner op r := by
  have hcases : ∀ run run', t.runOf r = some run → (t.step op).runOf r = some run' →
      ∃ row row', t.get? r = some row ∧ RowStep r row op row' ∧ row.payload = run ∧
        row'.payload = run' := by
    intro run run' h h'
    obtain ⟨row, hr, hp⟩ := runOf_eq_some.mp h
    obtain ⟨row', hr', hp'⟩ := runOf_eq_some.mp h'
    obtain ⟨row'', hr'', hs⟩ := t.get?_step op hr
    cases hr''.symm.trans hr'
    exact ⟨row, row', hr, hs, hp, hp'⟩
  constructor
  · intro run run' h h' hn hd
    obtain ⟨row, row', hr, hs, rfl, rfl⟩ := hcases run run' h h'
    cases hs with
    | same => exact absurd hd hn
    | claim _ hm => exact absurd ((status_markStarted hm).2.symm.trans hd) (by simp)
    | renew => exact absurd hd hn
    | @succeed token actor output c run ht hm =>
      exact ⟨token, actor, output, c, rfl, owns_iff.mpr ⟨row, hr, ht⟩⟩
    | fail _ hm => exact absurd ((status_markFailed hm).2.1.symm.trans hd) (by simp)
    | orphan _ hm => exact absurd ((status_markFailed hm).2.1.symm.trans hd) (by simp)
    | cancel hm => exact absurd ((status_markCancelled hm).2.symm.trans hd) (by simp)
    | stale => exact absurd hd hn
    | enqueued => exact absurd hd hn
  · intro run run' h h' hn hd
    obtain ⟨row, row', hr, hs, rfl, rfl⟩ := hcases run run' h h'
    cases hs with
    | same => exact absurd hd hn
    | claim _ hm => exact absurd ((status_markStarted hm).2.symm.trans hd) (by simp)
    | renew => exact absurd hd hn
    | succeed _ hm =>
      exact absurd ((status_markSucceeded hm).2.symm.trans hd) (by simp)
    | @fail token actor error c run ht hm =>
      exact .inl ⟨token, actor, error, c, rfl, owns_iff.mpr ⟨row, hr, ht⟩⟩
    | @orphan limit candidates now c run ho hm =>
      refine .inr ⟨limit, candidates, now, c, rfl, by simpa [hr] using ho, ?_⟩
      exact (status_markFailed hm).2.2
    | cancel hm => exact absurd ((status_markCancelled hm).2.symm.trans hd) (by simp)
    | stale => exact absurd hd hn
    | enqueued => exact absurd hd hn

/-- Any interleaving: one owner token over the whole life of a run, results only from that
owner, and a finished run that nothing changes. -/
theorem worker_run_ownership (ops more : List RunOp) (op : RunOp) (r : Uuid) :
    let t := ops.foldl RunTable.step ∅
    t.WellFormed ∧
    (∀ a b, t.Owns r a → (more.foldl RunTable.step t).Owns r b → a = b) ∧
    (∀ run, t.runOf r = some run → run.status.isTerminal = true →
      (more.foldl RunTable.step t).runOf r = some run) ∧
    t.StoredByOwner op r := by
  intro t
  have hw : t.WellFormed := wellFormed_run ops
  have hl := t.later_run more
  exact ⟨hw, fun a b => hl.owner_eq hw, fun run => hl.runOf_eq, t.storedByOwner op r⟩

end RunTable

def WorkflowRunStatus.closing : WorkflowRunStatus → List String
  | pending | running => []
  | succeeded => ["run_succeeded"]
  | failed => ["run_failed"]
  | cancelled => ["run_cancelled"]

/-- The audit log tells how the run came to its status, and what it records fits the status. -/
structure WorkflowRun.Audited (run : WorkflowRun) : Prop where
  trail : run.auditLog.map AuditRecord.action = "run_created" ::
    ((if run.startedAt.isSome then ["run_started"] else []) ++ run.status.closing)
  latest : run.auditLog.getLast?.map AuditRecord.recordedAt = some run.updatedAt
  started : run.startedAt.isSome → run.status ≠ .pending
  ran : run.status = .running ∨ run.status = .succeeded → run.startedAt.isSome
  completed : run.completedAt.isSome = run.status.isTerminal
  output : run.outputPayload.isSome = decide (run.status = .succeeded)
  error : run.error.isSome → run.status = .failed ∨ run.status = .cancelled

namespace WorkflowRun.Audited

variable {run run' : WorkflowRun} {c : Readings} {actor : String} (h : run.Audited)
include h

theorem closed {status : WorkflowRunStatus} {output : Option (List (String × Json))}
    {error : Option String} {action : String} {metadata : List (String × Json)}
    (busy : run.status.isTerminal = false) (closing : status.closing = [action])
    (ran : status = .succeeded → run.status = .running ∧ error = none)
    (given : output.isSome = decide (status = .succeeded)) :
    (recordEvent { run with
      status := status
      completedAt := some c.utcnow
      outputPayload := output
      error := error } c actor action metadata).Audited := by
  have trail := h.trail
  have started := h.ran
  have unclosed : run.status.closing = [] := by
    cases is : run.status <;> simp_all [WorkflowRunStatus.closing, WorkflowRunStatus.isTerminal]
  cases status <;> simp [WorkflowRunStatus.closing] at closing <;> subst closing <;>
    constructor <;> simp_all [recordEvent, WorkflowRunStatus.closing, WorkflowRunStatus.isTerminal]

theorem unanswered (busy : run.status.isTerminal = false) : run.outputPayload.isSome = false := by
  rw [h.output]
  cases is : run.status <;> simp_all [WorkflowRunStatus.isTerminal]

theorem markFailed {error : String} (marked : run.markFailed c actor error = .ok run') :
    run'.Audited := by
  have busy := (status_markFailed marked).1
  unfold WorkflowRun.markFailed at marked
  split at marked
  case isFalse => cases marked
  case isTrue =>
    cases marked
    exact h.closed busy rfl nofun (h.unanswered busy)

theorem step {row row' : RunRow} {r : Uuid} {op : RunOp} (is : row.payload = run)
    (stepped : RowStep r row op row') : row'.payload.Audited := by
  subst is
  cases stepped with
  | claim pending marked =>
    have trail := h.trail
    have unstarted : row.payload.startedAt = none := by
      simpa [pending] using mt h.started
    rw [unstarted, pending] at trail
    have completed := h.completed
    have output := h.output
    have error := h.error
    rw [WorkflowRun.markStarted, if_pos pending] at marked
    cases marked
    constructor
    case trail => simp [RunRow.store, recordEvent, trail, WorkflowRunStatus.closing]
    all_goals simp_all [RunRow.store, recordEvent, WorkflowRunStatus.isTerminal]
  | succeed _ marked =>
    have running := (status_markSucceeded marked).1
    rw [WorkflowRun.markSucceeded, if_pos running] at marked
    cases marked
    exact h.closed (by rw [running]; rfl) rfl (fun _ => ⟨running, rfl⟩) rfl
  | fail _ marked => exact h.markFailed marked
  | orphan _ marked => exact h.markFailed marked
  | @cancel _ _ _ _ marked =>
    have busy := (status_markCancelled marked).1
    rw [WorkflowRun.markCancelled, if_neg (by simp [busy])] at marked
    cases marked
    exact h.closed busy rfl (by simp) (h.unanswered busy)
  | _ => exact h

end WorkflowRun.Audited

namespace RunTable

def Audited (t : RunTable) : Prop := ∀ r row, t.get? r = some row → row.payload.Audited

theorem runs_audited (ops : List RunOp) : (ops.foldl RunTable.step ∅).Audited := by
  apply foldl_invariant (P := Audited) _ (fun _ _ h => by cases h)
  intro t op h r row' there'
  cases there : t.get? r with
  | some row =>
    obtain ⟨row'', there'', stepped⟩ := t.get?_step op there
    cases there''.symm.trans there'
    exact (h r row there).step rfl stepped
  | none =>
    obtain absent | ⟨_, _, _, _, _, new⟩ := t.get?_step_none op there
    · cases absent.symm.trans there'
    · cases new.symm.trans there'
      exact ⟨rfl, rfl, nofun, nofun, rfl, rfl, nofun⟩

end RunTable

end Orcheo.Repository
