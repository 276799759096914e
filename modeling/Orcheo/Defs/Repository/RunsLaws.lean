import Orcheo.Lib.Run
import Orcheo.Defs.Repository.Runs

namespace Orcheo.Repository

open Lib

inductive RowStep (r : Uuid) (row : RunRow) : RunOp → RunRow → Prop
  | same {op} : RowStep r row op row
  | claim {token actor c run} : row.payload.status = .pending →
      row.payload.markStarted c actor = .ok run →
      RowStep r row (.claimWorkerRun r token actor c) { row.store run with
        workerOwnerToken := some token
        workerHeartbeatAt := some c.heartbeatAt
        workerLeaseExpiresAt := some (c.leaseFrom + workerLeaseDuration) }
  | renew {token c} : row.status = .running → row.workerOwnerToken = some token →
      RowStep r row (.renewWorkerRunLease r token c) { row with
        workerHeartbeatAt := some c.heartbeatAt
        workerLeaseExpiresAt := some (c.leaseFrom + workerLeaseDuration) }
  | succeed {token actor output c run} : row.workerOwnerToken = some token →
      row.payload.markSucceeded c actor output = .ok run →
      RowStep r row (.markWorkerRunSucceeded r token actor output c) (row.store run).disowned
  | fail {token actor error c run} : row.workerOwnerToken = some token →
      row.payload.markFailed c actor error = .ok run →
      RowStep r row (.markWorkerRunFailed r token actor error c) (row.store run).disowned
  | orphan {limit candidates now c run} : row.isOrphaned now = true →
      row.payload.markFailed c "worker_reconciler" orphanedWorkerRunError = .ok run →
      RowStep r row (.failOrphanedWorkerRuns limit candidates now c) (row.store run).disowned
  | cancel {actor reason c run} : row.payload.markCancelled c actor reason = .ok run →
      RowStep r row (.markRunCancelled r actor reason c) (row.store run).disowned
  | stale {minAge retryInterval limit candidates now} :
      RowStep r row (.claimStalePendingRuns minAge retryInterval limit candidates now)
        { row with lastEnqueueAttemptAt := some now }
  | enqueued : RowStep r row (.markRunEnqueued r) { row with enqueueConfirmed := true }

namespace WorkflowRun

variable {c : Readings} {actor error : String} {run run' : WorkflowRun}
  {output : Option (List (String × Json))} {reason : Option String}

theorem status_markStarted (h : run.markStarted c actor = .ok run') :
    run.status = .pending ∧ run'.status = .running := by
  unfold markStarted at h
  split at h
  case isTrue hs => cases h; exact ⟨hs, rfl⟩
  case isFalse => cases h

theorem status_markSucceeded (h : run.markSucceeded c actor output = .ok run') :
    run.status = .running ∧ run'.status = .succeeded := by
  unfold markSucceeded at h
  split at h
  case isTrue hs => cases h; exact ⟨hs, rfl⟩
  case isFalse => cases h

theorem status_markFailed (h : run.markFailed c actor error = .ok run') :
    run.status.isTerminal = false ∧ run'.status = .failed ∧ run'.error = some error := by
  unfold markFailed at h
  split at h
  case isTrue hs =>
    cases h
    refine ⟨?_, rfl, rfl⟩
    cases hs with
    | inl hs => rw [hs]; rfl
    | inr hs => rw [hs]; rfl
  case isFalse => cases h

theorem status_markCancelled (h : run.markCancelled c actor reason = .ok run') :
    run.status.isTerminal = false ∧ run'.status = .cancelled := by
  unfold markCancelled at h
  split at h
  case isTrue => cases h
  case isFalse hs => cases h; exact ⟨by simpa using hs, rfl⟩

end WorkflowRun

namespace RunTable

theorem get?_onRow {α : Type} (t : RunTable) (r r' : Uuid)
    (f : RunRow → Except RunError (RunRow × α)) :
    ((t.onRow r f).1.get? r' = t.get? r') ∨
      r' = r ∧ ∃ row row' result, t.get? r = some row ∧ f row = .ok (row', result) ∧
        (t.onRow r f).1.get? r' = some row' := by
  cases ht : t.get? r with
  | none => exact .inl (by simp [onRow, ht])
  | some row =>
    cases hf : f row with
    | error e => exact .inl (by simp [onRow, ht, hf])
    | ok result =>
      by_cases hr : r' = r
      · exact .inr ⟨hr, row, result.1, result.2, rfl, hf, by simp [onRow, ht, hf, hr]⟩
      · exact .inl (by simp [onRow, ht, hf, hr])

theorem mem_handedOut {t : RunTable} {p : RunRow → Bool} {candidates : List Uuid} {limit : Nat}
    {r : Uuid} (h : r ∈ t.handedOut p candidates limit) : ∃ row, t.get? r = some row ∧ p row := by
  have hm := List.mem_of_mem_take h
  simp only [List.mem_filter] at hm
  exact Option.any_eq_true _ _ |>.mp hm.2

theorem nodup_handedOut (t : RunTable) (p : RunRow → Bool) (candidates : List Uuid) (limit : Nat) :
    (t.handedOut p candidates limit).Nodup :=
  ((List.nodup_dedup candidates).filter _).sublist (List.take_sublist _ _)

theorem get?_failOrphans {c : Readings} {rs : List Uuid} (hrs : rs.Nodup) {t t' : RunTable}
    (h : failOrphans c rs t = .ok t') (r : Uuid) :
    t'.get? r = t.get? r ∨ r ∈ rs ∧ ∃ row row' run, t.get? r = some row ∧
      row.failOrphan c = .ok (row', run) ∧ t'.get? r = some row' := by
  induction rs generalizing t with
  | nil =>
    cases h
    exact .inl rfl
  | cons q rs ih =>
    have hq := (List.nodup_cons.mp hrs).1
    have htail := (List.nodup_cons.mp hrs).2
    cases ht : t.get? q with
    | none =>
      simp only [failOrphans, ht] at h
      cases ih htail h with
      | inl hs => exact .inl hs
      | inr hs => exact .inr ⟨List.mem_cons_of_mem q hs.1, hs.2⟩
    | some row =>
      cases hf : row.failOrphan c with
      | error e => simp [failOrphans, ht, hf] at h
      | ok result =>
        simp only [failOrphans, ht, hf] at h
        by_cases hr : r = q
        · subst hr
          cases ih htail h with
          | inl hs =>
            refine .inr ⟨List.mem_cons_self, row, result.1, result.2, ht, hf, ?_⟩
            simpa using hs
          | inr hs => exact absurd hs.1 hq
        · cases ih htail h with
          | inl hs => exact .inl (by simpa [hr] using hs)
          | inr hs => exact .inr ⟨List.mem_cons_of_mem q hs.1, by simpa [hr] using hs.2⟩

end RunTable

namespace RunRow

variable {row row' : RunRow} {token actor : String} {c : Readings}

theorem claim_ok {result : Option WorkflowRun} (h : row.claim token actor c = .ok (row', result))
    (r : Uuid) : RowStep r row (.claimWorkerRun r token actor c) row' := by
  unfold claim at h
  split at h
  case isTrue hs =>
    cases hm : row.payload.markStarted c actor with
    | error e => simp [hm] at h
    | ok run =>
      simp only [hm, Except.ok.injEq, Prod.mk.injEq] at h
      rw [← h.1]
      exact .claim hs hm
  case isFalse =>
    cases h
    exact .same

theorem update_ok {updater : WorkflowRun → Except RunError WorkflowRun}
    {ownerToken : Option String} {run : WorkflowRun}
    (hterm : ∀ run', updater row.payload = .ok run' → run'.status.isTerminal = true)
    (h : row.update updater ownerToken = .ok (row', run)) :
    (ownerToken = none ∨ row.workerOwnerToken = ownerToken) ∧
      updater row.payload = .ok run ∧ row' = (row.store run).disowned := by
  unfold update at h
  split at h
  case isTrue => cases h
  case isFalse hs =>
    cases hu : updater row.payload with
    | error e => simp [hu] at h
    | ok run' =>
      simp only [hu, hterm run' hu, if_true, Except.ok.injEq, Prod.mk.injEq] at h
      rw [← h.1, ← h.2]
      exact ⟨by tauto, rfl, rfl⟩

end RunRow

variable (t : RunTable)

theorem RunTable.get?_step_cases {op : RunOp} (other : op.creates = false)
    (r : Uuid) : (t.step op).get? r = t.get? r ∨ ∃ row row', t.get? r = some row ∧
      (t.step op).get? r = some row' ∧ RowStep r row op row' := by
  have onRow {α : Type} {q : Uuid} {f : RunRow → Except RunError (RunRow × α)} {op : RunOp}
      (steps : ∀ row row' result, f row = .ok (row', result) → RowStep q row op row') :
      (t.onRow q f).1.get? r = t.get? r ∨ ∃ row row', t.get? r = some row ∧
        (t.onRow q f).1.get? r = some row' ∧ RowStep r row op row' := by
    refine (t.get?_onRow q r f).imp id ?_
    rintro ⟨rfl, row, row', result, stored, ran, written⟩
    exact ⟨row, row', stored, written, steps row row' result ran⟩
  cases op with
  | createRun => cases other
  | claimWorkerRun q token actor c => exact onRow (fun _ _ _ ran => RunRow.claim_ok ran q)
  | renewWorkerRunLease q token c =>
    cases hq : t.get? q with
    | none => exact .inl (by simp [step, renewWorkerRunLease, hq])
    | some row =>
      by_cases hr : r = q
      · subst hr
        refine .inr ⟨row, (row.renew token c).1, hq, by simp [step, renewWorkerRunLease, hq], ?_⟩
        cases hb : row.heldBy token with
        | true =>
          simp only [RunRow.renew, hb, if_true]
          simp only [RunRow.heldBy, decide_eq_true_eq] at hb
          exact .renew hb.1 hb.2
        | false =>
          simp only [RunRow.renew, hb]
          exact .same
      · exact .inl (by simp [step, renewWorkerRunLease, hq, hr])
  | markWorkerRunSucceeded q token actor output c =>
    refine onRow (fun row row' run ran => ?_)
    obtain ⟨ho, hu, rfl⟩ := RunRow.update_ok (fun run' hu => by
      rw [(WorkflowRun.status_markSucceeded hu).2]; rfl) ran
    exact .succeed (ho.resolve_left (by simp)) hu
  | markWorkerRunFailed q token actor error c =>
    refine onRow (fun row row' run ran => ?_)
    obtain ⟨ho, hu, rfl⟩ := RunRow.update_ok (fun run' hu => by
      rw [(WorkflowRun.status_markFailed hu).2.1]; rfl) ran
    exact .fail (ho.resolve_left (by simp)) hu
  | failOrphanedWorkerRuns limit candidates now c =>
    cases hf : failOrphans c (t.handedOut (RunRow.isOrphaned now) candidates limit) t with
    | error e => exact .inl (by simp [step, failOrphanedWorkerRuns, hf])
    | ok t' =>
      simp only [step, failOrphanedWorkerRuns, hf]
      refine (get?_failOrphans (t.nodup_handedOut _ _ _) hf r).imp id ?_
      rintro ⟨hmem, row, row', run, h₀, ho, hs⟩
      obtain ⟨row₁, h₁, hp⟩ := mem_handedOut hmem
      cases h₀.symm.trans h₁
      refine ⟨row, row', h₀, hs, ?_⟩
      cases hm : row.payload.markFailed c "worker_reconciler" orphanedWorkerRunError with
      | error e => simp [RunRow.failOrphan, hm] at ho
      | ok run' =>
        simp only [RunRow.failOrphan, hm, Except.ok.injEq, Prod.mk.injEq] at ho
        rw [← ho.1]
        exact .orphan hp hm
  | markRunCancelled q actor reason c =>
    refine onRow (fun row row' run ran => ?_)
    obtain ⟨-, hu, rfl⟩ := RunRow.update_ok (fun run' hu => by
      rw [(WorkflowRun.status_markCancelled hu).2]; rfl) ran
    exact .cancel hu
  | claimStalePendingRuns minAge retryInterval limit candidates now =>
    simp only [step, claimStalePendingRuns, Dict.get?_mapValues]
    cases h : t.get? r with
    | none => exact .inl rfl
    | some row =>
      refine .inr ⟨row, _, rfl, rfl, ?_⟩
      split
      · exact .stale
      · exact .same
  | markRunEnqueued q =>
    simp only [step, markRunEnqueued, Dict.get?_mapValues]
    cases h : t.get? r with
    | none => exact .inl rfl
    | some row =>
      refine .inr ⟨row, _, rfl, rfl, ?_⟩
      by_cases hr : r = q
      · subst hr
        simp only [if_true]
        exact .enqueued
      · simp only [hr, if_false]
        exact .same

theorem RunTable.get?_step (op : RunOp) {r : Uuid} {row : RunRow}
    (h : t.get? r = some row) : ∃ row', (t.step op).get? r = some row' ∧ RowStep r row op row' := by
  cases other : op.creates with
  | false =>
    obtain same | ⟨row₀, row', h₀, hs, stepped⟩ := t.get?_step_cases other r
    · exact ⟨row, same.trans h, .same⟩
    · cases h.symm.trans h₀
      exact ⟨row', hs, stepped⟩
  | true =>
    cases op with
    | createRun q workflowId triggeredBy actor dispatchRequested c =>
      refine ⟨row, ?_, .same⟩
      cases hq : t.get? q with
      | some row' => simpa [step, createRun, hq] using h
      | none =>
        have hr : r ≠ q := fun hr => by simp [hr, hq] at h
        simpa [step, createRun, hq, hr] using h
    | _ => cases other

theorem RunTable.get?_step_of_not_creates {op : RunOp} {r : Uuid}
    (other : op.creates = false) (h : t.get? r = none) : (t.step op).get? r = none := by
  obtain same | ⟨row, _, h₀, -⟩ := t.get?_step_cases other r
  · exact same.trans h
  · cases h.symm.trans h₀

theorem RunTable.get?_step_none (op : RunOp) {r : Uuid} (h : t.get? r = none) :
    (t.step op).get? r = none ∨ ∃ workflowId triggeredBy actor dispatchRequested c,
      (t.step op).get? r = some (.new workflowId triggeredBy actor none dispatchRequested c) := by
  cases other : op.creates with
  | false => exact .inl (t.get?_step_of_not_creates other h)
  | true =>
    cases op with
    | createRun q workflowId triggeredBy actor dispatchRequested c =>
      cases hq : t.get? q with
      | some row => exact .inl (by simpa [step, createRun, hq] using h)
      | none =>
        by_cases hr : r = q
        · refine .inr ⟨workflowId, triggeredBy, actor, dispatchRequested, c, ?_⟩
          simp [step, createRun, hq, hr]
        · exact .inl (by simpa [step, createRun, hq, hr] using h)
    | _ => cases other

end Orcheo.Repository
