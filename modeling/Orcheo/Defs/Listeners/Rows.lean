import Orcheo.Defs.Listeners.Subscription
import Orcheo.Lib.Run

/-! The row of a listener subscription in Postgres: columns beside a JSON payload, and the
transactions of several processes on it under READ COMMITTED. -/

universe u

namespace Orcheo.Listeners

open Lib (AllSteps allSteps_iff_of_invariant)

structure SubscriptionRow where
  status : ListenerSubscriptionStatus
  assignedRuntime : Option String
  leaseExpiresAt : Option Instant
  lastEventAt : Option Instant
  lastError : Option String
  payload : ListenerSubscription
  deriving DecidableEq

namespace SubscriptionRow

def ofSubscription (sub : ListenerSubscription) : SubscriptionRow where
  status := sub.status
  assignedRuntime := sub.assignedRuntime
  leaseExpiresAt := sub.leaseExpiresAt
  lastEventAt := sub.lastEventAt
  lastError := sub.lastError
  payload := sub

def columns (row : SubscriptionRow) : ListenerSubscription :=
  { row.payload with
    status := row.status
    assignedRuntime := row.assignedRuntime
    leaseExpiresAt := row.leaseExpiresAt }

structure Coherent (row : SubscriptionRow) : Prop where
  status : row.status = row.payload.status
  assignedRuntime : row.assignedRuntime = row.payload.assignedRuntime
  leaseExpiresAt : row.leaseExpiresAt = row.payload.leaseExpiresAt

def Active (row : SubscriptionRow) : Prop :=
  row.status = .active ∨ row.payload.status = .active

theorem Coherent.active_iff {row : SubscriptionRow} (h : row.Coherent) :
    row.Active ↔ row.status = .active := by
  unfold Active
  rw [← h.status, or_self]

end SubscriptionRow

/-- The operations on a subscription, with the clock that they read; `duplicate` is what the
dedupe table tells a dispatch. -/
inductive RowOp
  | claim (runtimeId : String) (leaseSeconds : Nat) (now : Instant)
  | release (runtimeId : String) (now : Instant)
  | dispatch (duplicate : Bool) (now : Instant)
  | updateStatus (status : ListenerSubscriptionStatus) (actor : String)
      (lastError : Option String) (now : Instant)
  | disable (actor : String) (now : Instant)
  deriving DecidableEq

/-- `SELECT … FOR UPDATE` -/
def RowOp.locks : RowOp → Bool
  | claim _ _ _ => true
  | _ => false

structure OpenTransaction where
  op : RowOp
  view : ListenerSubscription
  /-- the row matched the condition of the `SELECT` -/
  selected : Bool
  /-- a disabling has been committed since the read -/
  disabledSince : Bool := false
  deriving DecidableEq

namespace OpenTransaction

variable (tx : OpenTransaction)

def edited : Option ListenerSubscription :=
  match tx.op with
  | .claim runtimeId leaseSeconds now => tx.view.claim .inMemory runtimeId leaseSeconds now
  | .release runtimeId now => tx.view.release runtimeId now
  | .dispatch duplicate now =>
    if tx.view.status = .active ∧ duplicate = false then
      some { tx.view with lastEventAt := some now, lastError := none }
    else none
  | .updateStatus status actor lastError now =>
    some (tx.view.updateStatus status actor lastError now)
  | .disable actor now =>
    if tx.selected then
      some ({ tx.view.unassigned with status := .disabled }.recordEvent now actor
        "listener_subscription_disabled")
    else none

variable (row : SubscriptionRow)

/-- The `UPDATE` with the edited payload; that of a claim has a condition on the columns. -/
def update (sub : ListenerSubscription) : RowOp → SubscriptionRow
  | .claim runtimeId _ now =>
    if row.status = .active ∧ row.columns.updatable runtimeId now = true then
      { row with
        assignedRuntime := sub.assignedRuntime
        leaseExpiresAt := sub.leaseExpiresAt
        payload := sub }
    else row
  | .release _ _ => { row with assignedRuntime := none, leaseExpiresAt := none, payload := sub }
  | .dispatch _ _ =>
    { row with lastEventAt := sub.lastEventAt, lastError := none, payload := sub }
  | .updateStatus _ _ _ _ =>
    { row with
      status := sub.status
      assignedRuntime := none
      leaseExpiresAt := none
      lastError := sub.lastError
      payload := sub }
  | .disable _ _ =>
    { row with status := sub.status, assignedRuntime := none, leaseExpiresAt := none, payload := sub }

def agrees : Bool :=
  match tx.op with
  | .release _ _ => tx.view.status = row.status
  | .dispatch _ _ => tx.view.status = row.status ∧
    tx.view.assignedRuntime = row.assignedRuntime ∧ tx.view.leaseExpiresAt = row.leaseExpiresAt
  | _ => true

def revives : Bool :=
  match tx.op with
  | .updateStatus status _ _ _ => tx.disabledSince && status = .active && row.status ≠ .active
  | _ => false

variable {row : SubscriptionRow} {sub : ListenerSubscription} (tx : OpenTransaction)

theorem coherent_update_iff (h : row.Coherent) (edited : tx.edited = some sub) :
    (update row sub tx.op).Coherent ↔ tx.agrees row = true := by
  unfold OpenTransaction.edited at edited
  unfold agrees
  cases op : tx.op with
  | claim runtimeId leaseSeconds now =>
    rw [op] at edited
    apply iff_of_true _ rfl
    simp only [update]
    split
    case isTrue active =>
      exact ⟨active.1.trans (ListenerSubscription.status_of_claim edited).symm, rfl, rfl⟩
    case isFalse => exact h
  | release runtimeId now =>
    rw [op] at edited
    rw [ListenerSubscription.release_some edited, decide_eq_true_iff]
    exact ⟨fun coherent => coherent.status.symm, fun same => ⟨same.symm, rfl, rfl⟩⟩
  | dispatch duplicate now =>
    rw [op] at edited
    dsimp only at edited
    split at edited
    case isFalse => cases edited
    case isTrue =>
      cases edited
      rw [decide_eq_true_iff]
      constructor
      · intro coherent
        exact ⟨coherent.status.symm, coherent.assignedRuntime.symm, coherent.leaseExpiresAt.symm⟩
      · rintro ⟨status, assigned, lease⟩
        exact ⟨status.symm, assigned.symm, lease.symm⟩
  | updateStatus status actor lastError now =>
    rw [op] at edited
    cases edited
    exact iff_of_true ⟨rfl, rfl, rfl⟩ rfl
  | disable actor now =>
    rw [op] at edited
    dsimp only at edited
    split at edited
    case isFalse => cases edited
    case isTrue =>
      cases edited
      exact iff_of_true ⟨rfl, rfl, rfl⟩ rfl

theorem revives_iff : tx.revives row = true ↔ ∃ actor lastError now,
    tx.op = .updateStatus .active actor lastError now ∧ tx.disabledSince = true ∧
      row.status ≠ .active := by
  unfold revives
  cases op : tx.op with
  | updateStatus status actor lastError now =>
    simp only [Bool.and_eq_true, decide_eq_true_iff]
    constructor
    · rintro ⟨⟨since, rfl⟩, inactive⟩
      exact ⟨actor, lastError, now, rfl, since, inactive⟩
    · rintro ⟨_, _, _, same, since, inactive⟩
      cases same
      exact ⟨⟨since, rfl⟩, inactive⟩
  | _ => simp

theorem active_update_of_revives (edited : tx.edited = some sub) (h : tx.revives row = true) :
    (update row sub tx.op).Active := by
  obtain ⟨actor, lastError, now, op, _, _⟩ := tx.revives_iff.mp h
  unfold OpenTransaction.edited at edited
  rw [op] at edited ⊢
  cases edited
  exact Or.inl rfl

theorem active_of_update (h : row.Coherent) (edited : tx.edited = some sub)
    (agrees : tx.agrees row = true) (stale : tx.revives row = false)
    (since : tx.disabledSince = true) (active : (update row sub tx.op).Active) : row.Active := by
  have coherent := (tx.coherent_update_iff h edited).mpr agrees
  have active := coherent.active_iff.mp active
  cases op : tx.op with
  | claim runtimeId leaseSeconds now =>
    rw [op] at active
    left
    simp only [update] at active
    split at active <;> exact active
  | release runtimeId now =>
    rw [op] at active
    exact Or.inl active
  | dispatch duplicate now =>
    rw [op] at active
    exact Or.inl active
  | updateStatus status actor lastError now =>
    left
    by_contra inactive
    unfold OpenTransaction.edited at edited
    rw [op] at active edited
    cases edited
    cases active
    have revives := tx.revives_iff.mpr ⟨actor, lastError, now, op, since, inactive⟩
    rw [stale] at revives
    cases revives
  | disable actor now =>
    unfold OpenTransaction.edited at edited
    rw [op] at active edited
    dsimp only at edited
    split at edited
    case isFalse => cases edited
    case isTrue =>
      cases edited
      cases active

end OpenTransaction

structure RowSystem (P : Type u) where
  row : SubscriptionRow
  tx : P → Option OpenTransaction := fun _ => none
  lock : Option P := none

inductive RowStep (P : Type u)
  | read (p : P) (op : RowOp)
  | commit (p : P)
  | rollback (p : P)

namespace RowSystem

variable {P : Type u} [DecidableEq P]

def start (sub : ListenerSubscription) : RowSystem P where
  row := .ofSubscription sub

variable (s : RowSystem P)

/-- The transaction of `p` ends and gives its lock back. -/
def close (p : P) : RowSystem P :=
  { s with
    tx := Function.update s.tx p none
    lock := if s.lock = some p then none else s.lock }

def read (p : P) (op : RowOp) : RowSystem P :=
  if (s.tx p).isSome ∨ (op.locks ∧ s.lock.isSome) then s
  else { s with
    tx := Function.update s.tx p (some {
      op := op
      view := s.row.payload
      selected := s.row.status ≠ .disabled })
    lock := if op.locks then some p else s.lock }

def noteDisabled : RowSystem P :=
  { s with tx := fun q => (s.tx q).map (fun tx => { tx with disabledSince := true }) }

def closeAfter (p : P) : RowOp → RowSystem P
  | .disable _ _ => (s.close p).noteDisabled
  | _ => s.close p

def lockedByOther (p : P) : Bool :=
  decide (s.lock ≠ none ∧ s.lock ≠ some p)

/-- The write of an operation waits for a lock that another process holds. -/
def commit (p : P) : RowSystem P :=
  match s.tx p with
  | none => s
  | some tx => match tx.edited with
    | none => s.closeAfter p tx.op
    | some sub =>
      if s.lockedByOther p then s
      else { s.closeAfter p tx.op with row := OpenTransaction.update s.row sub tx.op }

def step : RowStep P → RowSystem P
  | .read p op => s.read p op
  | .commit p => s.commit p
  | .rollback p => s.close p

/-- A step leaves the columns agreeing with the payload, and does not bring the subscription
back if it began before a disabling that has been committed. -/
structure SafeStep (s : RowSystem P) (a : RowStep P) : Prop where
  coherent : (s.step a).row.Coherent
  notRevived : ∀ p tx, a = .commit p → s.tx p = some tx → tx.disabledSince = true →
    (s.step a).row.Active → s.row.Active

def commitsFresh : RowStep P → Bool
  | .commit p => match s.tx p with
    | none => true
    | some tx => tx.edited.isNone || s.lockedByOther p || (tx.agrees s.row && !tx.revives s.row)
  | _ => true

variable {s : RowSystem P}

theorem row_closeAfter (p : P) (op : RowOp) : (s.closeAfter p op).row = s.row := by
  cases op <;> rfl

theorem safeStep_of_row (h : s.row.Coherent) {a : RowStep P} (row : (s.step a).row = s.row) :
    s.SafeStep a where
  coherent := row ▸ h
  notRevived _ _ _ _ _ active := row ▸ active

theorem safeStep_commit (h : s.row.Coherent) (p : P) :
    s.SafeStep (.commit p) ↔ s.commitsFresh (.commit p) = true := by
  simp only [commitsFresh]
  cases found : s.tx p with
  | none =>
    apply iff_of_true (safeStep_of_row h _) rfl
    simp only [step, commit, found]
  | some tx =>
    cases edited : tx.edited with
    | none =>
      apply iff_of_true (safeStep_of_row h _) (by simp [edited])
      simp only [step, commit, found, edited, row_closeAfter]
    | some sub =>
      cases waits : s.lockedByOther p with
      | true =>
        apply iff_of_true (safeStep_of_row h _) (by simp)
        simp [step, commit, found, edited, waits]
      | false =>
        have row : (s.step (.commit p)).row = OpenTransaction.update s.row sub tx.op := by
          simp [step, commit, found, edited, waits]
        simp only [edited, Option.isNone_some, Bool.false_or, Bool.and_eq_true,
          Bool.not_eq_true']
        constructor
        · intro safe
          have coherent := safe.coherent
          rw [row] at coherent
          have agrees := (tx.coherent_update_iff h edited).mp coherent
          refine ⟨agrees, Bool.eq_false_iff.mpr fun revives => ?_⟩
          have back := tx.active_update_of_revives edited revives
          rw [← row] at back
          obtain ⟨_, _, _, _, since, inactive⟩ := tx.revives_iff.mp revives
          exact inactive (h.active_iff.mp (safe.notRevived p tx rfl found since back))
        · rintro ⟨agrees, stale⟩
          refine ⟨?_, ?_⟩
          · rw [row]
            exact (tx.coherent_update_iff h edited).mpr agrees
          · intro q tx' same found' since active
            cases same
            cases found.symm.trans found'
            rw [row] at active
            exact tx.active_of_update h edited agrees stale since active

theorem safeStep_iff (h : s.row.Coherent) (a : RowStep P) :
    s.SafeStep a ↔ s.commitsFresh a = true := by
  cases a with
  | read p op =>
    apply iff_of_true (safeStep_of_row h _) rfl
    simp only [step, read]
    split <;> rfl
  | commit p => exact safeStep_commit h p
  | rollback p => exact iff_of_true (safeStep_of_row h rfl) rfl

/-- The steps of a run are safe exactly if every commit is fresh where it happens. -/
theorem rows_coherent (sub : ListenerSubscription) (as : List (RowStep P)) :
    AllSteps step SafeStep (start sub) as ↔
      AllSteps step (fun s a => s.commitsFresh a = true) (start sub) as := by
  apply allSteps_iff_of_invariant (P := fun s : RowSystem P => s.row.Coherent)
  · intro s a h
    exact safeStep_iff h a
  · intro s a _ safe
    exact safe.coherent
  · exact ⟨rfl, rfl, rfl⟩

theorem release_incoherent : ¬ AllSteps step SafeStep
    (start { workflowId := 1, workflowVersionId := 1 } : RowSystem Bool)
    ([.read true (.claim "worker" 60 0), .commit true, .read true (.release "worker" 1),
      .read false (.disable "owner" 2), .commit false] ++ [.commit true]) := by
  intro safe
  have coherent := safe.last.coherent.status
  revert coherent
  decide

end RowSystem

end Orcheo.Listeners
