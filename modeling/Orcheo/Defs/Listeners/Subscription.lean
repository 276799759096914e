import Orcheo.Defs.Repository.Runs

/-! Listener subscriptions and the repository operations on them.  Every operation is one
call of the in-memory store or of the Postgres store. -/

namespace Orcheo.Listeners

open Lib (Dict)
open Repository (AuditRecord)

inductive Backend
  | inMemory | postgres
  deriving DecidableEq, Repr

inductive ListenerSubscriptionStatus
  | active | blocked | paused | error | disabled
  deriving DecidableEq, Repr

def ListenerSubscriptionStatus.value : ListenerSubscriptionStatus → String
  | active => "active"
  | blocked => "blocked"
  | paused => "paused"
  | error => "error"
  | disabled => "disabled"

structure ListenerSubscription where
  workflowId : Uuid
  workflowVersionId : Uuid
  /-- `int(config.get("dedupe_window_seconds", 300))`, absent where `int` raises -/
  dedupeWindowSeconds : Option Int := some 300
  status : ListenerSubscriptionStatus := .active
  assignedRuntime : Option String := none
  leaseExpiresAt : Option Instant := none
  lastEventAt : Option Instant := none
  lastError : Option String := none
  auditLog : List AuditRecord := []
  deriving DecidableEq

namespace ListenerSubscription

variable (sub : ListenerSubscription)

def recordEvent (now : Instant) (actor action : String) :
    ListenerSubscription := { sub with auditLog := sub.auditLog ++ [⟨actor, action, now, []⟩] }

def leasedToOther (runtimeId : String) (now : Instant) : Bool :=
  match sub.assignedRuntime, sub.leaseExpiresAt with
  | some runtime, some expires =>
    decide (runtime ≠ "") && decide (runtime ≠ runtimeId) && decide (now < expires)
  | _, _ => false

/-- The condition of the `UPDATE` with which the Postgres store claims. -/
def updatable (runtimeId : String) (now : Instant) : Bool :=
  match sub.assignedRuntime, sub.leaseExpiresAt with
  | some runtime, some expires => decide (runtime = runtimeId) || decide (expires ≤ now)
  | _, _ => true

def claimable (b : Backend) (sub : ListenerSubscription) (runtimeId : String) (now : Instant) :
    Bool :=
  decide (sub.status = .active) && !sub.leasedToOther runtimeId now &&
    match b with
    | .inMemory => true
    | .postgres => sub.updatable runtimeId now

def claim (b : Backend) (sub : ListenerSubscription) (runtimeId : String) (leaseSeconds : Nat)
    (now : Instant) : Option ListenerSubscription :=
  if sub.claimable b runtimeId now then
    let claimed := { sub with
      assignedRuntime := some runtimeId
      leaseExpiresAt := some (now + seconds leaseSeconds) }
    some (if sub.assignedRuntime = some runtimeId then claimed
      else claimed.recordEvent now runtimeId "listener_subscription_claimed")
  else none

def unassigned : ListenerSubscription :=
  { sub with assignedRuntime := none, leaseExpiresAt := none }

def release (runtimeId : String) (now : Instant) :
    Option ListenerSubscription :=
  if sub.assignedRuntime = some runtimeId then
    some (sub.unassigned.recordEvent now runtimeId "listener_subscription_released")
  else none

def updateStatus (status : ListenerSubscriptionStatus)
    (actor : String) (lastError : Option String) (now : Instant) : ListenerSubscription :=
  recordEvent { sub.unassigned with
    status := status
    lastError := if status = .active then none else lastError <|> sub.lastError }
    now actor ("listener_subscription_status_" ++ status.value)

def disable (actor : String) (now : Instant) :
    ListenerSubscription :=
  if sub.status = .disabled then sub
  else recordEvent { sub.unassigned with status := .disabled } now actor
    "listener_subscription_disabled"

theorem status_disable (actor : String) (now : Instant) :
    (sub.disable actor now).status = .disabled := by
  unfold disable
  split
  case isTrue disabled => exact disabled
  case isFalse => rfl

variable {now : Instant} {runtimeId : String} {sub : ListenerSubscription}

theorem claim_kept {b : Backend} {claimed : ListenerSubscription} {leaseSeconds : Nat}
    (h : sub.claim b runtimeId leaseSeconds now = some claimed) :
    claimed.status = sub.status ∧ claimed.workflowId = sub.workflowId := by
  unfold claim at h
  split at h
  case isFalse => cases h
  case isTrue =>
    cases h
    split <;> exact ⟨rfl, rfl⟩

theorem status_of_claim {b : Backend} {claimed : ListenerSubscription} {leaseSeconds : Nat}
    (h : sub.claim b runtimeId leaseSeconds now = some claimed) : claimed.status = .active := by
  rw [(claim_kept h).1]
  unfold claim at h
  split at h
  case isFalse => cases h
  case isTrue claimable =>
    simp only [ListenerSubscription.claimable, Bool.and_eq_true, decide_eq_true_iff] at claimable
    exact claimable.1.1

variable {released : ListenerSubscription}

theorem release_some (h : sub.release runtimeId now = some released) :
    released = sub.unassigned.recordEvent now runtimeId "listener_subscription_released" := by
  unfold release at h
  split at h
  case isTrue => exact (Option.some.inj h).symm
  case isFalse => cases h

theorem release_kept (h : sub.release runtimeId now = some released) :
    released.status = sub.status ∧ released.workflowId = sub.workflowId := by
  rw [release_some h]
  exact ⟨rfl, rfl⟩

end ListenerSubscription

structure ListenerDedupeRecord where
  createdAt : Instant
  expiresAt : Instant
  deriving DecidableEq, Repr

structure ListenerStore where
  subscriptions : Dict Uuid ListenerSubscription := ∅
  workflowSubscriptions : Dict Uuid (List Uuid) := ∅
  dedupe : Dict (Uuid × String) ListenerDedupeRecord := ∅

namespace ListenerStore

variable (b : Backend) (s : ListenerStore)

def claimListenerSubscription (x : Uuid) (runtimeId : String)
    (leaseSeconds : Nat) (now : Instant) : ListenerStore × Option ListenerSubscription :=
  match s.subscriptions.get? x with
  | none => (s, none)
  | some sub => match sub.claim b runtimeId leaseSeconds now with
    | none => (s, none)
    | some claimed => ({ s with subscriptions := s.subscriptions.set x claimed }, some claimed)

def releaseListenerSubscription (x : Uuid) (runtimeId : String)
    (now : Instant) : ListenerStore × Option ListenerSubscription :=
  match s.subscriptions.get? x with
  | none => (s, none)
  | some sub => match sub.release runtimeId now with
    | none => (s, none)
    | some released => ({ s with subscriptions := s.subscriptions.set x released }, some released)

/-- Absent where `WorkflowNotFoundError` is raised. -/
def updateListenerSubscriptionStatus (x : Uuid)
    (status : ListenerSubscriptionStatus) (actor : String) (lastError : Option String)
    (now : Instant) : ListenerStore × Option ListenerSubscription :=
  match s.subscriptions.get? x with
  | none => (s, none)
  | some sub =>
    let updated := sub.updateStatus status actor lastError now
    ({ s with subscriptions := s.subscriptions.set x updated }, some updated)

/-- The subscriptions of a workflow: those of its current version in memory, all of them
in Postgres. -/
def subscriptionsOf (w : Uuid) : List Uuid :=
  match b with
  | .inMemory => (s.workflowSubscriptions.get? w).getD []
  | .postgres => (s.subscriptions.filter (fun _ sub => decide (sub.workflowId = w))).keys

def disableListenerSubscriptions (w : Uuid) (actor : String) (now : Instant) : ListenerStore :=
  let ids := s.subscriptionsOf b w
  { s with subscriptions := s.subscriptions.mapValues (fun x sub =>
      if x ∈ ids then sub.disable actor now else sub) }

def insertCompiled (w : Uuid) (actor : String) (now : Instant)
    (e : Uuid × ListenerSubscription) : ListenerStore :=
  { s with
    subscriptions := s.subscriptions.set e.1
      (e.2.recordEvent now actor "listener_subscription_synced")
    workflowSubscriptions := s.workflowSubscriptions.set w
      ((s.workflowSubscriptions.get? w).getD [] ++ [e.1]) }

def syncListenerSubscriptions (w : Uuid) (actor : String)
    (compiled : List (Uuid × ListenerSubscription)) (now : Instant) : ListenerStore :=
  let s := s.disableListenerSubscriptions b w actor now
  let s := { s with workflowSubscriptions := s.workflowSubscriptions.set w [] }
  compiled.foldl (fun s e => s.insertCompiled w actor now e) s

end ListenerStore

end Orcheo.Listeners
