import Orcheo.Defs.Listeners.Subscription

/-! Listener supervisors.  A supervisor is a sequential program over a snapshot of the
subscriptions; between two of its repository calls any other supervisor may act. -/

namespace Orcheo.Listeners

/-- `runtime_id or f"listener-runtime-{uuid4()}"`: never empty. -/
abbrev RuntimeId := { id : String // id ≠ "" }

inductive BuildOutcome
  | built
  | credentialsMissing (message : String)
  | failed

abbrev Snapshot := List (Uuid × ListenerSubscription)

inductive Pc
  | idle
  | reconciling (rest : Snapshot) (activeIds : List Uuid)
  | recovering (x : Uuid) (rest : Snapshot) (activeIds : List Uuid)
  | claimed (x : Uuid) (rest : Snapshot) (activeIds : List Uuid)
  | stopping (staleIds : List Uuid)

structure Supervisor where
  leaseSeconds : Nat := 60
  tasks : List Uuid := []
  pc : Pc := .idle

inductive SupervisorOp
  | list
  | visit (outcome : BuildOutcome)
  | recover
  | build (outcome : BuildOutcome)
  | finish
  | stopNext
  | adapterExits (x : Uuid)

inductive Call
  | list
  | claim (x : Uuid) (leaseSeconds : Nat)
  | release (x : Uuid)
  | updateStatus (x : Uuid) (status : ListenerSubscriptionStatus) (lastError : Option String)

def Call.Reply : Call → Type
  | list => Snapshot
  | claim _ _ => Option ListenerSubscription
  | release _ => Option ListenerSubscription
  | updateStatus _ _ _ => Option ListenerSubscription

inductive Action
  | proceed (next : Supervisor)
  | call (c : Call) (next : c.Reply → Supervisor)

def Action.statusTarget : Action → Option Uuid
  | .call (.updateStatus x _ _) _ => some x
  | _ => none

namespace Supervisor

def keeps (q : RuntimeId) (now : Instant) (sup : Supervisor) (x : Uuid)
    (sub : ListenerSubscription) : Bool :=
  decide (x ∈ sup.tasks) && decide (sub.assignedRuntime = some q.val) &&
    match sub.leaseExpiresAt with
    | some expires => decide (now + (sup.leaseSeconds : Int) * 500000 < expires)
    | none => false

/-- A status write that raises ends `run_once`. -/
def writeStatus (sup : Supervisor) (x : Uuid) (status : ListenerSubscriptionStatus)
    (lastError : Option String) (next : Pc) : Action :=
  .call (.updateStatus x status lastError) fun
    | none => { sup with pc := .idle }
    | some _ => { sup with pc := next }

def visitBlocked (sup : Supervisor) (x : Uuid) (sub : ListenerSubscription) (rest : Snapshot)
    (activeIds : List Uuid) : BuildOutcome → Action
  | .credentialsMissing message =>
    if sub.lastError ≠ some message then
      sup.writeStatus x .blocked (some message) (.reconciling rest activeIds)
    else .proceed { sup with pc := .reconciling rest activeIds }
  | .failed => .proceed { sup with pc := .reconciling rest activeIds }
  | .built => sup.writeStatus x .active none (.recovering x rest activeIds)

def visitActive (q : RuntimeId) (now : Instant) (sup : Supervisor) (x : Uuid)
    (sub : ListenerSubscription) (rest : Snapshot) (activeIds : List Uuid) : Action :=
  if sup.keeps q now x sub then .proceed { sup with pc := .reconciling rest (x :: activeIds) }
  else .call (.claim x sup.leaseSeconds) fun
    | none => { sup with pc := .reconciling rest activeIds }
    | some _ =>
      if x ∈ sup.tasks then { sup with pc := .reconciling rest (x :: activeIds) }
      else { sup with pc := .claimed x rest (x :: activeIds) }

/-- `_run_adapter` releases the subscription in its `finally`. -/
def exitAdapter (sup : Supervisor) (x : Uuid) (next : Pc) : Action :=
  .call (.release x) fun _ => { sup with tasks := sup.tasks.filter (· ≠ x), pc := next }

def act (q : RuntimeId) (now : Instant) (sup : Supervisor) : SupervisorOp → Action
  | .list => match sup.pc with
    | .idle => .call .list fun snapshot => { sup with pc := .reconciling snapshot [] }
    | _ => .proceed sup
  | .visit outcome => match sup.pc with
    | .reconciling ((x, sub) :: rest) activeIds => match sub.status with
      | .blocked => sup.visitBlocked x sub rest activeIds outcome
      | .active => sup.visitActive q now x sub rest activeIds
      | _ => .proceed { sup with pc := .reconciling rest activeIds }
    | _ => .proceed sup
  | .recover => match sup.pc with
    | .recovering x rest activeIds => .call (.claim x sup.leaseSeconds) fun
      | none => { sup with pc := .reconciling rest activeIds }
      | some _ => { sup with
          tasks := if x ∈ sup.tasks then sup.tasks else x :: sup.tasks
          pc := .reconciling rest (x :: activeIds) }
    | _ => .proceed sup
  | .build outcome => match sup.pc with
    | .claimed x rest activeIds => match outcome with
      | .built => .proceed { sup with tasks := x :: sup.tasks, pc := .reconciling rest activeIds }
      | .credentialsMissing message =>
        sup.writeStatus x .blocked (some message) (.reconciling rest activeIds)
      | .failed => .call (.release x) fun _ => { sup with pc := .reconciling rest activeIds }
    | _ => .proceed sup
  | .finish => match sup.pc with
    | .reconciling [] activeIds =>
      .proceed { sup with pc := .stopping (sup.tasks.filter (· ∉ activeIds)) }
    | _ => .proceed sup
  | .stopNext => match sup.pc with
    | .stopping (x :: rest) =>
      if x ∈ sup.tasks then sup.exitAdapter x (.stopping rest)
      else .proceed { sup with pc := .stopping rest }
    | .stopping [] => .proceed { sup with pc := .idle }
    | _ => .proceed sup
  | .adapterExits x =>
    if x ∈ sup.tasks then sup.exitAdapter x sup.pc else .proceed sup

end Supervisor

/-- Supervisors over one store.  `granted` records, for the statements only, the leases that
were granted and since then neither given back by their holder nor revoked by an operator. -/
structure ListenerSystem where
  now : Instant := 0
  store : ListenerStore := {}
  supervisors : RuntimeId → Supervisor := fun _ => {}
  granted : Uuid → RuntimeId → Option Instant := fun _ _ => none

inductive ListenerOp
  | tick (elapsed : Nat)
  | operatorStatus (x : Uuid) (status : ListenerSubscriptionStatus) (actor : String)
      (lastError : Option String)
  | disable (w : Uuid) (actor : String)
  | sync (w : Uuid) (actor : String) (compiled : List (Uuid × ListenerSubscription))
  | supervisor (q : RuntimeId) (op : SupervisorOp)

namespace ListenerSystem

variable (s : ListenerSystem)

def grant (x : Uuid) (q : RuntimeId) (lease : Option Instant) :
    ListenerSystem :=
  { s with granted := fun y p => if y = x ∧ p = q then lease else s.granted y p }

def revoke (ids : List Uuid) : ListenerSystem :=
  { s with granted := fun y p => if y ∈ ids then none else s.granted y p }

/-- A repository call of runtime `q`.  Releasing and writing a status give `q`'s own lease
back, and no other. -/
def perform (b : Backend) (s : ListenerSystem) (q : RuntimeId) :
    (c : Call) → ListenerSystem × c.Reply
  | .list => (s, s.store.subscriptions.entries)
  | .claim x leaseSeconds =>
    match s.store.claimListenerSubscription b x q.val leaseSeconds s.now with
    | (store, some claimed) => ({ s.grant x q claimed.leaseExpiresAt with store := store }, some claimed)
    | (store, none) => ({ s with store := store }, none)
  | .release x =>
    let (store, released) := s.store.releaseListenerSubscription x q.val s.now
    ({ s.grant x q none with store := store }, released)
  | .updateStatus x status lastError =>
    let (store, updated) :=
      s.store.updateListenerSubscriptionStatus x status q.val lastError s.now
    ({ s.grant x q none with store := store }, updated)

def setSupervisor (q : RuntimeId) (sup : Supervisor) : ListenerSystem :=
  { s with supervisors := Function.update s.supervisors q sup }

def act (q : RuntimeId) (op : SupervisorOp) : Action :=
  (s.supervisors q).act q s.now op

def step (b : Backend) (s : ListenerSystem) : ListenerOp → ListenerSystem
  | .tick elapsed => { s with now := s.now + elapsed }
  | .operatorStatus x status actor lastError =>
    { s.revoke [x] with
      store := (s.store.updateListenerSubscriptionStatus x status actor lastError s.now).1 }
  | .disable w actor =>
    { s.revoke (s.store.subscriptionsOf b w) with
      store := s.store.disableListenerSubscriptions b w actor s.now }
  | .sync w actor compiled =>
    { s.revoke (s.store.subscriptionsOf b w ++ compiled.map Prod.fst) with
      store := s.store.syncListenerSubscriptions b w actor compiled s.now }
  | .supervisor q op => match s.act q op with
    | .proceed next => s.setSupervisor q next
    | .call c next => (s.perform b q c).1.setSupervisor q (next (s.perform b q c).2)

end ListenerSystem

end Orcheo.Listeners
