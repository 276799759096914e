import Orcheo.Defs.Listeners.Supervisor
import Orcheo.Lib.Run

/-! What a supervisor keeps of its adapters.  Between two awaits of `run_once` any adapter may
return or raise and any release may return or raise: `run_once` is a machine over the replies that
it awaits and over the ends of the tasks. -/

namespace Orcheo.Listeners

open Lib (Dict Always AllSteps)

/-- A task of `_run_adapter`: it runs its adapter, then it awaits the release of `finally`.  One
whose release raises has ended without leaving the tables. -/
inductive AdapterTask
  | running
  | releasing (error : Option String)
  | finished (error : String)

def AdapterTask.ended : AdapterTask → Bool
  | .finished _ => true
  | _ => false

/-- A `ListenerHealthSnapshot` of a subscription whose adapter could not be built. -/
structure BuildFailure where
  lastEventAt : Option Instant
  consecutiveFailures : Nat
  detail : String

inductive AdapterBuild (Adapter : Type)
  | built (adapter : Adapter)
  | credentialsMissing (message : String)
  | failed (message : String)

/-- What `run_once` raises: what a repository call raised, or the release after a failed build,
or a task that it awaits. -/
inductive ReconcileError
  | call
  | release
  | task (x : Uuid)

inductive ReconcilePc (Adapter : Type)
  | idle
  | listing
  | visiting (rest : Snapshot) (activeIds : List Uuid)
  | blocking (x : Uuid) (rest : Snapshot) (activeIds : List Uuid)
  | promoting (x : Uuid) (adapter : Adapter) (rest : Snapshot) (activeIds : List Uuid)
  | claiming (x : Uuid) (recovered : Option Adapter) (rest : Snapshot) (activeIds : List Uuid)
  /-- gives up a claim whose adapter could not be built -/
  | releasing (x : Uuid) (rest : Snapshot) (activeIds : List Uuid)
  | stopping (staleIds activeIds : List Uuid)
  | awaiting (x : Uuid) (staleIds activeIds : List Uuid)
  | returned (activeIds : List Uuid)
  | raised (error : ReconcileError)

/-- `listed` and `processed` are for the statements only: the subscriptions that `run_once` was
given and those that it is done with. -/
structure Reconciler (Adapter : Type) where
  tasks : Dict Uuid AdapterTask := ∅
  adapters : Dict Uuid Adapter := ∅
  buildFailures : Dict Uuid BuildFailure := ∅
  stopEvents : Dict Uuid Bool := ∅
  pc : ReconcilePc Adapter := .idle
  listed : List Uuid := []
  processed : List Uuid := []

inductive ReconcileEvent (Adapter : Type)
  | runOnce
  | listed (snapshot : Snapshot)
  | visit (now : Instant) (build : AdapterBuild Adapter)
  | updated
  | claimed (reply : Option ListenerSubscription) (build : AdapterBuild Adapter)
  | released
  | callRaises
  /-- the order in which a set of ids is iterated -/
  | finish (staleIds : List Uuid)
  | stopNext
  | adapterEnds (x : Uuid) (error : Option String)
  | taskReleased (x : Uuid)
  | taskReleaseRaises (x : Uuid) (error : String)

namespace Reconciler

variable {Adapter : Type} (s : Reconciler Adapter)

/-- `continue` -/
def next (x : Uuid) (rest : Snapshot) (activeIds : List Uuid) :
    Reconciler Adapter :=
  { s with pc := .visiting rest activeIds, processed := s.processed ++ [x] }

def popBuildFailure (x : Uuid) : Reconciler Adapter :=
  { s with buildFailures := s.buildFailures.erase x }

def recordBuildFailure (x : Uuid) (sub : ListenerSubscription)
    (message : String) : Reconciler Adapter :=
  let failures := match s.buildFailures.get? x with
    | some previous => previous.consecutiveFailures + 1
    | none => 1
  { s with buildFailures := s.buildFailures.set x ⟨sub.lastEventAt, failures, message⟩ }

/-- `_recover_blocked_subscription`, until its first await -/
def recoverBlocked (x : Uuid) (sub : ListenerSubscription)
    (rest : Snapshot) (activeIds : List Uuid) : AdapterBuild Adapter → Reconciler Adapter
  | .credentialsMissing message =>
    if sub.lastError ≠ some message then { s with pc := .blocking x rest activeIds }
    else (s.popBuildFailure x).next x rest activeIds
  | .failed message => (s.recordBuildFailure x sub message).next x rest activeIds
  | .built adapter => { s with pc := .promoting x adapter rest activeIds }

def launch (x : Uuid) (claimed : ListenerSubscription)
    (recovered : Option Adapter) (build : AdapterBuild Adapter) (rest : Snapshot)
    (activeIds : List Uuid) : Reconciler Adapter :=
  if x ∈ s.tasks.keys then (s.popBuildFailure x).next x rest activeIds
  else match recovered.elim build .built with
    | .credentialsMissing _ => { s with pc := .blocking x rest activeIds }
    | .failed message =>
      { s.recordBuildFailure x claimed message with pc := .releasing x rest activeIds }
    | .built adapter =>
      let s := { s with
        stopEvents := s.stopEvents.set x false
        adapters := s.adapters.set x adapter
        tasks := s.tasks.set x .running }
      (s.popBuildFailure x).next x rest activeIds

def pop (x : Uuid) : Reconciler Adapter :=
  { s with
    tasks := s.tasks.erase x
    adapters := s.adapters.erase x
    stopEvents := s.stopEvents.erase x }

/-- A task that ends wakes `run_once` where that awaits it. -/
def wake (x : Uuid) (error : Option String) : Reconciler Adapter :=
  match s.pc with
  | .awaiting y staleIds activeIds =>
    if y ≠ x then s
    else match error with
      | none => { s with pc := .stopping staleIds activeIds }
      | some _ => { s with pc := .raised (.task x) }
  | _ => s

def setStopEvent (x : Uuid) : Reconciler Adapter :=
  match s.stopEvents.get? x with
  | some _ => { s with stopEvents := s.stopEvents.set x true }
  | none => s

/-- `_stop_adapter`, until it awaits the task -/
def stopAdapter (x : Uuid) (staleIds activeIds : List Uuid) :
    Reconciler Adapter :=
  let s := s.setStopEvent x
  match s.tasks.get? x with
  | none => { s with pc := .stopping staleIds activeIds }
  | some (.finished _) => { s with pc := .raised (.task x) }
  | some _ => { s with pc := .awaiting x staleIds activeIds }

def step (q : RuntimeId) (leaseSeconds : Nat) (s : Reconciler Adapter) :
    ReconcileEvent Adapter → Reconciler Adapter
  | .runOnce => match s.pc with
    | .idle | .returned _ | .raised _ => { s with pc := .listing }
    | _ => s
  | .listed snapshot => match s.pc with
    | .listing =>
      { s with pc := .visiting snapshot [], listed := snapshot.map Prod.fst, processed := [] }
    | _ => s
  | .visit now build => match s.pc with
    | .visiting ((x, sub) :: rest) activeIds => match sub.status with
      | .blocked => s.recoverBlocked x sub rest activeIds build
      | .active =>
        let sup : Supervisor := { leaseSeconds := leaseSeconds, tasks := s.tasks.keys }
        if sup.keeps q now x sub then s.launch x sub none build rest (x :: activeIds)
        else { s with pc := .claiming x none rest activeIds }
      | _ => s.next x rest activeIds
    | _ => s
  | .updated => match s.pc with
    | .blocking x rest activeIds => (s.popBuildFailure x).next x rest activeIds
    | .promoting x adapter rest activeIds =>
      { s with pc := .claiming x (some adapter) rest activeIds }
    | _ => s
  | .claimed reply build => match s.pc with
    | .claiming x recovered rest activeIds => match reply with
      | none => s.next x rest activeIds
      | some claimed => s.launch x claimed recovered build rest (x :: activeIds)
    | _ => s
  | .released => match s.pc with
    | .releasing x rest activeIds => s.next x rest activeIds
    | _ => s
  | .callRaises => match s.pc with
    | .listing | .blocking _ _ _ | .promoting _ _ _ _ | .claiming _ _ _ _ =>
      { s with pc := .raised .call }
    | .releasing _ _ _ => { s with pc := .raised .release }
    | _ => s
  | .finish staleIds => match s.pc with
    | .visiting [] activeIds =>
      if staleIds.Perm (s.tasks.keys.filter (· ∉ activeIds)) then
        { s with pc := .stopping staleIds activeIds }
      else s
    | _ => s
  | .stopNext => match s.pc with
    | .stopping (x :: staleIds) activeIds => s.stopAdapter x staleIds activeIds
    | .stopping [] activeIds => { s with
        buildFailures := s.buildFailures.filter (fun x _ => decide (x ∈ activeIds))
        pc := .returned activeIds }
    | _ => s
  | .adapterEnds x error => match s.tasks.get? x with
    | some .running => { s with tasks := s.tasks.set x (.releasing error) }
    | _ => s
  | .taskReleased x => match s.tasks.get? x with
    | some (.releasing error) => (s.pop x).wake x error
    | _ => s
  | .taskReleaseRaises x error => match s.tasks.get? x with
    | some (.releasing _) =>
      { s with tasks := s.tasks.set x (.finished error) }.wake x (some error)
    | _ => s

end Reconciler

def ReconcilePc.pending : ReconcilePc Adapter → Option (List Uuid)
  | .visiting rest _ => some (rest.map Prod.fst)
  | .blocking x rest _ => some (x :: rest.map Prod.fst)
  | .promoting x _ rest _ => some (x :: rest.map Prod.fst)
  | .claiming x _ rest _ => some (x :: rest.map Prod.fst)
  | .releasing x rest _ => some (x :: rest.map Prod.fst)
  | .stopping _ _ => some []
  | .awaiting _ _ _ => some []
  | .returned _ => some []
  | _ => none

def ReconcilePc.kept : ReconcilePc Adapter → Option (List Uuid)
  | .stopping staleIds activeIds => some (activeIds ++ staleIds)
  | .awaiting x staleIds activeIds => some (activeIds ++ x :: staleIds)
  | .returned activeIds => some activeIds
  | _ => none

def ReconcilePc.unimpeded : ReconcilePc Adapter → Bool
  | .raised .release => false
  | .raised (.task _) => false
  | _ => true

namespace Reconciler

def Consistent (s : Reconciler Adapter) : Prop :=
  ∀ x task, s.tasks.get? x = some task → task.ended = false ∧ (s.adapters.get? x).isSome = true

/-- The tables are consistent, `run_once` is not ended by an adapter or a release, and when it
returns it has processed what it was given and stopped what is not active. -/
structure Healthy (s : Reconciler Adapter) : Prop where
  consistent : s.Consistent
  unimpeded : s.pc.unimpeded = true
  processed : ∀ activeIds, s.pc = .returned activeIds →
    s.processed = s.listed ∧ ∀ x task, s.tasks.get? x = some task → x ∈ activeIds

/-- No release raises, and no task that `run_once` awaits ends with an adapter's exception. -/
def harmless (s : Reconciler Adapter) : ReconcileEvent Adapter → Prop
  | .callRaises => ∀ x rest activeIds, s.pc ≠ .releasing x rest activeIds
  | .taskReleased x => ∀ staleIds activeIds error, s.pc = .awaiting x staleIds activeIds →
      s.tasks.get? x ≠ some (.releasing (some error))
  | .taskReleaseRaises x _ => ∀ error, s.tasks.get? x ≠ some (.releasing error)
  | _ => True

structure Sound (s : Reconciler Adapter) : Prop where
  consistent : s.Consistent
  unimpeded : s.pc.unimpeded = true
  pending : ∀ ids, s.pc.pending = some ids → s.processed ++ ids = s.listed
  kept : ∀ ids, s.pc.kept = some ids → ∀ x task, s.tasks.get? x = some task → x ∈ ids

variable {s : Reconciler Adapter} {x : Uuid} {rest : Snapshot} {activeIds : List Uuid}

theorem Sound.healthy (sound : s.Sound) : s.Healthy where
  consistent := sound.consistent
  unimpeded := sound.unimpeded
  processed activeIds returned := by
    constructor
    · simpa using sound.pending [] (by rw [returned]; rfl)
    · exact sound.kept activeIds (by rw [returned]; rfl)

theorem Sound.start : ({} : Reconciler Adapter).Sound := by
  constructor
  case consistent => intro x task stored; cases stored
  case unimpeded => rfl
  case pending => intro ids pending; cases pending
  case kept => intro ids kept; cases kept

section

variable (sound : s.Sound)
include sound

variable {pc : ReconcilePc Adapter}

theorem Sound.moves (unimpeded : pc.unimpeded = true)
    (pending : ∀ ids, pc.pending = some ids → s.processed ++ ids = s.listed)
    (kept : pc.kept = none) : { s with pc := pc }.Sound where
  consistent := sound.consistent
  unimpeded := unimpeded
  pending := pending
  kept ids is := by rw [kept] at is; cases is

theorem Sound.waits (unimpeded : pc.unimpeded = true)
    (pending : pc.pending = s.pc.pending) (kept : pc.kept = none) : { s with pc := pc }.Sound :=
  sound.moves unimpeded (by rw [pending]; exact sound.pending) kept

theorem Sound.failures (failures : Dict Uuid BuildFailure) :
    { s with buildFailures := failures }.Sound where
  consistent := sound.consistent
  unimpeded := sound.unimpeded
  pending := sound.pending
  kept := sound.kept

theorem Sound.popped (x : Uuid) : (s.popBuildFailure x).Sound :=
  sound.failures _

theorem Sound.recorded (x : Uuid) (sub : ListenerSubscription) (message : String) :
    (s.recordBuildFailure x sub message).Sound :=
  sound.failures _

theorem Sound.next (pending : s.pc.pending = some (x :: rest.map Prod.fst))
    (activeIds : List Uuid) : (s.next x rest activeIds).Sound where
  consistent := sound.consistent
  unimpeded := rfl
  pending ids is := by
    cases is
    simpa [Reconciler.next] using sound.pending _ pending
  kept ids is := by cases is

theorem Sound.started (outside : s.pc.kept = none) (x : Uuid) (adapter : Adapter) : Sound { s with
      stopEvents := s.stopEvents.set x false
      adapters := s.adapters.set x adapter
      tasks := s.tasks.set x .running } := by
  constructor
  case consistent =>
    intro y task stored
    rw [Dict.get?_set] at stored ⊢
    by_cases here : y = x
    · rw [if_pos here, Option.some.injEq] at stored
      simp [here, ← stored, AdapterTask.ended]
    · rw [if_neg here] at stored ⊢
      exact sound.consistent y task stored
  case unimpeded => exact sound.unimpeded
  case pending => exact sound.pending
  case kept =>
    intro ids is
    rw [outside] at is
    cases is

theorem Sound.launch (pending : s.pc.pending = some (x :: rest.map Prod.fst))
    (outside : s.pc.kept = none) (claimed : ListenerSubscription) (recovered : Option Adapter)
    (build : AdapterBuild Adapter) (activeIds : List Uuid) :
    (s.launch x claimed recovered build rest activeIds).Sound := by
  unfold Reconciler.launch
  by_cases present : x ∈ s.tasks.keys
  · rw [if_pos present]
    exact (sound.popped x).next pending activeIds
  · rw [if_neg present]
    cases recovered.elim build AdapterBuild.built with
    | credentialsMissing message => exact sound.waits rfl pending.symm rfl
    | failed message => exact (sound.recorded x claimed message).waits rfl pending.symm rfl
    | built adapter => exact ((sound.started outside x adapter).popped x).next pending activeIds

theorem Sound.recoverBlocked (pending : s.pc.pending = some (x :: rest.map Prod.fst))
    (sub : ListenerSubscription) (activeIds : List Uuid) (build : AdapterBuild Adapter) :
    (s.recoverBlocked x sub rest activeIds build).Sound := by
  cases build with
  | credentialsMissing message =>
    rw [Reconciler.recoverBlocked]
    split
    case isTrue => exact sound.waits rfl pending.symm rfl
    case isFalse => exact (sound.popped x).next pending activeIds
  | failed message => exact (sound.recorded x sub message).next pending activeIds
  | built adapter => exact sound.waits rfl pending.symm rfl

theorem Sound.pop (x : Uuid) : (s.pop x).Sound := by
  have others {y : Uuid} {task : AdapterTask} (stored : (s.pop x).tasks.get? y = some task) :
      y ≠ x ∧ s.tasks.get? y = some task := by
    rw [Reconciler.pop, Dict.get?_erase] at stored
    by_cases here : y = x
    · rw [if_pos here] at stored
      cases stored
    · rw [if_neg here] at stored
      exact ⟨here, stored⟩
  constructor
  case consistent =>
    intro y task stored
    obtain ⟨other, stored⟩ := others stored
    have adapters : (s.pop x).adapters.get? y = s.adapters.get? y := by
      rw [Reconciler.pop, Dict.get?_erase, if_neg other]
    rw [adapters]
    exact sound.consistent y task stored
  case unimpeded => exact sound.unimpeded
  case pending => exact sound.pending
  case kept => exact fun ids is y task stored => sound.kept ids is y task (others stored).2

theorem Sound.adapterEnds (running : s.tasks.get? x = some .running) (error : Option String) :
    Sound { s with tasks := s.tasks.set x (.releasing error) } := by
  constructor
  case consistent =>
    intro y task stored
    rw [Dict.get?_set] at stored
    by_cases here : y = x
    · rw [if_pos here, Option.some.injEq] at stored
      rw [here, ← stored]
      exact ⟨rfl, (sound.consistent x .running running).2⟩
    · rw [if_neg here] at stored
      exact sound.consistent y task stored
  case unimpeded => exact sound.unimpeded
  case pending => exact sound.pending
  case kept =>
    intro ids is y task stored
    rw [Dict.get?_set] at stored
    by_cases here : y = x
    · rw [here]
      exact sound.kept ids is x .running running
    · rw [if_neg here] at stored
      exact sound.kept ids is y task stored

theorem Sound.taskReleased {error : Option String}
    (ok : ∀ staleIds activeIds, s.pc = .awaiting x staleIds activeIds → error = none) :
    ((s.pop x).wake x error).Sound := by
  have popped := sound.pop x
  unfold Reconciler.wake
  split
  next y staleIds activeIds waits =>
    by_cases other : y ≠ x
    · rw [if_pos other]
      exact popped
    · rw [if_neg other]
      rw [not_not] at other
      rw [other] at waits
      rw [ok staleIds activeIds waits]
      constructor
      case consistent => exact popped.consistent
      case unimpeded => rfl
      case pending =>
        intro ids is
        cases is
        exact popped.pending [] (by rw [waits]; rfl)
      case kept =>
        intro ids is y task stored
        cases is
        have mem := popped.kept (activeIds ++ x :: staleIds) (by rw [waits]; rfl) y task stored
        have other : y ≠ x := by
          intro here
          rw [here, Reconciler.pop, Dict.get?_erase, if_pos rfl] at stored
          cases stored
        simp only [List.mem_append, List.mem_cons, other, false_or] at mem ⊢
        exact mem
  next => exact popped

theorem Sound.setStopEvent (x : Uuid) : (s.setStopEvent x).Sound := by
  unfold Reconciler.setStopEvent
  split
  · exact ⟨sound.consistent, sound.unimpeded, sound.pending, sound.kept⟩
  · exact sound

end

theorem pc_setStopEvent (s : Reconciler Adapter) (x : Uuid) : (s.setStopEvent x).pc = s.pc := by
  unfold setStopEvent
  split <;> rfl

theorem Sound.stops (sound : s.Sound) {pc : ReconcilePc Adapter} (unimpeded : pc.unimpeded = true)
    (stopping : s.pc.pending = some []) (pending : pc.pending = some [])
    (kept : ∀ ids, pc.kept = some ids → ∀ x task, s.tasks.get? x = some task → x ∈ ids) :
    { s with pc := pc }.Sound where
  consistent := sound.consistent
  unimpeded := unimpeded
  pending ids is := by
    rw [pending] at is
    exact sound.pending ids (by rw [stopping, is])
  kept := kept

theorem Sound.stopAdapter (sound : s.Sound) {staleIds : List Uuid}
    (pc : s.pc = .stopping (x :: staleIds) activeIds) :
    (s.stopAdapter x staleIds activeIds).Sound := by
  rw [← pc_setStopEvent s x] at pc
  have stopped := sound.setStopEvent x
  have stopping : (s.setStopEvent x).pc.pending = some [] := by rw [pc]; rfl
  have kept := stopped.kept (activeIds ++ x :: staleIds) (by rw [pc]; rfl)
  unfold Reconciler.stopAdapter
  dsimp only
  split
  next absent =>
    apply stopped.stops rfl stopping rfl
    intro ids is y task stored
    cases is
    have other : y ≠ x := by
      intro here
      rw [here, absent] at stored
      cases stored
    simpa [other] using kept y task stored
  next error ended =>
    have running := (stopped.consistent x _ ended).1
    cases running
  next =>
    apply stopped.stops rfl stopping rfl
    intro ids is
    cases is
    exact kept

theorem Sound.finish (sound : s.Sound) {staleIds : List Uuid} (pc : s.pc = .visiting [] activeIds)
    (order : staleIds.Perm (s.tasks.keys.filter (· ∉ activeIds))) :
    { s with pc := .stopping staleIds activeIds }.Sound := by
  apply sound.stops rfl (by rw [pc]; rfl) rfl
  intro ids is x task stored
  cases is
  by_cases active : x ∈ activeIds
  · exact List.mem_append_left _ active
  · apply List.mem_append_right
    rw [order.mem_iff, List.mem_filter]
    exact ⟨(Dict.mem_keys_iff _ _).mpr ⟨task, stored⟩, by simpa using active⟩

theorem Sound.step (q : RuntimeId) (leaseSeconds : Nat) (sound : s.Sound)
    {event : ReconcileEvent Adapter} (ok : s.harmless event) :
    (s.step q leaseSeconds event).Sound := by
  cases event with
  | runOnce =>
    unfold Reconciler.step
    dsimp only
    split
    · exact sound.moves rfl nofun rfl
    · exact sound.moves rfl nofun rfl
    · exact sound.moves rfl nofun rfl
    · exact sound
  | listed snapshot =>
    unfold Reconciler.step
    dsimp only
    split
    next =>
      constructor
      case consistent => exact sound.consistent
      case unimpeded => rfl
      case pending => intro ids is; cases is; rfl
      case kept => intro ids is; cases is
    next => exact sound
  | visit now build =>
    unfold Reconciler.step
    dsimp only
    split
    next x sub rest activeIds pc =>
      have pending : s.pc.pending = some (x :: rest.map Prod.fst) := by rw [pc]; rfl
      have outside : s.pc.kept = none := by rw [pc]; rfl
      split
      next => exact sound.recoverBlocked pending sub activeIds build
      next =>
        split
        next => exact sound.launch pending outside sub none build _
        next => exact sound.waits rfl pending.symm rfl
      next => exact sound.next pending activeIds
    next => exact sound
  | updated =>
    unfold Reconciler.step
    dsimp only
    split
    next x rest activeIds pc => exact (sound.popped x).next (by rw [popBuildFailure, pc]; rfl) _
    next x adapter rest activeIds pc => exact sound.waits rfl (by rw [pc]; rfl) rfl
    next => exact sound
  | claimed reply build =>
    unfold Reconciler.step
    dsimp only
    split
    next x recovered rest activeIds pc =>
      have pending : s.pc.pending = some (x :: rest.map Prod.fst) := by rw [pc]; rfl
      have outside : s.pc.kept = none := by rw [pc]; rfl
      split
      next => exact sound.next pending activeIds
      next claimed => exact sound.launch pending outside claimed recovered build _
    next => exact sound
  | released =>
    unfold Reconciler.step
    dsimp only
    split
    next x rest activeIds pc => exact sound.next (by rw [pc]; rfl) activeIds
    next => exact sound
  | callRaises =>
    unfold Reconciler.step
    dsimp only
    split
    · exact sound.moves rfl nofun rfl
    · exact sound.moves rfl nofun rfl
    · exact sound.moves rfl nofun rfl
    · exact sound.moves rfl nofun rfl
    next x rest activeIds pc => exact absurd pc (ok x rest activeIds)
    next => exact sound
  | finish staleIds =>
    unfold Reconciler.step
    dsimp only
    split
    next activeIds pc =>
      split
      next order => exact sound.finish pc order
      next => exact sound
    next => exact sound
  | stopNext =>
    unfold Reconciler.step
    dsimp only
    split
    next x staleIds activeIds pc => exact sound.stopAdapter pc
    next activeIds pc =>
      have cleared := sound.failures (s.buildFailures.filter (fun x _ => decide (x ∈ activeIds)))
      have stopping : s.pc.pending = some [] := by rw [pc]; rfl
      apply cleared.stops rfl stopping rfl
      intro ids is x task stored
      cases is
      have kept := cleared.kept (activeIds ++ []) (by rw [pc]; rfl) x task stored
      rwa [List.append_nil] at kept
    next => exact sound
  | adapterEnds x error =>
    unfold Reconciler.step
    dsimp only
    split
    next running => exact sound.adapterEnds running error
    next => exact sound
  | taskReleased x =>
    unfold Reconciler.step
    dsimp only
    split
    next error releasing =>
      apply sound.taskReleased
      intro staleIds activeIds waits
      cases error with
      | none => rfl
      | some error => exact absurd releasing (ok staleIds activeIds error waits)
    next => exact sound
  | taskReleaseRaises x error =>
    unfold Reconciler.step
    dsimp only
    split
    next error releasing => exact absurd releasing (ok error)
    next => exact sound

/-- An exception that ends `run_once`, or leaves a finished task in the table. -/
theorem harmless_of_healthy {q : RuntimeId} {leaseSeconds : Nat} {event : ReconcileEvent Adapter}
    (healthy : (s.step q leaseSeconds event).Healthy) : s.harmless event := by
  cases event with
  | callRaises =>
    intro x rest activeIds pc
    have impeded := healthy.unimpeded
    simp only [step, pc, ReconcilePc.unimpeded] at impeded
    cases impeded
  | taskReleased x =>
    intro staleIds activeIds error pc releasing
    have impeded := healthy.unimpeded
    simp only [step, releasing, wake, pop, pc, ne_eq, not_true_eq_false, if_false,
      ReconcilePc.unimpeded] at impeded
    cases impeded
  | taskReleaseRaises x error =>
    intro previous releasing
    have tasks : (s.step q leaseSeconds (.taskReleaseRaises x error)).tasks =
        s.tasks.set x (.finished error) := by
      simp only [step, releasing, wake]
      split
      · split <;> rfl
      · rfl
    have running := (healthy.consistent x (.finished error) (by rw [tasks]; simp)).1
    cases running
  | _ => trivial

end Reconciler

/-- A supervisor of a runtime is healthy in every state of a run, and so at every return of
`run_once`, exactly where every exception of a task or a release in it is harmless. -/
theorem reconciliation_healthy (Adapter : Type) (q : RuntimeId) (leaseSeconds : Nat)
    (events : List (ReconcileEvent Adapter)) :
    Always (Reconciler.step q leaseSeconds) Reconciler.Healthy {} events ↔
      AllSteps (Reconciler.step q leaseSeconds) Reconciler.harmless {} events := by
  apply Lib.always_iff_allSteps_of_invariant (I := Reconciler.Sound)
  case holds => exact fun s sound => sound.healthy
  case keep => exact fun s event sound ok => sound.step q leaseSeconds ok
  case needed => exact fun s event sound healthy => Reconciler.harmless_of_healthy healthy
  case hs => exact Reconciler.Sound.start


def sampleRuntime : RuntimeId := ⟨"runtime-a", by decide⟩

def crashedUnreleased : List (ReconcileEvent Unit) :=
  let sub : ListenerSubscription := { workflowId := 1, workflowVersionId := 2 }
  let claimed := { sub with
    assignedRuntime := some "runtime-a"
    leaseExpiresAt := some (seconds 60) }
  [.runOnce, .listed [(7, sub)], .visit 0 (.built ()), .claimed (some claimed) (.built ()),
    .finish [], .stopNext, .adapterEnds 7 (some "connection lost"),
    .taskReleaseRaises 7 "database is unavailable",
    .runOnce, .listed [(7, claimed)], .visit (seconds 5) (.built ()), .finish [], .stopNext]

theorem finished_task_kept : ¬ ∀ (Adapter : Type) (q : RuntimeId) (leaseSeconds : Nat)
    (events : List (ReconcileEvent Adapter)), Always (Reconciler.step q leaseSeconds)
      (fun s => ∀ activeIds, s.pc = .returned activeIds → s.Consistent) {} events := by
  intro all
  have last := (all Unit sampleRuntime 60 crashedUnreleased).last
  have kept := (last [7] rfl 7 (.finished "database is unavailable") rfl).1
  cases kept

end Orcheo.Listeners
