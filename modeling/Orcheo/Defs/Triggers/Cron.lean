import Orcheo.Defs.Base

namespace Orcheo.Triggers

/-- The third-party calendar arithmetic: `croniter` over wall-clock readings and the
UTC offsets of `zoneinfo`.  `getNext` is absent where `croniter` raises. -/
structure Calendar where
  isMatch : String → Instant → Bool
  getNext : String → Instant → Option Instant
  utcoffset : String → Instant → Duration
  wallOffset : String → Instant → Duration

/-- The calendar of `0 * * * *` in UTC. -/
def Calendar.hourly : Calendar where
  isMatch _ t := decide (t % 3600000000 = 0)
  getNext _ t := some ((t / 3600000000 + 1) * 3600000000)
  utcoffset _ _ := 0
  wallOffset _ _ := 0

inductive CronError
  | validation | overlap | badDate
  deriving DecidableEq, Repr

structure CronTriggerConfig where
  expression : String := "0 * * * *"
  timezone : String := "UTC"
  allowOverlapping : Bool := false
  startAt : Option Instant := none
  endAt : Option Instant := none
  deriving DecidableEq, Repr

structure CronOccurrence where
  expression : String
  timezone : String
  startAt : Option Instant
  endAt : Option Instant
  deriving DecidableEq, Repr

def CronTriggerConfig.toOccurrence (c : CronTriggerConfig) : CronOccurrence :=
  ⟨c.expression, c.timezone, c.startAt, c.endAt⟩

/-- A naive local time: what the clock reads, and the instant it is taken from.  One that
`croniter` returns is taken from none, and has `fold=0`. -/
structure LocalTime where
  wall : Instant
  takenFrom : Option Instant
  deriving DecidableEq, Repr

namespace CronOccurrence

variable (cal : Calendar) (o : CronOccurrence)

def localNaive (value : Instant) : LocalTime :=
  ⟨value + cal.utcoffset o.timezone value, some value⟩

/-- `replace(tzinfo=...)`: what keeps its fold goes back to where it is taken from. -/
def attach (l : LocalTime) : Instant :=
  match l.takenFrom with
  | some value => value
  | none => l.wall - cal.wallOffset o.timezone l.wall

def clampToStart (localReference : LocalTime) (inclusive : Bool) : LocalTime × Bool :=
  match o.startAt.map (o.localNaive cal) with
  | some startNaive =>
    if localReference.wall < startNaive.wall then (startNaive, true)
    else (localReference, inclusive)
  | none => (localReference, inclusive)

def candidate (localReference : LocalTime) (inclusive : Bool) : Except CronError LocalTime :=
  if inclusive && cal.isMatch o.expression localReference.wall then .ok localReference
  else match cal.getNext o.expression localReference.wall with
    | some next => .ok ⟨next, none⟩
    | none => .error .badDate

def nextAfter (reference : Instant) (inclusive : Bool) : Except CronError (Option Instant) :=
  let (localReference, inclusive) := o.clampToStart cal (o.localNaive cal reference) inclusive
  match o.candidate cal localReference inclusive with
  | .error e => .error e
  | .ok candidate =>
    match o.endAt.map (o.localNaive cal) with
    | some endNaive =>
      if endNaive.wall < candidate.wall then .ok none
      else .ok (some (o.attach cal candidate))
    | none => .ok (some (o.attach cal candidate))

end CronOccurrence

structure CronTriggerState where
  config : CronTriggerConfig
  nextFireAt : Option Instant := none
  lastDispatchedAt : Option Instant := none
  activeRuns : Finset Uuid := ∅
  deriving DecidableEq

namespace CronTriggerState

def new (config : CronTriggerConfig) (lastDispatchedAt : Option Instant) : CronTriggerState :=
  { config := config, lastDispatchedAt := lastDispatchedAt }

def occurrence (s : CronTriggerState) : CronOccurrence := s.config.toOccurrence

def updateConfig (s : CronTriggerState) (config : CronTriggerConfig)
    (lastDispatchedAt : Option Instant) : CronTriggerState :=
  { s with
    config := config
    nextFireAt := none
    lastDispatchedAt := lastDispatchedAt <|> s.lastDispatchedAt }

def canDispatch (s : CronTriggerState) : Bool :=
  s.config.allowOverlapping || decide (s.activeRuns = ∅)

def registerRun (s : CronTriggerState) (runId : Uuid) : Except CronError CronTriggerState :=
  if s.canDispatch then .ok { s with activeRuns := insert runId s.activeRuns }
  else .error .overlap

def releaseRun (s : CronTriggerState) (runId : Uuid) : CronTriggerState :=
  { s with activeRuns := s.activeRuns.erase runId }

def syncActiveRuns (s : CronTriggerState) (runIds : Finset Uuid) : CronTriggerState :=
  { s with activeRuns := runIds }

/-- The occurrence `_ensure_next` stores when none is pending. -/
def firstFire (cal : Calendar) (s : CronTriggerState) (now : Instant) :
    Except CronError (Option Instant) :=
  match s.lastDispatchedAt with
  | some last => s.occurrence.nextAfter cal last false
  | none => s.occurrence.nextAfter cal (s.config.startAt.getD now) true

def ensureNext (cal : Calendar) (s : CronTriggerState) (now : Instant) :
    Except CronError CronTriggerState :=
  match s.nextFireAt with
  | some _ => .ok s
  | none => (s.firstFire cal now).map (fun next => { s with nextFireAt := next })

/-- The state after the call, and its result; a failed `_ensure_next` changes nothing. -/
def peekDue (cal : Calendar) (s : CronTriggerState) (now : Instant) :
    CronTriggerState × Except CronError (Option Instant) :=
  match s.ensureNext cal now with
  | .error e => (s, .error e)
  | .ok s' =>
    match s'.nextFireAt with
    | some fireAt => (s', .ok (if fireAt ≤ now then some fireAt else none))
    | none => (s', .ok none)

def consumeDue (cal : Calendar) (s : CronTriggerState) :
    CronTriggerState × Except CronError Instant :=
  match s.nextFireAt with
  | none => (s, .error .validation)
  | some fireAt =>
    let dispatched := { s with lastDispatchedAt := some fireAt }
    match s.occurrence.nextAfter cal fireAt false with
    | .error e => (dispatched, .error e)
    | .ok next => ({ dispatched with nextFireAt := next }, .ok fireAt)

@[simp] theorem activeRuns_new (c : CronTriggerConfig) (l : Option Instant) :
    (new c l).activeRuns = ∅ := rfl

@[simp] theorem activeRuns_updateConfig (s : CronTriggerState) (c : CronTriggerConfig)
    (l : Option Instant) : (s.updateConfig c l).activeRuns = s.activeRuns := rfl

@[simp] theorem activeRuns_releaseRun (s : CronTriggerState) (r : Uuid) :
    (s.releaseRun r).activeRuns = s.activeRuns.erase r := rfl

@[simp] theorem activeRuns_syncActiveRuns (s : CronTriggerState) (rs : Finset Uuid) :
    (s.syncActiveRuns rs).activeRuns = rs := rfl

theorem ensureNext_ok {cal : Calendar} {s s' : CronTriggerState} {now : Instant}
    (h : s.ensureNext cal now = .ok s') : ∃ next, s' = { s with nextFireAt := next } := by
  unfold ensureNext at h
  split at h
  · rename_i next hnext
    exact ⟨some next, by cases h; cases s; simp_all⟩
  · cases hf : s.firstFire cal now with
    | error e => rw [hf] at h; cases h
    | ok next => rw [hf] at h; exact ⟨next, by cases h; rfl⟩

section

variable (cal : Calendar) (s : CronTriggerState)
include cal s

theorem peekDue_fst (now : Instant) :
    ∃ next, (s.peekDue cal now).1 = { s with nextFireAt := next } := by
  unfold peekDue
  split
  · exact ⟨s.nextFireAt, rfl⟩
  · rename_i s' hs'
    obtain ⟨next, rfl⟩ := ensureNext_ok hs'
    cases next with
    | none => exact ⟨none, rfl⟩
    | some fireAt => exact ⟨some fireAt, rfl⟩

theorem consumeDue_fst :
    ∃ last next, (s.consumeDue cal).1 =
      { s with lastDispatchedAt := last, nextFireAt := next } := by
  unfold consumeDue
  cases hn : s.nextFireAt with
  | none => exact ⟨s.lastDispatchedAt, none, by cases s; simp_all⟩
  | some fireAt =>
    cases hx : s.occurrence.nextAfter cal fireAt false with
    | error e => exact ⟨some fireAt, some fireAt, by simp only [hx]⟩
    | ok next => exact ⟨some fireAt, next, by simp only [hx]⟩

@[simp] theorem activeRuns_peekDue (now : Instant) :
    (s.peekDue cal now).1.activeRuns = s.activeRuns := by
  obtain ⟨next, h⟩ := s.peekDue_fst cal now
  rw [h]

@[simp] theorem activeRuns_consumeDue : (s.consumeDue cal).1.activeRuns = s.activeRuns := by
  obtain ⟨last, next, h⟩ := s.consumeDue_fst cal
  rw [h]

end

end CronTriggerState

end Orcheo.Triggers
