import Orcheo.Lib.Run
import Orcheo.Defs.Triggers.CronOverlap

/-! The instants at which a schedule fires, where the clock of its zone is set forward and back. -/

namespace Orcheo.Triggers

open Lib

/-- With `fold=0` a reading is placed where the zone's clock first shows it. -/
def Calendar.FirstReading (cal : Calendar) (zone : String) : Prop :=
  ∀ wall t, t + cal.utcoffset zone t = wall →
    let placed := wall - cal.wallOffset zone wall
    placed + cal.utcoffset zone placed = wall ∧ placed ≤ t

namespace CronOccurrence

section Zone

variable (cal : Calendar) (o : CronOccurrence)

/-- When the clock shows a local time: where it is taken from, or whenever it is read; one that
the clock skips is shown where it is put. -/
def Shows (l : LocalTime) (t : Instant) : Prop :=
  match l.takenFrom with
  | some value => t = value
  | none => t + cal.utcoffset o.timezone t = l.wall ∨
    (∀ u, u + cal.utcoffset o.timezone u ≠ l.wall) ∧ t = o.attach cal l

variable {cal} {o} {l : LocalTime} {t : Instant}

section

variable (first : cal.FirstReading o.timezone)
include first

theorem shows_attach (l : LocalTime) :
    o.Shows cal l (o.attach cal l) := by
  obtain ⟨wall, takenFrom⟩ := l
  cases takenFrom with
  | some value => exact rfl
  | none =>
    by_cases read : ∃ u, u + cal.utcoffset o.timezone u = wall
    · obtain ⟨u, reads⟩ := read
      exact Or.inl (first wall u reads).1
    · exact Or.inr ⟨not_exists.mp read, rfl⟩

theorem attach_le (shows : o.Shows cal l t) :
    o.attach cal l ≤ t := by
  obtain ⟨wall, takenFrom⟩ := l
  cases takenFrom with
  | some value => exact le_of_eq (Eq.symm shows)
  | none =>
    cases shows with
    | inl reads => exact (first wall t reads).2
    | inr skipped => exact le_of_eq skipped.2.symm

theorem lt_attach_iff :
    t < o.attach cal l ↔ ∀ u, o.Shows cal l u → t < u := by
  constructor
  · intro later u shows
    exact lt_of_lt_of_le later (attach_le first shows)
  · intro later
    exact later _ (shows_attach first l)

theorem le_attach_iff :
    t ≤ o.attach cal l ↔ ∀ u, o.Shows cal l u → t ≤ u := by
  constructor
  · intro later u shows
    exact le_trans later (attach_le first shows)
  · intro later
    exact later _ (shows_attach first l)

theorem attach_le_iff :
    o.attach cal l ≤ t ↔ ∃ u, o.Shows cal l u ∧ u ≤ t := by
  constructor
  · intro before
    exact ⟨_, shows_attach first l, before⟩
  · rintro ⟨u, shows, before⟩
    exact le_trans (attach_le first shows) before

end

end Zone

section Occurrence

variable (cal : Calendar) (o : CronOccurrence)

def sought (reference : Instant) (inclusive : Bool) : Except CronError LocalTime :=
  let (localReference, inclusive) := o.clampToStart cal (o.localNaive cal reference) inclusive
  o.candidate cal localReference inclusive

def ended (l : LocalTime) : Bool :=
  (o.endAt.map (o.localNaive cal)).any (fun endNaive => decide (endNaive.wall < l.wall))

structure InWindow (l : LocalTime) : Prop where
  start : ∀ startAt, o.startAt = some startAt → ∀ t, o.Shows cal l t → startAt ≤ t
  stop : ∀ endAt, o.endAt = some endAt → ∃ t, o.Shows cal l t ∧ t ≤ endAt

variable {cal} {o} {reference t : Instant} {inclusive : Bool}

theorem nextAfter_some (found : o.nextAfter cal reference inclusive = .ok (some t)) :
    ∃ l, o.sought cal reference inclusive = .ok l ∧ o.ended cal l = false ∧
      t = o.attach cal l := by
  unfold nextAfter at found
  unfold sought ended
  dsimp only at found ⊢
  cases wanted : o.candidate cal
      (o.clampToStart cal (o.localNaive cal reference) inclusive).1
      (o.clampToStart cal (o.localNaive cal reference) inclusive).2 with
  | error e =>
    rw [wanted] at found
    cases found
  | ok l =>
    rw [wanted] at found
    dsimp only at found
    refine ⟨l, rfl, ?_⟩
    cases stop : o.endAt.map (o.localNaive cal) with
    | none =>
      rw [stop] at found
      cases found
      exact ⟨rfl, rfl⟩
    | some endNaive =>
      rw [stop] at found
      dsimp only at found
      split at found
      next => cases found
      next reached =>
        cases found
        exact ⟨decide_eq_false reached, rfl⟩

theorem nextAfter_later_iff (first : cal.FirstReading o.timezone)
    (found : o.nextAfter cal reference inclusive = .ok (some t)) {l : LocalTime}
    (wanted : o.sought cal reference inclusive = .ok l) :
    (if inclusive then reference ≤ t else reference < t) ↔
      ∀ u, o.Shows cal l u → if inclusive then reference ≤ u else reference < u := by
  obtain ⟨l', wanted', -, rfl⟩ := nextAfter_some found
  cases wanted.symm.trans wanted'
  cases inclusive with
  | false => exact lt_attach_iff first
  | true => exact le_attach_iff first

end Occurrence

end CronOccurrence

namespace CronTriggerState

variable {cal : Calendar} {s : CronTriggerState} {now n : Instant}

theorem peekDue_pending (there : s.nextFireAt = some n) : (s.peekDue cal now).1 = s := by
  unfold peekDue ensureNext
  rw [there]
  dsimp only
  rw [there]

theorem peekDue_computed (absent : s.nextFireAt = none)
    (pending : (s.peekDue cal now).1.nextFireAt = some n) : s.firstFire cal now = .ok (some n) := by
  unfold peekDue ensureNext at pending
  rw [absent] at pending
  cases fire : s.firstFire cal now with
  | error e =>
    rw [fire] at pending
    cases absent.symm.trans pending
  | ok next =>
    rw [fire] at pending
    cases next with
    | none => cases pending
    | some n' =>
      cases pending
      rfl

end CronTriggerState

inductive CronOp
  | peekDue (now : Instant)
  | consumeDue
  | updateConfig (config : CronTriggerConfig) (lastDispatchedAt : Option Instant)

structure CronRun where
  state : CronTriggerState
  fired : List (Instant × CronTriggerConfig) := []

def CronTriggerConfig.Contains (config : CronTriggerConfig) (t : Instant) : Prop :=
  (∀ startAt, config.startAt = some startAt → startAt ≤ t) ∧
    ∀ endAt, config.endAt = some endAt → t ≤ endAt

namespace CronRun

variable (cal : Calendar)

def new (config : CronTriggerConfig) (lastDispatchedAt : Option Instant) : CronRun :=
  { state := .new config lastDispatchedAt }

variable (r : CronRun)

def step : CronOp → CronRun
  | .peekDue now => { r with state := (r.state.peekDue cal now).1 }
  | .consumeDue => match r.state.consumeDue cal with
    | (state, .ok fireAt) => ⟨state, (fireAt, r.state.config) :: r.fired⟩
    | (state, .error _) => { r with state := state }
  | .updateConfig config lastDispatchedAt =>
    { r with state := r.state.updateConfig config lastDispatchedAt }

structure Advancing (r : CronRun) : Prop where
  increasing : r.fired.Pairwise (fun later earlier => earlier.1 < later.1)
  window : ∀ e ∈ r.fired, e.2.Contains e.1

def reference? : CronOp → Option (Instant × Bool)
  | .peekDue now => match r.state.nextFireAt, r.state.lastDispatchedAt with
    | some _, _ => none
    | none, some last => some (last, false)
    | none, none => some (r.state.config.startAt.getD now, true)
  | .consumeDue => r.state.nextFireAt.map (fun fireAt => (fireAt, false))
  | .updateConfig _ _ => none

def consumed? : CronOp → Option Instant
  | .consumeDue => r.state.nextFireAt <|> r.fired.head?.map Prod.fst
  | _ => r.fired.head?.map Prod.fst

/-- What the operation finds is a time that the zone's clock has not shown by the last consumed
instant, and shows in the window. -/
def InOrder (op : CronOp) : Prop :=
  ∀ reference inclusive l, r.reference? op = some (reference, inclusive) →
    r.state.occurrence.sought cal reference inclusive = .ok l →
      r.state.occurrence.ended cal l = false →
        (∀ last, r.consumed? op = some last →
          ∀ t, r.state.occurrence.Shows cal l t → last < t) ∧
        r.state.occurrence.InWindow cal l

def Clocked (ops : List CronOp) : Prop :=
  (ops.filterMap (fun op => match op with
    | .peekDue now => some now
    | _ => none)).Pairwise (· ≤ ·)

structure Ready (r : CronRun) : Prop where
  advancing : r.Advancing
  pending : ∀ next, r.state.nextFireAt = some next →
    r.state.config.Contains next ∧ ∀ e ∈ r.fired, e.1 < next

theorem ready_new (config : CronTriggerConfig) (lastDispatchedAt : Option Instant) :
    (new config lastDispatchedAt).Ready where
  advancing := ⟨.nil, nofun⟩
  pending _ there := by cases there

variable {cal} {r : CronRun}

theorem Advancing.le_last (advancing : r.Advancing) {e : Instant × CronTriggerConfig}
    (mem : e ∈ r.fired) : ∃ last, r.fired.head?.map Prod.fst = some last ∧ e.1 ≤ last := by
  have increasing := advancing.increasing
  cases fired : r.fired with
  | nil =>
    rw [fired] at mem
    cases mem
  | cons e' es =>
    rw [fired] at mem increasing
    refine ⟨e'.1, rfl, ?_⟩
    cases List.mem_cons.mp mem with
    | inl head => rw [head]
    | inr tail => exact le_of_lt ((List.pairwise_cons.mp increasing).1 e tail)

theorem InOrder.found {op : CronOp} (order : r.InOrder cal op)
    (first : ∀ zone, cal.FirstReading zone)
    {reference t : Instant} {inclusive : Bool}
    (looked : r.reference? op = some (reference, inclusive))
    (found : r.state.occurrence.nextAfter cal reference inclusive = .ok (some t)) :
    r.state.config.Contains t ∧ ∀ last, r.consumed? op = some last → last < t := by
  obtain ⟨l, wanted, reached, rfl⟩ := CronOccurrence.nextAfter_some found
  obtain ⟨later, window⟩ := order reference inclusive l looked wanted reached
  have first := first r.state.occurrence.timezone
  refine ⟨⟨?_, ?_⟩, ?_⟩
  · intro startAt start
    exact (CronOccurrence.le_attach_iff first).mpr (window.start startAt start)
  · intro endAt stop
    exact (CronOccurrence.attach_le_iff first).mpr (window.stop endAt stop)
  · intro last consumed
    exact (CronOccurrence.lt_attach_iff first).mpr (later last consumed)

theorem Ready.peekDue (ready : r.Ready) (first : ∀ zone, cal.FirstReading zone) {now : Instant}
    (order : r.InOrder cal (.peekDue now)) : (r.step cal (.peekDue now)).Ready := by
  obtain ⟨next, peeked⟩ := r.state.peekDue_fst cal now
  refine ⟨⟨ready.advancing.increasing, ready.advancing.window⟩, ?_⟩
  intro n pending
  have config : (r.step cal (.peekDue now)).state.config = r.state.config := by
    rw [step, peeked]
  rw [config]
  cases there : r.state.nextFireAt with
  | some n' =>
    have same : (r.state.peekDue cal now).1 = r.state := CronTriggerState.peekDue_pending there
    rw [step, same] at pending
    exact ready.pending n pending
  | none =>
    have found := CronTriggerState.peekDue_computed there pending
    obtain ⟨reference, inclusive, looked, found⟩ : ∃ reference inclusive,
        r.reference? (.peekDue now) = some (reference, inclusive) ∧
          r.state.occurrence.nextAfter cal reference inclusive = .ok (some n) := by
      unfold CronTriggerState.firstFire at found
      unfold reference?
      rw [there]
      cases last : r.state.lastDispatchedAt with
      | some last' =>
        rw [last] at found
        exact ⟨last', false, rfl, found⟩
      | none =>
        rw [last] at found
        exact ⟨_, true, rfl, found⟩
    obtain ⟨window, later⟩ := order.found first looked found
    refine ⟨window, ?_⟩
    intro e mem
    obtain ⟨last, consumed, before⟩ := ready.advancing.le_last mem
    exact lt_of_le_of_lt before (later last consumed)

theorem Ready.consumeDue (ready : r.Ready) (first : ∀ zone, cal.FirstReading zone)
    (order : r.InOrder cal .consumeDue) : (r.step cal .consumeDue).Ready := by
  unfold step CronTriggerState.consumeDue
  cases there : r.state.nextFireAt with
  | none => exact ready
  | some fireAt =>
    obtain ⟨window, latest⟩ := ready.pending fireAt there
    dsimp only
    cases found : r.state.occurrence.nextAfter cal fireAt false with
    | error e =>
      refine ⟨⟨ready.advancing.increasing, ready.advancing.window⟩, ?_⟩
      intro n pending
      cases pending
      exact ⟨window, latest⟩
    | ok next =>
      refine ⟨⟨List.pairwise_cons.mpr ⟨latest, ready.advancing.increasing⟩, ?_⟩, ?_⟩
      · intro e mem
        cases List.mem_cons.mp mem with
        | inl head =>
          rw [head]
          exact window
        | inr tail => exact ready.advancing.window e tail
      · intro n pending
        cases pending
        have looked : r.reference? .consumeDue = some (fireAt, false) := by
          rw [reference?, there]
          rfl
        have consumed : r.consumed? .consumeDue = some fireAt := by
          rw [consumed?, there]
          rfl
        obtain ⟨window', later⟩ := order.found first looked found
        refine ⟨window', ?_⟩
        intro e mem
        cases List.mem_cons.mp mem with
        | inl head =>
          rw [head]
          exact later fireAt consumed
        | inr tail => exact lt_trans (latest e tail) (later fireAt consumed)

theorem Ready.step (ready : r.Ready) (first : ∀ zone, cal.FirstReading zone) {op : CronOp}
    (order : r.InOrder cal op) : (r.step cal op).Ready := by
  cases op with
  | peekDue now => exact ready.peekDue first order
  | consumeDue => exact ready.consumeDue first order
  | updateConfig config lastDispatchedAt =>
    refine ⟨⟨ready.advancing.increasing, ready.advancing.window⟩, ?_⟩
    intro n pending
    cases pending

end CronRun

section SetBack

/-- The calendar of `30 1 * * *` in a zone whose clock is set back from two to one o'clock at the
start of the epoch. -/
def Calendar.setBack : Calendar where
  isMatch _ t := decide (t % 86400000000 = 5400000000)
  getNext _ t := some ((t - 5400000000) / 86400000000 * 86400000000 + 91800000000)
  utcoffset _ t := if t < 0 then 7200000000 else 3600000000
  wallOffset _ wall := if wall < 7200000000 then 7200000000 else 3600000000

theorem next_day (t : Int) :
    t < (t - 5400000000) / 86400000000 * 86400000000 + 91800000000 ∧
    ((t - 5400000000) / 86400000000 * 86400000000 + 91800000000) % 86400000000 = 5400000000 ∧
    ∀ u, t < u → u < (t - 5400000000) / 86400000000 * 86400000000 + 91800000000 →
      u % 86400000000 ≠ 5400000000 := by
  refine ⟨by omega, by omega, ?_⟩
  intro u after before
  omega

theorem croniter_setBack (expression : String) : Calendar.setBack.Croniter expression where
  next := by
    intro reference t found
    cases found
    obtain ⟨later, here, between⟩ := next_day reference
    exact ⟨later, decide_eq_true here, fun u after before => decide_eq_false (between u after before)⟩
  missing := by
    intro reference t found
    cases found

theorem first_setBack (t : Int) :
    let wall := t + if t < 0 then 7200000000 else 3600000000
    let placed := wall - if wall < 7200000000 then 7200000000 else 3600000000
    (placed + if placed < 0 then 7200000000 else 3600000000) = wall ∧ placed ≤ t := by
  intro wall placed
  by_cases before : t < 0
  · have wall' : wall = t + 7200000000 := by simp [wall, before]
    have placed' : placed = t := by simp only [placed, wall']; split <;> omega
    rw [placed', if_pos before]
    exact ⟨wall'.symm, le_rfl⟩
  · have wall' : wall = t + 3600000000 := by simp [wall, before]
    by_cases repeated : wall < 7200000000
    · have placed' : placed = t - 3600000000 := by simp only [placed, if_pos repeated]; omega
      rw [placed', if_pos (by omega)]
      exact ⟨by omega, by omega⟩
    · have placed' : placed = t := by simp only [placed, if_neg repeated]; omega
      rw [placed', if_neg before]
      exact ⟨wall'.symm, le_rfl⟩

theorem firstReading_setBack (zone : String) : Calendar.setBack.FirstReading zone := by
  intro wall t reads
  subst reads
  exact first_setBack t

end SetBack

end Orcheo.Triggers
