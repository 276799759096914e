import Orcheo.Defs.Triggers.Cron

/-! The check that a schedule whose runs may not overlap does not fire too often. -/

namespace Orcheo.Triggers

def highFrequencyThreshold : Duration := seconds 300

/-- How far `croniter` looks for the next occurrence: fifty years. -/
def croniterHorizon : Duration := seconds (50 * 365 * 86400)

/-- What `croniter` promises for an expression: the next match, and an exception only where there
is none as far as it looks. -/
structure Calendar.Croniter (cal : Calendar) (expression : String) : Prop where
  next : ∀ reference t, cal.getNext expression reference = some t → reference < t ∧
    cal.isMatch expression t = true ∧
    ∀ u, reference < u → u < t → cal.isMatch expression u = false
  missing : ∀ reference t, cal.getNext expression reference = none → reference < t →
    cal.isMatch expression t = true → croniterHorizon < t - reference

def highFrequencyMessage (expression : String) (interval : Duration) : String :=
  "Cron expression '" ++ expression ++ "' fires every " ++ toString (interval.tdiv 1000000) ++
    "s, but allow_overlapping is disabled. This risks permanently blocking the schedule. Either " ++
    "increase the interval to at least 5 minutes or set allow_overlapping to true."

namespace CronTriggerConfig

/-- The schedule starts at the moment of the check, in UTC. -/
def validateOverlapFrequency (cal : Calendar) (now : Instant) (c : CronTriggerConfig) :
    Except String CronTriggerConfig :=
  if c.allowOverlapping then .ok c
  else match cal.getNext c.expression now with
  | none => .ok c
  | some first => match cal.getNext c.expression first with
    | none => .ok c
    | some second =>
      if second - first < highFrequencyThreshold then
        .error (highFrequencyMessage c.expression (second - first))
      else .ok c

end CronTriggerConfig

section Schedules

variable (cal : Calendar) (expression : String)

structure Consecutive (a b : Instant) : Prop where
  first : cal.isMatch expression a = true
  second : cal.isMatch expression b = true
  later : a < b
  between : ∀ u, a < u → u < b → cal.isMatch expression u = false

def Spaced : Prop := ∀ a b, Consecutive cal expression a b → highFrequencyThreshold ≤ b - a

structure Frequent : Prop where
  close : ∀ a b, Consecutive cal expression a b → b - a < highFrequencyThreshold
  recurs : ∀ now, (cal.getNext expression now).isSome

variable {cal} {expression} {a b now : Instant}

theorem Calendar.Croniter.consecutive (croniter : cal.Croniter expression)
    (first : cal.getNext expression now = some a) (second : cal.getNext expression a = some b) :
    Consecutive cal expression a b := by
  obtain ⟨-, here, -⟩ := croniter.next now a first
  obtain ⟨later, there, between⟩ := croniter.next a b second
  exact ⟨here, there, later, between⟩

theorem Calendar.Croniter.getNext_before (croniter : cal.Croniter expression)
    (here : cal.isMatch expression a = true) : cal.getNext expression (a - 1) = some a := by
  cases found : cal.getNext expression (a - 1) with
  | none =>
    have far := croniter.missing (a - 1) a found (Int.sub_lt_self a Int.one_pos) here
    rw [Int.sub_sub_self] at far
    exact absurd far (by decide)
  | some t =>
    obtain ⟨later, -, between⟩ := croniter.next (a - 1) t found
    have not_later : ¬ a < t := by
      intro before
      have absent := between a (Int.sub_lt_self a Int.one_pos) before
      rw [here] at absent
      cases absent
    have same : t = a := le_antisymm (not_lt.mp not_later) (Int.sub_one_lt_iff.mp later)
    rw [same]

theorem next_hour (t : Int) : t < (t / 3600000000 + 1) * 3600000000 ∧
    (t / 3600000000 + 1) * 3600000000 % 3600000000 = 0 ∧
    ∀ u, t < u → u < (t / 3600000000 + 1) * 3600000000 → u % 3600000000 ≠ 0 := by
  refine ⟨by omega, by omega, ?_⟩
  intro u after before
  omega

theorem croniter_hourly (expression : String) : Calendar.hourly.Croniter expression where
  next := by
    intro reference t found
    cases found
    obtain ⟨later, here, between⟩ := next_hour reference
    exact ⟨later, decide_eq_true here, fun u after before => decide_eq_false (between u after before)⟩
  missing := by
    intro reference t found
    cases found

end Schedules

section Validation

variable {cal : Calendar} {c : CronTriggerConfig} {now : Instant}

theorem validateOverlapFrequency_error_iff (exclusive : c.allowOverlapping = false) :
    (c.validateOverlapFrequency cal now).isOk = false ↔ ∃ first second,
      cal.getNext c.expression now = some first ∧ cal.getNext c.expression first = some second ∧
        second - first < highFrequencyThreshold := by
  unfold CronTriggerConfig.validateOverlapFrequency
  rw [exclusive, if_neg (by simp)]
  cases found : cal.getNext c.expression now with
  | none => simp [Except.isOk, Except.toBool]
  | some first =>
    dsimp only
    cases found' : cal.getNext c.expression first with
    | none => simp [found', Except.isOk, Except.toBool]
    | some second =>
      dsimp only
      by_cases close : second - first < highFrequencyThreshold
      · rw [if_pos close]
        exact iff_of_true rfl ⟨first, second, rfl, found', close⟩
      · rw [if_neg close]
        refine iff_of_false (by simp [Except.isOk, Except.toBool]) ?_
        rintro ⟨first', second', same, next, close'⟩
        cases same
        cases found'.symm.trans next
        exact close close'

theorem Spaced.accepted (spaced : Spaced cal c.expression) (croniter : cal.Croniter c.expression)
    (exclusive : c.allowOverlapping = false) :
    (c.validateOverlapFrequency cal now).isOk = true := by
  cases accepted : (c.validateOverlapFrequency cal now).isOk with
  | true => rfl
  | false =>
    obtain ⟨first, second, found, found', close⟩ :=
      (validateOverlapFrequency_error_iff exclusive).mp accepted
    exact absurd close (not_lt.mpr (spaced _ _ (croniter.consecutive found found')))

theorem Frequent.rejected (frequent : Frequent cal c.expression)
    (croniter : cal.Croniter c.expression) (exclusive : c.allowOverlapping = false) :
    (c.validateOverlapFrequency cal now).isOk = false := by
  obtain ⟨first, found⟩ := Option.isSome_iff_exists.mp (frequent.recurs now)
  obtain ⟨second, found'⟩ := Option.isSome_iff_exists.mp (frequent.recurs first)
  exact (validateOverlapFrequency_error_iff exclusive).mpr
    ⟨first, second, found, found', frequent.close _ _ (croniter.consecutive found found')⟩

theorem frequent_of_rejected (croniter : cal.Croniter c.expression)
    (exclusive : c.allowOverlapping = false)
    (rejected : ∀ now, (c.validateOverlapFrequency cal now).isOk = false) :
    Frequent cal c.expression := by
  have sampled (now : Instant) := (validateOverlapFrequency_error_iff exclusive).mp (rejected now)
  constructor
  case recurs =>
    intro now
    obtain ⟨first, _, found, _⟩ := sampled now
    rw [found]
    rfl
  case close =>
    intro a b pair
    obtain ⟨first, second, found, found', close⟩ := sampled (a - 1)
    cases found.symm.trans (croniter.getNext_before pair.first)
    obtain ⟨later, there, -⟩ := croniter.next a second found'
    have reached : b ≤ second := by
      by_contra beyond
      have absent := pair.between second later (not_le.mp beyond)
      rw [there] at absent
      cases absent
    exact lt_of_le_of_lt (Int.sub_le_sub_right reached a) close

end Validation

section Paired

/-- The calendar of `0,1 * * * *` in UTC. -/
def Calendar.paired : Calendar where
  isMatch _ t := decide (t % 3600000000 = 0 ∨ t % 3600000000 = 60000000)
  getNext _ t :=
    if t % 3600000000 < 60000000 then some (t / 3600000000 * 3600000000 + 60000000)
    else some ((t / 3600000000 + 1) * 3600000000)
  utcoffset _ _ := 0
  wallOffset _ _ := 0

theorem next_pair (t : Int) : if t % 3600000000 < 60000000 then
      t < t / 3600000000 * 3600000000 + 60000000 ∧
      (t / 3600000000 * 3600000000 + 60000000) % 3600000000 = 60000000 ∧
      ∀ u, t < u → u < t / 3600000000 * 3600000000 + 60000000 →
        ¬ (u % 3600000000 = 0 ∨ u % 3600000000 = 60000000)
    else ∀ u, t < u → u < (t / 3600000000 + 1) * 3600000000 → u % 3600000000 ≠ 60000000 := by
  split
  next early =>
    refine ⟨by omega, by omega, ?_⟩
    intro u after before
    omega
  next late =>
    intro u after before
    omega

theorem croniter_paired (expression : String) : Calendar.paired.Croniter expression where
  next := by
    intro reference t found
    have pair := next_pair reference
    unfold Calendar.paired at found ⊢
    dsimp only at found ⊢
    split at found
    next early =>
      rw [if_pos early] at pair
      cases found
      obtain ⟨later, here, between⟩ := pair
      exact ⟨later, decide_eq_true (Or.inr here),
        fun u after before => decide_eq_false (between u after before)⟩
    next late =>
      rw [if_neg late] at pair
      cases found
      obtain ⟨later, here, between⟩ := next_hour reference
      refine ⟨later, decide_eq_true (Or.inl here), ?_⟩
      intro u after before
      exact decide_eq_false (not_or.mpr ⟨between u after before, pair u after before⟩)
  missing := by
    intro reference t found
    unfold Calendar.paired at found
    dsimp only at found
    split at found
    · cases found
    · cases found

end Paired

end Orcheo.Triggers
