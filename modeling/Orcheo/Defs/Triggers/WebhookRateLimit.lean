import Mathlib
import Orcheo.Defs.Triggers.WebhookLaws
import Orcheo.Lib.SlidingWindow

/-! The rate limit of a webhook, over the accepted requests of a whole run. -/

namespace Orcheo.Triggers.WebhookTriggerState

open Lib.SlidingWindow

section Accepted

variable (rt : WebhookRuntime)

def refusesForRate (s : WebhookTriggerState) (call : WebhookCall) : Bool :=
  match (s.validate rt call.clock call.request).2 with
  | .error e => e.isRate
  | .ok () => false

def acceptedAt : WebhookTriggerState → List WebhookCall → List Instant
  | _, [] => []
  | s, call :: calls =>
    (if s.accepts rt call then [call.clock.limitedAt] else []) ++ acceptedAt (s.step rt call) calls

def interval (limit : RateLimitConfig) : Duration := seconds limit.intervalSeconds

structure RateLaw (window : Instant → Instant → Set Instant)
    [∀ a b, DecidablePred (· ∈ window a b)] (config : WebhookTriggerConfig)
    (limit : RateLimitConfig) (calls : List WebhookCall) : Prop where
  bounded : ∀ a, countIn (acceptedAt rt { config := config } calls) (window a (a + interval limit)) ≤
    limit.limit
  full : ∀ before call after, calls = before ++ call :: after →
    refusesForRate rt (before.foldl (step rt) { config := config }) call = true →
      limit.limit ≤ countIn (acceptedAt rt { config := config } before)
        (window (call.clock.limitedAt - interval limit) call.clock.limitedAt)

end Accepted

section Step

variable {rt : WebhookRuntime} {s : WebhookTriggerState} {call : WebhookCall}
  {limit : RateLimitConfig} {now : Instant} {times : List Instant}

theorem enforceRateLimit_eq (limited : s.config.rateLimit = some limit) {clock : WebhookClock}
    {window : List Instant} {taken : Bool} (offered : offer limit.limit (interval limit)
      s.recentInvocations clock.limitedAt = (window, taken)) :
    s.enforceRateLimit clock = ({ s with recentInvocations := window },
      if taken then .ok () else .error (.rateLimitExceeded limit.limit limit.intervalSeconds)) := by
  unfold enforceRateLimit
  rw [limited]
  by_cases full :
      limit.limit ≤ (fresh (interval limit) clock.limitedAt s.recentInvocations).length
  · rw [offer_full full] at offered
    cases offered
    exact if_pos full
  · rw [offer_room full] at offered
    cases offered
    exact if_neg full

theorem rate_cases (limited : s.config.rateLimit = some limit) {window : List Instant}
    {taken : Bool}
    (offered : offer limit.limit (interval limit) s.recentInvocations call.clock.limitedAt =
      (window, taken)) :
    ((s.step rt call).recentInvocations = s.recentInvocations ∧ s.accepts rt call = false ∧
      s.refusesForRate rt call = false) ∨
    ((s.step rt call).recentInvocations = window ∧ s.accepts rt call = taken ∧
      s.refusesForRate rt call = !taken) := by
  unfold step accepts refusesForRate
  have ended := validated rt s call
  cases done : s.validate rt call.clock call.request with
  | mk t result =>
    rw [done] at ended
    generalize same : (t, result) = out at ended
    cases ended with
    | shape refused other =>
      cases same
      exact Or.inl ⟨rfl, rfl, other⟩
    | signature shaped signed other =>
      cases same
      exact Or.inl ⟨signed.frame.2, rfl, other⟩
    | secret shaped signed refused other =>
      cases same
      exact Or.inl ⟨signed.frame.2, rfl, other⟩
    | @rate u shaped signed passed =>
      obtain ⟨config, invocations⟩ := signed.frame
      dsimp only at config invocations
      rw [← invocations] at offered
      rw [enforceRateLimit_eq (by rw [config]; exact limited) offered]
      refine Or.inr ⟨rfl, ?_⟩
      cases taken with
      | false => exact ⟨rfl, rfl⟩
      | true => exact ⟨rfl, rfl⟩

structure WithinRate (limit : RateLimitConfig) (now : Instant) (s : WebhookTriggerState)
    (times : List Instant) : Prop where
  limited : s.config.rateLimit = some limit
  tracks : Tracks (interval limit) now times s.recentInvocations
  sorted : times.Pairwise (· ≤ ·)
  bounded : Limited limit.limit (interval limit) times

theorem withinRate_new {config : WebhookTriggerConfig} (limited : config.rateLimit = some limit)
    (now : Instant) : WithinRate limit now { config := config } [] where
  limited := limited
  tracks := tracks_nil _ _
  sorted := List.Pairwise.nil
  bounded := limited_nil _ _

section

variable (within : WithinRate limit now s times)
include within

theorem WithinRate.later {now' : Instant} (later : now ≤ now') : WithinRate limit now' s times where
  limited := within.limited
  tracks := within.tracks.later later
  sorted := within.sorted
  bounded := within.bounded

theorem WithinRate.step (later : now ≤ call.clock.limitedAt) :
    WithinRate limit call.clock.limitedAt (s.step rt call)
      (times ++ if s.accepts rt call then [call.clock.limitedAt] else []) := by
  have present := within.later later
  have config : (s.step rt call).config.rateLimit = some limit := by
    rw [config_step]
    exact within.limited
  by_cases full :
      limit.limit ≤ (fresh (interval limit) call.clock.limitedAt s.recentInvocations).length
  · have queue : Tracks (interval limit) call.clock.limitedAt times
        (s.step rt call).recentInvocations ∧ s.accepts rt call = false := by
      obtain ⟨queue, accepts, -⟩ | ⟨queue, accepts, -⟩ :=
        rate_cases within.limited (offer_full full)
      · exact ⟨by rw [queue]; exact present.tracks, accepts⟩
      · exact ⟨by rw [queue]; exact present.tracks.fresh, accepts⟩
    rw [queue.2, if_neg (by simp), List.append_nil]
    exact ⟨config, queue.1, within.sorted, within.bounded⟩
  · obtain ⟨queue, accepts, -⟩ | ⟨queue, accepts, -⟩ :=
      rate_cases within.limited (offer_room full)
    · rw [accepts, if_neg (by simp), List.append_nil]
      exact ⟨config, by rw [queue]; exact present.tracks, within.sorted, within.bounded⟩
    · rw [accepts, if_pos rfl]
      refine ⟨config, ?_, ?_, ?_⟩
      · rw [queue]
        exact present.tracks.fresh.take
      · refine List.pairwise_append.mpr ⟨within.sorted, List.pairwise_singleton _ _, ?_⟩
        intro t mem t' last
        rw [List.mem_singleton.mp last]
        exact present.tracks.past t mem
      · exact within.bounded.take present.tracks.fresh (not_le.mp full)

theorem WithinRate.full
    (later : now ≤ call.clock.limitedAt) (refused : s.refusesForRate rt call = true) :
    limit.limit ≤ countIn times
      (Set.Icc (call.clock.limitedAt - interval limit) call.clock.limitedAt) := by
  have present := within.later later
  by_cases full :
      limit.limit ≤ (fresh (interval limit) call.clock.limitedAt s.recentInvocations).length
  · exact le_trans full (present.tracks.le_countIn within.sorted)
  · obtain ⟨-, -, other⟩ | ⟨-, -, other⟩ := rate_cases within.limited (offer_room full)
    · rw [refused] at other
      cases other
    · rw [refused] at other
      cases other

end

end Step

section Runs

variable {rt : WebhookRuntime} {s : WebhookTriggerState} {limit : RateLimitConfig} {now : Instant}
  {times : List Instant} {calls : List WebhookCall}

theorem nondecreasing_tail {call : WebhookCall} (clock : Nondecreasing (call :: calls)) :
    Nondecreasing calls :=
  ⟨fun c mem => clock.1 c (List.mem_cons_of_mem _ mem), (List.pairwise_cons.mp clock.2).2⟩

theorem exists_after (calls : List WebhookCall) :
    ∃ now : Instant, ∀ call ∈ calls, call.clock.limitedAt ≤ now := by
  induction calls with
  | nil => exact ⟨0, by simp⟩
  | cons call calls ih =>
    obtain ⟨now, ended⟩ := ih
    refine ⟨max call.clock.limitedAt now, ?_⟩
    intro c mem
    cases List.mem_cons.mp mem with
    | inl head => exact head ▸ le_max_left _ _
    | inr tail => exact le_trans (ended c tail) (le_max_right _ _)

theorem WithinRate.run (within : WithinRate limit now s times) (clock : Nondecreasing calls)
    (later : ∀ call ∈ calls, now ≤ call.clock.parsedAt) {now' : Instant} (after : now ≤ now')
    (ended : ∀ call ∈ calls, call.clock.limitedAt ≤ now') :
    WithinRate limit now' (calls.foldl (WebhookTriggerState.step rt) s)
      (times ++ acceptedAt rt s calls) := by
  induction calls generalizing s now times with
  | nil =>
    rw [acceptedAt, List.append_nil]
    exact within.later after
  | cons call calls ih =>
    have ordered := clock.1 call List.mem_cons_self
    have spaced := List.pairwise_cons.mp clock.2
    have start : now ≤ call.clock.limitedAt :=
      le_trans (later call List.mem_cons_self) (le_trans ordered.1 ordered.2)
    rw [acceptedAt, ← List.append_assoc]
    exact ih (within.step start) (nondecreasing_tail clock) spaced.1 (ended call List.mem_cons_self)
      (fun c mem => ended c (List.mem_cons_of_mem _ mem))

/-- In every window of the interval, its ends included, at most the limit is accepted; where a
request is refused for its rate, the window that ends at it is full. -/
theorem rate_limit_windows (rt : WebhookRuntime) {config : WebhookTriggerConfig}
    {limit : RateLimitConfig} (limited : config.rateLimit = some limit) {calls : List WebhookCall}
    (clock : Nondecreasing calls) : RateLaw rt Set.Icc config limit calls := by
  have within (before : List WebhookCall) (clock : Nondecreasing before) {now' : Instant}
      (ended : ∀ call ∈ before, call.clock.limitedAt ≤ now') :
      WithinRate limit now' (before.foldl (step rt) { config := config })
        (acceptedAt rt { config := config } before) := by
    cases before with
    | nil => exact withinRate_new limited now'
    | cons call calls =>
      have ordered := clock.1 call List.mem_cons_self
      have spaced := List.pairwise_cons.mp clock.2
      have start := withinRate_new limited call.clock.parsedAt
      refine start.run clock ?_ ?_ ended
      · intro c mem
        cases List.mem_cons.mp mem with
        | inl head => rw [head]
        | inr tail => exact le_trans (le_trans ordered.1 ordered.2) (spaced.1 c tail)
      · exact le_trans (le_trans ordered.1 ordered.2) (ended call List.mem_cons_self)
  constructor
  case bounded =>
    obtain ⟨now', ended⟩ := exists_after calls
    exact (within calls clock ended).bounded
  case full =>
    intro before call after split refused
    subst split
    have spaced := List.pairwise_append.mp clock.2
    have ordered := clock.1 call (List.mem_append_right before List.mem_cons_self)
    have earlier : ∀ c ∈ before, c.clock.limitedAt ≤ call.clock.limitedAt := by
      intro c mem
      exact le_trans (spaced.2.2 c mem call List.mem_cons_self) (le_trans ordered.1 ordered.2)
    have clock' : Nondecreasing before :=
      ⟨fun c mem => clock.1 c (List.mem_append_left _ mem), spaced.1⟩
    exact (within before clock' earlier).full le_rfl refused

end Runs

section Ends

def minutely : RateLimitConfig := ⟨1, 60⟩

def minutelyWebhook : WebhookTriggerConfig := { rateLimit := some minutely }

def plainCall (now : Instant) : WebhookCall where
  clock := ⟨now, now, now⟩
  request := { method := "POST", headers := [], queryParams := [], payload := .json .null }

theorem nondecreasing_plain {a b : Instant} (later : a ≤ b) :
    Nondecreasing [plainCall a, plainCall b] := by
  constructor
  · intro call mem
    obtain rfl | rfl := List.mem_pair.mp mem
    · exact ⟨le_rfl, le_rfl⟩
    · exact ⟨le_rfl, le_rfl⟩
  · simpa [plainCall] using later

theorem rate_limit_windows_minutely :
    RateLaw .ascii Set.Icc minutelyWebhook minutely [plainCall 0, plainCall (seconds 60)] :=
  rate_limit_windows .ascii rfl (nondecreasing_plain (by decide))

theorem half_open_window_not_full :
    (¬ ∀ rt config limit calls, config.rateLimit = some limit → Nondecreasing calls →
      RateLaw rt Set.Ioc config limit calls) ∧
    ¬ ∀ rt config limit calls, config.rateLimit = some limit → Nondecreasing calls →
      RateLaw rt Set.Ico config limit calls := by
  constructor
  · intro law
    have full := (law .ascii minutelyWebhook minutely [plainCall 0, plainCall (seconds 60)] rfl
      (nondecreasing_plain (by decide))).full [plainCall 0] (plainCall (seconds 60)) [] rfl
      (by decide +kernel)
    revert full
    decide +kernel
  · intro law
    have full := (law .ascii minutelyWebhook minutely [plainCall 0, plainCall 0] rfl
      (nondecreasing_plain (by decide))).full [plainCall 0] (plainCall 0) [] rfl (by decide +kernel)
    revert full
    decide +kernel

end Ends

end Orcheo.Triggers.WebhookTriggerState
