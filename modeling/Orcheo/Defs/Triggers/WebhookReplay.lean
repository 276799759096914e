import Orcheo.Defs.Triggers.Webhook
import Orcheo.Lib.Except

/-! The window of signatures that webhook validation has seen, and what it covers. -/

namespace Orcheo.Triggers

structure WebhookCall where
  clock : WebhookClock
  request : WebhookRequest

def WebhookClock.Ordered (clock : WebhookClock) : Prop :=
  clock.parsedAt ≤ clock.replayAt ∧ clock.replayAt ≤ clock.limitedAt

def Nondecreasing (calls : List WebhookCall) : Prop :=
  (∀ call ∈ calls, call.clock.Ordered) ∧
    calls.Pairwise (fun c d => c.clock.limitedAt ≤ d.clock.parsedAt)

/-- The time as it is signed: `int(timestamp.timestamp())`. -/
def signedSecond (time : Instant) : Int := time.tdiv 1000000

structure Signed where
  signature : String
  second : Option Int
  body : List UInt8
  deriving DecidableEq, Repr

namespace WebhookTriggerState

variable (rt : WebhookRuntime) (s : WebhookTriggerState) (call : WebhookCall)

def checked? : Option (String × Option Stamp) :=
  match s.config.hmacHeader, truthy s.config.hmacSecret with
  | some header, some secret =>
    (s.checkHmacSignature rt call.clock call.request header secret).toOption
  | _, _ => none

def signed? : Option Signed :=
  (s.checked? rt call).map (fun found => ⟨found.1, found.2.map (fun t => signedSecond t.time),
    canonicalPayloadBytes rt call.request.payload⟩)

def step : WebhookTriggerState :=
  (s.validate rt call.clock call.request).1

def accepts : Bool :=
  (s.validate rt call.clock call.request).2.isOk

def accepted : WebhookTriggerState → List WebhookCall → List Signed
  | _, [] => []
  | s, call :: calls =>
    (if s.accepts rt call then (s.signed? rt call).toList else []) ++
      accepted (s.step rt call) calls

end WebhookTriggerState

/-- When a verified call reads the clock for the replay check, no time that is signed as its own
has left the window. -/
def WebhookTriggerConfig.Covers (rt : WebhookRuntime) (config : WebhookTriggerConfig)
    (call : WebhookCall) : Prop :=
  ∀ signature stamp time,
    WebhookTriggerState.checked? rt { config := config } call = some (signature, some stamp) →
      signedSecond time = signedSecond stamp.time →
        call.clock.replayAt ≤ time + seconds config.hmacToleranceSeconds

theorem tdiv_mul_le {a b : Int} (late : 1000000 ≤ a) (same : b.tdiv 1000000 = a.tdiv 1000000) :
    a.tdiv 1000000 * 1000000 ≤ b := by
  have floor : a.tdiv 1000000 = a / 1000000 := Int.tdiv_eq_ediv_of_nonneg (by omega)
  have nonneg : 0 ≤ b := by
    apply le_of_not_gt
    intro negative
    have ceiling : b.tdiv 1000000 = -(-b / 1000000) := by
      rw [← Int.tdiv_eq_ediv_of_nonneg (by omega), Int.neg_tdiv, Int.neg_neg]
    omega
  have floor' : b.tdiv 1000000 = b / 1000000 := Int.tdiv_eq_ediv_of_nonneg nonneg
  omega

theorem covers_iff {rt : WebhookRuntime} {config : WebhookTriggerConfig} {call : WebhookCall}
    {signature : String} {stamp : Stamp}
    (h : WebhookTriggerState.checked? rt { config := config } call = some (signature, some stamp))
    (late : 1000000 ≤ stamp.time) : config.Covers rt call ↔
      call.clock.replayAt ≤
        seconds (signedSecond stamp.time) + seconds config.hmacToleranceSeconds := by
  constructor
  · intro covers
    apply covers signature stamp _ h
    rw [signedSecond, seconds, Int.mul_tdiv_cancel _ (by decide)]
  · intro bound _ other time h' same
    cases h.symm.trans h'
    exact le_trans bound (Int.add_le_add_right (tdiv_mul_le late same) _)

namespace WebhookTriggerState

structure Aligned (s : WebhookTriggerState) : Prop where
  aware : ∀ e ∈ s.recentSignatures, e.2.aware = true
  nodup : (s.recentSignatures.map Prod.fst).Nodup
  cache : s.signatureCache = (s.recentSignatures.map Prod.fst).toFinset

theorem aligned_fresh (config : WebhookTriggerConfig) : Aligned { config := config } := by
  constructor
  · simp
  · simp
  · rfl

def kept (cutoff : Instant) (recent : List (String × Stamp)) : List (String × Stamp) :=
  recent.dropWhile (fun e => decide (e.2.time < cutoff))

variable {recent : List (String × Stamp)}

theorem mem_kept {cutoff : Instant} {e : String × Stamp}
    (h : e ∈ recent) (fresh : cutoff ≤ e.2.time) : e ∈ kept cutoff recent := by
  induction recent with
  | nil => cases h
  | cons x xs ih =>
    rw [kept, List.dropWhile_cons]
    split
    case isTrue old =>
      cases h with
      | head => exact absurd (of_decide_eq_true old) (not_lt.mpr fresh)
      | tail _ h => exact ih h
    case isFalse => exact h

theorem kept_eq_nil {cutoff : Instant}
    (old : ∀ e ∈ recent, e.2.time < cutoff) : kept cutoff recent = [] := by
  induction recent with
  | nil => rfl
  | cons x xs ih =>
    rw [kept, List.dropWhile_cons, if_pos (decide_eq_true (old x List.mem_cons_self))]
    exact ih fun e he => old e (List.mem_cons_of_mem _ he)

theorem mem_of_mem_kept {cutoff : Instant}
    {e : String × Stamp} (h : e ∈ kept cutoff recent) : e ∈ recent :=
  (List.dropWhile_sublist _).subset h

theorem nodup_kept {cutoff : Instant}
    (h : (recent.map Prod.fst).Nodup) : ((kept cutoff recent).map Prod.fst).Nodup :=
  h.sublist ((List.dropWhile_sublist _).map _)

theorem evictSignatures_eq {cutoff : Instant}
    (aware : ∀ e ∈ recent, e.2.aware = true) (nodup : (recent.map Prod.fst).Nodup) :
    evictSignatures cutoff recent (recent.map Prod.fst).toFinset =
      ((kept cutoff recent, ((kept cutoff recent).map Prod.fst).toFinset), true) := by
  induction recent with
  | nil => rfl
  | cons x xs ih =>
    obtain ⟨signature, stamp⟩ := x
    have awareHead : stamp.aware = true := aware _ List.mem_cons_self
    rw [List.map_cons, List.nodup_cons] at nodup
    rw [evictSignatures, awareHead, kept, List.dropWhile_cons]
    by_cases old : stamp.time < cutoff
    · rw [if_neg (by simp), if_pos old, if_pos (decide_eq_true old), List.map_cons,
        List.toFinset_cons, Finset.erase_insert (by simpa using nodup.1)]
      exact ih (fun e he => aware e (List.mem_cons_of_mem _ he)) nodup.2
    · rw [if_neg (by simp), if_neg old, if_neg (by simpa using old)]

variable {rt : WebhookRuntime}

def cutoff (s : WebhookTriggerState) (clock : WebhookClock) : Instant :=
  clock.replayAt - seconds ((max s.config.hmacToleranceSeconds 1 : Nat) : Int)

variable {s : WebhookTriggerState}

theorem enforceSignatureReplay_eq (aligned : Aligned s)
    (clock : WebhookClock) (signature : String) (timestamp : Option Stamp) :
    let recent := kept (s.cutoff clock) s.recentSignatures
    s.enforceSignatureReplay clock signature timestamp =
      if signature ∈ recent.map Prod.fst then
        ({ s with
          recentSignatures := recent
          signatureCache := (recent.map Prod.fst).toFinset }, .error .authentication)
      else
        ({ s with
          recentSignatures := recent ++ [(signature, timestamp.getD ⟨true, clock.replayAt⟩)]
          signatureCache := insert signature (recent.map Prod.fst).toFinset }, .ok ()) := by
  intro recent
  rw [enforceSignatureReplay, aligned.cache, evictSignatures_eq aligned.aware aligned.nodup]
  by_cases seen : signature ∈ recent.map Prod.fst
  · rw [if_pos seen]
    simp only [Bool.not_true, Bool.false_eq_true, if_false]
    exact if_pos (List.mem_toFinset.mpr seen)
  · rw [if_neg seen]
    simp only [Bool.not_true, Bool.false_eq_true, if_false]
    exact if_neg fun h => seen (List.mem_toFinset.mp h)

theorem aligned_enforceSignatureReplay (aligned : Aligned s)
    (clock : WebhookClock) (signature : String) {timestamp : Option Stamp}
    (aware : ∀ t, timestamp = some t → t.aware = true) :
    Aligned (s.enforceSignatureReplay clock signature timestamp).1 := by
  rw [enforceSignatureReplay_eq aligned]
  split
  case isTrue =>
    constructor
    · intro e he
      exact aligned.aware e (mem_of_mem_kept he)
    · exact nodup_kept aligned.nodup
    · rfl
  case isFalse unseen =>
    constructor
    · intro e he
      cases List.mem_append.mp he with
      | inl old => exact aligned.aware e (mem_of_mem_kept old)
      | inr new =>
        cases List.mem_singleton.mp new
        cases timestamp with
        | none => rfl
        | some t => exact aware t rfl
    · rw [List.map_append, List.nodup_append']
      refine ⟨nodup_kept aligned.nodup, List.nodup_singleton _, ?_⟩
      simpa [List.disjoint_singleton] using unseen
    · ext x
      simp [or_comm]

theorem aware_parseSignatureTimestamp {clock : WebhookClock}
    {value : String} {stamp : Stamp} (tolerance : 0 < s.config.hmacToleranceSeconds)
    (h : s.parseSignatureTimestamp rt clock value = .ok stamp) : stamp.aware = true := by
  unfold parseSignatureTimestamp at h
  obtain ⟨read, hread, h⟩ := Lib.bind_ok_iff.mp h
  dsimp only at h
  rw [if_neg (Nat.ne_of_gt tolerance)] at h
  cases aware : read.aware with
  | false =>
    rw [aware] at h
    cases h
  | true =>
    rw [aware, if_neg (by simp)] at h
    split at h
    case isTrue => cases h
    case isFalse =>
      cases h
      exact aware

variable {call : WebhookCall}

theorem checked?_timestamp {signature header : String}
    {timestamp : Option Stamp} (named : truthy s.config.hmacTimestampHeader = some header)
    (tolerance : 0 < s.config.hmacToleranceSeconds)
    (h : s.checked? rt call = some (signature, timestamp)) :
    ∃ stamp, timestamp = some stamp ∧ stamp.aware = true := by
  unfold checked? at h
  split at h
  case h_2 => cases h
  case h_1 hmacHeader secret _ _ =>
    cases checks : s.checkHmacSignature rt call.clock call.request hmacHeader secret with
    | error e =>
      rw [checks] at h
      cases h
    | ok found =>
      rw [checks] at h
      cases h
      unfold checkHmacSignature at checks
      rw [named] at checks
      dsimp only at checks
      split at checks
      case h_2 => cases checks
      case h_1 provided _ =>
        obtain ⟨_, _, checks⟩ := Lib.bind_ok_iff.mp checks
        obtain ⟨extracted, _, checks⟩ := Lib.bind_ok_iff.mp checks
        split at checks
        case h_1 => cases checks
        case h_2 value given =>
          obtain ⟨stamp, parsed, checks⟩ := Lib.bind_ok_iff.mp checks
          obtain ⟨timestamp', same, checks⟩ := Lib.bind_ok_iff.mp checks
          obtain ⟨equal, _, checks⟩ := Lib.bind_ok_iff.mp checks
          split at checks
          case isFalse => cases checks
          case isTrue =>
            cases checks
            cases same
            exact ⟨stamp, rfl, aware_parseSignatureTimestamp tolerance parsed⟩

structure SameWindow (s t : WebhookTriggerState) : Prop where
  config : t.config = s.config
  recent : t.recentSignatures = s.recentSignatures
  cache : t.signatureCache = s.signatureCache

theorem SameWindow.refl (s : WebhookTriggerState) : SameWindow s s := ⟨rfl, rfl, rfl⟩

theorem SameWindow.aligned {s t : WebhookTriggerState} (same : SameWindow s t) (h : Aligned s) :
    Aligned t := by
  constructor
  · rw [same.recent]
    exact h.aware
  · rw [same.recent]
    exact h.nodup
  · rw [same.recent, same.cache]
    exact h.cache

theorem sameWindow_enforceRateLimit (s : WebhookTriggerState) (clock : WebhookClock) :
    SameWindow s (s.enforceRateLimit clock).1 := by
  rw [enforceRateLimit]
  split
  · exact .refl s
  · dsimp only
    split
    · exact ⟨rfl, rfl, rfl⟩
    · exact ⟨rfl, rfl, rfl⟩

inductive Outcome (rt : WebhookRuntime) (s : WebhookTriggerState) (call : WebhookCall) :
    WebhookTriggerState → Bool → Prop
  | refused {t : WebhookTriggerState} (same : SameWindow s t) : Outcome rt s call t false
  | unsigned {t : WebhookTriggerState} {accepted : Bool} (unsigned : s.checked? rt call = none)
      (same : SameWindow s t) : Outcome rt s call t accepted
  | checked {t : WebhookTriggerState} {accepted : Bool} {signature : String}
      {timestamp : Option Stamp} (found : s.checked? rt call = some (signature, timestamp))
      (same : SameWindow (s.enforceSignatureReplay call.clock signature timestamp).1 t)
      (unseen : accepted = true →
        (s.enforceSignatureReplay call.clock signature timestamp).2 = .ok ()) :
    Outcome rt s call t accepted

theorem outcome_signature {secret : String}
    (signs : truthy s.config.hmacSecret = some secret) {t t' : WebhookTriggerState}
    {signed : Except WebhookError Unit} {accepted : Bool}
    (h : s.validateHmacSignature rt call.clock call.request = (t, signed))
    (same : SameWindow t t') (passed : accepted = true → signed = .ok ()) :
    Outcome rt s call t' accepted := by
  unfold validateHmacSignature at h
  rw [signs] at h
  cases header : s.config.hmacHeader with
  | none =>
    rw [header] at h
    cases h
    apply Outcome.unsigned _ same
    rw [checked?, header]
  | some header' =>
    rw [header] at h
    dsimp only at h
    cases checks : s.checkHmacSignature rt call.clock call.request header' secret with
    | error e =>
      rw [checks] at h
      cases h
      apply Outcome.unsigned _ same
      rw [checked?, header, signs]
      dsimp only
      rw [checks]
      rfl
    | ok found =>
      obtain ⟨signature, timestamp⟩ := found
      rw [checks] at h
      dsimp only at h
      have found : s.checked? rt call = some (signature, timestamp) := by
        rw [checked?, header, signs]
        dsimp only
        rw [checks]
        rfl
      apply Outcome.checked found
      · rw [h]
        exact same
      · rw [h]
        exact passed

theorem outcome_authentication
    {t t' : WebhookTriggerState} {signed : Except WebhookError Unit} {accepted : Bool}
    (h : s.validateAuthentication rt call.clock call.request = (t, signed))
    (same : SameWindow t t') (passed : accepted = true → signed = .ok ()) :
    Outcome rt s call t' accepted := by
  unfold validateAuthentication at h
  cases signs : truthy s.config.hmacSecret with
  | none =>
    rw [signs] at h
    apply Outcome.unsigned
    · rw [checked?, signs]
      split
      · contradiction
      · rfl
    · dsimp only at h
      split at h
      · cases h
        exact same
      · cases h
        exact same
  | some secret =>
    rw [signs] at h
    dsimp only at h
    cases checks : s.validateHmacSignature rt call.clock call.request with
    | mk u result =>
      rw [checks] at h
      cases result with
      | error e =>
        cases h
        exact outcome_signature signs checks same passed
      | ok =>
        dsimp only at h
        split at h
        · cases h
          exact outcome_signature signs checks same fun _ => rfl
        · cases h
          exact outcome_signature signs checks same fun _ => rfl

theorem outcome (rt : WebhookRuntime) (s : WebhookTriggerState) (call : WebhookCall) :
    Outcome rt s call (s.step rt call) (s.accepts rt call) := by
  rw [step, accepts, validate]
  cases s.validateShape rt call.request with
  | error e => exact .refused (.refl s)
  | ok =>
    dsimp only
    cases checks : s.validateAuthentication rt call.clock call.request with
    | mk t result =>
      cases result with
      | error e => exact outcome_authentication checks (.refl t) nofun
      | ok => exact outcome_authentication checks (sameWindow_enforceRateLimit t _) fun _ => rfl

/-- A signature that has been seen: its entry is in the window, or has left it by age. -/
def Remembers (s : WebhookTriggerState) (now : Instant) (e : String × Stamp) : Prop :=
  e ∈ s.recentSignatures ∨ e.2.time + seconds s.config.hmacToleranceSeconds < now

structure Windowed (s : WebhookTriggerState) : Prop where
  aligned : Aligned s
  timestamp : ∃ header, truthy s.config.hmacTimestampHeader = some header
  tolerance : 0 < s.config.hmacToleranceSeconds

section Step

variable {s : WebhookTriggerState} {call : WebhookCall} {now : Instant} {e : String × Stamp}

theorem Windowed.cutoff_le (windowed : Windowed s) {clock : WebhookClock} {time : Instant} :
    s.cutoff clock ≤ time ↔ clock.replayAt ≤ time + seconds s.config.hmacToleranceSeconds := by
  rw [cutoff, max_eq_left windowed.tolerance]
  exact Int.sub_right_le_iff_le_add

theorem config_enforceSignatureReplay (s : WebhookTriggerState) (clock : WebhookClock)
    (signature : String) (timestamp : Option Stamp) :
    (s.enforceSignatureReplay clock signature timestamp).1.config = s.config := by
  rw [enforceSignatureReplay]
  split
  dsimp only
  split
  · rfl
  · split
    · rfl
    · rfl

theorem outcome_step (rt : WebhookRuntime) (s : WebhookTriggerState) (call : WebhookCall) :
    ∃ accepted, Outcome rt s call (s.step rt call) accepted := ⟨_, outcome rt s call⟩

theorem config_step : (s.step rt call).config = s.config := by
  obtain ⟨_, h⟩ := outcome_step rt s call
  cases h with
  | refused same => exact same.config
  | unsigned _ same => exact same.config
  | checked found same => exact same.config.trans (config_enforceSignatureReplay ..)

section

variable (windowed : Windowed s)
include windowed

theorem Windowed.step : Windowed (s.step rt call) := by
  obtain ⟨header, named⟩ := windowed.timestamp
  have aligned : Aligned (s.step rt call) := by
    obtain ⟨_, h⟩ := outcome_step rt s call
    cases h with
    | refused same => exact same.aligned windowed.aligned
    | unsigned _ same => exact same.aligned windowed.aligned
    | @checked _ signature timestamp found same _ =>
      obtain ⟨stamp, rfl, aware⟩ := checked?_timestamp named windowed.tolerance found
      apply same.aligned
      apply aligned_enforceSignatureReplay windowed.aligned
      rintro _ ⟨⟩
      exact aware
  constructor
  · exact aligned
  · rw [config_step]
    exact windowed.timestamp
  · rw [config_step]
    exact windowed.tolerance

theorem Windowed.remembers (ordered : call.clock.Ordered)
    (later : now ≤ call.clock.parsedAt) (h : s.Remembers now e) :
    (s.step rt call).Remembers call.clock.limitedAt e := by
  have clock : call.clock.replayAt ≤ call.clock.limitedAt := ordered.2
  have start : now ≤ call.clock.limitedAt := le_trans later (le_trans ordered.1 ordered.2)
  unfold Remembers at *
  rw [config_step]
  cases h with
  | inr old => exact .inr (lt_of_lt_of_le old start)
  | inl listed =>
    obtain ⟨_, h⟩ := outcome_step rt s call
    cases h with
    | refused same => exact .inl (same.recent ▸ listed)
    | unsigned _ same => exact .inl (same.recent ▸ listed)
    | @checked _ signature timestamp found same _ =>
      by_cases fresh : s.cutoff call.clock ≤ e.2.time
      · left
        rw [same.recent, enforceSignatureReplay_eq windowed.aligned]
        have stays := mem_kept listed fresh
        split
        · exact stays
        · exact List.mem_append_left _ stays
      · right
        rw [windowed.cutoff_le] at fresh
        exact lt_of_lt_of_le (lt_of_not_ge fresh) clock

theorem Windowed.remembers_accepted {signature : String} {stamp : Stamp}
    (found : s.checked? rt call = some (signature, some stamp))
    (accepts : s.accepts rt call = true) :
    (s.step rt call).Remembers now (signature, stamp) := by
  left
  have h := outcome rt s call
  rw [accepts] at h
  cases h with
  | unsigned unsigned => cases unsigned.symm.trans found
  | checked found' same unseen =>
    cases found.symm.trans found'
    have unseen := unseen rfl
    rw [enforceSignatureReplay_eq windowed.aligned] at unseen
    rw [same.recent, enforceSignatureReplay_eq windowed.aligned]
    split at unseen
    · cases unseen
    · rename_i new
      rw [if_neg new]
      exact List.mem_append_right _ List.mem_cons_self

theorem Windowed.not_accepts (ordered : call.clock.Ordered)
    (later : now ≤ call.clock.parsedAt) (covers : s.config.Covers rt call)
    (seen : s.Remembers now e) {stamp : Stamp} (found : s.checked? rt call = some (e.1, some stamp))
    (second : signedSecond e.2.time = signedSecond stamp.time) : s.accepts rt call = false := by
  have fresh := covers e.1 stamp e.2.time found second
  have listed : e ∈ s.recentSignatures := by
    apply seen.resolve_right
    intro old
    exact absurd (le_trans later (le_trans ordered.1 fresh)) (not_le.mpr old)
  cases accepts : s.accepts rt call with
  | false => rfl
  | true =>
    have h := outcome rt s call
    rw [accepts] at h
    cases h with
    | unsigned unsigned => cases unsigned.symm.trans found
    | checked found' same unseen =>
      cases found.symm.trans found'
      have unseen := unseen rfl
      rw [enforceSignatureReplay_eq windowed.aligned, if_pos] at unseen
      · cases unseen
      · exact List.mem_map_of_mem (mem_kept listed (windowed.cutoff_le.mpr fresh))

theorem Windowed.enforceSignatureReplay_expired {clock : WebhookClock}
    (expired : ∀ e ∈ s.recentSignatures,
      e.2.time + seconds s.config.hmacToleranceSeconds < clock.replayAt)
    (signature : String) (timestamp : Option Stamp) :
    (s.enforceSignatureReplay clock signature timestamp).2 = .ok () := by
  have empty : kept (s.cutoff clock) s.recentSignatures = [] := by
    apply kept_eq_nil
    intro e he
    exact lt_of_not_ge fun fresh => not_le.mpr (expired e he) (windowed.cutoff_le.mp fresh)
  rw [enforceSignatureReplay_eq windowed.aligned, empty]
  rfl

end

end Step

section Runs

variable {calls : List WebhookCall}

theorem Windowed.accepted_ne {s : WebhookTriggerState} {now : Instant}
    {e : String × Stamp} (windowed : Windowed s) (clock : Nondecreasing calls)
    (later : ∀ call ∈ calls, now ≤ call.clock.parsedAt)
    (covers : ∀ call ∈ calls, s.config.Covers rt call) (seen : s.Remembers now e) :
    ∀ x ∈ s.accepted rt calls,
      ¬ (x.signature = e.1 ∧ x.second = some (signedSecond e.2.time)) := by
  induction calls generalizing s now with
  | nil =>
    intro x hx
    cases hx
  | cons call calls ih =>
    rintro x hx ⟨same, second⟩
    have ordered := clock.1 call List.mem_cons_self
    have start := later call List.mem_cons_self
    have spaced := List.pairwise_cons.mp clock.2
    rw [accepted] at hx
    cases List.mem_append.mp hx with
    | inr hx =>
      apply ih windowed.step ⟨fun c hc => clock.1 c (List.mem_cons_of_mem _ hc), spaced.2⟩
        spaced.1 _ (windowed.remembers ordered start seen) x hx ⟨same, second⟩
      intro c hc
      rw [config_step]
      exact covers c (List.mem_cons_of_mem _ hc)
    | inl hx =>
      split at hx
      case isFalse => cases hx
      case isTrue accepts =>
        obtain ⟨⟨signature, timestamp⟩, found, rfl⟩ :=
          Option.map_eq_some_iff.mp (Option.mem_toList.mp hx)
        obtain ⟨time, rfl, hsecond⟩ := Option.map_eq_some_iff.mp second
        cases same
        have refused := windowed.not_accepts ordered start (covers call List.mem_cons_self) seen
          found hsecond.symm
        rw [refused] at accepts
        cases accepts

theorem Windowed.nodup_accepted {s : WebhookTriggerState}
    (windowed : Windowed s) (clock : Nondecreasing calls)
    (covers : ∀ call ∈ calls, s.config.Covers rt call) : (s.accepted rt calls).Nodup := by
  induction calls generalizing s with
  | nil => exact List.nodup_nil
  | cons call calls ih =>
    have spaced := List.pairwise_cons.mp clock.2
    have rest : Nondecreasing calls :=
      ⟨fun c hc => clock.1 c (List.mem_cons_of_mem _ hc), spaced.2⟩
    have later : ∀ c ∈ calls, (s.step rt call).config.Covers rt c := by
      intro c hc
      rw [config_step]
      exact covers c (List.mem_cons_of_mem _ hc)
    have tail := ih windowed.step rest later
    rw [accepted]
    split
    case isFalse => exact tail
    case isTrue accepts =>
      cases signed : s.signed? rt call with
      | none => exact tail
      | some x =>
        apply List.nodup_cons.mpr ⟨_, tail⟩
        obtain ⟨header, named⟩ := windowed.timestamp
        obtain ⟨⟨signature, timestamp⟩, found, rfl⟩ := Option.map_eq_some_iff.mp signed
        obtain ⟨stamp, rfl, _⟩ := checked?_timestamp named windowed.tolerance found
        have seen : (s.step rt call).Remembers call.clock.limitedAt (signature, stamp) :=
          windowed.remembers_accepted found accepts
        intro repeated
        exact windowed.step.accepted_ne rest spaced.1 later seen _ repeated ⟨rfl, rfl⟩

/-- Where the window covers every call, no two accepted requests carry one signature over one
time and body. -/
theorem accepted_nodup {config : WebhookTriggerConfig} {calls : List WebhookCall} {header : String}
    (timestamp : truthy config.hmacTimestampHeader = some header)
    (tolerance : 0 < config.hmacToleranceSeconds) (clock : Nondecreasing calls)
    (covers : ∀ call ∈ calls, config.Covers rt call) :
    (accepted rt { config := config } calls).Nodup := by
  have start : Windowed { config := config } :=
    ⟨aligned_fresh config, ⟨header, timestamp⟩, tolerance⟩
  exact start.nodup_accepted clock covers

end Runs

def signedWebhook : WebhookTriggerConfig where
  hmacHeader := some "x-signature"
  hmacSecret := some "secret"
  hmacTimestampHeader := some "x-timestamp"

def constantDigest : WebhookRuntime :=
  { WebhookRuntime.ascii with hexdigest := fun _ _ _ => "5f2d" }

def signedCall (parsedAt replayAt : Instant) : WebhookCall where
  clock := ⟨parsedAt, replayAt, replayAt⟩
  request := {
    method := "POST"
    headers := [("X-Signature", "5f2d"), ("X-Timestamp", "1000")]
    queryParams := []
    payload := .json .null }

def signedStamp : Stamp := ⟨true, seconds 1000⟩

theorem splitOn_digest {sep : String} (h : sep = "," ∨ sep = "=") :
    "5f2d".splitOn sep = ["5f2d"] := by
  obtain rfl | rfl := h <;>
  · rw [String.splitOn, if_neg (by decide)]
    iterate 4 rw [String.splitOnAux, if_neg (by decide), if_neg (by decide)]
    rw [String.splitOnAux, if_pos (by decide)]
    decide

theorem extractHmacSignature_digest :
    extractHmacSignature constantDigest "5f2d" = .ok "5f2d" := by
  have stripped : constantDigest.strip "5f2d" = "5f2d" := by decide
  rw [extractHmacSignature, stripped, splitOn_digest (.inl rfl)]
  simp [signatureSegment, stripped, splitOn_digest (.inr rfl)]

section

variable {s : WebhookTriggerState} (config : s.config = signedWebhook)
include config

theorem parseSignatureTimestamp_signed {clock : WebhookClock}
    (near : ((clock.parsedAt - seconds 1000).natAbs : Int) ≤ seconds 300) :
    s.parseSignatureTimestamp constantDigest clock "1000" = .ok signedStamp := by
  have read : readTimestamp constantDigest (constantDigest.strip "1000") = .ok signedStamp := by
    decide
  have tolerance : s.config.hmacToleranceSeconds = 300 := by rw [config]; rfl
  apply Lib.bind_ok_iff.mpr ⟨_, read, _⟩
  dsimp only
  rw [tolerance, if_neg (by decide), if_neg (by decide)]
  exact if_neg (not_lt.mpr near)

variable {parsedAt replayAt : Instant}

theorem validateHmacSignature_signedCall
    (near : ((parsedAt - seconds 1000).natAbs : Int) ≤ seconds 300) :
    s.checked? constantDigest (signedCall parsedAt replayAt) = some ("5f2d", some signedStamp) ∧
      s.validateHmacSignature constantDigest ⟨parsedAt, replayAt, replayAt⟩
        (signedCall parsedAt replayAt).request =
          s.enforceSignatureReplay ⟨parsedAt, replayAt, replayAt⟩ "5f2d" (some signedStamp) := by
  have headers : (signedCall parsedAt replayAt).request.normalizedHeaders constantDigest =
    (signedCall 0 0).request.normalizedHeaders constantDigest := rfl
  have provided : truthy (((signedCall 0 0).request.normalizedHeaders constantDigest).get?
    "x-signature") = some "5f2d" := by decide
  have given : truthy (((signedCall 0 0).request.normalizedHeaders constantDigest).get?
    "x-timestamp") = some "1000" := by decide
  have secret : truthy s.config.hmacSecret = some "secret" := by
    rw [config]
    decide
  have header : s.config.hmacHeader = some "x-signature" := by rw [config]; rfl
  have timestamp : truthy s.config.hmacTimestampHeader = some "x-timestamp" := by
    rw [config]
    decide
  have parsed : s.parseSignatureTimestamp constantDigest ⟨parsedAt, replayAt, replayAt⟩ "1000" =
    .ok signedStamp := parseSignatureTimestamp_signed config near
  have same : compareDigest "5f2d" "5f2d" = .ok true := by decide
  have checks : s.checkHmacSignature constantDigest ⟨parsedAt, replayAt, replayAt⟩
      (signedCall parsedAt replayAt).request "x-signature" "secret" =
        .ok ("5f2d", some signedStamp) := by
    rw [checkHmacSignature, headers, provided, timestamp]
    dsimp only
    rw [given]
    apply Lib.bind_ok_iff.mpr ⟨_, rfl, _⟩
    apply Lib.bind_ok_iff.mpr ⟨_, extractHmacSignature_digest, _⟩
    apply Lib.bind_ok_iff.mpr ⟨_, parsed, _⟩
    apply Lib.bind_ok_iff.mpr ⟨_, rfl, _⟩
    exact Lib.bind_ok_iff.mpr ⟨true, same, rfl⟩
  constructor
  · rw [checked?, header, secret]
    exact congrArg Except.toOption checks
  · rw [validateHmacSignature, header, secret]
    dsimp only
    rw [checks]

theorem accepts_signedCall (near : ((parsedAt - seconds 1000).natAbs : Int) ≤ seconds 300) :
    s.accepts constantDigest (signedCall parsedAt replayAt) =
      (s.enforceSignatureReplay ⟨parsedAt, replayAt, replayAt⟩ "5f2d"
        (some signedStamp)).2.isOk := by
  have shape : s.validateShape constantDigest (signedCall parsedAt replayAt).request = .ok () := by
    rw [validateShape, validateMethod, validateRequiredHeaders, validateRequiredQueryParams, config]
    exact (show ({ config := signedWebhook } : WebhookTriggerState).validateShape constantDigest
      (signedCall 0 0).request = .ok () by decide)
  have kept := config_enforceSignatureReplay s ⟨parsedAt, replayAt, replayAt⟩ "5f2d"
    (some signedStamp)
  have secret : truthy s.config.hmacSecret = some "secret" := by
    rw [config]
    decide
  rw [accepts, validate, shape]
  dsimp only
  rw [validateAuthentication, secret]
  dsimp only [signedCall]
  have signed : s.validateHmacSignature constantDigest ⟨parsedAt, replayAt, replayAt⟩
      (signedCall parsedAt replayAt).request =
        s.enforceSignatureReplay ⟨parsedAt, replayAt, replayAt⟩ "5f2d" (some signedStamp) :=
    (validateHmacSignature_signedCall config near).2
  dsimp only [signedCall] at signed
  rw [signed]
  cases replay : s.enforceSignatureReplay ⟨parsedAt, replayAt, replayAt⟩ "5f2d"
      (some signedStamp) with
  | mk t result =>
    rw [replay] at kept
    have config' : t.config = signedWebhook := kept.trans config
    cases result with
    | error e => rfl
    | ok =>
      dsimp only
      rw [config', show truthy signedWebhook.sharedSecret = none by decide]
      dsimp only
      rw [enforceRateLimit, config']
      rfl

end

theorem nondecreasing_pair {a b c d : Instant} (first : a ≤ b) (between : b ≤ c) (second : c ≤ d) :
    Nondecreasing [signedCall a b, signedCall c d] := by
  constructor
  · intro call hc
    obtain rfl | rfl : call = signedCall a b ∨ call = signedCall c d := by simpa using hc
    · exact ⟨first, le_refl b⟩
    · exact ⟨second, le_refl d⟩
  · simpa [signedCall] using between

theorem accepted_nodup_covered : (accepted constantDigest { config := signedWebhook }
    [signedCall (seconds 1000) (seconds 1000), signedCall (seconds 1300) (seconds 1300)]).Nodup := by
  apply accepted_nodup (show truthy signedWebhook.hmacTimestampHeader = some "x-timestamp" by decide)
    (by decide) (nondecreasing_pair (by decide) (by decide) (by decide))
  intro call hc
  obtain ⟨parsedAt, replayAt, near, bound, rfl⟩ : ∃ parsedAt replayAt : Instant,
      ((parsedAt - seconds 1000).natAbs : Int) ≤ seconds 300 ∧ replayAt ≤ seconds 1300 ∧
        call = signedCall parsedAt replayAt := by
    obtain rfl | rfl := List.mem_pair.mp hc
    · exact ⟨seconds 1000, seconds 1000, by decide, by decide, rfl⟩
    · exact ⟨seconds 1300, seconds 1300, by decide, by decide, rfl⟩
  exact (covers_iff (validateHmacSignature_signedCall rfl near).1 (by decide)).mpr bound

theorem accepted_again : ¬ ∀ (rt : WebhookRuntime) (config : WebhookTriggerConfig)
    (calls : List WebhookCall), (truthy config.hmacSecret).isSome →
      (truthy config.hmacTimestampHeader).isSome → 0 < config.hmacToleranceSeconds →
      Nondecreasing calls → (accepted rt { config := config } calls).Nodup := by
  intro h
  let s : WebhookTriggerState := { config := signedWebhook }
  let first := signedCall (seconds 1000) (seconds 1000)
  let second := signedCall (seconds 1300) (seconds 1300 + 1)
  have nodup := h constantDigest signedWebhook [first, second] (by decide) (by decide) (by decide)
    (nondecreasing_pair (by decide) (by decide) (by decide))
  have windowed : Windowed s := ⟨aligned_fresh _, ⟨"x-timestamp", by decide⟩, by decide⟩
  have config : (s.step constantDigest first).config = signedWebhook := config_step
  have found : s.checked? constantDigest first = some ("5f2d", some signedStamp) :=
    (validateHmacSignature_signedCall rfl (by decide)).1
  have found' : (s.step constantDigest first).checked? constantDigest second =
      some ("5f2d", some signedStamp) :=
    (validateHmacSignature_signedCall config (by decide)).1
  have accepts : s.accepts constantDigest first = true := by
    rw [accepts_signedCall rfl (by decide), windowed.enforceSignatureReplay_expired nofun]
    rfl
  have listed : (s.step constantDigest first).recentSignatures = [("5f2d", signedStamp)] := by
    have stepped := outcome constantDigest s first
    rw [accepts] at stepped
    cases stepped with
    | unsigned unsigned => cases unsigned.symm.trans found
    | checked other same _ =>
      cases found.symm.trans other
      rw [same.recent]
      decide
  have accepts' : (s.step constantDigest first).accepts constantDigest second = true := by
    rw [accepts_signedCall config (by decide), windowed.step.enforceSignatureReplay_expired]
    · rfl
    · intro e he
      rw [listed] at he
      cases List.mem_singleton.mp he
      rw [config]
      decide
  have repeated : accepted constantDigest s [first, second] =
      [⟨"5f2d", some 1000, []⟩, ⟨"5f2d", some 1000, []⟩] := by
    simp only [accepted, accepts, accepts', signed?, found, found', if_true]
    rfl
  rw [repeated] at nodup
  revert nodup
  decide

end WebhookTriggerState

end Orcheo.Triggers
