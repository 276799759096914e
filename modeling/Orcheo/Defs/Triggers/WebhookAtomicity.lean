import Orcheo.Defs.Triggers.WebhookRateLimit

/-! What a rejected webhook request leaves behind. -/

namespace Orcheo.Triggers

/-- Both windows are read no earlier than at the other readings. -/
structure WebhookClock.After (clock clock' : WebhookClock) : Prop where
  replay : clock.replayAt ≤ clock'.replayAt
  limited : clock.limitedAt ≤ clock'.limitedAt

namespace WebhookTriggerState

/-- Both windows, without entries at the front that had expired at the readings of the clock. -/
structure Evicted (clock : WebhookClock) (s t : WebhookTriggerState) : Prop where
  config : t.config = s.config
  signatures : ∃ gone, s.recentSignatures = gone ++ t.recentSignatures ∧
    (∀ e ∈ gone, e.2.aware = true ∧ e.2.time < s.cutoff clock) ∧
    t.signatureCache = s.signatureCache \ (gone.map Prod.fst).toFinset
  invocations : ∃ gone, s.recentInvocations = gone ++ t.recentInvocations ∧ ∀ time ∈ gone,
    ∃ limit, s.config.rateLimit = some limit ∧ time < clock.limitedAt - interval limit

section Definitions

variable (rt : WebhookRuntime)

def verdicts : WebhookTriggerState → List WebhookCall → List (Except WebhookError Unit)
  | _, [] => []
  | s, call :: calls =>
    (s.validate rt call.clock call.request).2 :: verdicts (s.step rt call) calls

variable (s : WebhookTriggerState) (call : WebhookCall)

def Atomic : Prop :=
  ∀ e, (s.validate rt call.clock call.request).2 = .error e →
    Evicted call.clock s (s.step rt call) ∧
    ∀ calls, (∀ later ∈ calls, call.clock.After later.clock) →
      (s.step rt call).verdicts rt calls = s.verdicts rt calls

def evicted (clock : WebhookClock) : (List (String × Stamp) × Finset String) × Bool :=
  evictSignatures (s.cutoff clock) s.recentSignatures s.signatureCache

/-- The signature of the request is right and new, so that it is put into the window. -/
structure Records (s : WebhookTriggerState) (call : WebhookCall) (entry : String × Stamp) :
    Prop where
  shaped : s.validateShape rt call.request = .ok ()
  found : ∃ timestamp, s.checked? rt call = some (entry.1, timestamp) ∧
    entry.2 = timestamp.getD ⟨true, call.clock.replayAt⟩
  comparable : (s.evicted call.clock).2 = true
  unseen : entry.1 ∉ (s.evicted call.clock).1.2

def PassesLater : Prop :=
  s.checkSecret rt call = .ok () ∧ s.rateFull call.clock = false

def Rerecords (clock : WebhookClock) (entry : String × Stamp) : Prop :=
  ∃ gone, s.recentSignatures = gone ++ [entry] ∧
    (∀ e ∈ s.recentSignatures, e.2.aware = true ∧ e.2.time < s.cutoff clock) ∧
    entry.1 ∈ s.signatureCache ∧ entry.1 ∉ gone.map Prod.fst

/-- A signature that is recorded belongs to a request that nothing else stands against, or is
recorded in its own place. -/
def Settles : Prop :=
  ∀ entry, s.Records rt call entry → s.PassesLater rt call ∨ s.Rerecords call.clock entry

end Definitions

section Eviction

variable {cutoff cutoff' : Instant} {gone recent : List (String × Stamp)} {cache : Finset String}

theorem evictSignatures_split (cutoff : Instant) (recent : List (String × Stamp))
    (cache : Finset String) : ∃ gone rest,
      recent = gone ++ rest ∧ (∀ e ∈ gone, e.2.aware = true ∧ e.2.time < cutoff) ∧
      (evictSignatures cutoff recent cache).1 = (rest, cache \ (gone.map Prod.fst).toFinset) ∧
      ∀ e more, rest = e :: more → ¬ (e.2.aware = true ∧ e.2.time < cutoff) := by
  induction recent generalizing cache with
  | nil => exact ⟨[], [], rfl, by simp, by simp [evictSignatures], by simp⟩
  | cons x xs ih =>
    obtain ⟨signature, stamp⟩ := x
    by_cases expired : stamp.aware = true ∧ stamp.time < cutoff
    · obtain ⟨gone, rest, split, old, out, stuck⟩ := ih (cache.erase signature)
      refine ⟨(signature, stamp) :: gone, rest, by rw [split, List.cons_append], ?_, ?_, stuck⟩
      · intro e mem
        cases List.mem_cons.mp mem with
        | inl head =>
          rw [head]
          exact expired
        | inr tail => exact old e tail
      · rw [evictSignatures, expired.1, if_neg (by simp), if_pos expired.2, out, List.map_cons,
          List.toFinset_cons, Finset.sdiff_insert, Finset.erase_sdiff_comm]
    · refine ⟨[], (signature, stamp) :: xs, rfl, by simp, ?_, ?_⟩
      · rw [evictSignatures]
        by_cases aware : stamp.aware = true
        · have young : ¬ stamp.time < cutoff := fun old => expired ⟨aware, old⟩
          rw [aware, if_neg (by simp), if_neg young]
          simp
        · rw [if_pos (by simpa using aware)]
          simp
      · intro e more same
        rw [← (List.cons.inj same).1]
        exact expired

theorem evictSignatures_append (old : ∀ e ∈ gone, e.2.aware = true ∧ e.2.time < cutoff) :
    evictSignatures cutoff (gone ++ recent) cache =
      evictSignatures cutoff recent (cache \ (gone.map Prod.fst).toFinset) := by
  induction gone generalizing cache with
  | nil => simp
  | cons x xs ih =>
    obtain ⟨signature, stamp⟩ := x
    have expired := old _ List.mem_cons_self
    dsimp only at expired
    rw [List.cons_append, evictSignatures, expired.1, if_neg (by simp), if_pos expired.2,
      ih fun e mem => old e (List.mem_cons_of_mem _ mem), List.map_cons, List.toFinset_cons,
      Finset.sdiff_insert, Finset.erase_sdiff_comm]

theorem evicted_self (clock : WebhookClock) (s : WebhookTriggerState) : Evicted clock s s where
  config := rfl
  signatures := ⟨[], rfl, by simp, by simp⟩
  invocations := ⟨[], rfl, by simp⟩

theorem Evicted.trans {clock : WebhookClock} {s t u : WebhookTriggerState}
    (first : Evicted clock s t) (second : Evicted clock t u) : Evicted clock s u := by
  have same : t.cutoff clock = s.cutoff clock := by
    unfold cutoff
    rw [first.config]
  constructor
  case config => rw [second.config, first.config]
  case signatures =>
    obtain ⟨gone, split, old, cache⟩ := first.signatures
    obtain ⟨gone', split', old', cache'⟩ := second.signatures
    refine ⟨gone ++ gone', by rw [split, split', List.append_assoc], ?_, ?_⟩
    · intro e mem
      cases List.mem_append.mp mem with
      | inl early => exact old e early
      | inr late =>
        rw [← same]
        exact old' e late
    · rw [cache', cache]
      ext signature
      simp only [Finset.mem_sdiff, List.mem_toFinset, List.map_append, List.mem_append, not_or,
        and_assoc]
  case invocations =>
    obtain ⟨gone, split, old⟩ := first.invocations
    obtain ⟨gone', split', old'⟩ := second.invocations
    refine ⟨gone ++ gone', by rw [split, split', List.append_assoc], ?_⟩
    intro time mem
    cases List.mem_append.mp mem with
    | inl early => exact old time early
    | inr late =>
      rw [← first.config]
      exact old' time late

end Eviction

section Stages

variable {rt : WebhookRuntime} {s t : WebhookTriggerState} {call : WebhookCall} {clock : WebhookClock}
  {signature : String} {timestamp : Option Stamp}

theorem enforceSignatureReplay_evicted : s.enforceSignatureReplay clock signature timestamp =
    let found := s.evicted clock
    let left := { s with recentSignatures := found.1.1, signatureCache := found.1.2 }
    if !found.2 then (left, .error .uncaught)
    else if signature ∈ found.1.2 then (left, .error .authentication)
    else ({ left with
        signatureCache := insert signature found.1.2
        recentSignatures := found.1.1 ++ [(signature, timestamp.getD ⟨true, clock.replayAt⟩)] },
      .ok ()) := by
  unfold enforceSignatureReplay evicted cutoff
  rfl

theorem evicted_window (s : WebhookTriggerState) (clock : WebhookClock) : Evicted clock s
    { s with recentSignatures := (s.evicted clock).1.1, signatureCache := (s.evicted clock).1.2 } := by
  obtain ⟨gone, rest, split, old, out, -⟩ :=
    evictSignatures_split (s.cutoff clock) s.recentSignatures s.signatureCache
  unfold evicted
  rw [out]
  exact ⟨rfl, ⟨gone, split, old, rfl⟩, ⟨[], rfl, by simp⟩⟩

theorem evicted_of_replayed {e : WebhookError}
    (refused : (s.enforceSignatureReplay clock signature timestamp).2 = .error e) :
    Evicted clock s (s.enforceSignatureReplay clock signature timestamp).1 := by
  rw [enforceSignatureReplay_evicted] at refused ⊢
  dsimp only at refused ⊢
  split at refused
  next incomparable =>
    rw [if_pos incomparable]
    exact evicted_window s clock
  next comparable =>
    rw [if_neg comparable]
    split at refused
    next seen =>
      rw [if_pos seen]
      exact evicted_window s clock
    next => cases refused

theorem enforceSignatureReplay_recorded (comparable : (s.evicted clock).2 = true)
    (unseen : signature ∉ (s.evicted clock).1.2) :
    s.enforceSignatureReplay clock signature timestamp = ({ s with
      signatureCache := insert signature (s.evicted clock).1.2
      recentSignatures :=
        (s.evicted clock).1.1 ++ [(signature, timestamp.getD ⟨true, clock.replayAt⟩)] }, .ok ()) := by
  rw [enforceSignatureReplay_evicted]
  dsimp only
  rw [comparable, if_neg (by simp), if_neg unseen]

theorem enforceSignatureReplay_ok
    (passed : (s.enforceSignatureReplay clock signature timestamp).2 = .ok ()) :
    (s.evicted clock).2 = true ∧ signature ∉ (s.evicted clock).1.2 := by
  rw [enforceSignatureReplay_evicted] at passed
  dsimp only at passed
  split at passed
  next => cases passed
  next comparable =>
    split at passed
    next => cases passed
    next unseen => exact ⟨by simpa using comparable, unseen⟩

theorem evicted_of_limited {e : WebhookError} (refused : (s.enforceRateLimit clock).2 = .error e) :
    Evicted clock s (s.enforceRateLimit clock).1 := by
  unfold enforceRateLimit at refused ⊢
  cases limited : s.config.rateLimit with
  | none =>
    rw [limited] at refused
    cases refused
  | some limit =>
    rw [limited] at refused
    dsimp only at refused ⊢
    split at refused
    next full =>
      rw [if_pos full]
      refine ⟨rfl, ⟨[], rfl, by simp, by simp⟩, ?_⟩
      refine ⟨_, (List.takeWhile_append_dropWhile).symm, ?_⟩
      intro time mem
      have old := List.mem_takeWhile_imp
        (p := fun t => decide (t < clock.limitedAt - interval limit)) mem
      exact ⟨limit, limited, of_decide_eq_true old⟩
    next => cases refused

theorem enforceRateLimit_full (full : s.rateFull clock = true) :
    ∃ e, (s.enforceRateLimit clock).2 = .error e := by
  unfold rateFull at full
  unfold enforceRateLimit
  cases limited : s.config.rateLimit with
  | none =>
    rw [limited] at full
    cases full
  | some limit =>
    rw [limited] at full
    have full := of_decide_eq_true full
    dsimp only
    rw [if_pos full]
    exact ⟨_, rfl⟩

theorem enforceRateLimit_room (room : s.rateFull clock = false) :
    (s.enforceRateLimit clock).2 = .ok () := by
  unfold rateFull at room
  unfold enforceRateLimit
  cases limited : s.config.rateLimit with
  | none => rfl
  | some limit =>
    rw [limited] at room
    have room := of_decide_eq_false room
    dsimp only
    rw [if_neg room]

theorem rateFull_congr (config : t.config = s.config)
    (invocations : t.recentInvocations = s.recentInvocations) :
    t.rateFull clock = s.rateFull clock := by
  unfold rateFull
  rw [config, invocations]

variable {entry : String × Stamp}

theorem Rerecords.evicted (again : s.Rerecords clock entry) :
    Evicted clock s { s with
      signatureCache := insert entry.1 (s.evicted clock).1.2
      recentSignatures := (s.evicted clock).1.1 ++ [entry] } := by
  obtain ⟨gone, split, old, cached, single⟩ := again
  have swept : s.evicted clock =
      (([], s.signatureCache \ ((gone ++ [entry]).map Prod.fst).toFinset), true) := by
    unfold WebhookTriggerState.evicted
    rw [← List.append_nil s.recentSignatures, evictSignatures_append old, split]
    rfl
  rw [swept]
  refine ⟨rfl, ⟨gone, split, ?_, ?_⟩, ⟨[], rfl, by simp⟩⟩
  · intro e mem
    apply old e
    rw [split]
    exact List.mem_append_left _ mem
  · ext signature
    simp only [Finset.mem_insert, Finset.mem_sdiff, List.mem_toFinset, List.map_append,
      List.mem_append, List.map_cons, List.map_nil, List.mem_singleton, not_or]
    constructor
    · rintro (rfl | ⟨there, absent, -⟩)
      · exact ⟨cached, single⟩
      · exact ⟨there, absent⟩
    · rintro ⟨there, absent⟩
      by_cases same : signature = entry.1
      · exact Or.inl same
      · exact Or.inr ⟨there, absent, same⟩

theorem rerecords_of_evicted (only : Evicted clock s t)
    (recent : t.recentSignatures = (s.evicted clock).1.1 ++ [entry])
    (cache : t.signatureCache = insert entry.1 (s.evicted clock).1.2) :
    s.Rerecords clock entry := by
  obtain ⟨gone, split, old, cache'⟩ := only.signatures
  obtain ⟨front, rest, split', old', out, stuck⟩ :=
    evictSignatures_split (s.cutoff clock) s.recentSignatures s.signatureCache
  have window : s.evicted clock = evictSignatures (s.cutoff clock) s.recentSignatures
    s.signatureCache := rfl
  rw [← window] at out
  rw [out] at recent cache
  dsimp only at recent cache
  -- what was evicted is one entry longer than what may be missing
  have aligned : front ++ rest = gone ++ (rest ++ [entry]) := by rw [← split', split, recent]
  obtain ⟨bs, same, shifted⟩ : ∃ bs, front = gone ++ bs ∧ rest ++ [entry] = bs ++ rest := by
    obtain ⟨as, -, longer⟩ | shorter := List.append_eq_append_iff.mp aligned
    · have lengths := congrArg List.length longer
      simp only [List.length_append, List.length_singleton] at lengths
      omega
    · exact shorter
  obtain ⟨last, rfl⟩ : ∃ last, bs = [last] := by
    apply List.length_eq_one_iff.mp
    have lengths := congrArg List.length shifted
    simp only [List.length_append, List.length_singleton] at lengths
    omega
  have expired := old' last (by rw [same]; exact List.mem_append_right gone List.mem_cons_self)
  cases rest with
  | cons e more =>
    exact absurd ((List.cons.inj shifted).1 ▸ expired) (stuck e more rfl)
  | nil =>
    have entryLast : entry = last := (List.cons.inj shifted).1
    subst entryLast
    rw [List.append_nil] at split'
    have cached : entry.1 ∈ s.signatureCache \ (gone.map Prod.fst).toFinset := by
      rw [← cache', cache]
      exact Finset.mem_insert_self _ _
    rw [Finset.mem_sdiff, List.mem_toFinset] at cached
    exact ⟨gone, split'.trans same, by rwa [split'], cached.1, cached.2⟩

end Stages

structure Alike (clock : WebhookClock) (a b : WebhookTriggerState × Except WebhookError Unit) :
    Prop where
  result : b.2 = a.2
  state : Evicted clock a.1 b.1

section Later

variable {rt : WebhookRuntime} {s t : WebhookTriggerState} {call : WebhookCall}
  {clock later : WebhookClock} {signature : String} {timestamp : Option Stamp}

theorem Evicted.with_window (only : Evicted clock s t) (recent : List (String × Stamp))
    (cache : Finset String) : Evicted clock
      { s with recentSignatures := recent, signatureCache := cache }
      { t with recentSignatures := recent, signatureCache := cache } where
  config := only.config
  signatures := ⟨[], rfl, by simp, by simp⟩
  invocations := only.invocations

section

variable (only : Evicted clock s t) (after : clock.After later)
include only after

theorem Evicted.evicted_eq :
    t.evicted later = s.evicted later := by
  obtain ⟨gone, split, old, cache⟩ := only.signatures
  have same : t.cutoff later = s.cutoff later := by
    unfold cutoff
    rw [only.config]
  unfold evicted
  rw [same, split, cache, evictSignatures_append]
  intro e mem
  have expired := old e mem
  refine ⟨expired.1, lt_of_lt_of_le expired.2 ?_⟩
  exact Int.sub_le_sub_right after.replay _

theorem Evicted.dropWhile_eq {limit : RateLimitConfig} (limited : s.config.rateLimit = some limit) :
    t.recentInvocations.dropWhile (fun x => decide (x < later.limitedAt - interval limit)) =
      s.recentInvocations.dropWhile (fun x => decide (x < later.limitedAt - interval limit)) := by
  obtain ⟨gone, split, old⟩ := only.invocations
  rw [split, List.dropWhile_append_of_pos]
  intro time mem
  obtain ⟨limit', limited', expired⟩ := old time mem
  cases limited.symm.trans limited'
  exact decide_eq_true (lt_of_lt_of_le expired (Int.sub_le_sub_right after.limited _))

theorem Evicted.alike_replay :
    Alike clock (s.enforceSignatureReplay later signature timestamp)
      (t.enforceSignatureReplay later signature timestamp) := by
  rw [enforceSignatureReplay_evicted, enforceSignatureReplay_evicted, only.evicted_eq after]
  dsimp only
  split
  · exact ⟨rfl, only.with_window _ _⟩
  · split
    · exact ⟨rfl, only.with_window _ _⟩
    · exact ⟨rfl, only.with_window _ _⟩

theorem Evicted.alike_rate :
    Alike clock (s.enforceRateLimit later) (t.enforceRateLimit later) := by
  unfold enforceRateLimit
  rw [only.config]
  cases limited : s.config.rateLimit with
  | none => exact ⟨rfl, only⟩
  | some limit =>
    have same := only.dropWhile_eq after limited
    unfold interval at same
    dsimp only
    rw [same]
    split
    · exact ⟨rfl, rfl, only.signatures, [], rfl, by simp⟩
    · exact ⟨rfl, rfl, only.signatures, [], rfl, by simp⟩

end

theorem validateShape_congr (config : t.config = s.config) (r : WebhookRequest) :
    t.validateShape rt r = s.validateShape rt r := by
  unfold validateShape validateMethod validateRequiredHeaders validateRequiredQueryParams
  rw [config]

theorem checkHmacSignature_congr (config : t.config = s.config) (r : WebhookRequest)
    (header secret : String) :
    t.checkHmacSignature rt later r header secret = s.checkHmacSignature rt later r header secret := by
  unfold checkHmacSignature parseSignatureTimestamp
  rw [config]

theorem validateSharedSecret_congr (config : t.config = s.config) (r : WebhookRequest) :
    t.validateSharedSecret rt r = s.validateSharedSecret rt r := by
  unfold validateSharedSecret
  rw [config]

section

variable (only : Evicted clock s t)
include only

theorem Evicted.alike_signature (after : clock.After later) (r : WebhookRequest) :
    Alike clock (s.validateHmacSignature rt later r) (t.validateHmacSignature rt later r) := by
  unfold validateHmacSignature
  rw [only.config]
  split
  next header secret _ _ =>
    rw [checkHmacSignature_congr only.config]
    cases s.checkHmacSignature rt later r header secret with
    | error e => exact ⟨rfl, only⟩
    | ok found => exact only.alike_replay after
  next => exact ⟨rfl, only⟩

theorem Evicted.alike_secret (r : WebhookRequest) (signed : Except WebhookError Unit) : Alike clock
      (match signed with
        | .error e => (s, .error e)
        | .ok () => match truthy s.config.sharedSecret with
          | some _ => (s, s.validateSharedSecret rt r)
          | none => (s, .ok ()))
      (match signed with
        | .error e => (t, .error e)
        | .ok () => match truthy t.config.sharedSecret with
          | some _ => (t, t.validateSharedSecret rt r)
          | none => (t, .ok ())) := by
  rw [only.config, validateSharedSecret_congr only.config]
  cases signed with
  | error e => exact ⟨rfl, only⟩
  | ok =>
    cases truthy s.config.sharedSecret with
    | none => exact ⟨rfl, only⟩
    | some _ => exact ⟨rfl, only⟩

theorem Evicted.alike_authentication (after : clock.After later) (r : WebhookRequest) :
    Alike clock (s.validateAuthentication rt later r) (t.validateAuthentication rt later r) := by
  unfold validateAuthentication
  rw [only.config]
  cases truthy s.config.hmacSecret with
  | none => exact only.alike_secret r (.ok ())
  | some _ =>
    have alike : Alike clock (s.validateHmacSignature rt later r) _ := only.alike_signature after r
    cases first : s.validateHmacSignature rt later r with
    | mk s' signed =>
      cases second : t.validateHmacSignature rt later r with
      | mk t' signed' =>
        rw [first, second] at alike
        have same : signed' = signed := alike.result
        subst same
        exact alike.state.alike_secret r signed'

theorem Evicted.alike_validate (after : clock.After later)
    (r : WebhookRequest) : Alike clock (s.validate rt later r) (t.validate rt later r) := by
  unfold validate
  rw [validateShape_congr only.config]
  cases s.validateShape rt r with
  | error e => exact ⟨rfl, only⟩
  | ok =>
    have alike : Alike clock (s.validateAuthentication rt later r) _ :=
      only.alike_authentication after r
    cases first : s.validateAuthentication rt later r with
    | mk s' result =>
      cases second : t.validateAuthentication rt later r with
      | mk t' result' =>
        rw [first, second] at alike
        have same : result' = result := alike.result
        subst same
        dsimp only
        cases result' with
        | error e => exact ⟨rfl, alike.state⟩
        | ok => exact alike.state.alike_rate after

theorem Evicted.verdicts_eq {calls : List WebhookCall}
    (after : ∀ call ∈ calls, clock.After call.clock) :
    t.verdicts rt calls = s.verdicts rt calls := by
  induction calls generalizing s t with
  | nil => rfl
  | cons call calls ih =>
    have alike : Alike clock (s.validate rt call.clock call.request) _ :=
      only.alike_validate (after call List.mem_cons_self) call.request
    rw [verdicts, verdicts, alike.result]
    congr 1
    exact ih alike.state fun c mem => after c (List.mem_cons_of_mem _ mem)

end

end Later

section Rejected

variable {rt : WebhookRuntime} {s : WebhookTriggerState} {call : WebhookCall}

theorem records_of_checked {t : WebhookTriggerState} {signature : String} {timestamp : Option Stamp}
    (shaped : s.validateShape rt call.request = .ok ())
    (found : s.checked? rt call = some (signature, timestamp))
    (passed : s.enforceSignatureReplay call.clock signature timestamp = (t, .ok ())) :
    let entry := (signature, timestamp.getD ⟨true, call.clock.replayAt⟩)
    s.Records rt call entry ∧ t = { s with
      signatureCache := insert signature (s.evicted call.clock).1.2
      recentSignatures := (s.evicted call.clock).1.1 ++ [entry] } := by
  intro entry
  obtain ⟨comparable, unseen⟩ := enforceSignatureReplay_ok (congrArg Prod.snd passed)
  refine ⟨⟨shaped, ⟨timestamp, found, rfl⟩, comparable, unseen⟩, ?_⟩
  rw [enforceSignatureReplay_recorded comparable unseen] at passed
  exact (congrArg Prod.fst passed).symm

theorem Settles.evicted (settles : s.Settles rt call) {t : WebhookTriggerState}
    (shaped : s.validateShape rt call.request = .ok ())
    (signed : SignatureStage rt s call (t, .ok ())) (stands : ¬ s.PassesLater rt call) :
    Evicted call.clock s t := by
  generalize same : ((t, .ok ()) : WebhookTriggerState × Except WebhookError Unit) = out at signed
  cases signed with
  | unsigned =>
    cases same
    exact evicted_self call.clock s
  | failed => cases same
  | checked found =>
    obtain ⟨records, rfl⟩ := records_of_checked shaped found same.symm
    exact ((settles _ records).resolve_left stands).evicted

theorem Settles.atomic (settles : s.Settles rt call) : s.Atomic rt call := by
  intro e raised
  suffices only : Evicted call.clock s (s.step rt call) from
    ⟨only, fun calls after => only.verdicts_eq after⟩
  unfold step
  have ended := validated rt s call
  generalize s.validate rt call.clock call.request = out at ended raised
  cases ended with
  | shape => exact evicted_self call.clock s
  | signature shaped signed =>
    generalize same : (_, _) = out at signed
    cases signed with
    | unsigned => cases same
    | failed =>
      cases same
      exact evicted_self call.clock s
    | checked found => exact evicted_of_replayed (congrArg Prod.snd same).symm
  | secret shaped signed refused =>
    apply settles.evicted shaped signed
    rintro ⟨passed, -⟩
    cases passed.symm.trans refused
  | @rate t shaped signed passed =>
    have only : Evicted call.clock s t := by
      apply settles.evicted shaped signed
      rintro ⟨-, room⟩
      have room' : t.rateFull call.clock = false := by
        rw [rateFull_congr signed.frame.1 signed.frame.2]
        exact room
      cases (enforceRateLimit_room room').symm.trans raised
    exact only.trans (evicted_of_limited raised)

theorem Records.step {entry : String × Stamp} (records : s.Records rt call entry)
    (stands : ¬ s.PassesLater rt call) :
    (∃ e, (s.validate rt call.clock call.request).2 = .error e) ∧
      (s.step rt call).recentSignatures = (s.evicted call.clock).1.1 ++ [entry] ∧
      (s.step rt call).signatureCache = insert entry.1 (s.evicted call.clock).1.2 := by
  obtain ⟨timestamp, found, stamp⟩ := records.found
  have recorded : s.enforceSignatureReplay call.clock entry.1 timestamp = ({ s with
      signatureCache := insert entry.1 (s.evicted call.clock).1.2
      recentSignatures := (s.evicted call.clock).1.1 ++ [entry] }, .ok ()) := by
    rw [enforceSignatureReplay_recorded records.comparable records.unseen, ← stamp]
  have only {t : WebhookTriggerState} {result : Except WebhookError Unit}
      (signed : SignatureStage rt s call (t, result)) :
      (t, result) = s.enforceSignatureReplay call.clock entry.1 timestamp := by
    generalize same : (t, result) = out at signed
    cases signed with
    | unsigned unsigned => cases unsigned.symm.trans found
    | failed unsigned => cases unsigned.symm.trans found
    | checked found' =>
      cases found.symm.trans found'
      rfl
  unfold WebhookTriggerState.step
  have ended := validated rt s call
  generalize s.validate rt call.clock call.request = out at ended
  cases ended with
  | shape refused => cases refused.symm.trans records.shaped
  | signature shaped signed =>
    have same := (only signed).trans recorded
    cases same
  | secret shaped signed refused =>
    have same := (only signed).trans recorded
    cases same
    exact ⟨⟨_, rfl⟩, rfl, rfl⟩
  | @rate t shaped signed passed =>
    have same := (only signed).trans recorded
    have full : t.rateFull call.clock = true := by
      rw [rateFull_congr signed.frame.1 signed.frame.2]
      by_contra room
      exact stands ⟨passed, by simpa using room⟩
    have kept := sameWindow_enforceRateLimit t call.clock
    refine ⟨enforceRateLimit_full full, ?_, ?_⟩
    · exact kept.recent.trans (congrArg (fun out => out.1.recentSignatures) same)
    · exact kept.cache.trans (congrArg (fun out => out.1.signatureCache) same)

/-- Validation is atomic exactly where nothing stands against a request whose signature it
records. -/
theorem validate_atomic_iff (rt : WebhookRuntime) (s : WebhookTriggerState) (call : WebhookCall) :
    s.Atomic rt call ↔ s.Settles rt call := by
  constructor
  · intro whole entry records
    by_cases stands : s.PassesLater rt call
    · exact Or.inl stands
    · right
      obtain ⟨⟨e, raised⟩, recent, cache⟩ := records.step stands
      exact rerecords_of_evicted (whole e raised).1 recent cache
  · intro settles
    exact settles.atomic

end Rejected

section Unfinished

def doublyGuarded : WebhookTriggerConfig where
  hmacHeader := some "x-signature"
  hmacSecret := some "secret"
  sharedSecretHeader := some "x-secret"
  sharedSecret := some "shared"

def signatureOnly : WebhookCall where
  clock := ⟨0, 0, 0⟩
  request := {
    method := "POST"
    headers := [("X-Signature", "5f2d")]
    queryParams := []
    payload := .json .null }

theorem checked?_signatureOnly :
    checked? constantDigest { config := doublyGuarded } signatureOnly = some ("5f2d", none) := by
  have secret : truthy doublyGuarded.hmacSecret = some "secret" := by decide
  have provided : truthy ((signatureOnly.request.normalizedHeaders constantDigest).get?
    "x-signature") = some "5f2d" := by decide
  have timestamp : truthy doublyGuarded.hmacTimestampHeader = none := by decide
  have same : compareDigest "5f2d" "5f2d" = .ok true := by decide
  have checks : checkHmacSignature constantDigest signatureOnly.clock
      { config := doublyGuarded } signatureOnly.request "x-signature" "secret" =
        .ok ("5f2d", none) := by
    rw [checkHmacSignature, provided, timestamp]
    dsimp only
    apply Lib.bind_ok_iff.mpr ⟨_, rfl, _⟩
    apply Lib.bind_ok_iff.mpr ⟨_, extractHmacSignature_digest, _⟩
    apply Lib.bind_ok_iff.mpr ⟨_, rfl, _⟩
    exact Lib.bind_ok_iff.mpr ⟨true, same, rfl⟩
  rw [checked?, secret]
  exact congrArg Except.toOption checks

theorem refused_signature_recorded : ¬ ∀ rt s call, Atomic rt s call := by
  intro whole
  let s : WebhookTriggerState := { config := doublyGuarded }
  have records : s.Records constantDigest signatureOnly ("5f2d", ⟨true, 0⟩) :=
    ⟨by decide, ⟨none, checked?_signatureOnly, rfl⟩, by decide, by decide⟩
  have stands : ¬ s.PassesLater constantDigest signatureOnly := by
    rintro ⟨passed, -⟩
    revert passed
    decide
  obtain ⟨⟨e, raised⟩, recent, -⟩ := records.step stands
  obtain ⟨gone, split, -⟩ := (whole constantDigest s signatureOnly e raised).1.signatures
  rw [recent] at split
  simp [s] at split

end Unfinished

end WebhookTriggerState

end Orcheo.Triggers
