import Orcheo.Defs.Base

/-! Access tokens of QQ apps: calls of `get_access_token` that share the cache of a process, with
a lock for each app. -/

namespace Orcheo.Listeners.AccessTokens

open Lib (Dict)

structure TokenCall where
  appId : String
  clientSecret : String
  refreshOverlap : Duration
  deriving DecidableEq

/-- What has happened, as of a call: it was answered from the cache, it has asked the endpoint with
its own credentials, or the endpoint has answered it. -/
inductive TokenEvent
  | cached (call : TokenCall) (token : String) (now : Instant)
  | started (call : TokenCall) (now : Instant)
  | fetched (call : TokenCall) (token : String) (expiresAt : Instant)
  deriving DecidableEq

/-- `calls` wait for the lock, or for the endpoint since they have read the clock. -/
structure TokenSystem where
  cache : Dict String (String × Instant) := ∅
  locks : Dict String Nat := ∅
  calls : Dict Nat (TokenCall × Option Instant) := ∅
  history : List TokenEvent := []

/-- `now < cached[1] - timedelta(seconds=self._refresh_overlap_seconds)` -/
def TokenCall.Usable (call : TokenCall) (now expiresAt : Instant) : Prop :=
  now < expiresAt - call.refreshOverlap

instance (call : TokenCall) (now expiresAt : Instant) : Decidable (call.Usable now expiresAt) :=
  inferInstanceAs (Decidable (now < expiresAt - call.refreshOverlap))

inductive TokenOp
  | begin (id : Nat) (call : TokenCall) (now : Instant)
  /-- The lock is free, and the call goes on. -/
  | enter (id : Nat) (now : Instant)
  | succeed (id : Nat) (token : String) (expiresIn : Duration)
  /-- The endpoint fails, or the call is cancelled. -/
  | fail (id : Nat)

namespace TokenSystem

variable (s : TokenSystem)

def usable (call : TokenCall) (now : Instant) : Option String :=
  ((s.cache.get? call.appId).filter (fun entry => call.Usable now entry.2)).map Prod.fst

def step : TokenOp → TokenSystem
  | .begin id call now =>
    if (s.calls.get? id).isSome then s
    else match s.usable call now with
      | some token => { s with history := s.history ++ [.cached call token now] }
      | none => { s with calls := s.calls.set id (call, none) }
  | .enter id now =>
    match s.calls.get? id with
    | some (call, none) =>
      if (s.locks.get? call.appId).isSome then s
      else match s.usable call now with
        | some token =>
          { s with calls := s.calls.erase id, history := s.history ++ [.cached call token now] }
        | none =>
          { s with
            locks := s.locks.set call.appId id
            calls := s.calls.set id (call, some now)
            history := s.history ++ [.started call now] }
    | _ => s
  | .succeed id token expiresIn =>
    match s.calls.get? id with
    | some (call, some now) =>
      { cache := s.cache.set call.appId (token, now + expiresIn)
        locks := s.locks.erase call.appId
        calls := s.calls.erase id
        history := s.history ++ [.fetched call token (now + expiresIn)] }
    | _ => s
  | .fail id =>
    match s.calls.get? id with
    | some (call, some _) =>
      { s with locks := s.locks.erase call.appId, calls := s.calls.erase id }
    | _ => { s with calls := s.calls.erase id }

def run (ops : List TokenOp) : TokenSystem := ops.foldl step {}

end TokenSystem

def lastFetched (appId : String) (history : List TokenEvent) : Option (String × Instant) :=
  history.foldl (fun last event => match event with
    | .fetched call token expiresAt => if call.appId = appId then some (token, expiresAt) else last
    | _ => last) none

def TokenEvent.Sound (before : List TokenEvent) : TokenEvent → Prop
  | .cached call token now => ∃ expiresAt, lastFetched call.appId before = some (token, expiresAt) ∧
      call.Usable now expiresAt ∧
      ∃ other, .fetched other token expiresAt ∈ before ∧ other.appId = call.appId
  | .started call now => ∀ token expiresAt,
      lastFetched call.appId before = some (token, expiresAt) → ¬call.Usable now expiresAt
  | .fetched call _ _ => ∃ now, .started call now ∈ before

def Sound (history : List TokenEvent) : Prop :=
  ∀ before event after, history = before ++ event :: after → event.Sound before

section Laws

theorem sound_concat {history : List TokenEvent} {event : TokenEvent} (sound : Sound history)
    (last : event.Sound history) : Sound (history ++ [event]) := by
  intro before e after eq
  rcases List.eq_nil_or_concat after with rfl | ⟨more, final, rfl⟩
  · obtain ⟨rfl, same⟩ := List.append_inj' eq rfl
    cases same
    exact last
  · rw [List.concat_eq_append, ← List.cons_append, ← List.append_assoc] at eq
    exact sound before e more (List.append_inj' eq rfl).1

theorem lastFetched_mem {appId : String} {history : List TokenEvent} {token : String}
    {expiresAt : Instant} (last : lastFetched appId history = some (token, expiresAt)) :
    ∃ call, .fetched call token expiresAt ∈ history ∧ call.appId = appId := by
  induction history using List.reverseRecOn with
  | nil => cases last
  | append_singleton history event ih =>
    have earlier : lastFetched appId history = some (token, expiresAt) →
        ∃ call, .fetched call token expiresAt ∈ history ++ [event] ∧ call.appId = appId := by
      intro before
      obtain ⟨call, mem, own⟩ := ih before
      exact ⟨call, List.mem_append_left _ mem, own⟩
    rw [lastFetched, List.foldl_concat, ← lastFetched] at last
    cases event with
    | cached | started => exact earlier last
    | fetched call token' expiresAt' =>
      dsimp only at last
      split at last
      next own =>
        cases last
        exact ⟨call, List.mem_append_right _ (.head _), own⟩
      next => exact earlier last

structure Inv (s : TokenSystem) : Prop where
  cache : ∀ appId, s.cache.get? appId = lastFetched appId s.history
  asked : ∀ id call now, s.calls.get? id = some (call, some now) → .started call now ∈ s.history
  sound : Sound s.history

variable {s : TokenSystem} {call : TokenCall} {now : Instant}

theorem Inv.cached (inv : Inv s) {token : String} (usable : s.usable call now = some token) :
    (TokenEvent.cached call token now).Sound s.history := by
  obtain ⟨⟨token', expiresAt⟩, found, rfl⟩ := Option.map_eq_some_iff.mp usable
  obtain ⟨found, fresh⟩ := Option.filter_eq_some_iff.mp found
  rw [inv.cache] at found
  exact ⟨expiresAt, found, of_decide_eq_true fresh, lastFetched_mem found⟩

theorem Inv.started (inv : Inv s) (none : s.usable call now = none) :
    (TokenEvent.started call now).Sound s.history := by
  intro token expiresAt last fresh
  rw [TokenSystem.usable, inv.cache, last, Option.filter, if_pos (decide_eq_true fresh)] at none
  cases none

theorem Inv.step (inv : Inv s) (op : TokenOp) : Inv (s.step op) := by
  have kept : ∀ {id call now} {event : TokenEvent}, s.calls.get? id = some (call, some now) →
      .started call now ∈ s.history ++ [event] :=
    fun waits => List.mem_append_left _ (inv.asked _ _ _ waits)
  have same : ∀ (appId) (event : TokenEvent), (∀ call token expiresAt,
      event ≠ .fetched call token expiresAt) →
      s.cache.get? appId = lastFetched appId (s.history ++ [event]) := by
    intro appId event other
    rw [lastFetched, List.foldl_concat, ← lastFetched, inv.cache]
    cases event with
    | cached | started => rfl
    | fetched call token expiresAt => exact absurd rfl (other call token expiresAt)
  have erased : ∀ {id id' call now}, (s.calls.erase id).get? id' = some (call, some now) →
      s.calls.get? id' = some (call, some now) := by
    intro id id' call now waits
    rw [Dict.get?_erase] at waits
    split at waits
    next => cases waits
    next => exact waits
  cases op with
  | begin id call now =>
    dsimp only [TokenSystem.step]
    split
    next => exact inv
    next =>
      split
      next token usable =>
        exact ⟨fun appId => same appId _ (by simp), fun _ _ _ waits => kept waits,
          sound_concat inv.sound (inv.cached usable)⟩
      next =>
        refine ⟨inv.cache, fun id' call' now' waits => ?_, inv.sound⟩
        rw [Dict.get?_set] at waits
        split at waits
        next => cases waits
        next => exact inv.asked id' call' now' waits
  | enter id now =>
    dsimp only [TokenSystem.step]
    split
    next call waiting =>
      split
      next => exact inv
      next =>
        split
        next token usable =>
          exact ⟨fun appId => same appId _ (by simp), fun _ _ _ waits => kept (erased waits),
            sound_concat inv.sound (inv.cached usable)⟩
        next none =>
          refine ⟨fun appId => same appId _ (by simp), fun id' call' now' waits => ?_,
            sound_concat inv.sound (inv.started none)⟩
          dsimp only at waits
          rw [Dict.get?_set] at waits
          split at waits
          next =>
            cases waits
            exact List.mem_append_right _ (.head _)
          next => exact kept waits
    next => exact inv
  | succeed id token expiresIn =>
    dsimp only [TokenSystem.step]
    split
    next call now waits =>
      refine ⟨fun appId => ?_, fun _ _ _ waits => kept (erased waits),
        sound_concat inv.sound ⟨now, inv.asked _ _ _ waits⟩⟩
      rw [Dict.get?_set, lastFetched, List.foldl_concat, ← lastFetched, inv.cache]
      simp only [eq_comm]
    next => exact inv
  | fail id =>
    dsimp only [TokenSystem.step]
    split
    next => exact ⟨inv.cache, fun _ _ _ waits => inv.asked _ _ _ (erased waits), inv.sound⟩
    next => exact ⟨inv.cache, fun _ _ _ waits => inv.asked _ _ _ (erased waits), inv.sound⟩

end Laws

/-- In every run a token from the cache was fetched for the app and is not about to expire, a call
asks the endpoint only when the cache has no such token, and is answered what it has asked for. -/
theorem access_tokens_sound (ops : List TokenOp) : Sound (TokenSystem.run ops).history := by
  have empty : Inv {} := by
    refine ⟨fun _ => rfl, fun _ _ _ waits => ?_, fun before event after eq => ?_⟩
    · cases waits
    · exact absurd eq.symm (List.append_ne_nil_of_right_ne_nil _ (List.cons_ne_nil _ _))
  exact (List.foldlRecOn ops _ empty (fun _ inv op _ => inv.step op)).sound

theorem access_token_of_other_secret : ¬∀ ops call token now,
    .cached call token now ∈ (TokenSystem.run ops).history →
    ∃ expiresAt, .fetched call token expiresAt ∈ (TokenSystem.run ops).history := by
  intro all
  obtain ⟨expiresAt, mem⟩ := all [.begin 1 ⟨"app", "right", 60⟩ 0, .enter 1 0,
    .succeed 1 "token" 7200, .begin 2 ⟨"app", "wrong", 60⟩ 10] ⟨"app", "wrong", 60⟩ "token" 10
    (by decide +kernel)
  have none : ∀ event ∈ (TokenSystem.run [.begin 1 ⟨"app", "right", 60⟩ 0, .enter 1 0,
      .succeed 1 "token" 7200, .begin 2 ⟨"app", "wrong", 60⟩ 10]).history,
      event = .cached ⟨"app", "wrong", 60⟩ "token" 10 ∨ event = .started ⟨"app", "right", 60⟩ 0 ∨
        event = .fetched ⟨"app", "right", 60⟩ "token" 7200 := by decide +kernel
  rcases none _ mem with eq | eq | eq <;> simp at eq

end Orcheo.Listeners.AccessTokens
