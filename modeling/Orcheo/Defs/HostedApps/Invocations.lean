import Orcheo.Defs.HostedApps.RunLifecycle
import Orcheo.Lib.Book

/-! Invocations of hosted apps under idempotency keys: both services keep their answers as a book
does, so that a key is answered with one run while it is retained, and no two scopes with the
same run. -/

namespace Orcheo.HostedApps

open Lib (Dict Book Entry Move Run bind_ok_iff)

def Invocation.visitor (inv : Invocation) : Option Uuid × Option String :=
  match inv.sessionId with
  | some session => (some session, none)
  | none => (none, inv.anonymousVisitorId)

structure Invocation.SameScope (a b : Invocation) : Prop where
  appId : a.appId = b.appId
  releaseId : a.releaseId = b.releaseId
  binding : a.binding.id = b.binding.id
  visitor : a.visitor = b.visitor
  idempotencyKey : a.idempotencyKey = b.idempotencyKey

/-- `^[0-9a-f]{64}$` -/
def isVisitorDigest (id : String) : Bool :=
  id.length == 64 && id.toList.all (fun c => c.isDigit || decide ('a' ≤ c ∧ c ≤ 'f'))

/-- The anonymous visitor id of a `RuntimeAcceptRequest`. -/
def Invocation.ofGateway (inv : Invocation) : Bool :=
  inv.anonymousVisitorId.any isVisitorDigest

def Invocation.scopeText (inv : Invocation) (owner : String) : String :=
  String.intercalate "|"
    [toString inv.appId, toString inv.releaseId, toString inv.binding.id, owner,
      inv.idempotencyKey]

section Scopes

variable {rt : RuntimeHost} {config : RuntimeConfig} {a b inv : Invocation}

theorem Invocation.admission_ok {scope request : String}
    (admitted : inv.admission rt config = .ok (scope, request)) :
    ∃ owner encoded, inv.owner = .ok owner ∧ scope = rt.hash (inv.scopeText owner) ∧
      rt.canonicalJson inv.payload = some encoded ∧ request = rt.hash encoded := by
  unfold Invocation.admission at admitted
  obtain ⟨-, -, admitted⟩ := bind_ok_iff.mp admitted
  obtain ⟨-, -, admitted⟩ := bind_ok_iff.mp admitted
  obtain ⟨-, -, admitted⟩ := bind_ok_iff.mp admitted
  cases text : rt.canonicalJson inv.payload with
  | none =>
    rw [text] at admitted
    cases admitted
  | some encoded =>
    rw [text] at admitted
    obtain ⟨_, unpacked, admitted⟩ := bind_ok_iff.mp admitted
    cases unpacked
    obtain ⟨-, -, admitted⟩ := bind_ok_iff.mp admitted
    obtain ⟨-, -, admitted⟩ := bind_ok_iff.mp admitted
    obtain ⟨owner, owned, admitted⟩ := bind_ok_iff.mp admitted
    cases admitted
    exact ⟨owner, encoded, owned, rfl, rfl, rfl⟩

theorem toList_toString (id : Uuid) : (toString id).toList = Nat.toDigits 10 id :=
  Nat.toList_repr

theorem isDigit_of_mem_toString {id : Uuid} {c : Char} (mem : c ∈ (toString id).toList) :
    c.isDigit = true := by
  rw [toList_toString] at mem
  exact Nat.isDigit_of_mem_toDigits (by decide) (by decide) mem

theorem toString_uuid_inj {id id' : Uuid} (same : toString id = toString id') : id = id' := by
  have digits : Nat.toDigits 10 id = Nat.toDigits 10 id' := by
    rw [← toList_toString, ← toList_toString, same]
  calc id = Nat.ofDigitChars 10 (Nat.toDigits 10 id) 0 := Nat.ofDigitChars_ten_toDigits.symm
    _ = Nat.ofDigitChars 10 (Nat.toDigits 10 id') 0 := by rw [digits]
    _ = id' := Nat.ofDigitChars_ten_toDigits

theorem bar_not_mem_toString (id : Uuid) : '|' ∉ (toString id).toList := by
  intro mem
  have digit : '|'.isDigit = true := isDigit_of_mem_toString mem
  cases digit

theorem Invocation.owner_congr (same : a.visitor = b.visitor) : a.owner = b.owner := by
  unfold Invocation.visitor at same
  unfold Invocation.owner
  cases session : a.sessionId with
  | some _ => cases session' : b.sessionId <;> simp_all
  | none => cases session' : b.sessionId <;> simp_all

theorem toString_ne_anonymous (id : Uuid) (visitor : String) :
    toString id ≠ "anonymous:" ++ visitor := by
  intro same
  have mem : 'a' ∈ (toString id).toList := by simp [same]
  have digit : 'a'.isDigit = true := isDigit_of_mem_toString mem
  cases digit

variable {owner : String}

theorem Invocation.owner_ok (owned : inv.owner = .ok owner) :
    (∃ session, inv.visitor = (some session, none) ∧ owner = toString session) ∨
      ∃ visitor, inv.visitor = (none, some visitor) ∧ inv.anonymousVisitorId = some visitor ∧
        owner = "anonymous:" ++ visitor := by
  unfold Invocation.owner at owned
  unfold Invocation.visitor
  cases session_ : inv.sessionId with
  | some session =>
    simp only [session_, Except.ok.injEq] at owned
    exact Or.inl ⟨session, rfl, owned.symm⟩
  | none =>
    cases visitor : inv.anonymousVisitorId with
    | none => simp [session_, visitor] at owned
    | some visitor_ =>
      by_cases empty : visitor_ = ""
      · simp [session_, visitor, empty] at owned
      · simp only [session_, visitor, empty, if_false, Except.ok.injEq] at owned
        exact Or.inr ⟨visitor_, rfl, rfl, owned.symm⟩

theorem bar_not_mem_of_digest {id : String} (digest : isVisitorDigest id = true) :
    '|' ∉ id.toList := by
  intro mem
  simp only [isVisitorDigest, Bool.and_eq_true, List.all_eq_true] at digest
  have bar := digest.2 '|' mem
  revert bar
  decide

theorem Invocation.bar_not_mem_owner (gateway : inv.ofGateway = true)
    (owned : inv.owner = .ok owner) : '|' ∉ owner.toList := by
  cases owner_ok owned with
  | inl session =>
    obtain ⟨session, -, rfl⟩ := session
    exact bar_not_mem_toString session
  | inr anonymous =>
    obtain ⟨visitor, -, given, rfl⟩ := anonymous
    rw [ofGateway, given] at gateway
    simpa using bar_not_mem_of_digest gateway

theorem Invocation.visitor_of_owner (owned : a.owner = .ok owner) (owned' : b.owner = .ok owner) :
    a.visitor = b.visitor := by
  cases owner_ok owned with
  | inl session =>
    obtain ⟨session, is, rfl⟩ := session
    cases owner_ok owned' with
    | inl session' =>
      obtain ⟨session', is', same⟩ := session'
      rw [is, is', toString_uuid_inj same]
    | inr anonymous =>
      obtain ⟨visitor, -, -, same⟩ := anonymous
      exact absurd same (toString_ne_anonymous session visitor)
  | inr anonymous =>
    obtain ⟨visitor, is, -, rfl⟩ := anonymous
    cases owner_ok owned' with
    | inl session' =>
      obtain ⟨session', -, same⟩ := session'
      exact absurd same.symm (toString_ne_anonymous session' visitor)
    | inr anonymous' =>
      obtain ⟨visitor', is', -, same⟩ := anonymous'
      have equal : visitor = visitor' := by simpa using same
      rw [is, is', equal]

theorem join_cons_inj {sep : Char} {as bs xs ys : List Char} (ha : sep ∉ as) (hb : sep ∉ bs)
    (same : as ++ sep :: xs = bs ++ sep :: ys) : as = bs ∧ xs = ys := by
  induction as generalizing bs with
  | nil =>
    cases bs with
    | nil => simpa using same
    | cons b bs =>
      rw [List.nil_append, List.cons_append, List.cons.injEq] at same
      exact absurd (same.1 ▸ List.mem_cons_self) hb
  | cons a as ih =>
    cases bs with
    | nil =>
      rw [List.nil_append, List.cons_append, List.cons.injEq] at same
      exact absurd (same.1 ▸ List.mem_cons_self) ha
    | cons b bs =>
      rw [List.cons_append, List.cons_append, List.cons.injEq] at same
      rw [List.mem_cons, not_or] at ha hb
      obtain ⟨parts, rest⟩ := ih ha.2 hb.2 same.2
      exact ⟨by rw [same.1, parts], rest⟩

theorem Invocation.toList_scopeText (inv : Invocation) (owner : String) :
    (inv.scopeText owner).toList = (toString inv.appId).toList ++ '|' ::
      ((toString inv.releaseId).toList ++ '|' :: ((toString inv.binding.id).toList ++ '|' ::
        (owner.toList ++ '|' :: inv.idempotencyKey.toList))) := by
  simp [scopeText]

theorem Invocation.scopeText_congr (same : a.SameScope b) :
    a.scopeText owner = b.scopeText owner := by
  simp [scopeText, same.appId, same.releaseId, same.binding, same.idempotencyKey]

theorem Invocation.sameScope_of_text {owner' : String} (gateway : a.ofGateway = true)
    (gateway' : b.ofGateway = true) (owned : a.owner = .ok owner) (owned' : b.owner = .ok owner')
    (same : a.scopeText owner = b.scopeText owner') : a.SameScope b := by
  have chars := congrArg String.toList same
  rw [toList_scopeText, toList_scopeText] at chars
  obtain ⟨app, chars⟩ := join_cons_inj (bar_not_mem_toString _) (bar_not_mem_toString _) chars
  obtain ⟨release, chars⟩ := join_cons_inj (bar_not_mem_toString _) (bar_not_mem_toString _) chars
  obtain ⟨binding, chars⟩ := join_cons_inj (bar_not_mem_toString _) (bar_not_mem_toString _) chars
  obtain ⟨owner_eq, key⟩ := join_cons_inj (bar_not_mem_owner gateway owned)
    (bar_not_mem_owner gateway' owned') chars
  rw [← String.toList_inj.mp owner_eq] at owned'
  constructor
  case appId => exact toString_uuid_inj (String.toList_inj.mp app)
  case releaseId => exact toString_uuid_inj (String.toList_inj.mp release)
  case binding => exact toString_uuid_inj (String.toList_inj.mp binding)
  case visitor => exact visitor_of_owner owned owned'
  case idempotencyKey => exact String.toList_inj.mp key

end Scopes

structure RuntimeService where
  State : Type
  start : State
  step : State → Instant × RuntimeCall → State
  accept : State → Instant → String → Invocation → Except AppRuntimeError AppRuntimeResult
  run : State → String → Option AppRun

inductive RuntimeBackend
  | memory
  | postgres

def RuntimeBackend.service (rt : RuntimeHost) (config : RuntimeConfig) :
    RuntimeBackend → RuntimeService
  | .memory =>
    { State := AppRuntimeService
      start := {}
      step := AppRuntimeService.step rt config
      accept := fun svc now handle inv => (svc.accept rt config now handle inv).2
      run := fun svc handle => svc.runs.get? handle }
  | .postgres =>
    { State := PostgresAppRuntimeService
      start := {}
      step := PostgresAppRuntimeService.step rt config
      accept := fun svc now handle inv => (svc.accept rt config now handle inv).2
      run := fun svc handle => (svc.runs.get? handle).map (·.run) }

abbrev AnswerBook := Book String String String Instant

def answers (idempotency : Dict String (String × String × Instant)) : AnswerBook :=
  fun scope => (idempotency.get? scope).map (fun prior => ⟨prior.1, prior.2.1, prior.2.2⟩)

def drawnTokens : Instant × RuntimeCall → List String
  | (_, .accept handle _) => [handle]
  | (_, .run _ _) => []

def moveOf (rt : RuntimeHost) (config : RuntimeConfig) :
    Instant × RuntimeCall → Move String String Instant
  | (now, .accept handle inv) => match inv.admission rt config with
    | .ok (scope, _) => { now := now, draw := some (scope, handle) }
    | .error _ => { now := now }
  | (now, .run _ _) => { now := now }

def Replays (entry : Entry String String Instant) (request : String)
    (answer : Except AppRuntimeError AppRuntimeResult) : Prop :=
  if entry.request = request then
    ∃ r, answer = .ok r ∧ r.handle = entry.token ∧ r.newlyAccepted = false
  else answer = .error (.conflict "Idempotency-Key was already used for a different request.")

/-- A service answers from a book; what it knows of its runs depends on the tokens that were
drawn. -/
structure RuntimeService.KeepsBook (rt : RuntimeHost) (config : RuntimeConfig)
    (service : RuntimeService) (book : service.State → AnswerBook)
    (Tracked : List String → service.State → Prop) : Prop where
  start : book service.start = Book.empty ∧ Tracked [] service.start
  tracked : ∀ used s c, Tracked used s → (∀ t ∈ drawnTokens c, t ∉ used) →
    Tracked (used ++ drawnTokens c) (service.step s c)
  advance : ∀ used s c, Tracked used s → (book s).Advance (moveOf rt config c)
    (book (service.step s c))
  refused : ∀ s now handle inv e, inv.admission rt config = .error e →
    service.accept s now handle inv = .error e ∧
      service.run (service.step s (now, .accept handle inv)) = service.run s
  replayed : ∀ used s now handle inv scope request entry, Tracked used s →
    inv.admission rt config = .ok (scope, request) → book s scope = some entry → now < entry.expires →
    Replays entry request (service.accept s now handle inv) ∧
      ∀ h, service.run (service.step s (now, .accept handle inv)) h ≠ none → service.run s h ≠ none
  answered : ∀ used s now handle inv scope request r, Tracked used s →
    inv.admission rt config = .ok (scope, request) → service.accept s now handle inv = .ok r →
    ∃ entry, book (service.step s (now, .accept handle inv)) scope = some entry ∧
      entry.request = request ∧ entry.token = r.handle ∧
      (r.newlyAccepted = true → entry.expires = now + seconds config.handleTtl)

section Answers

variable {idempotency : Dict String (String × String × Instant)} {scope : String}

variable {entry : Entry String String Instant} {request : String}

theorem answers_eq_some_iff :
    answers idempotency scope = some entry ↔
      idempotency.get? scope = some (entry.request, entry.token, entry.expires) := by
  unfold answers
  cases idempotency.get? scope with
  | none => simp
  | some prior =>
    obtain ⟨request, token, expires⟩ := prior
    cases entry
    simp

theorem replay_replays (runs : String → Option AppRun) {run : AppRun}
    (stored : runs entry.token = some run) :
    Replays entry request (replay request runs (entry.request, entry.token, entry.expires)) := by
  unfold Replays
  by_cases same : entry.request = request
  · simp only [same, if_true]
    exact ⟨run.visitorResult entry.token, by simp [replay, stored], rfl, rfl⟩
  · simp [replay, same]

theorem request_of_replays {answer : Except AppRuntimeError AppRuntimeResult} {r : AppRuntimeResult}
    (replays : Replays entry request answer) (answered : answer = .ok r) :
    entry.request = request ∧ entry.token = r.handle ∧ r.newlyAccepted = false := by
  unfold Replays at replays
  by_cases same : entry.request = request
  · rw [if_pos same] at replays
    obtain ⟨r', is, handle, old⟩ := replays
    rw [answered, Except.ok.injEq] at is
    rw [is]
    exact ⟨same, handle.symm, old⟩
  · rw [if_neg same, answered] at replays
    cases replays

variable {kept : Dict String (String × String × Instant)}

theorem advance_kept {now : Instant} (iff : ∀ scope entry, answers kept scope = some entry ↔
      answers idempotency scope = some entry ∧ now < entry.expires)
    (draw : Option (String × String)) :
    (answers idempotency).Advance { now := now, draw := draw } (answers kept) where
  retains scope entry stored live := (iff scope entry).mpr ⟨stored, live⟩
  origin scope entry stored := Or.inl ((iff scope entry).mp stored).1

theorem advance_set {now expires : Instant} {handle : String}
    (iff : ∀ scope entry, answers kept scope = some entry ↔
      answers idempotency scope = some entry ∧ now < entry.expires)
    (absent : kept.get? scope = none) :
    (answers idempotency).Advance { now := now, draw := some (scope, handle) }
      (answers (kept.set scope (request, handle, expires))) := by
  constructor
  case retains =>
    intro scope' entry stored live
    have there := answers_eq_some_iff.mp ((iff scope' entry).mpr ⟨stored, live⟩)
    have other : scope' ≠ scope := by
      intro same
      rw [same, absent] at there
      cases there
    rw [answers_eq_some_iff, Dict.get?_set, if_neg other, there]
  case origin =>
    intro scope' entry stored
    rw [answers_eq_some_iff, Dict.get?_set] at stored
    by_cases here : scope' = scope
    · rw [if_pos here, Option.some.injEq, Prod.mk.injEq, Prod.mk.injEq] at stored
      exact Or.inr (by rw [here, stored.2.1])
    · rw [if_neg here, ← answers_eq_some_iff] at stored
      exact Or.inl ((iff scope' entry).mp stored).1

end Answers

namespace AppRuntimeService

variable {rt : RuntimeHost} {config : RuntimeConfig} {svc : AppRuntimeService} {now : Instant}
  {used : List String}

structure Tracked (used : List String) (svc : AppRuntimeService) : Prop where
  handles : ∀ h run, svc.runs.get? h = some run → h ∈ used
  priors : ∀ scope entry, answers svc.idempotency scope = some entry →
    ∃ run, svc.runs.get? entry.token = some run ∧ run.expiresAt = entry.expires

theorem Tracked.start : Tracked [] {} := by
  constructor
  case handles => intro h run stored; cases stored
  case priors => intro scope entry stored; cases stored

theorem get?_prune {h : String} {run : AppRun} :
    (svc.prune now).runs.get? h = some run ↔ svc.runs.get? h = some run ∧ now < run.expiresAt := by
  simp [prune, Option.filter_eq_some_iff]

theorem Tracked.answers_prune (tracked : Tracked used svc) {scope : String}
    {entry : Entry String String Instant} :
    answers (svc.prune now).idempotency scope = some entry ↔
      answers svc.idempotency scope = some entry ∧ now < entry.expires := by
  have kept : answers (svc.prune now).idempotency scope = some entry ↔
      answers svc.idempotency scope = some entry ∧ now < entry.expires ∧
        (svc.prune now).runs.contains entry.token = true := by
    simp [answers_eq_some_iff, prune, Option.filter_eq_some_iff]
  rw [kept]
  constructor
  · rintro ⟨stored, live, -⟩
    exact ⟨stored, live⟩
  · rintro ⟨stored, live⟩
    obtain ⟨run, started, expires⟩ := tracked.priors scope entry stored
    refine ⟨stored, live, ?_⟩
    rw [Dict.contains, get?_prune.mpr ⟨started, expires ▸ live⟩]
    rfl

theorem Tracked.prune (tracked : Tracked used svc) : Tracked used (svc.prune now) where
  handles h run stored := tracked.handles h run (get?_prune.mp stored).1
  priors scope entry stored := by
    obtain ⟨stored, live⟩ := tracked.answers_prune.mp stored
    obtain ⟨run, started, expires⟩ := tracked.priors scope entry stored
    exact ⟨run, get?_prune.mpr ⟨started, expires ▸ live⟩, expires⟩

theorem idempotency_enforceInvocationLimits (inv : Invocation) :
    (svc.enforceInvocationLimits now inv).1.idempotency = svc.idempotency := by
  unfold enforceInvocationLimits
  by_cases full : (inv.binding.limits.get? "max_concurrency").any
      (fun (limit : Int) => decide (limit ≤ svc.concurrent now inv)) = true
  · rw [if_pos full]
  · rw [if_neg full]
    cases inv.windows "" id with
    | error e => rfl
    | ok specs =>
      dsimp only
      split <;> rfl

theorem accept_cases (svc : AppRuntimeService) (now : Instant) (handle : String)
    {scope request : String} {inv : Invocation}
    (admitted : inv.admission rt config = .ok (scope, request)) :
    (∃ prior, (svc.prune now).idempotency.get? scope = some prior ∧
      svc.accept rt config now handle inv =
        (svc.prune now, replay request (svc.prune now).runs.get? prior)) ∨
    (svc.prune now).idempotency.get? scope = none ∧ ∃ svc',
      svc'.runs = (svc.prune now).runs ∧ svc'.idempotency = (svc.prune now).idempotency ∧
      ((∃ e, svc.accept rt config now handle inv = (svc', .error e)) ∨
        svc.accept rt config now handle inv =
          ({ svc' with
            runs := svc'.runs.set handle (inv.run config now)
            idempotency := svc'.idempotency.set scope
              (request, handle, now + seconds config.handleTtl) },
            .ok { handle := handle, status := .accepted, newlyAccepted := true })) := by
  simp only [accept, admitted]
  cases (svc.prune now).idempotency.get? scope with
  | some prior => exact Or.inl ⟨prior, rfl, rfl⟩
  | none =>
    refine Or.inr ⟨rfl, ((svc.prune now).enforceInvocationLimits now inv).1,
      runs_enforceInvocationLimits inv, idempotency_enforceInvocationLimits inv, ?_⟩
    cases limited : (svc.prune now).enforceInvocationLimits now inv with
    | mk svc' result =>
      cases result with
      | error e => exact Or.inl ⟨e, rfl⟩
      | ok _ => exact Or.inr rfl

theorem idempotency_call (handle : String) (call : RunCall) :
    (svc.step rt config (now, .run handle call)).idempotency = svc.idempotency := by
  cases stored : svc.runs.get? handle with
  | none => cases call <;> simp [step, status, complete, cancel, stored]
  | some run =>
    cases call with
    | status scope =>
      by_cases inScope : run.inScope now scope = false
      · simp [step, status, stored, inScope]
      · cases visitor : (run.applyTimeout now).ofVisitor scope <;>
          simp [step, status, stored, inScope, visitor]
    | complete output error => simp [step, complete, stored]
    | cancel => cases live : run.status.live <;> simp [step, cancel, stored, live]

theorem expiresAt_inMemory (run : AppRun) (call : RunCall) :
    (run.inMemory rt now call).expiresAt = run.expiresAt := by
  have timeout : (run.applyTimeout now).expiresAt = run.expiresAt := by
    unfold AppRun.applyTimeout
    split <;> rfl
  cases call with
  | status scope =>
    rw [AppRun.inMemory]
    split
    · exact timeout
    · rfl
  | cancel =>
    rw [AppRun.inMemory]
    split <;> rfl
  | complete output error =>
    rw [AppRun.inMemory, completeRun, ← timeout]
    split
    · rfl
    · split
      · rfl
      · dsimp only
        split
        · rfl
        · split <;> rfl

section

variable (tracked : Tracked used svc)
include tracked

theorem Tracked.call (handle : String) (call : RunCall) :
    Tracked used (svc.step rt config (now, .run handle call)) := by
  constructor
  case handles =>
    intro h run' stored
    rw [get?_step, Option.map_eq_some_iff] at stored
    obtain ⟨run, stored, -⟩ := stored
    exact tracked.handles h run stored
  case priors =>
    intro scope entry stored
    rw [idempotency_call] at stored
    obtain ⟨run, started, expires⟩ := tracked.priors scope entry stored
    rw [get?_step, started, Option.map_some]
    refine ⟨_, rfl, ?_⟩
    split
    · rw [expiresAt_inMemory, expires]
    · exact expires

theorem Tracked.mono {used' : List String} (sub : ∀ h ∈ used, h ∈ used') : Tracked used' svc where
  handles h run stored := sub h (tracked.handles h run stored)
  priors := tracked.priors

variable {svc' : AppRuntimeService}

theorem Tracked.congr
    (runs : svc'.runs = svc.runs) (idempotency : svc'.idempotency = svc.idempotency) :
    Tracked used svc' := by
  constructor
  case handles => rw [runs]; exact tracked.handles
  case priors => rw [runs, idempotency]; exact tracked.priors

theorem Tracked.started {handle scope request : String} {run : AppRun}
    (fresh : handle ∉ used) (runs : svc'.runs = svc.runs.set handle run)
    (idempotency : svc'.idempotency = svc.idempotency.set scope (request, handle, run.expiresAt)) :
    Tracked (used ++ [handle]) svc' := by
  constructor
  case handles =>
    intro h run' stored
    rw [runs, Dict.get?_set] at stored
    by_cases new : h = handle
    · simp [new]
    · rw [if_neg new] at stored
      exact List.mem_append_left _ (tracked.handles h run' stored)
  case priors =>
    intro scope' entry stored
    rw [answers_eq_some_iff, idempotency, Dict.get?_set] at stored
    rw [runs]
    by_cases here : scope' = scope
    · rw [if_pos here, Option.some.injEq, Prod.mk.injEq, Prod.mk.injEq] at stored
      refine ⟨run, ?_, stored.2.2⟩
      rw [← stored.2.1, Dict.get?_set, if_pos rfl]
    · rw [if_neg here, ← answers_eq_some_iff] at stored
      obtain ⟨run', started, expires⟩ := tracked.priors scope' entry stored
      have old : entry.token ≠ handle := by
        intro same
        rw [← same] at fresh
        exact fresh (tracked.handles _ _ started)
      exact ⟨run', by rw [Dict.get?_set, if_neg old, started], expires⟩

variable (c : Instant × RuntimeCall)

theorem Tracked.step (fresh : ∀ t ∈ drawnTokens c, t ∉ used) :
    Tracked (used ++ drawnTokens c) (svc.step rt config c) := by
  obtain ⟨now, call⟩ := c
  cases call with
  | run handle call => simpa [drawnTokens] using tracked.call handle call
  | accept handle inv =>
    have more : Tracked (used ++ [handle]) svc :=
      tracked.mono (fun h mem => List.mem_append_left _ mem)
    rw [AppRuntimeService.step, drawnTokens]
    cases admitted : inv.admission rt config with
    | error e => simpa [accept, admitted] using more
    | ok hashes =>
      obtain ⟨scope, request⟩ := hashes
      cases accept_cases svc now handle admitted with
      | inl kept =>
        obtain ⟨prior, -, is⟩ := kept
        simpa only [is] using more.prune
      | inr new =>
        obtain ⟨-, svc', runs, idempotency, outcome⟩ := new
        cases outcome with
        | inl refused =>
          obtain ⟨e, is⟩ := refused
          simpa only [is] using more.prune.congr runs idempotency
        | inr accepted =>
          simp only [accepted]
          apply tracked.prune.started (fresh handle List.mem_cons_self)
          case runs => rw [runs]
          case idempotency => rw [idempotency]; rfl

theorem advance : (answers svc.idempotency).Advance (moveOf rt config c)
      (answers (svc.step rt config c).idempotency) := by
  obtain ⟨now, call⟩ := c
  cases call with
  | run handle call =>
    rw [idempotency_call]
    exact Book.Advance.same _
  | accept handle inv =>
    rw [AppRuntimeService.step, moveOf]
    cases admitted : inv.admission rt config with
    | error e =>
      simp only [accept, admitted]
      exact Book.Advance.same _
    | ok hashes =>
      obtain ⟨scope, request⟩ := hashes
      have kept (scope : String) (entry : Entry String String Instant) :
          answers (svc.prune now).idempotency scope = some entry ↔
            answers svc.idempotency scope = some entry ∧ now < entry.expires :=
        tracked.answers_prune
      cases accept_cases svc now handle admitted with
      | inl found =>
        obtain ⟨prior, -, is⟩ := found
        simp only [is]
        exact advance_kept kept _
      | inr new =>
        obtain ⟨absent, svc', runs, idempotency, outcome⟩ := new
        cases outcome with
        | inl refused =>
          obtain ⟨e, is⟩ := refused
          simp only [is, idempotency]
          exact advance_kept kept _
        | inr accepted =>
          simp only [accepted, idempotency]
          exact advance_set kept absent

end

theorem keepsBook (rt : RuntimeHost) (config : RuntimeConfig) :
    (RuntimeBackend.service rt config .memory).KeepsBook rt config
      (fun svc => answers svc.idempotency) Tracked := by
  constructor
  case start => exact ⟨rfl, Tracked.start⟩
  case tracked => exact fun used svc c tracked fresh => tracked.step c fresh
  case advance => exact fun used svc c tracked => advance tracked c
  case refused =>
    intro svc now handle inv e refused
    simp [RuntimeBackend.service, step, accept, refused]
  case replayed =>
    intro used svc now handle inv scope request entry tracked admitted stored live
    have kept := tracked.answers_prune.mpr ⟨stored, live⟩
    obtain ⟨run, started, -⟩ := tracked.prune.priors scope entry kept
    simp only [RuntimeBackend.service, step]
    cases accept_cases svc now handle admitted with
    | inl found =>
      obtain ⟨prior, found, is⟩ := found
      rw [answers_eq_some_iff.mp kept, Option.some.injEq] at found
      rw [is, ← found]
      refine ⟨replay_replays _ started, ?_⟩
      intro h there
      obtain ⟨run, there⟩ := Option.ne_none_iff_exists'.mp there
      rw [(get?_prune.mp there).1]
      exact Option.some_ne_none run
    | inr new =>
      rw [answers_eq_some_iff.mp kept] at new
      cases new.1
  case answered =>
    intro used svc now handle inv scope request r tracked admitted answered
    simp only [RuntimeBackend.service, step] at answered ⊢
    cases accept_cases svc now handle admitted with
    | inl found =>
      obtain ⟨⟨request', token, expires⟩, found, is⟩ := found
      have kept : answers (svc.prune now).idempotency scope = some ⟨request', token, expires⟩ :=
        answers_eq_some_iff.mpr found
      obtain ⟨run, started, -⟩ := tracked.prune.priors scope _ kept
      rw [is] at answered ⊢
      obtain ⟨same, token_eq, old⟩ := request_of_replays (replay_replays _ started) answered
      refine ⟨_, kept, same, token_eq, ?_⟩
      intro newly
      rw [old] at newly
      cases newly
    | inr new =>
      obtain ⟨-, svc', -, -, outcome⟩ := new
      cases outcome with
      | inl refused =>
        obtain ⟨e, is⟩ := refused
        rw [is] at answered
        cases answered
      | inr accepted =>
        rw [accepted] at answered ⊢
        cases answered
        refine ⟨⟨request, handle, now + seconds config.handleTtl⟩, ?_, rfl, rfl, fun _ => rfl⟩
        rw [answers_eq_some_iff, Dict.get?_set, if_pos rfl]

end AppRuntimeService

namespace PostgresAppRuntimeService

variable {rt : RuntimeHost} {config : RuntimeConfig} {svc : PostgresAppRuntimeService}
  {now : Instant} {used : List String}

def Tracked (svc : PostgresAppRuntimeService) : Prop :=
  ∀ scope entry, answers svc.idempotency scope = some entry →
    ∃ row, svc.runs.get? entry.token = some row

def unexpired (svc : PostgresAppRuntimeService) (now : Instant) :
    Dict String (String × String × Instant) :=
  svc.idempotency.filter (fun _ prior => decide (now < prior.2.2))

theorem answers_unexpired {scope : String} {entry : Entry String String Instant} :
    answers (svc.unexpired now) scope = some entry ↔
      answers svc.idempotency scope = some entry ∧ now < entry.expires := by
  simp [answers_eq_some_iff, unexpired, Option.filter_eq_some_iff]

theorem idempotency_reserveLimit {workspaceId : Uuid} {operation message : String} {limit : Int}
    {expiresAt : Instant} {reserved : PostgresAppRuntimeService × Uuid}
    (h : reserveLimit svc now workspaceId operation limit expiresAt message = .ok reserved) :
    reserved.1.idempotency = svc.idempotency := by
  unfold reserveLimit at h
  dsimp only at h
  split at h
  case isTrue => cases h
  case isFalse =>
    cases h
    rfl

variable {inv : Invocation}

theorem idempotency_reserveLimits {timeoutAt : Instant}
    {reserved : PostgresAppRuntimeService × List Uuid}
    (h : reserveLimits rt svc now inv timeoutAt = .ok reserved) :
    reserved.1.idempotency = svc.idempotency := by
  unfold reserveLimits at h
  obtain ⟨specs, _, h⟩ := bind_ok_iff.mp h
  obtain ⟨svc₁, windows, h⟩ := bind_ok_iff.mp h
  have same : svc₁.idempotency = svc.idempotency := by
    apply Lib.foldlM_ok_invariant (P := fun svc₁ => svc₁.idempotency = svc.idempotency) _ rfl
      windows
    intro svc₁ spec svc₂ same h
    obtain ⟨_, reserved, h⟩ := bind_ok_iff.mp h
    cases h
    exact (idempotency_reserveLimit reserved).trans same
  cases limited : inv.binding.limits.get? "max_concurrency" with
  | none =>
    rw [limited] at h
    cases h
    exact same
  | some limit =>
    rw [limited] at h
    obtain ⟨_, reserved, h⟩ := bind_ok_iff.mp h
    cases h
    exact (idempotency_reserveLimit reserved).trans same

variable {request : String}

theorem acceptIn_of_stored {handle scope : String}
    {prior : String × String × Instant} {row : RuntimeRow}
    (stored : (svc.unexpired now).get? scope = some prior)
    (started : svc.runs.get? prior.2.1 = some row) :
    acceptIn rt config svc now handle scope request inv =
      (replay request (fun h => (svc.runs.get? h).map (·.run)) prior).map
        (fun result => ({ svc with idempotency := svc.unexpired now }, result)) := by
  have found : ((svc.unexpired now).get? scope).filter
      (fun prior => svc.runs.contains prior.2.1) = some prior := by
    simp [stored, Option.filter, Dict.contains, started]
  unfold acceptIn
  unfold unexpired at found
  simp only [found]
  cases replay request (fun h => (svc.runs.get? h).map (·.run)) prior <;> rfl

theorem acceptIn_of_missing {handle scope : String}
    (missing : ∀ prior row, (svc.unexpired now).get? scope = some prior →
      svc.runs.get? prior.2.1 ≠ some row) :
    (∃ e, acceptIn rt config svc now handle scope request inv = .error e) ∨
      ∃ svc' leases, svc'.runs = svc.runs.set handle ⟨inv.run config now, leases⟩ ∧
        svc'.idempotency =
          (svc.unexpired now).set scope (request, handle, now + seconds config.handleTtl) ∧
        acceptIn rt config svc now handle scope request inv =
          .ok (svc', { handle := handle, status := .accepted, newlyAccepted := true }) := by
  have found : ((svc.unexpired now).get? scope).filter
      (fun prior => svc.runs.contains prior.2.1) = none := by
    rw [Option.filter_eq_none_iff]
    intro prior stored there
    obtain ⟨row, started⟩ := Option.isSome_iff_exists.mp there
    exact missing prior row stored started
  cases attempt : acceptIn rt config svc now handle scope request inv with
  | error e => exact Or.inl ⟨e, rfl⟩
  | ok outcome =>
    apply Or.inr
    unfold acceptIn at attempt
    unfold unexpired at found
    simp only [found] at attempt
    obtain ⟨⟨svc₁, leaseIds⟩, reserved, attempt⟩ := bind_ok_iff.mp attempt
    have runs : svc₁.runs = svc.runs := runs_reserveLimits reserved
    have idempotency : svc₁.idempotency = svc.unexpired now := idempotency_reserveLimits reserved
    by_cases refused : svc₁.runs.contains handle = true ∨
        rt.storesJson (.obj (inv.run config now).outputProjection) = false
    · rw [if_pos refused] at attempt
      cases attempt
    · rw [if_neg refused] at attempt
      cases attempt
      refine ⟨_, leaseIds, ?_, ?_, rfl⟩
      · simp only [runs]
      · simp only [idempotency]
        rfl

theorem accept_cases (svc : PostgresAppRuntimeService) (now : Instant) (handle : String)
    {scope : String}
    (admitted : inv.admission rt config = .ok (scope, request)) :
    (∃ prior row svc', (svc.unexpired now).get? scope = some prior ∧
      svc.runs.get? prior.2.1 = some row ∧ svc'.runs = svc.runs ∧
      (svc'.idempotency = svc.unexpired now ∨ svc'.idempotency = svc.idempotency) ∧
      svc.accept rt config now handle inv =
        (svc', replay request (fun h => (svc.runs.get? h).map (·.run)) prior)) ∨
    (∀ prior row, (svc.unexpired now).get? scope = some prior →
      svc.runs.get? prior.2.1 ≠ some row) ∧
      ((∃ e, svc.accept rt config now handle inv = (svc, .error e)) ∨
        ∃ svc' leases, svc'.runs = svc.runs.set handle ⟨inv.run config now, leases⟩ ∧
          svc'.idempotency =
            (svc.unexpired now).set scope (request, handle, now + seconds config.handleTtl) ∧
          svc.accept rt config now handle inv =
            (svc', .ok { handle := handle, status := .accepted, newlyAccepted := true })) := by
  by_cases kept : ∃ prior row, (svc.unexpired now).get? scope = some prior ∧
      svc.runs.get? prior.2.1 = some row
  · obtain ⟨prior, row, stored, started⟩ := kept
    refine Or.inl ⟨prior, row, ?_⟩
    simp only [accept, admitted, acceptIn_of_stored stored started]
    cases replay request (fun h => (svc.runs.get? h).map (·.run)) prior with
    | error e => exact ⟨svc, stored, started, rfl, Or.inr rfl, rfl⟩
    | ok r =>
      exact ⟨{ svc with idempotency := svc.unexpired now }, stored, started, rfl, Or.inl rfl, rfl⟩
  · have missing (prior : String × String × Instant) (row : RuntimeRow)
        (stored : (svc.unexpired now).get? scope = some prior) :
        svc.runs.get? prior.2.1 ≠ some row :=
      fun started => kept ⟨prior, row, stored, started⟩
    refine Or.inr ⟨missing, ?_⟩
    simp only [accept, admitted]
    cases acceptIn_of_missing missing with
    | inl refused =>
      obtain ⟨e, is⟩ := refused
      exact Or.inl ⟨e, by rw [is]⟩
    | inr accepted =>
      obtain ⟨svc', leases, runs, idempotency, is⟩ := accepted
      exact Or.inr ⟨svc', leases, runs, idempotency, by rw [is]⟩

theorem idempotency_write (handle : String) (row : RuntimeRow) (run : Option AppRun) :
    (svc.write now handle row run).idempotency = svc.idempotency := by
  cases run <;> rfl

theorem idempotency_call (handle : String) (call : RunCall) :
    (svc.step rt config (now, .run handle call)).idempotency = svc.idempotency := by
  cases stored : svc.runs.get? handle with
  | none => cases call <;> simp [step, status, complete, cancel, stored]
  | some row =>
    cases call with
    | status scope =>
      by_cases refused : row.run.inScope now scope = false ∨ row.run.ofVisitor scope = false
      · simp [step, status, stored, refused]
      · simp [step, status, stored, refused, idempotency_write]
    | complete output error =>
      cases settled : settle rt now output error row.run <;>
        simp [step, complete, stored, settled, idempotency_write]
    | cancel => cases live : row.run.status.live <;>
        simp [step, cancel, stored, live, idempotency_write]

theorem Tracked.accept {handle : String} (tracked : Tracked svc) :
    Tracked (svc.step rt config (now, .accept handle inv)) := by
  rw [PostgresAppRuntimeService.step]
  cases admitted : inv.admission rt config with
  | error e => simpa [PostgresAppRuntimeService.accept, admitted] using tracked
  | ok hashes =>
    obtain ⟨scope, request⟩ := hashes
    cases accept_cases svc now handle admitted with
    | inl found =>
      obtain ⟨prior, row, svc', -, -, runs, idempotency, is⟩ := found
      simp only [is]
      intro scope' entry stored
      rw [runs]
      cases idempotency with
      | inl left_ =>
        rw [left_] at stored
        exact tracked scope' entry (answers_unexpired.mp stored).1
      | inr same =>
        rw [same] at stored
        exact tracked scope' entry stored
    | inr new =>
      cases new.2 with
      | inl refused =>
        obtain ⟨e, is⟩ := refused
        simpa only [is] using tracked
      | inr accepted =>
        obtain ⟨svc', leases, runs, idempotency, is⟩ := accepted
        simp only [is]
        intro scope' entry stored
        rw [runs, Dict.get?_set]
        by_cases mine : entry.token = handle
        · exact ⟨_, if_pos mine⟩
        · rw [if_neg mine]
          rw [answers_eq_some_iff, idempotency, Dict.get?_set] at stored
          by_cases here : scope' = scope
          · rw [if_pos here, Option.some.injEq, Prod.mk.injEq, Prod.mk.injEq] at stored
            exact absurd stored.2.1.symm mine
          · rw [if_neg here, ← answers_eq_some_iff] at stored
            exact tracked scope' entry (answers_unexpired.mp stored).1

theorem Tracked.step (tracked : Tracked svc) (c : Instant × RuntimeCall) :
    Tracked (svc.step rt config c) := by
  obtain ⟨now, call⟩ := c
  cases call with
  | accept handle inv => exact tracked.accept
  | run handle call =>
    intro scope entry stored
    rw [idempotency_call] at stored
    obtain ⟨row, started⟩ := tracked scope entry stored
    rw [get?_step, started]
    exact ⟨_, rfl⟩

theorem Tracked.absent (tracked : Tracked svc) {scope : String}
    (missing : ∀ prior row, (svc.unexpired now).get? scope = some prior →
      svc.runs.get? prior.2.1 ≠ some row) : (svc.unexpired now).get? scope = none := by
  cases found : (svc.unexpired now).get? scope with
  | none => rfl
  | some prior =>
    have kept : answers (svc.unexpired now) scope = some ⟨prior.1, prior.2.1, prior.2.2⟩ :=
      answers_eq_some_iff.mpr found
    obtain ⟨row, started⟩ := tracked scope _ (answers_unexpired.mp kept).1
    exact absurd started (missing prior row found)

theorem advance (tracked : Tracked svc) (c : Instant × RuntimeCall) :
    (answers svc.idempotency).Advance (moveOf rt config c)
      (answers (svc.step rt config c).idempotency) := by
  obtain ⟨now, call⟩ := c
  cases call with
  | run handle call =>
    rw [idempotency_call]
    exact Book.Advance.same _
  | accept handle inv =>
    rw [PostgresAppRuntimeService.step, moveOf]
    cases admitted : inv.admission rt config with
    | error e =>
      simp only [accept, admitted]
      exact Book.Advance.same _
    | ok hashes =>
      obtain ⟨scope, request⟩ := hashes
      cases accept_cases svc now handle admitted with
      | inl found =>
        obtain ⟨prior, row, svc', -, -, -, idempotency, is⟩ := found
        simp only [is]
        cases idempotency with
        | inl left_ =>
          rw [left_]
          exact advance_kept (fun _ _ => answers_unexpired) _
        | inr same =>
          rw [same]
          exact Book.Advance.same _
      | inr new =>
        obtain ⟨missing, outcome⟩ := new
        cases outcome with
        | inl refused =>
          obtain ⟨e, is⟩ := refused
          simp only [is]
          exact Book.Advance.same _
        | inr accepted =>
          obtain ⟨svc', leases, runs, idempotency, is⟩ := accepted
          simp only [is, idempotency]
          exact advance_set (fun _ _ => answers_unexpired) (tracked.absent missing)

theorem keepsBook (rt : RuntimeHost) (config : RuntimeConfig) :
    (RuntimeBackend.service rt config .postgres).KeepsBook rt config
      (fun svc => answers svc.idempotency) (fun _ svc => Tracked svc) := by
  constructor
  case start =>
    refine ⟨rfl, ?_⟩
    intro scope entry stored
    cases stored
  case tracked => exact fun used svc c tracked fresh => tracked.step c
  case advance => exact fun used svc c tracked => advance tracked c
  case refused =>
    intro svc now handle inv e refused
    simp [RuntimeBackend.service, step, accept, refused]
  case replayed =>
    intro used svc now handle inv scope request entry tracked admitted stored live
    have kept := answers_unexpired.mpr ⟨stored, live⟩
    obtain ⟨row, started⟩ := tracked scope entry stored
    simp only [RuntimeBackend.service, step]
    cases accept_cases svc now handle admitted with
    | inl found =>
      obtain ⟨prior, row', svc', found, -, runs, -, is⟩ := found
      rw [answers_eq_some_iff.mp kept, Option.some.injEq] at found
      rw [is, ← found, runs]
      have begun : (svc.runs.get? entry.token).map (·.run) = some row.run := by
        rw [started, Option.map_some]
      exact ⟨replay_replays (fun h => (svc.runs.get? h).map (·.run)) begun, fun _ there => there⟩
    | inr new => exact absurd started (new.1 _ row (answers_eq_some_iff.mp kept))
  case answered =>
    intro used svc now handle inv scope request r tracked admitted answered
    simp only [RuntimeBackend.service, step] at answered ⊢
    cases accept_cases svc now handle admitted with
    | inl found =>
      obtain ⟨⟨request', token, expires⟩, row, svc', found, started, runs, idempotency, is⟩ := found
      have kept : answers (svc.unexpired now) scope = some ⟨request', token, expires⟩ :=
        answers_eq_some_iff.mpr found
      rw [is] at answered ⊢
      have begun : (svc.runs.get? token).map (·.run) = some row.run := by
        rw [started, Option.map_some]
      have replays : Replays ⟨request', token, expires⟩ request _ :=
        replay_replays (fun h => (svc.runs.get? h).map (·.run)) begun
      obtain ⟨same, token_eq, old⟩ := request_of_replays replays answered
      have stored : answers svc'.idempotency scope = some ⟨request', token, expires⟩ := by
        cases idempotency with
        | inl left_ => rw [left_, kept]
        | inr unchanged => rw [unchanged, (answers_unexpired.mp kept).1]
      refine ⟨_, stored, same, token_eq, ?_⟩
      intro newly
      rw [old] at newly
      cases newly
    | inr new =>
      cases new.2 with
      | inl refused =>
        obtain ⟨e, is⟩ := refused
        rw [is] at answered
        cases answered
      | inr accepted =>
        obtain ⟨svc', leases, runs, idempotency, is⟩ := accepted
        rw [is] at answered ⊢
        cases answered
        refine ⟨⟨request, handle, now + seconds config.handleTtl⟩, ?_, rfl, rfl, fun _ => rfl⟩
        rw [answers_eq_some_iff, idempotency, Dict.get?_set, if_pos rfl]

end PostgresAppRuntimeService

/-- The answer to an invocation whose key has the run `r` of `first`: the same run for the same
request, and no other run is started. -/
structure RuntimeService.AnswersAgain (rt : RuntimeHost) (config : RuntimeConfig)
    (service : RuntimeService) (s : service.State) (now : Instant) (handle : String)
    (inv first : Invocation) (r : AppRuntimeResult) : Prop where
  refused : ∀ e, inv.admission rt config = .error e → service.accept s now handle inv = .error e
  same : ∀ hashes, inv.admission rt config = .ok hashes →
    rt.canonicalJson inv.payload = rt.canonicalJson first.payload →
    ∃ r', service.accept s now handle inv = .ok r' ∧ r'.handle = r.handle ∧
      r'.newlyAccepted = false
  conflict : ∀ hashes, inv.admission rt config = .ok hashes →
    rt.canonicalJson inv.payload ≠ rt.canonicalJson first.payload →
    service.accept s now handle inv =
      .error (.conflict "Idempotency-Key was already used for a different request.")
  once : ∀ h, service.run (service.step s (now, .accept handle inv)) h ≠ none →
    service.run s h ≠ none

section Services

variable {rt : RuntimeHost} {config : RuntimeConfig} {service : RuntimeService}
  {book : service.State → AnswerBook} {Tracked : List String → service.State → Prop}
  {used : List String}

theorem drawn_moves_sublist (rt : RuntimeHost) (config : RuntimeConfig)
    (calls : List (Instant × RuntimeCall)) :
    (Book.drawn (calls.map (moveOf rt config))).Sublist (calls.flatMap drawnTokens) := by
  induction calls with
  | nil => exact List.Sublist.slnil
  | cons c calls ih =>
    rw [List.map_cons, Book.drawn_cons, List.flatMap_cons]
    apply List.Sublist.append _ ih
    obtain ⟨now, call⟩ := c
    cases call with
    | run handle call => simp [Book.drawn, moveOf, drawnTokens]
    | accept handle inv =>
      cases admitted : inv.admission rt config <;> simp [Book.drawn, moveOf, drawnTokens, admitted]

variable {s : service.State}

theorem RuntimeService.KeepsBook.run (keeps : service.KeepsBook rt config book Tracked)
    (calls : List (Instant × RuntimeCall)) (tracked : Tracked used s)
    (fresh : (used ++ calls.flatMap drawnTokens).Nodup) :
    Tracked (used ++ calls.flatMap drawnTokens) (calls.foldl service.step s) ∧
      Run Book.Advance (book s) (calls.map (moveOf rt config))
        (book (calls.foldl service.step s)) := by
  induction calls generalizing s used with
  | nil => exact ⟨by simpa using tracked, .nil⟩
  | cons c calls ih =>
    rw [List.flatMap_cons, ← List.append_assoc] at fresh ⊢
    have first := (List.nodup_append.mp fresh).1
    have new : ∀ t ∈ drawnTokens c, t ∉ used :=
      fun t mem old => (List.nodup_append.mp first).2.2 t old t mem rfl
    obtain ⟨tracked', run⟩ := ih (keeps.tracked used s c tracked new) fresh
    exact ⟨tracked', .cons (keeps.advance used s c tracked) run⟩

theorem Invocation.admit_of_answered (keeps : service.KeepsBook rt config book Tracked)
    {now : Instant} {handle : String} {inv : Invocation} {r : AppRuntimeResult}
    (answered : service.accept s now handle inv = .ok r) :
    ∃ scope request, inv.admission rt config = .ok (scope, request) := by
  cases admitted : inv.admission rt config with
  | ok hashes => exact ⟨hashes.1, hashes.2, rfl⟩
  | error e =>
    rw [(keeps.refused s now handle inv e admitted).1] at answered
    cases answered

theorem Invocation.scope_congr {a b : Invocation} {hashes hashes' : String × String}
    (same : a.SameScope b) (admitted : a.admission rt config = .ok hashes)
    (admitted' : b.admission rt config = .ok hashes') : hashes'.1 = hashes.1 := by
  obtain ⟨owner, _, owned, scope, -, -⟩ := Invocation.admission_ok admitted
  obtain ⟨owner', _, owned', scope', -, -⟩ := Invocation.admission_ok admitted'
  rw [Invocation.owner_congr same.visitor, owned', Except.ok.injEq] at owned
  rw [scope, scope', owned, Invocation.scopeText_congr same]

theorem Invocation.request_eq_iff {a b : Invocation} {hashes hashes' : String × String}
    (injective : Function.Injective rt.hash) (admitted : a.admission rt config = .ok hashes)
    (admitted' : b.admission rt config = .ok hashes') :
    hashes.2 = hashes'.2 ↔ rt.canonicalJson b.payload = rt.canonicalJson a.payload := by
  obtain ⟨_, encoded, -, -, json, request⟩ := Invocation.admission_ok admitted
  obtain ⟨_, encoded', -, -, json', request'⟩ := Invocation.admission_ok admitted'
  rw [request, request', json, json', Option.some.injEq, injective.eq_iff, eq_comm]

variable {now now' : Instant} {handle handle' : String} {a b : Invocation} {r r' : AppRuntimeResult}

section

variable (keeps : service.KeepsBook rt config book Tracked) (injective : Function.Injective rt.hash)
include keeps injective

theorem RuntimeService.KeepsBook.answersAgain {s' : service.State} (tracked : Tracked used s)
    (answered : service.accept s now handle a = .ok r) (newly : r.newlyAccepted = true)
    {mid : List (Instant × RuntimeCall)} {used' : List String} (tracked' : Tracked used' s')
    (run : Run Book.Advance (book (service.step s (now, .accept handle a)))
      (mid.map (moveOf rt config)) (book s')) (same : a.SameScope b)
    (early : ∀ c ∈ mid, c.1 < now + seconds config.handleTtl)
    (early' : now' < now + seconds config.handleTtl) :
    service.AnswersAgain rt config s' now' handle' b a r := by
  obtain ⟨scope, request, admitted⟩ := Invocation.admit_of_answered keeps answered
  obtain ⟨entry, stored, of, token, expires⟩ := keeps.answered used s now handle a scope request r
    tracked admitted answered
  have moves : ∀ m ∈ mid.map (moveOf rt config), m.now < entry.expires := by
    intro m mem
    obtain ⟨c, here, rfl⟩ := List.mem_map.mp mem
    have now_eq : (moveOf rt config c).now = c.1 := by
      obtain ⟨t, call⟩ := c
      cases call with
      | run h call => rfl
      | accept h inv =>
        rw [moveOf]
        cases inv.admission rt config <;> rfl
    rw [now_eq, expires newly]
    exact early c here
  have kept : book s' scope = some entry := Book.Advance.retained run stored moves
  have live : now' < entry.expires := by rw [expires newly]; exact early'
  have found {hashes : String × String} (admitted' : b.admission rt config = .ok hashes) :
      Replays entry hashes.2 (service.accept s' now' handle' b) ∧
        ∀ h, service.run (service.step s' (now', .accept handle' b)) h ≠ none →
          service.run s' h ≠ none := by
    have scope_eq : hashes.1 = scope := Invocation.scope_congr same admitted admitted'
    exact keeps.replayed used' s' now' handle' b scope hashes.2 entry tracked'
      (by rw [admitted', ← scope_eq]) kept live
  constructor
  case refused => exact fun e refused => (keeps.refused s' now' handle' b e refused).1
  case same =>
    intro hashes admitted' payload
    have replays := (found admitted').1
    rw [Replays, of, if_pos ((Invocation.request_eq_iff injective admitted admitted').mpr payload),
      token] at replays
    exact replays
  case conflict =>
    intro hashes admitted' payload
    have replays := (found admitted').1
    rw [Replays, of, if_neg] at replays
    · exact replays
    · exact fun equal => payload ((Invocation.request_eq_iff injective admitted admitted').mp equal)
  case once =>
    cases admitted' : b.admission rt config with
    | ok hashes => exact (found admitted').2
    | error e =>
      rw [(keeps.refused s' now' handle' b e admitted').2]
      exact fun _ there => there

theorem RuntimeService.KeepsBook.sameScope {s' : service.State} (tracked : Tracked used s)
    (answered : service.accept s now handle a = .ok r) {used' : List String}
    (tracked' : Tracked used' s') (answered' : service.accept s' now' handle' b = .ok r')
    {ms ms' : List (Move String String Instant)}
    (first : Run Book.Advance Book.empty ms (book (service.step s (now, .accept handle a))))
    (later : Run Book.Advance (book (service.step s (now, .accept handle a))) ms'
      (book (service.step s' (now', .accept handle' b))))
    (fresh : (Book.drawn ms ++ Book.drawn ms').Nodup) (gateway : a.ofGateway = true)
    (gateway' : b.ofGateway = true) (same : r'.handle = r.handle) : a.SameScope b := by
  obtain ⟨scope, request, admitted⟩ := Invocation.admit_of_answered keeps answered
  obtain ⟨scope', request', admitted'⟩ := Invocation.admit_of_answered keeps answered'
  obtain ⟨entry, stored, -, token, -⟩ := keeps.answered used s now handle a scope request r tracked
    admitted answered
  obtain ⟨entry', stored', -, token', -⟩ := keeps.answered used' s' now' handle' b scope' request'
    r' tracked' admitted' answered'
  have one : scope' = scope := by
    apply Book.key_of_token first later fresh stored stored'
    rw [token, token', same]
  obtain ⟨owner, _, owned, hash, -, -⟩ := Invocation.admission_ok admitted
  obtain ⟨owner', _, owned', hash', -, -⟩ := Invocation.admission_ok admitted'
  have text : a.scopeText owner = b.scopeText owner' := by
    apply injective
    rw [← hash, ← hash', one]
  exact Invocation.sameScope_of_text gateway gateway' owned owned' text

theorem RuntimeService.KeepsBook.idempotent {pre mid : List (Instant × RuntimeCall)}
    (gateway : a.ofGateway = true) (gateway' : b.ofGateway = true)
    (fresh : (List.flatMap drawnTokens
      (pre ++ (now, .accept handle a) :: (mid ++ [(now', .accept handle' b)]))).Nodup)
    (answered : service.accept (pre.foldl service.step service.start) now handle a = .ok r) :
    (a.SameScope b → r.newlyAccepted = true →
      (∀ c ∈ mid, c.1 < now + seconds config.handleTtl) → now' < now + seconds config.handleTtl →
      service.AnswersAgain rt config
        ((pre ++ (now, .accept handle a) :: mid).foldl service.step service.start) now' handle' b
        a r) ∧
    (¬ a.SameScope b → ∀ r', service.accept
        ((pre ++ (now, .accept handle a) :: mid).foldl service.step service.start) now' handle' b =
      .ok r' → r'.handle ≠ r.handle) := by
  obtain ⟨empty, start⟩ := keeps.start
  have split_ : pre ++ (now, .accept handle a) :: (mid ++ [(now', .accept handle' b)]) =
      (pre ++ [(now, .accept handle a)]) ++ (mid ++ [(now', .accept handle' b)]) := by simp
  have between : (pre ++ (now, .accept handle a) :: mid).foldl service.step service.start =
      mid.foldl service.step (service.step (pre.foldl service.step service.start)
        (now, .accept handle a)) := by simp
  rw [split_, List.flatMap_append] at fresh
  have fresh₁ := (List.nodup_append.mp fresh).1
  have freshPre : (pre.flatMap drawnTokens).Nodup := by
    rw [List.flatMap_append] at fresh₁
    exact (List.nodup_append.mp fresh₁).1
  obtain ⟨tracked, -⟩ := keeps.run pre start (by simpa using freshPre)
  obtain ⟨tracked₁, run₁⟩ := keeps.run (pre ++ [(now, .accept handle a)]) start
    (by simpa using fresh₁)
  have freshMid : (List.flatMap drawnTokens (pre ++ [(now, .accept handle a)]) ++
      mid.flatMap drawnTokens).Nodup := by
    rw [@List.flatMap_append _ _ mid, ← List.append_assoc] at fresh
    exact (List.nodup_append.mp fresh).1
  rw [List.nil_append] at tracked tracked₁
  rw [List.foldl_append] at tracked₁ run₁
  obtain ⟨tracked', run'⟩ := keeps.run mid tracked₁ freshMid
  obtain ⟨-, run''⟩ := keeps.run (mid ++ [(now', .accept handle' b)]) tracked₁ fresh
  rw [between]
  constructor
  · intro same newly early early'
    exact keeps.answersAgain injective tracked answered newly tracked' run' same early early'
  · intro other r' answered' same
    apply other
    rw [empty] at run₁
    rw [List.foldl_append] at run''
    apply keeps.sameScope injective tracked answered tracked' answered' run₁ run'' _ gateway
      gateway' same
    exact fresh.sublist (List.Sublist.append (drawn_moves_sublist rt config _)
      (drawn_moves_sublist rt config _))

end

end Services

/-- Over every sequence of calls to either service, with tokens that are drawn once and a hash
without collisions: while the run of a new key is retained, the same scope is answered with it
and no other run, and two scopes are never answered with one run. -/
theorem invocations_idempotent (rt : RuntimeHost) (config : RuntimeConfig)
    (backend : RuntimeBackend) (injective : Function.Injective rt.hash)
    (pre mid : List (Instant × RuntimeCall)) (now now' : Instant) (handle handle' : String)
    (a b : Invocation) (gateway : a.ofGateway = true) (gateway' : b.ofGateway = true)
    (fresh : (List.flatMap drawnTokens
      (pre ++ (now, .accept handle a) :: (mid ++ [(now', .accept handle' b)]))).Nodup) :
    let service := backend.service rt config
    let s := pre.foldl service.step service.start
    let s' := (pre ++ (now, .accept handle a) :: mid).foldl service.step service.start
    ∀ r, service.accept s now handle a = .ok r →
      (a.SameScope b → r.newlyAccepted = true →
        (∀ c ∈ mid, c.1 < now + seconds config.handleTtl) →
        now' < now + seconds config.handleTtl →
        service.AnswersAgain rt config s' now' handle' b a r) ∧
      (¬ a.SameScope b → ∀ r', service.accept s' now' handle' b = .ok r' →
        r'.handle ≠ r.handle) := by
  intro service s s' r answered
  cases backend with
  | memory =>
    exact (AppRuntimeService.keepsBook rt config).idempotent injective gateway gateway' fresh
      answered
  | postgres =>
    exact (PostgresAppRuntimeService.keepsBook rt config).idempotent injective gateway gateway'
      fresh answered

def digestHost : RuntimeHost where
  canonicalJson value := match value with
    | .null => some "null"
    | _ => none
  hash text :=
    Equiv.swap "null" "74234e98afe7498fb5daf1f36ac2d78acc339464f950703b8c019892f982b90b"
      (Equiv.swap "2|3|5|7|key" "b3fdce5a2d458ea0d5599a825f272c02d5402adacaea25cd56349d0f363213b2"
        (Equiv.swap "2|3|5|11|key"
          "6f7aab79debf7f044da826055f094f6c8e8ef337831f75ccad48bbd2fbeb1a6e" text))
  validates _ _ := true
  storesJson _ := true

theorem digestHost_injective : Function.Injective digestHost.hash := by
  intro text text' same
  exact (Equiv.injective _) ((Equiv.injective _) ((Equiv.injective _) same))

def sessionInvocation (session : Uuid) : Invocation where
  binding := { id := 5, appId := 2, workspaceId := 1 }
  workspaceId := 1
  appId := 2
  releaseId := 3
  idempotencyKey := "key"
  runtimeGeneration := 0
  visitorUserId := some "ada"
  sessionId := some session
  anonymousVisitorId := some "0000000000000000000000000000000000000000000000000000000000000000"

theorem invocations_idempotent_retried :
    (RuntimeBackend.service digestHost {} .memory).AnswersAgain digestHost {}
      ((RuntimeBackend.service digestHost {} .memory).step {}
        (0, .accept "first" (sessionInvocation 7)))
      1 "second" (sessionInvocation 7) (sessionInvocation 7)
      { handle := "first", status := .accepted, newlyAccepted := true } :=
  (invocations_idempotent digestHost {} .memory digestHost_injective [] [] 0 1 "first" "second"
    (sessionInvocation 7) (sessionInvocation 7) rfl rfl (by decide) _ rfl).1
    ⟨rfl, rfl, rfl, rfl, rfl⟩ rfl (by simp) (by decide)

theorem key_reused_in_second_session : ¬ ∀ (rt : RuntimeHost) (config : RuntimeConfig)
    (backend : RuntimeBackend) (pre mid : List (Instant × RuntimeCall)) (now now' : Instant)
    (handle handle' : String) (a b : Invocation) (user : String),
    Function.Injective rt.hash → a.ofGateway = true → b.ofGateway = true →
    (List.flatMap drawnTokens
      (pre ++ (now, .accept handle a) :: (mid ++ [(now', .accept handle' b)]))).Nodup →
    a.appId = b.appId → a.releaseId = b.releaseId → a.binding.id = b.binding.id →
    a.visitorUserId = some user → b.visitorUserId = some user →
    a.idempotencyKey = b.idempotencyKey → a.payload = b.payload →
    (∀ c ∈ mid, c.1 < now + seconds config.handleTtl) → now' < now + seconds config.handleTtl →
    ∀ r r', (backend.service rt config).accept
        (pre.foldl (backend.service rt config).step (backend.service rt config).start) now handle
        a = .ok r → r.newlyAccepted = true →
      (backend.service rt config).accept ((pre ++ (now, .accept handle a) :: mid).foldl
        (backend.service rt config).step (backend.service rt config).start) now' handle' b =
        .ok r' → r'.handle = r.handle := by
  intro all
  have same := all digestHost {} .memory [] [] 0 1 "first" "second" (sessionInvocation 7)
    (sessionInvocation 11) "ada" digestHost_injective rfl rfl (by decide) rfl rfl rfl rfl rfl rfl
    rfl (by simp) (by decide) _ _ rfl rfl rfl
  revert same
  decide

end Orcheo.HostedApps
