import Orcheo.Defs.Identity.ServiceLaws

/-! A sign-in code is redeemed at most once, and never after too many wrong guesses. -/

namespace Orcheo.Identity

open Lib (Asked Dict Event)
open Lib.Server (DrawsFresh DrawsOnce)
open IdentityServer (step)

abbrev Answered := Asked IdentityOp.Answer

def addsChallenge : Answered → Option Uuid
  | ⟨.addChallenge c, .ok _⟩ => some c.id
  | _ => none

def redeems : Answered → Option Uuid
  | ⟨.consumeChallenge c _ _, .ok _⟩ => some c.id
  | _ => none

def countsGuess : Answered → Option Uuid
  | ⟨.incrementChallengeAttempts id _ _, .ok _⟩ => some id
  | _ => none

def challengeDraw : IdentityRequest → Option Uuid
  | .startChallenge _ id _ _ _ => some id
  | _ => none

section Effects

variable {rt : IdentityRuntime} {b : Backend}

inductive ChallengeEffect (d : Dict Uuid AuthEmailChallenge) :
    Answered → Dict Uuid AuthEmailChallenge → Prop
  | kept (added : addsChallenge a = none) (redeemed : redeems a = none)
      (counted : countsGuess a = none) : ChallengeEffect d a d
  | added {c answer : AuthEmailChallenge} :
    ChallengeEffect d ⟨.addChallenge c, .ok answer⟩ (d.set c.id c)
  | redeemed {c : AuthEmailChallenge} {consumedAt : Instant} {limit : Nat}
      {current answer : AuthEmailChallenge}
      (opened : openChallenge d c.id consumedAt limit = .ok current) :
    ChallengeEffect d ⟨.consumeChallenge c consumedAt limit, .ok answer⟩
      (d.set c.id { current with consumedAt := some consumedAt })
  | counted {challengeId : Uuid} {now : Instant} {limit : Nat}
      {current answer : AuthEmailChallenge}
      (opened : openChallenge d challengeId now limit = .ok current) :
    ChallengeEffect d ⟨.incrementChallengeAttempts challengeId now limit, .ok answer⟩
      (d.set challengeId { current with attempts := current.attempts + 1 })

theorem challengeEffect_exec (s : IdentityStore) (op : IdentityOp) :
    ChallengeEffect s.challenges ⟨op, (s.exec rt b op).1⟩ (s.exec rt b op).2.challenges := by
  cases op with
  | addChallenge c =>
    show ChallengeEffect _ ⟨.addChallenge c, (addChallenge b s.challenges c).1⟩
      (addChallenge b s.challenges c).2
    unfold addChallenge
    split
    next => exact .kept rfl rfl rfl
    next => exact .added
  | consumeChallenge c consumedAt limit =>
    show ChallengeEffect _
      ⟨.consumeChallenge c consumedAt limit, (consumeChallenge b s.challenges c consumedAt limit).1⟩
      (consumeChallenge b s.challenges c consumedAt limit).2
    unfold consumeChallenge
    split
    next => exact .kept rfl rfl rfl
    next current opened => exact .redeemed opened
  | incrementChallengeAttempts id now limit =>
    show ChallengeEffect _
      ⟨.incrementChallengeAttempts id now limit,
        (incrementChallengeAttempts s.challenges id now limit).1⟩
      (incrementChallengeAttempts s.challenges id now limit).2
    unfold incrementChallengeAttempts
    split
    next => exact .kept rfl rfl rfl
    next current opened => exact .counted opened
  | _ => exact .kept rfl rfl rfl

end Effects

section Counters

variable (d : Dict Uuid AuthEmailChallenge) (id : Uuid)

def attemptsOf : Nat := match d.get? id with
  | some c => c.attempts
  | none => 0

def redemptionsOf : Nat := match d.get? id with
  | some c => if c.isConsumed then 1 else 0
  | none => 0

variable {d} {id} {c : AuthEmailChallenge}

theorem attemptsOf_of_get? (found : d.get? id = some c) :
    attemptsOf d id = c.attempts := by
  simp [attemptsOf, found]

theorem redemptionsOf_of_get? (found : d.get? id = some c) :
    redemptionsOf d id = if c.isConsumed then 1 else 0 := by
  simp [redemptionsOf, found]

theorem attemptsOf_set (id' : Uuid) (c : AuthEmailChallenge) :
    attemptsOf (d.set id' c) id = if id = id' then c.attempts else attemptsOf d id := by
  by_cases same : id = id'
  · simp [attemptsOf, same]
  · simp [attemptsOf, same]

theorem redemptionsOf_set (id' : Uuid) (c : AuthEmailChallenge) :
    redemptionsOf (d.set id' c) id =
      if id = id' then (if c.isConsumed then 1 else 0) else redemptionsOf d id := by
  by_cases same : id = id'
  · simp [redemptionsOf, same]
  · simp [redemptionsOf, same]

theorem redemptionsOf_le : redemptionsOf d id ≤ 1 := by
  unfold redemptionsOf
  split
  next =>
    split
    next => exact Nat.le_refl 1
    next => exact Nat.zero_le 1
  next => exact Nat.zero_le 1

end Counters

structure Tally (config : IdentityConfig) (s : IdentityServer) : Prop where
  draws : DrawsOnce challengeDraw addsChallenge s
  known : ∀ id c, s.store.challenges.get? id = some c → id ∈ s.written addsChallenge
  guesses : ∀ id, (s.written countsGuess).count id = attemptsOf s.store.challenges id
  redemptions : ∀ id, (s.written redeems).count id = redemptionsOf s.store.challenges id
  bounded : ∀ id, attemptsOf s.store.challenges id ≤ config.otpMaxAttempts
  unlocked : ∀ later e earlier id, s.trace = later ++ e :: earlier → redeems e.toAsked = some id →
    (earlier.filterMap (fun e => countsGuess e.toAsked)).count id < config.otpMaxAttempts

section Runs

variable {rt : IdentityRuntime} {config : IdentityConfig} {b : Backend}

/-- A new challenge is untouched, and guesses are counted, and codes redeemed, up to the
configured number of attempts. -/
structure Limited (config : IdentityConfig) (op : IdentityOp) : Prop where
  added : ∀ c, op = .addChallenge c → c.attempts = 0 ∧ c.isConsumed = false
  redeemed : ∀ c consumedAt limit, op = .consumeChallenge c consumedAt limit →
    limit = config.otpMaxAttempts
  counted : ∀ id now limit, op = .incrementChallengeAttempts id now limit →
    limit = config.otpMaxAttempts

theorem limited_of_asks {r : IdentityRequest} {past : Past} {op : IdentityOp}
    (asks : Asks rt config r past op) : Limited config op := by
  constructor
  case added =>
    intro c same
    rw [same] at asks
    cases asks
    exact ⟨rfl, rfl⟩
  case redeemed =>
    intro c consumedAt limit same
    rw [same] at asks
    cases asks
    rfl
  case counted =>
    intro id now limit same
    rw [same] at asks
    cases asks
    rfl

theorem adds_of_asks {r : IdentityRequest} {past : Past} {op : IdentityOp} {answer : op.Answer}
    {id : Uuid} (asks : Asks rt config r past op) (adds : addsChallenge ⟨op, answer⟩ = some id) :
    challengeDraw r = some id ∧ ∀ a ∈ past, addsChallenge a = none := by
  cases op with
  | addChallenge c =>
    cases asks
    cases answer with
    | error e => cases adds
    | ok stored =>
      refine ⟨adds, fun a mem => ?_⟩
      cases mem
  | _ => cases adds

theorem unlocked_cons {config : IdentityConfig} {trace : List (Event IdentityOp.Answer)}
    {e : Event IdentityOp.Answer}
    (old : ∀ later e earlier id, trace = later ++ e :: earlier → redeems e.toAsked = some id →
      (earlier.filterMap (fun e => countsGuess e.toAsked)).count id < config.otpMaxAttempts)
    (new : ∀ id, redeems e.toAsked = some id →
      (trace.filterMap (fun e => countsGuess e.toAsked)).count id < config.otpMaxAttempts)
    (later : List (Event IdentityOp.Answer)) (e' : Event IdentityOp.Answer)
    (earlier : List (Event IdentityOp.Answer)) (id : Uuid)
    (split : e :: trace = later ++ e' :: earlier) (redeemed : redeems e'.toAsked = some id) :
    (earlier.filterMap (fun e => countsGuess e.toAsked)).count id < config.otpMaxAttempts := by
  cases later with
  | nil =>
    cases split
    exact new id redeemed
  | cons e'' later =>
    cases split
    exact old later e' earlier id rfl redeemed

theorem Tally.moved {s s' : IdentityServer} {a : Answered} {i : Nat}
    {d : Dict Uuid AuthEmailChallenge} (tally : Tally config s)
    (traced : s'.trace = ⟨a, i⟩ :: s.trace) (stored : s'.store.challenges = d)
    (effect : ChallengeEffect s.store.challenges a d) (limited : Limited config a.op)
    (draws : DrawsOnce challengeDraw addsChallenge s')
    (unwritten : ∀ id, addsChallenge a = some id → id ∉ s.written addsChallenge) :
    Tally config s' := by
  have writes (f : Answered → Option Uuid) : s'.written f = (f a).toList ++ s.written f :=
    Lib.Server.written_of_traced traced
  have known_set {id' : Uuid} {c' : AuthEmailChallenge}
      (here : id' ∈ s.written addsChallenge) (id : Uuid) (c : AuthEmailChallenge)
      (found : (s.store.challenges.set id' c').get? id = some c) :
      id ∈ s.written addsChallenge := by
    rw [Dict.get?_set] at found
    split at found
    next same => rwa [same]
    next => exact tally.known id c found
  have unlocked := unlocked_cons (e := ⟨a, i⟩) tally.unlocked
  rw [← traced] at unlocked
  cases effect with
  | kept added redeemed counted =>
    constructor
    case draws => exact draws
    case known => simpa [stored, writes, added] using tally.known
    case guesses => simpa [stored, writes, counted] using tally.guesses
    case redemptions => simpa [stored, writes, redeemed] using tally.redemptions
    case bounded => simpa [stored] using tally.bounded
    case unlocked =>
      apply unlocked
      intro id found
      cases redeemed.symm.trans found
  | @added c answer =>
    have absent : s.store.challenges.get? c.id = none := by
      cases found : s.store.challenges.get? c.id with
      | none => rfl
      | some c' => exact absurd (tally.known c.id c' found) (unwritten c.id rfl)
    obtain ⟨untouched, unconsumed⟩ := limited.added c rfl
    constructor
    case draws => exact draws
    case known =>
      intro id c' found
      rw [stored, Dict.get?_set] at found
      rw [writes]
      split at found
      next same => exact List.mem_append_left _ (by simp [addsChallenge, same])
      next => exact List.mem_append_right _ (tally.known id c' found)
    case guesses =>
      intro id
      rw [stored, attemptsOf_set, writes]
      show (s.written countsGuess).count id = _
      split
      next same => rw [tally.guesses, same, untouched, attemptsOf, absent]
      next => exact tally.guesses id
    case redemptions =>
      intro id
      rw [stored, redemptionsOf_set, writes]
      show (s.written redeems).count id = _
      split
      next same => rw [tally.redemptions, same, unconsumed, redemptionsOf, absent]; rfl
      next => exact tally.redemptions id
    case bounded =>
      intro id
      rw [stored, attemptsOf_set]
      split
      next => rw [untouched]; exact Nat.zero_le _
      next => exact tally.bounded id
    case unlocked =>
      apply unlocked
      intro id found
      cases found
  | @redeemed c consumedAt limit current answer opened =>
    obtain ⟨found, unconsumed, -, below⟩ := openChallenge_ok opened
    rw [limited.redeemed c consumedAt limit rfl] at below
    change current.consumedAt.isSome = false at unconsumed
    have here := tally.known c.id current found
    have guesses := attemptsOf_of_get? found
    constructor
    case draws => exact draws
    case known =>
      rw [stored, writes]
      exact known_set here
    case guesses =>
      intro id
      rw [stored, attemptsOf_set, writes]
      show (s.written countsGuess).count id = _
      split
      next same => rw [tally.guesses, same, guesses]
      next => exact tally.guesses id
    case redemptions =>
      intro id
      rw [stored, redemptionsOf_set, writes]
      show (c.id :: s.written redeems).count id = _
      rw [List.count_cons, tally.redemptions]
      by_cases same : id = c.id
      · simp [same, redemptionsOf, found, unconsumed, AuthEmailChallenge.isConsumed]
      · simp [same, Ne.symm same]
    case bounded =>
      intro id
      rw [stored, attemptsOf_set]
      split
      next => exact Nat.le_of_lt below
      next => exact tally.bounded id
    case unlocked =>
      apply unlocked
      intro id same
      cases same
      show (s.written countsGuess).count c.id < _
      rw [tally.guesses, guesses]
      exact below
  | @counted id' now limit current answer opened =>
    obtain ⟨found, unconsumed, -, below⟩ := openChallenge_ok opened
    rw [limited.counted id' now limit rfl] at below
    have here := tally.known id' current found
    constructor
    case draws => exact draws
    case known =>
      rw [stored, writes]
      exact known_set here
    case guesses =>
      intro id
      rw [stored, attemptsOf_set, writes]
      show (id' :: s.written countsGuess).count id = _
      rw [List.count_cons, tally.guesses]
      by_cases same : id = id'
      · simp [same, attemptsOf, found]
      · simp [same, Ne.symm same]
    case redemptions =>
      intro id
      rw [stored, redemptionsOf_set, writes]
      show (s.written redeems).count id = _
      rw [tally.redemptions]
      split
      next same => rw [same, redemptionsOf_of_get? found]; rfl
      next => rfl
    case bounded =>
      intro id
      rw [stored, attemptsOf_set]
      split
      next => exact below
      next => exact tally.bounded id
    case unlocked =>
      apply unlocked
      intro id same
      cases same

variable {s : IdentityServer} {i : Nat} {r : IdentityRequest} {past : Past} {op : IdentityOp}
  {next : op.Answer → IdentityCall Reply}

theorem Tally.answered (tally : Tally config s) (valid : Valid rt config s)
    (there : s.threads[i]? = some ⟨r, past, .ask op next⟩) (asks : Asks rt config r past op) :
    Tally config (s.answered (IdentityStore.exec rt b) i r past op next) := by
  have own (id : Uuid) (wrote : addsChallenge ⟨op, (s.store.exec rt b op).1⟩ = some id) :=
    adds_of_asks asks wrote
  refine tally.moved rfl rfl (challengeEffect_exec s.store op) (limited_of_asks asks)
    (tally.draws.answered valid.sound there own) (fun id wrote => ?_)
  obtain ⟨drawn, unwritten⟩ := own id wrote
  exact tally.draws.unwritten valid.sound there drawn unwritten

theorem Tally.started (tally : Tally config s) (fresh : DrawsFresh challengeDraw s (.begin r)) :
    Tally config (s.started (IdentityRequest.call rt config) r) where
  draws := tally.draws.started fresh
  known := tally.known
  guesses := tally.guesses
  redemptions := tally.redemptions
  bounded := tally.bounded
  unlocked := tally.unlocked

theorem tally_fresh {store : IdentityStore} (empty : store.challenges = ∅) :
    Tally config { store := store } where
  draws := Lib.Server.drawsOnce_fresh
  known id c found := by
    rw [empty] at found
    cases found
  guesses id := by
    rw [empty]
    rfl
  redemptions id := by
    rw [empty]
    rfl
  bounded id := by
    rw [empty]
    exact Nat.zero_le _
  unlocked later e earlier id split := by
    cases later <;> cases split

/-- Each challenge is redeemed at most once, and no code is redeemed after as many counted wrong
guesses as are allowed; a sign-in that succeeds has redeemed a challenge. -/
structure CodesLockedOut (config : IdentityConfig) (s : IdentityServer) : Prop where
  redeemedOnce : ∀ id, (s.written redeems).count id ≤ 1
  guessesBounded : ∀ id, (s.written countsGuess).count id ≤ config.otpMaxAttempts
  unlocked : ∀ later e earlier id, s.trace = later ++ e :: earlier → redeems e.toAsked = some id →
    (earlier.filterMap (fun e => countsGuess e.toAsked)).count id < config.otpMaxAttempts
  earned : ∀ i email code now redeemedAt newUser createdAt draw past reply,
    s.threads[i]? = some
      ⟨.verifyCode email code now redeemedAt newUser createdAt draw, past, .done (.ok reply)⟩ →
    ∃ e ∈ s.trace, e.caller = i ∧ (redeems e.toAsked).isSome

/-- For every interleaving of calls, on either back end, as long as no two challenges draw the
same identifier. -/
theorem codes_locked_out {store : IdentityStore} (keyed : store.Keyed)
    (empty : store.challenges = ∅) (turns : List IdentityTurn)
    (fresh : Lib.AllSteps (step rt config b) (DrawsFresh challengeDraw)
      { store := store } turns) :
    CodesLockedOut config (turns.foldl (step rt config b) { store := store }) := by
  obtain ⟨valid, tally⟩ := keep_run (J := Tally config)
    (fun _ _ _ tally fresh => tally.started fresh)
    (fun _ _ _ _ _ _ valid tally there asks _ => tally.answered valid there asks)
    ⟨valid_fresh keyed, tally_fresh empty⟩ fresh
  constructor
  case redeemedOnce =>
    intro id
    rw [tally.redemptions]
    exact redemptionsOf_le
  case guessesBounded =>
    intro id
    rw [tally.guesses]
    exact tally.bounded id
  case unlocked => exact tally.unlocked
  case earned =>
    intro i email code now redeemedAt newUser createdAt draw past reply there
    have redeemed {a : Answered} (mem : a ∈ past) (redeems : (redeems a).isSome) :
        ∃ e ∈ (turns.foldl (step rt config b) { store := store }).trace,
          e.caller = i ∧ (Identity.redeems e.toAsked).isSome :=
      ⟨⟨a, i⟩, (valid.sound.traced i _ a there).mp mem, rfl, redeems⟩
    cases valid.sound.gives there with
    | plain quiet => exact absurd trivial quiet
    | signedIn asked =>
      cases asked with
      | issueNew => exact redeemed (.tail _ (.tail _ (.tail _ (.head _)))) rfl
      | issueVerified => exact redeemed (.tail _ (.tail _ (.tail _ (.head _)))) rfl
    | refreshed asked =>
      cases asked with
      | rotate presents => cases presents

end Runs

def guessedTurns : List IdentityTurn :=
  [.begin (.startChallenge "a@b.c" 1 "7" 0 0), .advance 0,
    .begin (.verifyCode "a@b.c" "8" 1 1 5 1 ⟨2, "r"⟩),
    .begin (.verifyCode "a@b.c" "7" 1 1 5 1 ⟨3, "s"⟩), .advance 1, .advance 2, .advance 1,
    .advance 2, .advance 2, .advance 2, .advance 2]

theorem codes_locked_out_guessed :
    let s := guessedTurns.foldl (step .plain {} .inMemory) { store := {} }
    (s.written redeems = [1] ∧ s.written countsGuess = [1]) ∧ CodesLockedOut {} s := by
  refine ⟨⟨by decide +kernel, by decide +kernel⟩, codes_locked_out ?_ rfl guessedTurns ?_⟩
  · exact ⟨Dict.keyedBy_empty, Dict.keyedBy_empty, Dict.keyedBy_empty, Dict.keyedBy_empty⟩
  · simp [guessedTurns, Lib.AllSteps, DrawsFresh, challengeDraw]

end Orcheo.Identity
