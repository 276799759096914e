import Orcheo.Defs.Identity.ServiceLaws

/-! Which sign-ins refuse a disabled account, and when a sign-in leaves a status as it is. -/

namespace Orcheo.Identity

open Lib (AllSteps Always Asked Dict)
open IdentityServer (step)

namespace DisabledAccounts

def readsDisabled : Asked IdentityOp.Answer → Bool
  | ⟨.getUser _, .ok (user : User)⟩ => user.status = .disabled
  | ⟨.getUserByEmail _, .ok (some (user : User))⟩ => user.status = .disabled
  | _ => false

def issuesToken : Asked IdentityOp.Answer → Bool
  | ⟨.addSession _, .ok _⟩ | ⟨.rotateSession _ _ _, .ok _⟩ => true
  | _ => false

def tokensOf : IdentityThread → Option IssuedTokens
  | ⟨_, _, .done (.ok reply)⟩ => reply.tokens
  | _ => none

def Refused (s : IdentityServer) : Prop :=
  ∀ t ∈ s.threads, t.past.any readsDisabled = true →
    t.past.any issuesToken = false ∧ tokensOf t = none

instance (s : IdentityServer) : Decidable (Refused s) :=
  inferInstanceAs (Decidable (∀ t ∈ s.threads, t.past.any readsDisabled = true →
    t.past.any issuesToken = false ∧ tokensOf t = none))

def administers : IdentityRequest → Bool
  | .changeStatus _ _ => true
  | _ => false

def StatusKept (rt : IdentityRuntime) (config : IdentityConfig) (b : Backend) (s : IdentityServer)
    (turn : IdentityTurn) : Prop :=
  (∀ (i : Nat) t, turn = .advance i → s.threads[i]? = some t → administers t.request = false) →
  ∀ id user, s.store.accounts.users.get? id = some user →
    ∃ user', (s.step rt config b turn).store.accounts.users.get? id = some user' ∧
      user'.status = user.status

/-- An emailed code is not redeemed, and a Studio token not rotated, for a disabled user, and no
status has changed between the read of a user and the sign-in's write of it. -/
def eligible (rt : IdentityRuntime) (b : Backend) (s : IdentityServer) : IdentityTurn → Bool
  | .begin _ => true
  | .advance i => match s.threads[i]? with
    | some ⟨.verifyCode _ _ _ _ _ _ _, _, .ask (.getUserByEmail email) _⟩ =>
      match s.store.accounts.getUserByEmail rt b email with
      | .ok (some user) => user.status ≠ .disabled
      | _ => true
    | some ⟨.refresh _ _ _ _, _, .ask (.getUser userId) _⟩ =>
      match s.store.accounts.getUser userId with
      | .ok user => user.status ≠ .disabled
      | _ => true
    | some ⟨_, _, .ask (.updateUser user) _⟩ =>
      (s.store.accounts.users.get? user.id).all (fun stored => stored.status = user.status)
    | _ => true

def createsFresh (s : IdentityServer) : IdentityTurn → Bool
  | .begin _ => true
  | .advance i => match s.threads[i]? with
    | some ⟨_, _, .ask (.createUser user) _⟩ => !s.store.accounts.users.contains user.id
    | _ => true

variable {rt : IdentityRuntime} {config : IdentityConfig} {b : Backend} {s : IdentityServer}
  {i : Nat} {r : IdentityRequest} {past : Past} {op : IdentityOp}
  {next : op.Answer → IdentityCall Reply}

/-- Of the calls that read a user, only these do not look at the status. -/
def Unchecked : IdentityRequest → Prop
  | .verifyCode _ _ _ _ _ _ _ | .refresh _ _ _ _ => True
  | _ => False

theorem checked_of_asks (asks : Asks rt config r past op) {answer : op.Answer}
    (issues : issuesToken ⟨op, answer⟩ = true) (checked : ¬ Unchecked r) :
    past.any readsDisabled = false := by
  cases op with
  | addSession session =>
    cases asks with
    | issueNew => exact absurd trivial checked
    | issueVerified => exact absurd trivial checked
    | issueSignedIn named active => simp [readsDisabled, active]
    | grant named active => simp [readsDisabled, active]
  | rotateSession session previous now =>
    cases asks with
    | @rotate _ p user copy presents bound carries named active =>
      cases r with
      | exchangeRefreshToken =>
        cases presents
        simp [readsDisabled, active rfl]
      | refresh => exact absurd trivial checked
      | _ => cases presents
  | _ => cases issues

theorem unissued_of_asks (asks : Asks rt config r past op) {answer : op.Answer}
    (reads : readsDisabled ⟨op, answer⟩ = true) : past.any issuesToken = false := by
  cases op with
  | getUser userId => cases asks <;> simp [issuesToken]
  | getUserByEmail email =>
    cases asks
    simp [issuesToken]
  | _ => cases reads

structure Barred (s : IdentityServer) : Prop where
  unchecked : ∀ t ∈ s.threads, Unchecked t.request → t.past.any readsDisabled = false
  refused : ∀ t ∈ s.threads, t.past.any readsDisabled = true → t.past.any issuesToken = false

theorem not_readsDisabled_of_eligible (asks : Asks rt config r past op) (unchecked : Unchecked r)
    (there : s.threads[i]? = some ⟨r, past, .ask op next⟩)
    (eligible : eligible rt b s (.advance i) = true) :
    readsDisabled ⟨op, (s.store.exec rt b op).1⟩ = false := by
  unfold DisabledAccounts.eligible at eligible
  dsimp only at eligible
  rw [there] at eligible
  cases op with
  | getUser userId =>
    show readsDisabled ⟨.getUser userId, s.store.accounts.getUser userId⟩ = false
    cases r with
    | refresh =>
      cases answer : s.store.accounts.getUser userId with
      | error e => rfl
      | ok user =>
        have active : user.status ≠ .disabled := by simpa [answer] using eligible
        exact decide_eq_false active
    | verifyCode =>
      cases asks with
      | findSessionUser presents => cases presents
    | _ => cases unchecked
  | getUserByEmail email =>
    show readsDisabled ⟨.getUserByEmail email, s.store.accounts.getUserByEmail rt b email⟩ = false
    cases r with
    | verifyCode =>
      cases answer : s.store.accounts.getUserByEmail rt b email with
      | error e => rfl
      | ok found =>
        cases found with
        | none => rfl
        | some user =>
          have active : user.status ≠ .disabled := by simpa [answer] using eligible
          exact decide_eq_false active
    | refresh => cases asks
    | _ => cases unchecked
  | _ => rfl

theorem Barred.answered (barred : Barred s) (there : s.threads[i]? = some ⟨r, past, .ask op next⟩)
    (asks : Asks rt config r past op) (eligible : eligible rt b s (.advance i) = true) :
    Barred (s.answered (IdentityStore.exec rt b) i r past op next) := by
  have member := List.mem_of_getElem? there
  constructor
  case unchecked =>
    intro t mem unchecked
    obtain ⟨j, found⟩ := List.getElem?_of_mem mem
    cases Lib.Server.answered_cases there found with
    | inl here =>
      rw [here.2] at unchecked ⊢
      rw [List.any_cons, not_readsDisabled_of_eligible asks unchecked there eligible]
      exact barred.unchecked _ member unchecked
    | inr other => exact barred.unchecked t (List.mem_of_getElem? other.2) unchecked
  case refused =>
    intro t mem disabled
    obtain ⟨j, found⟩ := List.getElem?_of_mem mem
    cases Lib.Server.answered_cases there found with
    | inr other => exact barred.refused t (List.mem_of_getElem? other.2) disabled
    | inl here =>
      rw [here.2] at disabled ⊢
      rw [List.any_cons, Bool.or_eq_true] at disabled
      rw [List.any_cons, Bool.or_eq_false_iff]
      cases disabled with
      | inl now =>
        refine ⟨?_, unissued_of_asks asks now⟩
        cases op with
        | addSession | rotateSession => cases now
        | _ => rfl
      | inr before =>
        refine ⟨?_, barred.refused _ member before⟩
        cases issues : issuesToken ⟨op, (s.store.exec rt b op).1⟩ with
        | false => rfl
        | true =>
          have quiet : past.any readsDisabled = false := by
            by_cases unchecked : Unchecked r
            · exact barred.unchecked _ member unchecked
            · exact checked_of_asks asks issues unchecked
          cases quiet.symm.trans before

theorem Barred.started (barred : Barred s) :
    Barred (s.started (IdentityRequest.call rt config) r) := by
  constructor
  case unchecked =>
    intro t mem unchecked
    cases List.mem_append.mp mem with
    | inl old => exact barred.unchecked t old unchecked
    | inr new =>
      rw [List.mem_singleton.mp new]
      rfl
  case refused =>
    intro t mem disabled
    cases List.mem_append.mp mem with
    | inl old => exact barred.refused t old disabled
    | inr new =>
      rw [List.mem_singleton.mp new] at disabled
      cases disabled

theorem barred_fresh {store : IdentityStore} : Barred { store := store } where
  unchecked t mem := by cases mem
  refused t mem := by cases mem

theorem issued_of_gives {reply : Reply} {tokens : IssuedTokens}
    (gives : Gives rt config r past (.ok reply)) (carries : reply.tokens = some tokens) :
    past.any issuesToken = true := by
  cases gives with
  | plain _ plain =>
    cases reply with
    | verified | issued => cases plain
    | _ => cases carries
  | signedIn => rfl
  | refreshed => rfl
  | approved => cases carries
  | loaded => cases carries

theorem Barred.refuses (barred : Barred s) (valid : Valid rt config s) : Refused s := by
  intro t mem disabled
  have unissued := barred.refused t mem disabled
  refine ⟨unissued, ?_⟩
  cases tokens : tokensOf t with
  | none => rfl
  | some issued =>
    unfold tokensOf at tokens
    split at tokens
    next r past reply =>
      obtain ⟨i, there⟩ := List.getElem?_of_mem mem
      cases unissued.symm.trans (issued_of_gives (valid.sound.gives there) tokens)
    next => cases tokens

theorem status_set {users : Dict Uuid User} {user : User}
    (same : ∀ stored, users.get? user.id = some stored → stored.status = user.status) {id : Uuid}
    {stored : User} (found : users.get? id = some stored) :
    ∃ user', (users.set user.id user).get? id = some user' ∧ user'.status = stored.status := by
  rw [Dict.get?_set]
  split
  next here =>
    rw [here] at found
    exact ⟨user, rfl, (same stored found).symm⟩
  next => exact ⟨stored, found, rfl⟩

theorem status_kept (there : s.threads[i]? = some ⟨r, past, .ask op next⟩)
    (asks : Asks rt config r past op) (eligible : eligible rt b s (.advance i) = true)
    (fresh : createsFresh s (.advance i) = true) (signIn : administers r = false) {id : Uuid}
    {user : User} (found : s.store.accounts.users.get? id = some user) :
    ∃ user', (s.store.exec rt b op).2.accounts.users.get? id = some user' ∧
      user'.status = user.status := by
  cases op with
  | createUser new =>
    have unused : s.store.accounts.users.get? new.id = none := by
      simpa [createsFresh, there, Dict.contains] using fresh
    show ∃ user', (s.store.accounts.createUser rt b new).2.users.get? id = some user' ∧ _
    unfold Accounts.createUser
    split
    next => exact ⟨user, found, rfl⟩
    next =>
      split
      next => exact ⟨user, found, rfl⟩
      next =>
        refine status_set (fun stored there => ?_) found
        cases unused.symm.trans there
  | updateUser written =>
    have same : ∀ stored, s.store.accounts.users.get? written.id = some stored →
        stored.status = written.status := by
      intro stored found
      unfold DisabledAccounts.eligible at eligible
      dsimp only at eligible
      rw [there] at eligible
      have same : (s.store.accounts.users.get? written.id).all
          (fun stored => stored.status = written.status) = true := by
        cases r <;> exact eligible
      simpa [found] using same
    show ∃ user', (s.store.accounts.updateUser rt written).2.users.get? id = some user' ∧ _
    unfold Accounts.updateUser
    split
    next => exact ⟨user, found, rfl⟩
    next => exact ⟨user, found, rfl⟩
    next => exact status_set same found
  | setStatus userId status =>
    cases asks
    cases signIn
  | _ => exact ⟨user, found, rfl⟩

theorem keeps_status (valid : Valid rt config s) (turn : IdentityTurn)
    (eligible : eligible rt b s turn = true) (fresh : createsFresh s turn = true) :
    StatusKept rt config b s turn := by
  intro signIn id user found
  cases turn with
  | begin r => exact ⟨user, found, rfl⟩
  | advance i =>
    unfold step
    cases Lib.Server.step_advance (IdentityStore.exec rt b) (IdentityRequest.call rt config) s i with
    | inl idle =>
      rw [idle]
      exact ⟨user, found, rfl⟩
    | inr asked =>
      obtain ⟨r, past, op, next, there, moved⟩ := asked
      rw [moved]
      exact status_kept there (valid.sound.asks there) eligible fresh (signIn i _ rfl there) found

def storeOf (status : UserStatus) : IdentityStore where
  accounts := {
    users := Dict.set ∅ 5 { id := 5, email := "a@b.c", status := status, createdAt := 0 } }

theorem keyed_storeOf (status : UserStatus) : (storeOf status).Keyed where
  users := by
    apply Dict.KeyedBy.set
    · exact Dict.keyedBy_empty
    · rfl
  challenges := Dict.keyedBy_empty
  sessions := Dict.keyedBy_empty
  requests := Dict.keyedBy_empty

def codeTurns : List IdentityTurn :=
  [.begin (.startChallenge "a@b.c" 1 "7" 0 0), .advance 0,
    .begin (.verifyCode "a@b.c" "7" 1 1 9 1 ⟨3, "s"⟩), .advance 1, .advance 1, .advance 1]

def signInTurns : List IdentityTurn := codeTurns ++ [.advance 1, .advance 1]

def disableTurns : List IdentityTurn := [.begin (.changeStatus 5 .disabled), .advance 2]

def refreshTurns : List IdentityTurn :=
  [.begin (.refresh "s" 2 2 "t"), .advance 3, .advance 3, .advance 3]

def disabledServer : IdentityServer :=
  (codeTurns ++ disableTurns).foldl (step .plain {} .postgres)
    { store := storeOf .active }

end DisabledAccounts

end Orcheo.Identity
