import Orcheo.Defs.Identity.ServiceLaws

/-! A refresh token is exchanged at most once, and no session is refreshed after it has ended. -/

namespace Orcheo.Identity

open Lib (AllSteps Asked Dict)
open Lib.Server (DrawsFresh DrawsOnce written)
open IdentityServer (step)
open IdentityStore (exec)

abbrev SessionEvent := Lib.Event IdentityOp.Answer

def opens : Asked IdentityOp.Answer → Option AuthSession
  | ⟨.addSession session, .ok _⟩ => some session
  | _ => none

def rotates : Asked IdentityOp.Answer → Option (AuthSession × String)
  | ⟨.rotateSession session previous _, .ok _⟩ => some (session, previous)
  | _ => none

variable (a : Asked IdentityOp.Answer)

def opensSession : Option Uuid := (opens a).map AuthSession.id

def exchanges : Option String := (rotates a).map Prod.snd

def carriesToken : Option AuthSession :=
  (opens a).or ((rotates a).map Prod.fst)

def writesToken : Option String :=
  (carriesToken a).map AuthSession.refreshTokenHash

def reads : Asked IdentityOp.Answer → Option AuthSession
  | ⟨.getSessionByRefreshHash _, .ok session⟩ => some session
  | _ => none

def EndsNow (id : Uuid) (earlier : List SessionEvent) : Asked IdentityOp.Answer → Prop
  | ⟨.updateSession session, .ok _⟩ => session.id = id
  | ⟨.revokeSessionsForUser userId _, .ok _⟩ =>
    ∃ e ∈ earlier, ∃ session, opens e.toAsked = some session ∧ session.id = id ∧
      session.userId = userId
  | _ => False

def Ended (id : Uuid) : List SessionEvent → Prop
  | [] => False
  | e :: earlier => EndsNow id earlier e.toAsked ∨ Ended id earlier

def sessionDraw : IdentityRequest → Option SessionDraw
  | .verifyCode _ _ _ _ _ _ draw | .finishAuthentication _ _ _ _ _ draw
  | .exchangeAuthorizationCode _ _ _ _ draw => some draw
  | _ => none

def sessionIdDraw (r : IdentityRequest) : Option Uuid := (sessionDraw r).map SessionDraw.id

def tokenDraw (r : IdentityRequest) : Option String :=
  ((sessionDraw r).map SessionDraw.refreshToken).or (r.presented.map Presented.rawRefresh)

section Effects

variable {rt : IdentityRuntime} {b : Backend}

inductive SessionEffect (b : Backend) (d : Dict Uuid AuthSession) :
    Asked IdentityOp.Answer → Dict Uuid AuthSession → Prop
  | kept {a : Asked IdentityOp.Answer} (carried : carriesToken a = none) (unread : reads a = none)
      (continues : ∀ id earlier, ¬ EndsNow id earlier a) : SessionEffect b d a d
  | read {id : Uuid} {hash : String} {session : AuthSession} (found : d.get? id = some session) :
    SessionEffect b d ⟨.getSessionByRefreshHash hash, .ok session⟩ d
  | added {session answer : AuthSession} :
    SessionEffect b d ⟨.addSession session, .ok answer⟩ (d.set session.id session)
  | updated {current session answer : AuthSession} (found : d.get? session.id = some current) :
    SessionEffect b d ⟨.updateSession session, .ok answer⟩
      (d.set session.id (updatedRow b current session))
  | revoked {userId : Uuid} {now : Instant} {count : Nat} :
    SessionEffect b d ⟨.revokeSessionsForUser userId now, .ok count⟩
      (revokeSessionsForUser d userId now).2
  | rotated {current session answer : AuthSession} {previous : String} {now : Instant}
      (rotates : rotatable d session.id previous now = .ok current) :
    SessionEffect b d ⟨.rotateSession session previous now, .ok answer⟩
      (d.set session.id (rotatedRow b current session))

theorem sessionEffect_exec (s : IdentityStore) (op : IdentityOp) :
    SessionEffect b s.sessions ⟨op, (s.exec rt b op).1⟩ (s.exec rt b op).2.sessions := by
  cases op with
  | getSessionByRefreshHash hash =>
    show SessionEffect _ _
      ⟨.getSessionByRefreshHash hash, getSessionByRefreshHash s.sessions hash⟩ s.sessions
    unfold getSessionByRefreshHash
    split
    next => exact .kept rfl rfl (fun _ _ => id)
    next session found =>
      obtain ⟨id, there⟩ := (s.sessions.mem_values_iff session).mp (List.mem_of_find?_eq_some found)
      exact .read there
  | addSession session =>
    show SessionEffect _ _ ⟨.addSession session, (addSession b s.sessions session).1⟩
      (addSession b s.sessions session).2
    unfold addSession
    split
    next => exact .kept rfl rfl (fun _ _ => id)
    next => exact .added
  | updateSession session =>
    show SessionEffect _ _ ⟨.updateSession session, (updateSession b s.sessions session).1⟩
      (updateSession b s.sessions session).2
    unfold updateSession
    split
    next => exact .kept rfl rfl (fun _ _ => id)
    next current found =>
      split
      next => exact .kept rfl rfl (fun _ _ => id)
      next => exact .updated found
  | revokeSessionsForUser userId now => exact .revoked
  | rotateSession session previous now =>
    show SessionEffect _ _
      ⟨.rotateSession session previous now, (rotateSession b s.sessions session previous now).1⟩
      (rotateSession b s.sessions session previous now).2
    unfold rotateSession
    split
    next => exact .kept rfl rfl (fun _ _ => id)
    next current rotates =>
      split
      next => exact .kept rfl rfl (fun _ _ => id)
      next => exact .rotated rotates
  | _ => exact .kept rfl rfl (fun _ _ => id)

end Effects

section Asked

variable {rt : IdentityRuntime} {config : IdentityConfig} {r : IdentityRequest} {past : Past}
  {op : IdentityOp} {answer : op.Answer}

structure SameGrant (x y : AuthSession) : Prop where
  id : x.id = y.id
  userId : x.userId = y.userId
  client : x.oauthClientId = y.oauthClientId

variable {x : AuthSession}

theorem opens_of_asks (asks : Asks rt config r past op) (opened : opens ⟨op, answer⟩ = some x) :
    sessionIdDraw r = some x.id ∧ (∀ a ∈ past, opens a = none) ∧
      (tokenDraw r).map rt.hashSecret = some x.refreshTokenHash ∧
      ∀ a ∈ past, carriesToken a = none := by
  cases op with
  | addSession session =>
    cases answer with
    | error e => cases opened
    | ok stored =>
      cases opened
      cases asks with
      | issueNew => exact ⟨rfl, by simp [opens], rfl, by simp [carriesToken, opens, rotates]⟩
      | issueVerified => exact ⟨rfl, by simp [opens], rfl, by simp [carriesToken, opens, rotates]⟩
      | issueSignedIn => exact ⟨rfl, by simp [opens], rfl, by simp [carriesToken, opens, rotates]⟩
      | grant => exact ⟨rfl, by simp [opens], rfl, by simp [carriesToken, opens, rotates]⟩
  | _ => cases opened

theorem rotates_of_asks (asks : Asks rt config r past op) {p : String}
    (rotated : rotates ⟨op, answer⟩ = some (x, p)) :
    ∃ copy q, (∃ a ∈ past, reads a = some copy) ∧ SameGrant x copy ∧ r.presented = some q ∧
      q.client = x.oauthClientId ∧ rt.hashSecret q.token = p ∧
      (tokenDraw r).map rt.hashSecret = some x.refreshTokenHash ∧
      ∀ a ∈ past, carriesToken a = none := by
  cases op with
  | rotateSession session previous now =>
    cases answer with
    | error e => cases rotated
    | ok stored =>
      cases rotated
      cases asks with
      | @rotate _ q user copy presents bound carries named active =>
        have drawn : (tokenDraw r).map rt.hashSecret = some (rt.hashSecret q.rawRefresh) := by
          cases r with
          | refresh => cases presents; rfl
          | exchangeRefreshToken => cases presents; rfl
          | _ => cases presents
        exact ⟨copy, q, ⟨_, .tail _ (.head _), rfl⟩, ⟨rfl, rfl, rfl⟩, presents, bound.symm,
          carries.symm, drawn, by simp [carriesToken, opens, rotates]⟩
  | _ => cases rotated

theorem updates_of_asks (asks : Asks rt config r past (.updateSession x)) :
    ∃ copy, (∃ a ∈ past, reads a = some copy) ∧ SameGrant x copy ∧
      x.refreshTokenHash = copy.refreshTokenHash ∧ x.revokedAt ≠ none := by
  cases asks with
  | @revokeGrant _ _ _ _ copy bound => exact ⟨copy, ⟨_, .head _, rfl⟩, ⟨rfl, rfl, rfl⟩, rfl, by simp⟩

end Asked

/-- A stored session, or a copy of one: it was opened for its user and its client, and its token
was written for it. -/
structure Genuine (trace : List SessionEvent) (x : AuthSession) : Prop where
  written : ∃ e ∈ trace, ∃ y, carriesToken e.toAsked = some y ∧ y.id = x.id ∧
    y.refreshTokenHash = x.refreshTokenHash
  origin : ∃ e ∈ trace, ∃ y, opens e.toAsked = some y ∧ SameGrant y x

structure Custody (rt : IdentityRuntime) (s : IdentityServer) : Prop where
  ids : DrawsOnce sessionIdDraw opensSession s
  tokens : DrawsOnce (fun r => (tokenDraw r).map rt.hashSecret) writesToken s
  stored : ∀ id x, s.store.sessions.get? id = some x → Genuine s.trace x
  copies : ∀ e ∈ s.trace, ∀ x, reads e.toAsked = some x → Genuine s.trace x
  /-- a session with a token that has been exchanged is revoked -/
  spent : ∀ p ∈ s.written exchanges, p ∈ s.written writesToken ∧
    ∀ id x, s.store.sessions.get? id = some x → x.refreshTokenHash = p → x.revokedAt ≠ none
  once : (s.written exchanges).Nodup
  opened : ∀ id, Ended id s.trace → id ∈ s.written opensSession
  ended : ∀ id x, s.store.sessions.get? id = some x → Ended id s.trace → x.revokedAt ≠ none
  live : ∀ later e earlier x p, s.trace = later ++ e :: earlier →
    rotates e.toAsked = some (x, p) → ¬ Ended x.id earlier
  bound : ∀ e ∈ s.trace, ∀ x p, rotates e.toAsked = some (x, p) →
    (∃ e' ∈ s.trace, ∃ y, opens e'.toAsked = some y ∧ SameGrant y x) ∧
    ∃ t q, s.threads[e.caller]? = some t ∧ t.request.presented = some q ∧
      q.client = x.oauthClientId

section Genuine

variable {trace : List SessionEvent} {e : SessionEvent} {x y : AuthSession}

theorem SameGrant.symm (same : SameGrant x y) : SameGrant y x :=
  ⟨same.id.symm, same.userId.symm, same.client.symm⟩

theorem SameGrant.trans {z : AuthSession} (same : SameGrant x y) (same' : SameGrant y z) :
    SameGrant x z :=
  ⟨same.id.trans same'.id, same.userId.trans same'.userId, same.client.trans same'.client⟩

theorem Genuine.later (genuine : Genuine trace x) : Genuine (e :: trace) x where
  written := by
    obtain ⟨e', mem, found⟩ := genuine.written
    exact ⟨e', List.mem_cons_of_mem e mem, found⟩
  origin := by
    obtain ⟨e', mem, found⟩ := genuine.origin
    exact ⟨e', List.mem_cons_of_mem e mem, found⟩

theorem Genuine.of_grant (genuine : Genuine trace x) (same : SameGrant x y)
    (written : ∃ e ∈ trace, ∃ z, carriesToken e.toAsked = some z ∧ z.id = y.id ∧
      z.refreshTokenHash = y.refreshTokenHash) : Genuine trace y where
  written := written
  origin := by
    obtain ⟨e', mem, z, opened, grant⟩ := genuine.origin
    exact ⟨e', mem, z, opened, grant.trans same⟩

theorem Genuine.congr (genuine : Genuine trace x) (same : SameGrant x y)
    (hash : x.refreshTokenHash = y.refreshTokenHash) : Genuine trace y := by
  refine genuine.of_grant same ?_
  obtain ⟨e', mem, z, carried, sameId, sameHash⟩ := genuine.written
  exact ⟨e', mem, z, carried, sameId.trans same.id, sameHash.trans hash⟩

end Genuine

variable {b : Backend} {current x : AuthSession}

theorem revokedAt_updatedRow :
    (updatedRow b current x).revokedAt = current.revokedAt.or x.revokedAt := by
  cases b <;> rfl

theorem hash_updatedRow : (updatedRow b current x).refreshTokenHash = x.refreshTokenHash := by
  cases b <;> rfl

theorem hash_rotatedRow : (rotatedRow b current x).refreshTokenHash = x.refreshTokenHash := by
  cases b <;> rfl

theorem sameGrant_updatedRow :
    SameGrant current (updatedRow b current x) ∨ SameGrant x (updatedRow b current x) := by
  cases b with
  | inMemory => exact Or.inr ⟨rfl, rfl, rfl⟩
  | postgres => exact Or.inl ⟨rfl, rfl, rfl⟩

theorem sameGrant_rotatedRow :
    SameGrant current (rotatedRow b current x) ∨ SameGrant x (rotatedRow b current x) := by
  cases b with
  | inMemory => exact Or.inr ⟨rfl, rfl, rfl⟩
  | postgres => exact Or.inl ⟨rfl, rfl, rfl⟩

structure Proper (s : IdentityServer) (a : Asked IdentityOp.Answer) : Prop where
  opened : ∀ x, opens a = some x → x.id ∉ s.written opensSession
  fresh : ∀ x, carriesToken a = some x → x.refreshTokenHash ∉ s.written writesToken
  rotated : ∀ x p, rotates a = some (x, p) →
    ∃ e ∈ s.trace, ∃ copy, reads e.toAsked = some copy ∧ SameGrant x copy
  updated : ∀ x, a.op = .updateSession x → x.revokedAt ≠ none ∧ ∃ e ∈ s.trace, ∃ copy,
    reads e.toAsked = some copy ∧ SameGrant x copy ∧ x.refreshTokenHash = copy.refreshTokenHash

section Moves

variable {rt : IdentityRuntime} {b : Backend} {s : IdentityServer} {a : Asked IdentityOp.Answer}
  {d : Dict Uuid AuthSession} {i : Nat}

theorem Custody.same_id (custody : Custody rt s) {x y : AuthSession} (genuine : Genuine s.trace x)
    (genuine' : Genuine s.trace y) (same : x.refreshTokenHash = y.refreshTokenHash) :
    x.id = y.id := by
  obtain ⟨e, mem, z, carried, sameId, sameHash⟩ := genuine.written
  obtain ⟨e', mem', z', carried', sameId', sameHash'⟩ := genuine'.written
  have here : e = e' := by
    refine Lib.Server.eq_of_nodup_filterMap custody.tokens.nodup mem mem'
      (x := x.refreshTokenHash) ?_ ?_
    · simp [writesToken, carried, sameHash]
    · simp [writesToken, carried', sameHash', same]
  subst here
  cases carried.symm.trans carried'
  exact sameId.symm.trans sameId'

theorem Genuine.mem_written {x : AuthSession} (genuine : Genuine s.trace x) :
    x.refreshTokenHash ∈ s.written writesToken := by
  obtain ⟨e, mem, z, carried, -, sameHash⟩ := genuine.written
  exact Lib.Server.mem_written.mpr ⟨e, mem, by simp [writesToken, carried, sameHash]⟩

theorem Genuine.mem_opened {x : AuthSession} (genuine : Genuine s.trace x) :
    x.id ∈ s.written opensSession := by
  obtain ⟨e, mem, z, opened, same⟩ := genuine.origin
  exact Lib.Server.mem_written.mpr ⟨e, mem, by simp [opensSession, opened, same.id]⟩

theorem Custody.same_opening (custody : Custody rt s) {e e' : SessionEvent} {x y : AuthSession}
    (mem : e ∈ s.trace) (mem' : e' ∈ s.trace) (opened : opens e.toAsked = some x)
    (opened' : opens e'.toAsked = some y) (same : x.id = y.id) : x = y := by
  have here : e = e' := by
    refine Lib.Server.eq_of_nodup_filterMap custody.ids.nodup mem mem' (x := x.id) ?_ ?_
    · simp [opensSession, opened]
    · simp [opensSession, opened', same]
  subst here
  exact Option.some.inj (opened.symm.trans opened')

theorem SessionEffect.rotates_live (effect : SessionEffect b s.store.sessions a d)
    {x : AuthSession} {p : String} (rotated : rotates a = some (x, p)) :
    ∃ current, s.store.sessions.get? x.id = some current ∧ current.refreshTokenHash = p ∧
      current.revokedAt = none := by
  cases effect with
  | kept carried =>
    unfold carriesToken at carried
    rw [rotated] at carried
    simp at carried
  | rotated can =>
    cases rotated
    exact ⟨_, rotatable_ok can⟩
  | read | added | updated | revoked => cases rotated

variable {id : Uuid}

theorem get?_revokeSessionsForUser {sessions : Dict Uuid AuthSession} {userId : Uuid}
    {now : Instant} {y : AuthSession}
    (found : (revokeSessionsForUser sessions userId now).2.get? id = some y) :
    ∃ x, sessions.get? id = some x ∧ SameGrant x y ∧ x.refreshTokenHash = y.refreshTokenHash ∧
      (x.revokedAt ≠ none → y.revokedAt = x.revokedAt) ∧
      (x.userId = userId → y.revokedAt ≠ none) := by
  unfold revokeSessionsForUser at found
  rw [Dict.get?_mapValues, Option.map_eq_some_iff] at found
  obtain ⟨x, found, same⟩ := found
  refine ⟨x, found, ?_⟩
  subst same
  split
  next active =>
    exact ⟨⟨rfl, rfl, rfl⟩, rfl, fun revoked => absurd active.2 revoked, fun _ => by simp⟩
  next inactive =>
    exact ⟨⟨rfl, rfl, rfl⟩, rfl, fun _ => rfl, fun owned revoked => inactive ⟨owned, revoked⟩⟩

theorem Custody.stored_moved (custody : Custody rt s) (keyed : s.store.Keyed)
    (effect : SessionEffect b s.store.sessions a d) (proper : Proper s a) (id : Uuid)
    (y : AuthSession) (found : d.get? id = some y) : Genuine (⟨a, i⟩ :: s.trace) y := by
  have old {id : Uuid} {y : AuthSession} (found : s.store.sessions.get? id = some y) :
      Genuine (⟨a, i⟩ :: s.trace) y := (custody.stored id y found).later
  cases effect with
  | kept => exact old found
  | read => exact old found
  | @added x answer =>
    obtain ⟨-, rfl⟩ | ⟨-, found⟩ := Dict.of_get?_set found
    · exact ⟨⟨_, .head _, _, rfl, rfl, rfl⟩, ⟨_, .head _, _, rfl, ⟨rfl, rfl, rfl⟩⟩⟩
    · exact old found
  | @updated current x answer there =>
    obtain ⟨-, rfl⟩ | ⟨-, found⟩ := Dict.of_get?_set found
    · obtain ⟨-, e, mem, copy, read, same, hash⟩ := proper.updated x rfl
      have here : Genuine s.trace x :=
        (custody.copies e mem copy read).congr same.symm hash.symm
      have sameId : current.id = x.id := keyed.sessions _ current there
      obtain ⟨e', mem', z, carried, id', hash'⟩ := here.written
      refine Genuine.later ?_
      cases sameGrant_updatedRow with
      | inl same =>
        exact (custody.stored _ current there).of_grant same ⟨e', mem', z, carried,
          id'.trans (sameId.symm.trans same.id), hash'.trans hash_updatedRow.symm⟩
      | inr same => exact here.congr same hash_updatedRow.symm
    · exact old found
  | revoked =>
    obtain ⟨x, found, same, hash, -⟩ := get?_revokeSessionsForUser found
    exact (old found).congr same hash
  | @rotated current x answer previous now can =>
    obtain ⟨-, rfl⟩ | ⟨-, found⟩ := Dict.of_get?_set found
    · obtain ⟨there, -, -⟩ := rotatable_ok can
      obtain ⟨e, mem, copy, read, copied⟩ := proper.rotated x previous rfl
      have sameId : current.id = x.id := keyed.sessions _ current there
      have here : carriesToken (⟨.rotateSession x previous now, .ok answer⟩ :
        Asked IdentityOp.Answer) = some x := rfl
      cases sameGrant_rotatedRow with
      | inl same =>
        exact (old there).of_grant same
          ⟨_, .head _, x, here, sameId.symm.trans same.id, hash_rotatedRow.symm⟩
      | inr same =>
        exact (custody.copies e mem copy read).later.of_grant (copied.symm.trans same)
          ⟨_, .head _, x, here, same.id, hash_rotatedRow.symm⟩
    · exact old found

theorem Custody.spent_moved (custody : Custody rt s) (keyed : s.store.Keyed)
    (effect : SessionEffect b s.store.sessions a d) (proper : Proper s a) {p : String}
    (exchanged : p ∈ s.written exchanges ∨ exchanges a = some p) :
    p ∈ s.written writesToken ∧
      ∀ id y, d.get? id = some y → y.refreshTokenHash = p → y.revokedAt ≠ none := by
  have written : p ∈ s.written writesToken := by
    cases exchanged with
    | inl before => exact (custody.spent p before).1
    | inr now =>
      obtain ⟨⟨x, p'⟩, rotated, same⟩ := Option.map_eq_some_iff.mp now
      obtain ⟨current, there, hash, -⟩ := effect.rotates_live rotated
      rw [← same, ← hash]
      exact (custody.stored _ current there).mem_written
  have unlike {x : AuthSession} (carried : carriesToken a = some x) : x.refreshTokenHash ≠ p := by
    intro same
    rw [← same] at written
    exact proper.fresh x carried written
  refine ⟨written, fun id y found hash => ?_⟩
  have old (quiet : exchanges a = none) {id : Uuid} {y : AuthSession}
      (found : s.store.sessions.get? id = some y) (hash : y.refreshTokenHash = p) :
      y.revokedAt ≠ none := by
    cases exchanged with
    | inl before => exact (custody.spent p before).2 id y found hash
    | inr now => cases quiet.symm.trans now
  cases effect with
  | kept carried =>
    have quiet : exchanges a = none := by
      unfold carriesToken at carried
      rw [Option.or_eq_none_iff, Option.map_eq_none_iff] at carried
      simp [exchanges, carried.2]
    exact old quiet found hash
  | read => exact old rfl found hash
  | @added x answer =>
    obtain ⟨-, rfl⟩ | ⟨-, found⟩ := Dict.of_get?_set found
    · exact absurd hash (unlike rfl)
    · exact old rfl found hash
  | @updated current x answer there =>
    obtain ⟨-, rfl⟩ | ⟨-, found⟩ := Dict.of_get?_set found
    · rw [revokedAt_updatedRow]
      simp [(proper.updated x rfl).1]
    · exact old rfl found hash
  | revoked =>
    obtain ⟨x, found, -, same, kept, -⟩ := get?_revokeSessionsForUser found
    have revoked := old rfl found (same.trans hash)
    rw [kept revoked]
    exact revoked
  | @rotated current x answer previous now can =>
    obtain ⟨-, rfl⟩ | ⟨other, found⟩ := Dict.of_get?_set found
    · rw [hash_rotatedRow] at hash
      exact absurd hash (unlike rfl)
    · cases exchanged with
      | inl before => exact (custody.spent p before).2 id y found hash
      | inr here =>
        -- the token was the rotated session's, so it is no other's
        cases here
        obtain ⟨there, carried, -⟩ := rotatable_ok can
        have same := custody.same_id (custody.stored _ current there) (custody.stored id y found)
          (carried.trans hash.symm)
        rw [keyed.sessions _ current there, keyed.sessions id y found] at same
        exact absurd same.symm other

theorem SessionEffect.ends_cases (effect : SessionEffect b s.store.sessions a d) {earlier : List SessionEvent} (ends : EndsNow id earlier a) :
    (∃ x, a.op = .updateSession x ∧ x.id = id) ∨
      ∃ e ∈ earlier, ∃ x, opens e.toAsked = some x ∧ x.id = id := by
  cases effect with
  | kept _ _ continues => exact absurd ends (continues id earlier)
  | read => cases ends
  | added => cases ends
  | updated => exact Or.inl ⟨_, rfl, ends⟩
  | revoked =>
    obtain ⟨e, mem, x, opened, same, -⟩ := ends
    exact Or.inr ⟨e, mem, x, opened, same⟩
  | rotated => cases ends

theorem Custody.opened_moved (custody : Custody rt s)
    (effect : SessionEffect b s.store.sessions a d) (proper : Proper s a)
    (ended : Ended id (⟨a, i⟩ :: s.trace)) : id ∈ s.written opensSession := by
  cases ended with
  | inr before => exact custody.opened id before
  | inl ends =>
    cases effect.ends_cases ends with
    | inl updated =>
      obtain ⟨x, asked, same⟩ := updated
      obtain ⟨-, e, mem, copy, read, grant, -⟩ := proper.updated x asked
      rw [← same, grant.id]
      exact (custody.copies e mem copy read).mem_opened
    | inr opened =>
      obtain ⟨e, mem, x, opened, same⟩ := opened
      exact Lib.Server.mem_written.mpr ⟨e, mem, by simp [opensSession, opened, same]⟩

theorem Custody.ended_moved (custody : Custody rt s) (keyed : s.store.Keyed)
    (effect : SessionEffect b s.store.sessions a d) (proper : Proper s a) (id : Uuid)
    (y : AuthSession) (found : d.get? id = some y) (ended : Ended id (⟨a, i⟩ :: s.trace)) :
    y.revokedAt ≠ none := by
  have opened := custody.opened_moved effect proper ended
  cases effect with
  | kept _ _ continues =>
    exact custody.ended id y found (ended.resolve_left (continues id s.trace))
  | read => exact custody.ended id y found (ended.resolve_left (fun ends => ends))
  | added =>
    rw [Dict.get?_set] at found
    split at found
    next same =>
      rw [same] at opened
      exact absurd opened (proper.opened _ rfl)
    next => exact custody.ended id y found (ended.resolve_left (fun ends => ends))
  | @updated current x answer there =>
    obtain ⟨-, rfl⟩ | ⟨other, found⟩ := Dict.of_get?_set found
    · rw [revokedAt_updatedRow]
      simp [(proper.updated x rfl).1]
    · exact custody.ended id y found (ended.resolve_left (fun same => other same.symm))
  | revoked =>
    obtain ⟨x, there, same, -, kept, owned⟩ := get?_revokeSessionsForUser found
    cases ended with
    | inr before =>
      have revoked := custody.ended id x there before
      rw [kept revoked]
      exact revoked
    | inl ends =>
      obtain ⟨e, mem, z, opens, sameId, sameUser⟩ := ends
      obtain ⟨e', mem', z', opens', grant⟩ := (custody.stored id x there).origin
      have sameIds : z.id = z'.id := by
        rw [sameId, grant.id, keyed.sessions id x there]
      cases custody.same_opening mem mem' opens opens' sameIds
      exact owned (grant.userId.symm.trans sameUser)
  | @rotated current x answer previous now can =>
    have before := ended.resolve_left (fun ends => ends)
    rw [Dict.get?_set] at found
    split at found
    next same =>
      obtain ⟨there, -, live⟩ := rotatable_ok can
      rw [same] at before
      exact absurd live (custody.ended _ current there before)
    next => exact custody.ended id y found before

theorem Custody.revocation_kept (custody : Custody rt s) (keyed : s.store.Keyed)
    (effect : SessionEffect b s.store.sessions a d) (proper : Proper s a)
    {x : AuthSession} {t : Instant} (found : s.store.sessions.get? id = some x)
    (revoked : x.revokedAt = some t) : ∃ y, d.get? id = some y ∧ y.revokedAt = some t := by
  cases effect with
  | kept => exact ⟨x, found, revoked⟩
  | read => exact ⟨x, found, revoked⟩
  | added =>
    refine ⟨x, ?_, revoked⟩
    rw [Dict.get?_set]
    split
    next same =>
      have opened := (custody.stored id x found).mem_opened
      rw [keyed.sessions id x found, same] at opened
      exact absurd opened (proper.opened _ rfl)
    next => exact found
  | @updated current y answer there =>
    rw [Dict.get?_set]
    split
    next same =>
      rw [same, there] at found
      cases found
      refine ⟨_, rfl, ?_⟩
      rw [revokedAt_updatedRow, revoked]
      rfl
    next => exact ⟨x, found, revoked⟩
  | revoked =>
    unfold revokeSessionsForUser
    rw [Dict.get?_mapValues, found]
    refine ⟨_, rfl, ?_⟩
    dsimp only
    split
    next active => cases active.2.symm.trans revoked
    next => exact revoked
  | @rotated current y answer previous now can =>
    rw [Dict.get?_set]
    split
    next same =>
      obtain ⟨there, -, live⟩ := rotatable_ok can
      rw [same, there] at found
      cases found
      cases live.symm.trans revoked
    next => exact ⟨x, found, revoked⟩

theorem live_cons {trace : List SessionEvent} {e : SessionEvent}
    (old : ∀ later e earlier x p, trace = later ++ e :: earlier →
      rotates e.toAsked = some (x, p) → ¬ Ended x.id earlier)
    (new : ∀ x p, rotates e.toAsked = some (x, p) → ¬ Ended x.id trace) (later : List SessionEvent)
    (e' : SessionEvent) (earlier : List SessionEvent) (x : AuthSession) (p : String)
    (split : e :: trace = later ++ e' :: earlier) (rotated : rotates e'.toAsked = some (x, p)) :
    ¬ Ended x.id earlier := by
  cases later with
  | nil =>
    cases split
    exact new x p rotated
  | cons e'' later =>
    cases split
    exact old later e' earlier x p rfl rotated

theorem Custody.moved {s' : IdentityServer} (custody : Custody rt s) (keyed : s.store.Keyed)
    (traced : s'.trace = ⟨a, i⟩ :: s.trace) (stored : s'.store.sessions = d)
    (effect : SessionEffect b s.store.sessions a d) (proper : Proper s a)
    (ids : DrawsOnce sessionIdDraw opensSession s')
    (tokens : DrawsOnce (fun r => (tokenDraw r).map rt.hashSecret) writesToken s')
    (still : ∀ (j : Nat) (t : IdentityThread), s.threads[j]? = some t →
      ∃ t', s'.threads[j]? = some t' ∧ t'.request = t.request)
    (bound : ∀ x p, rotates a = some (x, p) → ∃ t q, s'.threads[i]? = some t ∧
      t.request.presented = some q ∧ q.client = x.oauthClientId) : Custody rt s' := by
  have writes {T : Type} (f : Asked IdentityOp.Answer → Option T) :
      s'.written f = (f a).toList ++ s.written f := Lib.Server.written_of_traced traced
  constructor
  case ids => exact ids
  case tokens => exact tokens
  case stored =>
    rw [stored, traced]
    exact custody.stored_moved keyed effect proper
  case copies =>
    rw [traced]
    intro e mem x read
    cases mem with
    | tail _ mem => exact (custody.copies e mem x read).later
    | head =>
      cases effect with
      | kept _ unread => cases unread.symm.trans read
      | read found =>
        cases read
        exact (custody.stored _ _ found).later
      | added | updated | revoked | rotated => cases read
  case spent =>
    intro p mem
    rw [writes] at mem
    rw [stored, writes]
    have exchanged : p ∈ s.written exchanges ∨ exchanges a = some p := by
      simpa [or_comm] using mem
    obtain ⟨written, spent⟩ := custody.spent_moved keyed effect proper exchanged
    exact ⟨List.mem_append_right _ written, spent⟩
  case once =>
    rw [writes]
    cases exchanged : exchanges a with
    | none => exact custody.once
    | some p =>
      obtain ⟨⟨x, p'⟩, rotated, same⟩ := Option.map_eq_some_iff.mp exchanged
      cases same
      refine List.nodup_cons.mpr ⟨fun before => ?_, custody.once⟩
      obtain ⟨current, there, hash, live⟩ := effect.rotates_live rotated
      exact (custody.spent p' before).2 _ current there hash live
  case opened =>
    intro id ended
    rw [traced] at ended
    rw [writes]
    exact List.mem_append_right _ (custody.opened_moved effect proper ended)
  case ended =>
    rw [stored, traced]
    exact custody.ended_moved keyed effect proper
  case live =>
    rw [traced]
    refine live_cons custody.live (fun x p rotated ended => ?_)
    obtain ⟨current, there, -, live⟩ := effect.rotates_live rotated
    exact custody.ended _ current there ended live
  case bound =>
    rw [traced]
    intro e mem x p rotated
    cases mem with
    | head =>
      obtain ⟨e', mem', copy, read, same⟩ := proper.rotated x p rotated
      obtain ⟨e'', mem'', y, opened, grant⟩ := (custody.copies e' mem' copy read).origin
      exact ⟨⟨e'', .tail _ mem'', y, opened, grant.trans same.symm⟩, bound x p rotated⟩
    | tail _ mem =>
      obtain ⟨⟨e', mem', opened⟩, t, q, there, presented, client⟩ := custody.bound e mem x p rotated
      obtain ⟨t', there', same⟩ := still _ t there
      rw [← same] at presented
      exact ⟨⟨e', .tail _ mem', opened⟩, t', q, there', presented, client⟩

end Moves

section Runs

variable {rt : IdentityRuntime} {config : IdentityConfig} {b : Backend} {s : IdentityServer}
  {i : Nat} {r : IdentityRequest} {past : Past} {op : IdentityOp}
  {next : op.Answer → IdentityCall Reply}

theorem carries_of_asks {answer : op.Answer} (asks : Asks rt config r past op) {x : AuthSession}
    (carried : carriesToken ⟨op, answer⟩ = some x) :
    (tokenDraw r).map rt.hashSecret = some x.refreshTokenHash ∧ ∀ a ∈ past, carriesToken a = none := by
  cases Option.or_eq_some_iff.mp carried with
  | inl opened => exact (opens_of_asks asks opened).2.2
  | inr fresh =>
    obtain ⟨⟨y, p⟩, rotated, same⟩ := Option.map_eq_some_iff.mp fresh.2
    subst same
    obtain ⟨copy, q, -, -, -, -, -, drawn, unwritten⟩ := rotates_of_asks asks rotated
    exact ⟨drawn, unwritten⟩

theorem Custody.proper (custody : Custody rt s) (valid : Valid rt config s)
    (there : s.threads[i]? = some ⟨r, past, .ask op next⟩) (asks : Asks rt config r past op)
    (answer : op.Answer) : Proper s ⟨op, answer⟩ := by
  have traced {a : Asked IdentityOp.Answer} (mem : a ∈ past) : ⟨a, i⟩ ∈ s.trace :=
    (valid.sound.traced i _ a there).mp mem
  constructor
  case opened =>
    intro x opened
    obtain ⟨drawn, unopened, -⟩ := opens_of_asks asks opened
    exact custody.ids.unwritten valid.sound there drawn
      (fun a mem => by simp [opensSession, unopened a mem])
  case fresh =>
    intro x carried
    obtain ⟨drawn, unwritten⟩ := carries_of_asks asks carried
    exact custody.tokens.unwritten valid.sound there drawn
      (fun a mem => by simp [writesToken, unwritten a mem])
  case rotated =>
    intro x p rotated
    obtain ⟨copy, q, ⟨a, mem, read⟩, same, -⟩ := rotates_of_asks asks rotated
    exact ⟨⟨a, i⟩, traced mem, copy, read, same⟩
  case updated =>
    intro x same
    cases same
    obtain ⟨copy, ⟨a, mem, read⟩, same, hash, revoked⟩ := updates_of_asks asks
    exact ⟨revoked, ⟨a, i⟩, traced mem, copy, read, same, hash⟩

theorem Custody.answered (custody : Custody rt s) (valid : Valid rt config s)
    (there : s.threads[i]? = some ⟨r, past, .ask op next⟩) (asks : Asks rt config r past op) :
    Custody rt (s.answered (exec rt b) i r past op next) := by
  refine custody.moved valid.keyed rfl rfl (sessionEffect_exec s.store op)
    (custody.proper valid there asks _) ?_ ?_
    (fun j t found => Lib.Server.answered_of_there _ there found) ?_
  · refine custody.ids.answered valid.sound there (fun id wrote => ?_)
    obtain ⟨x, opened, same⟩ := Option.map_eq_some_iff.mp wrote
    obtain ⟨drawn, unopened, -⟩ := opens_of_asks asks opened
    exact ⟨by rw [← same, drawn], fun a mem => by simp [opensSession, unopened a mem]⟩
  · refine custody.tokens.answered valid.sound there (fun hash wrote => ?_)
    obtain ⟨x, carried, same⟩ := Option.map_eq_some_iff.mp wrote
    obtain ⟨drawn, unwritten⟩ := carries_of_asks asks carried
    exact ⟨by rw [← same, drawn], fun a mem => by simp [writesToken, unwritten a mem]⟩
  · intro x p rotated
    obtain ⟨copy, q, -, -, presents, client, -⟩ := rotates_of_asks asks rotated
    obtain ⟨t, found, same⟩ :=
      Lib.Server.answered_of_there (exec rt b) there there
    exact ⟨t, q, found, by rw [same]; exact presents, client⟩

def DrawsApart (s : IdentityServer) (turn : IdentityTurn) : Prop :=
  DrawsFresh sessionIdDraw s turn ∧ DrawsFresh tokenDraw s turn

instance (s : IdentityServer) (turn : IdentityTurn) : Decidable (DrawsApart s turn) :=
  inferInstanceAs (Decidable (DrawsFresh sessionIdDraw s turn ∧ DrawsFresh tokenDraw s turn))

theorem Custody.started (custody : Custody rt s) (injective : Function.Injective rt.hashSecret)
    (apart : DrawsApart s (.begin r)) :
    Custody rt (s.started (IdentityRequest.call rt config) r) where
  ids := custody.ids.started apart.1
  tokens := by
    refine custody.tokens.started (fun hash drawn t mem drawn' => ?_)
    obtain ⟨token, drawn, same⟩ := Option.map_eq_some_iff.mp drawn
    obtain ⟨token', drawn', same'⟩ := Option.map_eq_some_iff.mp drawn'
    cases injective (same.trans same'.symm)
    exact apart.2 token drawn t mem drawn'
  stored := custody.stored
  copies := custody.copies
  spent := custody.spent
  once := custody.once
  opened := custody.opened
  ended := custody.ended
  live := custody.live
  bound e mem x p rotated := by
    obtain ⟨opened, t, q, found, rest⟩ := custody.bound e mem x p rotated
    exact ⟨opened, t, q, Lib.Server.started_of_there found, rest⟩

theorem custody_fresh {store : IdentityStore} (empty : store.sessions = ∅) :
    Custody rt { store := store } where
  ids := Lib.Server.drawsOnce_fresh
  tokens := Lib.Server.drawsOnce_fresh
  stored id x found := by
    rw [empty] at found
    cases found
  copies e mem := by cases mem
  spent p mem := by cases mem
  once := List.nodup_nil
  opened id ended := by cases ended
  ended id x found := by
    rw [empty] at found
    cases found
  live later e earlier x p split := by cases later <;> cases split
  bound e mem := by cases mem

def RevocationKept (rt : IdentityRuntime) (config : IdentityConfig) (b : Backend)
    (s : IdentityServer) (turn : IdentityTurn) : Prop :=
  ∀ id x t, s.store.sessions.get? id = some x → x.revokedAt = some t →
    ∃ y, (s.step rt config b turn).store.sessions.get? id = some y ∧ y.revokedAt = some t

theorem Custody.keeps_revocation (custody : Custody rt s) (valid : Valid rt config s)
    (turn : IdentityTurn) : RevocationKept rt config b s turn := by
  intro id x t found revoked
  cases turn with
  | begin r => exact ⟨x, found, revoked⟩
  | advance i =>
    unfold step
    cases Lib.Server.step_advance (exec rt b) (IdentityRequest.call rt config) s i with
    | inl idle =>
      rw [idle]
      exact ⟨x, found, revoked⟩
    | inr asked =>
      obtain ⟨r, past, op, next, there, moved⟩ := asked
      rw [moved]
      exact custody.revocation_kept valid.keyed (sessionEffect_exec s.store op)
        (custody.proper valid there (valid.sound.asks there) _) found revoked

structure RefreshesSafe (rt : IdentityRuntime) (s : IdentityServer) : Prop where
  exchangedOnce : ∀ (i j : Nat) r r' past past' p p' reply reply',
    s.threads[i]? = some ⟨r, past, .done (.ok reply)⟩ →
    s.threads[j]? = some ⟨r', past', .done (.ok reply')⟩ →
    r.presented = some p → r'.presented = some p' → p.token = p'.token → i = j
  /-- a call that succeeds has rotated a session -/
  earned : ∀ (i : Nat) r past p reply, s.threads[i]? = some ⟨r, past, .done (.ok reply)⟩ →
    r.presented = some p → ∃ e ∈ s.trace, e.caller = i ∧
      exchanges e.toAsked = some (rt.hashSecret p.token)
  /-- which had not been revoked, nor its user logged out -/
  live : ∀ later e earlier x p, s.trace = later ++ e :: earlier →
    rotates e.toAsked = some (x, p) → ¬ Ended x.id earlier
  /-- and which had been opened for the client that presents the token -/
  bound : ∀ e ∈ s.trace, ∀ e' ∈ s.trace, ∀ x y p, opens e.toAsked = some x →
    rotates e'.toAsked = some (y, p) → x.id = y.id → ∃ t q, s.threads[e'.caller]? = some t ∧
      t.request.presented = some q ∧ q.client = x.oauthClientId

theorem Custody.earned (valid : Valid rt config s) {p : Presented} {reply : Reply}
    (there : s.threads[i]? = some ⟨r, past, .done (.ok reply)⟩) (presents : r.presented = some p) :
    ∃ e ∈ s.trace, e.caller = i ∧ exchanges e.toAsked = some (rt.hashSecret p.token) := by
  have issues : r.Issues := by
    cases r with
    | refresh => trivial
    | exchangeRefreshToken => trivial
    | _ => cases presents
  cases valid.sound.gives there with
  | plain quiet => exact absurd issues quiet
  | signedIn asked =>
    cases asked with
    | issueNew | issueVerified | issueSignedIn | grant => cases presents
  | @refreshed _ _ session stored previous now tokens asked =>
    have rotated : rotates (⟨.rotateSession session previous now, .ok stored⟩ :
      Asked IdentityOp.Answer) = some (session, previous) := rfl
    obtain ⟨copy, q, -, -, presents', -, hash, -⟩ := rotates_of_asks asked rotated
    cases presents.symm.trans presents'
    refine ⟨⟨_, i⟩, (valid.sound.traced i _ _ there).mp (.head _), rfl, ?_⟩
    rw [hash]
    rfl
  | approved => cases presents
  | loaded => cases presents

theorem refreshes_safe (injective : Function.Injective rt.hashSecret) {store : IdentityStore}
    (keyed : store.Keyed) (empty : store.sessions = ∅) (turns : List IdentityTurn)
    (apart : AllSteps (step rt config b) DrawsApart { store := store } turns) :
    RefreshesSafe rt (turns.foldl (step rt config b) { store := store }) ∧
      AllSteps (step rt config b) (RevocationKept rt config b)
        { store := store } turns := by
  have started (s : IdentityServer) (r : IdentityRequest) (_ : Valid rt config s)
      (custody : Custody rt s) (apart : DrawsApart s (.begin r)) :
      Custody rt (s.started (IdentityRequest.call rt config) r) := custody.started injective apart
  have answered (s : IdentityServer) (i : Nat) (r : IdentityRequest) (past : Past) (op : IdentityOp)
      (next : op.Answer → IdentityCall Reply) (valid : Valid rt config s) (custody : Custody rt s)
      (there : s.threads[i]? = some ⟨r, past, .ask op next⟩) (asks : Asks rt config r past op)
      (_ : DrawsApart s (.advance i)) :
      Custody rt (s.answered (exec rt b) i r past op next) :=
    custody.answered valid there asks
  have good : Valid rt config { store := store } ∧ Custody rt { store := store } :=
    ⟨valid_fresh keyed, custody_fresh empty⟩
  constructor
  · obtain ⟨valid, custody⟩ := keep_run started answered good apart
    constructor
    case exchangedOnce =>
      intro i j r r' past past' p p' reply reply' there there' presents presents' same
      obtain ⟨e, mem, caller, exchanged⟩ := Custody.earned valid there presents
      obtain ⟨e', mem', caller', exchanged'⟩ := Custody.earned valid there' presents'
      rw [← same] at exchanged'
      cases Lib.Server.eq_of_nodup_filterMap custody.once mem mem' exchanged exchanged'
      exact caller.symm.trans caller'
    case earned =>
      intro i r past p reply there presents
      exact Custody.earned valid there presents
    case live => exact custody.live
    case bound =>
      intro e mem e' mem' x y p opened rotated same
      obtain ⟨⟨e'', mem'', z, opened', grant⟩, t, q, there, presents, client⟩ :=
        custody.bound e' mem' y p rotated
      cases custody.same_opening mem mem'' opened opened' (same.trans grant.id.symm)
      exact ⟨t, q, there, presents, client.trans grant.client.symm⟩
  · refine Lib.AllSteps.of_invariant (P := fun s => Valid rt config s ∧ Custody rt s)
      (fun s turn good guard => ?_) good apart
    exact ⟨keep_step started answered s turn good guard, good.2.keeps_revocation good.1 turn⟩

end Runs

def racingTurns : List IdentityTurn :=
  [.begin (.startChallenge "a@b.c" 1 "7" 0 0), .advance 0,
    .begin (.verifyCode "a@b.c" "7" 1 1 5 1 ⟨3, "s"⟩), .advance 1, .advance 1, .advance 1,
    .advance 1, .advance 1, .begin (.refresh "s" 2 2 "t"), .begin (.refresh "s" 2 2 "u"),
    .advance 2, .advance 3, .advance 2, .advance 3, .advance 2, .advance 3,
    .begin (.logout 5 3), .begin (.refresh "t" 4 4 "v"), .advance 4, .advance 5]

theorem refreshes_safe_racing :
    let s := racingTurns.foldl (step .plain {} .postgres) { store := {} }
    s.written exchanges = ["s"] ∧ RefreshesSafe .plain s ∧
      AllSteps (step .plain {} .postgres) (RevocationKept .plain {} .postgres)
        { store := {} } racingTurns :=
  ⟨by decide +kernel, refreshes_safe (fun _ _ same => same)
    ⟨Dict.keyedBy_empty, Dict.keyedBy_empty, Dict.keyedBy_empty, Dict.keyedBy_empty⟩ rfl
    racingTurns (by decide +kernel)⟩

end Orcheo.Identity
