import Orcheo.Defs.Identity.ServiceLaws

/-! An authorization request is decided at most once, and its code is exchanged at most once, for
a session of the user who approved it. -/

namespace Orcheo.Identity

open Lib (Asked Dict)
open Lib.Server (DrawsFresh DrawsOnce written)
open IdentityServer (step)

namespace Consent

abbrev Trace := List (Lib.Event IdentityOp.Answer)

def files : Asked IdentityOp.Answer → Option OAuthAuthorizationRequest
  | ⟨.addAuthorizationRequest request, .ok _⟩ => some request
  | _ => none

def decides : Asked IdentityOp.Answer → Option OAuthAuthorizationRequest
  | ⟨.updateAuthorizationRequest request, .ok _⟩ => some request
  | _ => none

def consumes : Asked IdentityOp.Answer → Option String
  | ⟨.consumeAuthorizationCode requestId _, .ok _⟩ => some requestId
  | _ => none

def reads : Asked IdentityOp.Answer → Option OAuthAuthorizationRequest
  | ⟨.getAuthorizationRequest _, .ok request⟩ => some request
  | ⟨.getAuthorizationRequestByCodeHash _, .ok request⟩ => some request
  | _ => none

variable (a : Asked IdentityOp.Answer)

def filesId : Option String :=
  (files a).map OAuthAuthorizationRequest.id

def decidesId : Option String :=
  (decides a).map OAuthAuthorizationRequest.id

def writesCode : Option String :=
  (decides a).bind OAuthAuthorizationRequest.codeHash

def requestDraw : IdentityRequest → Option String
  | .authorize _ _ id _ => some id
  | _ => none

def codeDraw : IdentityRequest → Option String
  | .decide _ _ true _ _ code => some code
  | _ => none

section Effects

variable {rt : IdentityRuntime} {b : Backend}

inductive RequestEffect (b : Backend) (d : Dict String OAuthAuthorizationRequest) :
    Asked IdentityOp.Answer → Dict String OAuthAuthorizationRequest → Prop
  | kept {a : Asked IdentityOp.Answer} (unfiled : files a = none) (undecided : decides a = none)
      (unconsumed : consumes a = none)
      (read : ∀ x, reads a = some x → ∃ id, d.get? id = some x) : RequestEffect b d a d
  | filed {request answer : OAuthAuthorizationRequest} :
    RequestEffect b d ⟨.addAuthorizationRequest request, .ok answer⟩ (d.set request.id request)
  | decided {current request answer : OAuthAuthorizationRequest}
      (found : d.get? request.id = some current) (undecided : current.decidedAt = none) :
    RequestEffect b d ⟨.updateAuthorizationRequest request, .ok answer⟩
      (d.set request.id (decidedRow b current request))
  | consumed {requestId : String} {consumedAt : Instant}
      {current answer : OAuthAuthorizationRequest} (found : d.get? requestId = some current)
      (unconsumed : current.consumedAt = none) :
    RequestEffect b d ⟨.consumeAuthorizationCode requestId consumedAt, .ok answer⟩
      (d.set requestId { current with consumedAt := some consumedAt })

theorem requestEffect_exec (s : IdentityStore) (op : IdentityOp) :
    RequestEffect b s.requests ⟨op, (s.exec rt b op).1⟩ (s.exec rt b op).2.requests := by
  cases op with
  | getAuthorizationRequest requestId =>
    refine .kept rfl rfl rfl (fun x read => ?_)
    change reads ⟨.getAuthorizationRequest requestId,
      getAuthorizationRequest s.requests requestId⟩ = some x at read
    unfold getAuthorizationRequest at read
    split at read
    next => cases read
    next request found =>
      cases read
      exact ⟨requestId, found⟩
  | getAuthorizationRequestByCodeHash hash =>
    refine .kept rfl rfl rfl (fun x read => ?_)
    change reads ⟨.getAuthorizationRequestByCodeHash hash,
      getAuthorizationRequestByCodeHash s.requests hash⟩ = some x at read
    unfold getAuthorizationRequestByCodeHash at read
    split at read
    next => cases read
    next request found =>
      cases read
      exact (s.requests.mem_values_iff _).mp (List.mem_of_find?_eq_some found)
  | addAuthorizationRequest request =>
    show RequestEffect _ _
      ⟨.addAuthorizationRequest request, (addAuthorizationRequest b s.requests request).1⟩
      (addAuthorizationRequest b s.requests request).2
    unfold addAuthorizationRequest
    split
    next => exact .kept rfl rfl rfl (fun _ read => by cases read)
    next => exact .filed
  | updateAuthorizationRequest request =>
    show RequestEffect _ _
      ⟨.updateAuthorizationRequest request, (updateAuthorizationRequest b s.requests request).1⟩
      (updateAuthorizationRequest b s.requests request).2
    unfold updateAuthorizationRequest
    split
    next => exact .kept rfl rfl rfl (fun _ read => by cases read)
    next current found =>
      split
      next => exact .kept rfl rfl rfl (fun _ read => by cases read)
      next undecided =>
        split
        next => exact .kept rfl rfl rfl (fun _ read => by cases read)
        next => exact .decided found (by simpa using undecided)
  | consumeAuthorizationCode requestId consumedAt =>
    show RequestEffect _ _
      ⟨.consumeAuthorizationCode requestId consumedAt,
        (consumeAuthorizationCode s.requests requestId consumedAt).1⟩
      (consumeAuthorizationCode s.requests requestId consumedAt).2
    unfold consumeAuthorizationCode
    split
    next => exact .kept rfl rfl rfl (fun _ read => by cases read)
    next current found =>
      split
      next => exact .kept rfl rfl rfl (fun _ read => by cases read)
      next unconsumed => exact .consumed found (by simpa using unconsumed)
  | _ => exact .kept rfl rfl rfl (fun _ read => by cases read)

end Effects

structure SameRequest (x y : OAuthAuthorizationRequest) : Prop where
  id : x.id = y.id
  clientId : x.clientId = y.clientId
  scopes : x.scopes = y.scopes
  expiresAt : x.expiresAt = y.expiresAt

def Decision (rt : IdentityRuntime) (userId : Uuid) (approve : Bool) (code : String)
    (x : OAuthAuthorizationRequest) : Prop :=
  if approve then x.userId = some userId ∧ x.codeHash = some (rt.hashSecret code)
  else x.codeHash = none

section Asked

variable {rt : IdentityRuntime} {config : IdentityConfig} {r : IdentityRequest} {past : Past}
  {op : IdentityOp} {answer : op.Answer}

variable {x : OAuthAuthorizationRequest}

theorem files_of_asks (asks : Asks rt config r past op) (filed : files ⟨op, answer⟩ = some x) :
    requestDraw r = some x.id ∧
      (∀ a ∈ past, files a = none) ∧ x.decidedAt = none ∧ x.codeHash = none := by
  cases op with
  | addAuthorizationRequest request =>
    cases answer with
    | error e => cases filed
    | ok stored =>
      cases filed
      cases asks
      exact ⟨rfl, by simp, rfl, rfl⟩
  | _ => cases filed

theorem isPending_iff {now : Instant} :
    x.isPending now = true ↔ x.decidedAt = none ∧ now < x.expiresAt := by
  simp [OAuthAuthorizationRequest.isPending]

theorem decides_of_asks (asks : Asks rt config r past op)
    (decided : decides ⟨op, answer⟩ = some x) :
    ∃ copy userId approve checkedAt decidedAt code, (∃ a ∈ past, reads a = some copy) ∧
      copy.decidedAt = none ∧ checkedAt < copy.expiresAt ∧ SameRequest copy x ∧
      x.decidedAt ≠ none ∧ r = .decide x.id userId approve checkedAt decidedAt code ∧
      (copy.codeHash = none → Decision rt userId approve code x) ∧
      ∀ a ∈ past, decides a = none := by
  cases op with
  | updateAuthorizationRequest request =>
    cases answer with
    | error e => cases decided
    | ok stored =>
      cases decided
      cases asks with
      | @deny _ userId checkedAt decidedAt code copy client named pending =>
        obtain ⟨undecided, unexpired⟩ := isPending_iff.mp pending
        subst named
        exact ⟨copy, userId, false, checkedAt, decidedAt, code, ⟨_, .tail _ (.head _), rfl⟩,
          undecided, unexpired, ⟨rfl, rfl, rfl, rfl⟩, by simp [denial], rfl,
          fun uncoded => uncoded, by simp [decides]⟩
      | @approve _ userId checkedAt decidedAt code copy client named pending =>
        obtain ⟨undecided, unexpired⟩ := isPending_iff.mp pending
        subst named
        exact ⟨copy, userId, true, checkedAt, decidedAt, code, ⟨_, .tail _ (.head _), rfl⟩,
          undecided, unexpired, ⟨rfl, rfl, rfl, rfl⟩, by simp [approval], rfl,
          fun _ => ⟨rfl, rfl⟩, by simp [decides]⟩
  | _ => cases decided

theorem consumes_of_asks (asks : Asks rt config r past op) {requestId : String}
    (consumed : consumes ⟨op, answer⟩ = some requestId) :
    ∃ clientId granted consumedAt now draw, granted.requestId = requestId ∧
      r = .exchangeAuthorizationCode clientId granted consumedAt now draw := by
  cases op with
  | consumeAuthorizationCode id consumedAt =>
    cases answer with
    | error e => cases consumed
    | ok stored =>
      cases consumed
      cases asks
      exact ⟨_, _, _, _, _, rfl, rfl⟩
  | _ => cases consumed

end Asked

/-- A stored request, or a copy of one: it was filed, and it has a code only where a decision
wrote it. -/
structure Genuine (trace : Trace) (x : OAuthAuthorizationRequest) : Prop where
  filed : ∃ e ∈ trace, ∃ y, files e.toAsked = some y ∧ SameRequest y x
  undecided : x.decidedAt = none → x.codeHash = none
  coded : ∀ hash, x.codeHash = some hash → ∃ e ∈ trace, ∃ y, decides e.toAsked = some y ∧
    y.id = x.id ∧ y.codeHash = some hash ∧ y.userId = x.userId

def Handed (rt : IdentityRuntime) (trace : Trace) (clientId : String)
    (granted : OrcheoAuthorizationCode) : Prop :=
  ∃ x, Genuine trace x ∧ x.codeHash = some (rt.hashSecret granted.code) ∧
    grantedCode clientId granted.code x = some granted

structure Ledger (rt : IdentityRuntime) (s : IdentityServer) : Prop where
  ids : DrawsOnce requestDraw filesId s
  codes : DrawsOnce (fun r => (codeDraw r).map rt.hashSecret) writesCode s
  stored : ∀ id x, s.store.requests.get? id = some x → Genuine s.trace x
  copies : ∀ e ∈ s.trace, ∀ x, reads e.toAsked = some x → Genuine s.trace x
  decidedOnce : (s.written decidesId).Nodup
  decided : ∀ id ∈ s.written decidesId, ∀ x, s.store.requests.get? id = some x →
    x.decidedAt ≠ none
  consumedOnce : (s.written consumes).Nodup
  consumed : ∀ id ∈ s.written consumes, id ∈ s.written filesId ∧
    ∀ x, s.store.requests.get? id = some x → x.consumedAt ≠ none ∧ x.decidedAt ≠ none
  /-- a decision was taken by a call that had found the request pending -/
  deciders : ∀ e ∈ s.trace, ∀ x, decides e.toAsked = some x →
    (∃ e' ∈ s.trace, ∃ y, files e'.toAsked = some y ∧ SameRequest y x) ∧
    ∃ t userId approve checkedAt decidedAt code, s.threads[e.caller]? = some t ∧
      t.request = .decide x.id userId approve checkedAt decidedAt code ∧
      checkedAt < x.expiresAt ∧ Decision rt userId approve code x
  handed : ∀ t ∈ s.threads, ∀ clientId granted consumedAt now draw,
    t.request = .exchangeAuthorizationCode clientId granted consumedAt now draw →
    Handed rt s.trace clientId granted

section Genuine

variable {rt : IdentityRuntime} {trace : Trace} {e : Lib.Event IdentityOp.Answer}
  {x y z : OAuthAuthorizationRequest}

theorem SameRequest.trans (same : SameRequest x y) (same' : SameRequest y z) : SameRequest x z :=
  ⟨same.id.trans same'.id, same.clientId.trans same'.clientId, same.scopes.trans same'.scopes,
    same.expiresAt.trans same'.expiresAt⟩

theorem Genuine.later (genuine : Genuine trace x) : Genuine (e :: trace) x where
  filed := by
    obtain ⟨e', mem, found⟩ := genuine.filed
    exact ⟨e', .tail _ mem, found⟩
  undecided := genuine.undecided
  coded hash here := by
    obtain ⟨e', mem, found⟩ := genuine.coded hash here
    exact ⟨e', .tail _ mem, found⟩

theorem Handed.later {clientId : String} {granted : OrcheoAuthorizationCode}
    (handed : Handed rt trace clientId granted) : Handed rt (e :: trace) clientId granted := by
  obtain ⟨x, genuine, rest⟩ := handed
  exact ⟨x, genuine.later, rest⟩

theorem grantedCode_some {clientId code : String} {granted : OrcheoAuthorizationCode}
    (grants : grantedCode clientId code x = some granted) : granted.code = code ∧
      granted.requestId = x.id ∧ x.clientId = clientId ∧ x.userId = some granted.userId ∧
      granted.scopes = x.scopes := by
  unfold grantedCode at grants
  split at grants
  next userId expiresAt user expires =>
    split at grants
    next => cases grants
    next own =>
      cases grants
      exact ⟨rfl, rfl, not_not.mp (fun other => own (Or.inl other)), user, rfl⟩
  next => cases grants

end Genuine

structure Proper (rt : IdentityRuntime) (s : IdentityServer) (a : Asked IdentityOp.Answer) :
    Prop where
  filed : ∀ x, files a = some x → x.id ∉ s.written filesId ∧ x.decidedAt = none ∧ x.codeHash = none
  decided : ∀ x, decides a = some x → x.decidedAt ≠ none ∧ ∃ e ∈ s.trace, ∃ copy,
    reads e.toAsked = some copy ∧ SameRequest copy x
  consumed : ∀ id, consumes a = some id → ∃ clientId granted, granted.requestId = id ∧
    Handed rt s.trace clientId granted

section Moves

variable {rt : IdentityRuntime} {b : Backend} {s : IdentityServer} {a : Asked IdentityOp.Answer}
  {d : Dict String OAuthAuthorizationRequest} {i : Nat}

variable {x : OAuthAuthorizationRequest} {id : String}

theorem Genuine.mem_filed (genuine : Genuine s.trace x) :
    x.id ∈ s.written filesId := by
  obtain ⟨e, mem, y, filed, same⟩ := genuine.filed
  exact Lib.Server.mem_written.mpr ⟨e, mem, by simp [filesId, filed, same.id]⟩

theorem Genuine.mem_decided {hash : String}
    (genuine : Genuine s.trace x) (coded : x.codeHash = some hash) :
    x.id ∈ s.written decidesId := by
  obtain ⟨e, mem, y, decided, same, -⟩ := genuine.coded hash coded
  exact Lib.Server.mem_written.mpr ⟨e, mem, by simp [decidesId, decided, same]⟩

section

variable (ledger : Ledger rt s)
include ledger

theorem Ledger.stored_moved (keyed : s.store.Keyed)
    (effect : RequestEffect b s.store.requests a d) (proper : Proper rt s a) (id : String)
    (y : OAuthAuthorizationRequest) (found : d.get? id = some y) :
    Genuine (⟨a, i⟩ :: s.trace) y := by
  have old {id : String} {y : OAuthAuthorizationRequest}
      (found : s.store.requests.get? id = some y) : Genuine (⟨a, i⟩ :: s.trace) y :=
    (ledger.stored id y found).later
  cases effect with
  | kept => exact old found
  | @filed x answer =>
    obtain ⟨-, rfl⟩ | ⟨-, found⟩ := Dict.of_get?_set found
    · obtain ⟨-, -, uncoded⟩ := proper.filed _ rfl
      refine ⟨⟨_, .head _, _, rfl, ⟨rfl, rfl, rfl, rfl⟩⟩, fun _ => uncoded, fun hash coded => ?_⟩
      cases uncoded.symm.trans coded
    · exact old found
  | @decided current x answer there undecided =>
    obtain ⟨-, rfl⟩ | ⟨-, found⟩ := Dict.of_get?_set found
    · obtain ⟨decidedAt, e, mem, copy, read, copied⟩ := proper.decided x rfl
      obtain ⟨e', mem', z, filed, same⟩ := (ledger.copies e mem copy read).filed
      obtain ⟨e'', mem'', z', filed', same'⟩ := (ledger.stored _ current there).filed
      have sameId : current.id = x.id := keyed.requests _ current there
      cases b with
      | inMemory =>
        exact ⟨⟨e', .tail _ mem', z, filed, same.trans copied⟩,
          fun undecided => absurd undecided decidedAt,
          fun hash coded => ⟨_, .head _, x, rfl, rfl, coded, rfl⟩⟩
      | postgres =>
        exact ⟨⟨e'', .tail _ mem'', z', filed',
            ⟨same'.id, same'.clientId, same'.scopes, same'.expiresAt⟩⟩,
          fun undecided => absurd undecided decidedAt,
          fun hash coded => ⟨_, .head _, x, rfl, sameId.symm, coded, rfl⟩⟩
    · exact old found
  | @consumed requestId consumedAt current answer there unconsumed =>
    obtain ⟨-, rfl⟩ | ⟨-, found⟩ := Dict.of_get?_set found
    · obtain ⟨⟨e, mem, z, filed, same⟩, undecided, coded⟩ := old there
      exact ⟨⟨e, mem, z, filed, ⟨same.id, same.clientId, same.scopes, same.expiresAt⟩⟩,
        undecided, coded⟩
    · exact old found

theorem Ledger.decides_new (effect : RequestEffect b s.store.requests a d)
    (decided : decides a = some x) :
    x.id ∉ s.written decidesId := by
  cases effect with
  | kept _ undecided => cases undecided.symm.trans decided
  | filed => cases decided
  | decided there undecided =>
    cases decided
    exact fun before => ledger.decided _ before _ there undecided
  | consumed => cases decided

theorem Ledger.consumes_new (effect : RequestEffect b s.store.requests a d)
    (consumed : consumes a = some id) : id ∉ s.written consumes := by
  cases effect with
  | kept _ _ unconsumed => cases unconsumed.symm.trans consumed
  | filed => cases consumed
  | decided => cases consumed
  | consumed there unconsumed =>
    cases consumed
    exact fun before => ((ledger.consumed _ before).2 _ there).1 unconsumed

theorem Ledger.mem_filed_of_decided (decided : id ∈ s.written decidesId) :
    id ∈ s.written filesId := by
  obtain ⟨e, mem, wrote⟩ := Lib.Server.mem_written.mp decided
  obtain ⟨x, decided, same⟩ := Option.map_eq_some_iff.mp wrote
  obtain ⟨⟨e', mem', y, filed, sameRequest⟩, -⟩ := ledger.deciders e mem x decided
  exact Lib.Server.mem_written.mpr ⟨e', mem', by simp [filesId, filed, sameRequest.id, same]⟩

theorem Ledger.decided_moved (effect : RequestEffect b s.store.requests a d)
    (proper : Proper rt s a) (decided : id ∈ s.written decidesId ∨ decidesId a = some id)
    (y : OAuthAuthorizationRequest) (found : d.get? id = some y) : y.decidedAt ≠ none := by
  have old (quiet : decides a = none) {y : OAuthAuthorizationRequest}
      (found : s.store.requests.get? id = some y) : y.decidedAt ≠ none := by
    cases decided with
    | inl before => exact ledger.decided id before y found
    | inr now => simp [decidesId, quiet] at now
  cases effect with
  | kept _ undecided => exact old undecided found
  | filed =>
    rw [Dict.get?_set] at found
    split at found
    next same =>
      cases decided with
      | inl before =>
        have filed := ledger.mem_filed_of_decided before
        rw [same] at filed
        exact absurd filed (proper.filed _ rfl).1
      | inr now => cases now
    next => exact old rfl found
  | @decided current x answer there =>
    obtain ⟨-, rfl⟩ | ⟨other, found⟩ := Dict.of_get?_set found
    · have written := (proper.decided x rfl).1
      cases b with
      | inMemory => exact written
      | postgres => exact written
    · cases decided with
      | inl before => exact ledger.decided id before y found
      | inr now =>
        cases now
        exact absurd rfl other
  | @consumed requestId consumedAt current answer there =>
    obtain ⟨same, rfl⟩ | ⟨-, found⟩ := Dict.of_get?_set found
    · subst same
      have decidedAt : current.decidedAt ≠ none := old rfl there
      exact decidedAt
    · exact old rfl found

theorem Ledger.consumed_moved (effect : RequestEffect b s.store.requests a d)
    (proper : Proper rt s a) (consumed : id ∈ s.written consumes ∨ consumes a = some id) :
    id ∈ s.written filesId ∧
      ∀ y, d.get? id = some y → y.consumedAt ≠ none ∧ y.decidedAt ≠ none := by
  have handed (now : consumes a = some id) :
      id ∈ s.written filesId ∧ id ∈ s.written decidesId := by
    obtain ⟨clientId, granted, same, x, genuine, coded, grants⟩ := proper.consumed id now
    obtain ⟨-, requestId, -⟩ := grantedCode_some grants
    rw [← same, requestId]
    exact ⟨genuine.mem_filed, genuine.mem_decided coded⟩
  have filed : id ∈ s.written filesId := by
    cases consumed with
    | inl before => exact (ledger.consumed id before).1
    | inr now => exact (handed now).1
  refine ⟨filed, fun y found => ?_⟩
  have old (quiet : consumes a = none) {y : OAuthAuthorizationRequest}
      (found : s.store.requests.get? id = some y) : y.consumedAt ≠ none ∧ y.decidedAt ≠ none := by
    cases consumed with
    | inl before => exact (ledger.consumed id before).2 y found
    | inr now => cases quiet.symm.trans now
  cases effect with
  | kept _ _ unconsumed => exact old unconsumed found
  | filed =>
    rw [Dict.get?_set] at found
    split at found
    next same =>
      rw [same] at filed
      exact absurd filed (proper.filed _ rfl).1
    next => exact old rfl found
  | decided there undecided =>
    rw [Dict.get?_set] at found
    split at found
    next same =>
      subst same
      exact absurd undecided (old rfl there).2
    next => exact old rfl found
  | @consumed requestId consumedAt current answer there unconsumed =>
    obtain ⟨same, rfl⟩ | ⟨other, found⟩ := Dict.of_get?_set found
    · refine ⟨by simp, ?_⟩
      subst same
      have decidedAt : current.decidedAt ≠ none := by
        cases consumed with
        | inl before => exact ((ledger.consumed _ before).2 current there).2
        | inr now => exact ledger.decided _ (handed now).2 current there
      exact decidedAt
    · cases consumed with
      | inl before => exact (ledger.consumed id before).2 y found
      | inr now =>
        cases now
        exact absurd rfl other

theorem Ledger.moved {s' : IdentityServer} (keyed : s.store.Keyed)
    (traced : s'.trace = ⟨a, i⟩ :: s.trace) (stored : s'.store.requests = d)
    (effect : RequestEffect b s.store.requests a d) (proper : Proper rt s a)
    (ids : DrawsOnce requestDraw filesId s')
    (codes : DrawsOnce (fun r => (codeDraw r).map rt.hashSecret) writesCode s')
    (still : ∀ (j : Nat) (t : IdentityThread), s.threads[j]? = some t →
      ∃ t', s'.threads[j]? = some t' ∧ t'.request = t.request)
    (before : ∀ t' ∈ s'.threads, ∃ t ∈ s.threads, t'.request = t.request)
    (decider : ∀ x, decides a = some x → ∃ t userId approve checkedAt decidedAt code,
      s'.threads[i]? = some t ∧ t.request = .decide x.id userId approve checkedAt decidedAt code ∧
      checkedAt < x.expiresAt ∧ Decision rt userId approve code x) : Ledger rt s' := by
  have writes {T : Type} (f : Asked IdentityOp.Answer → Option T) :
      s'.written f = (f a).toList ++ s.written f := Lib.Server.written_of_traced traced
  have split_written {f : Asked IdentityOp.Answer → Option String} {id : String}
      (mem : id ∈ s'.written f) : id ∈ s.written f ∨ f a = some id := by
    rw [writes] at mem
    simpa [or_comm] using mem
  constructor
  case ids => exact ids
  case codes => exact codes
  case stored =>
    rw [stored, traced]
    exact ledger.stored_moved keyed effect proper
  case copies =>
    rw [traced]
    intro e mem x read
    cases mem with
    | tail _ mem => exact (ledger.copies e mem x read).later
    | head =>
      cases effect with
      | kept _ _ _ found =>
        obtain ⟨id, there⟩ := found x read
        exact (ledger.stored id x there).later
      | filed | decided | consumed => cases read
  case decidedOnce =>
    rw [writes]
    cases wrote : decidesId a with
    | none => exact ledger.decidedOnce
    | some id =>
      obtain ⟨x, decided, same⟩ := Option.map_eq_some_iff.mp wrote
      subst same
      exact List.nodup_cons.mpr ⟨ledger.decides_new effect decided, ledger.decidedOnce⟩
  case decided =>
    rw [stored]
    intro id mem
    exact ledger.decided_moved effect proper (split_written mem)
  case consumedOnce =>
    rw [writes]
    cases wrote : consumes a with
    | none => exact ledger.consumedOnce
    | some id => exact List.nodup_cons.mpr ⟨ledger.consumes_new effect wrote, ledger.consumedOnce⟩
  case consumed =>
    rw [stored]
    intro id mem
    obtain ⟨filed, kept⟩ := ledger.consumed_moved effect proper (split_written mem)
    rw [writes]
    exact ⟨List.mem_append_right _ filed, kept⟩
  case deciders =>
    rw [traced]
    intro e mem x decided
    cases mem with
    | head =>
      obtain ⟨-, e', mem', copy, read, copied⟩ := proper.decided x decided
      obtain ⟨e'', mem'', y, filed, same⟩ := (ledger.copies e' mem' copy read).filed
      exact ⟨⟨e'', .tail _ mem'', y, filed, same.trans copied⟩, decider x decided⟩
    | tail _ mem =>
      obtain ⟨⟨e', mem', filed⟩, t, userId, approve, checkedAt, decidedAt, code, there, asked, rest⟩
        := ledger.deciders e mem x decided
      obtain ⟨t', there', same⟩ := still _ t there
      exact ⟨⟨e', .tail _ mem', filed⟩, t', userId, approve, checkedAt, decidedAt, code, there',
        same.trans asked, rest⟩
  case handed =>
    rw [traced]
    intro t' mem clientId granted consumedAt now draw asked
    obtain ⟨t, mem, same⟩ := before t' mem
    exact (ledger.handed t mem clientId granted consumedAt now draw (same.symm.trans asked)).later

end

end Moves

section Runs

variable {rt : IdentityRuntime} {config : IdentityConfig} {b : Backend} {s : IdentityServer}
  {i : Nat} {r : IdentityRequest} {past : Past} {op : IdentityOp}
  {next : op.Answer → IdentityCall Reply}

section

variable (ledger : Ledger rt s) (valid : Valid rt config s)
  (there : s.threads[i]? = some ⟨r, past, .ask op next⟩)
include ledger valid there

section

variable (asks : Asks rt config r past op)
include asks

theorem Ledger.proper (answer : op.Answer) :
    Proper rt s ⟨op, answer⟩ := by
  constructor
  case filed =>
    intro x filed
    obtain ⟨drawn, unfiled, undecided, uncoded⟩ := files_of_asks asks filed
    refine ⟨?_, undecided, uncoded⟩
    exact ledger.ids.unwritten valid.sound there drawn
      (fun a mem => by simp [filesId, unfiled a mem])
  case decided =>
    intro x decided
    obtain ⟨copy, _, _, _, _, _, ⟨a, mem, read⟩, -, -, same, written, -⟩ :=
      decides_of_asks asks decided
    exact ⟨written, ⟨a, i⟩, (valid.sound.traced i _ a there).mp mem, copy, read, same⟩
  case consumed =>
    intro id consumed
    obtain ⟨clientId, granted, consumedAt, now, draw, same, asked⟩ := consumes_of_asks asks consumed
    exact ⟨clientId, granted, same, ledger.handed _ (List.mem_of_getElem? there) clientId granted
      consumedAt now draw asked⟩

theorem Ledger.decider {answer : op.Answer}
    {x : OAuthAuthorizationRequest} (decided : decides ⟨op, answer⟩ = some x) :
    ∃ userId approve checkedAt decidedAt code,
      r = .decide x.id userId approve checkedAt decidedAt code ∧ checkedAt < x.expiresAt ∧
      Decision rt userId approve code x ∧ ∀ a ∈ past, decides a = none := by
  obtain ⟨copy, userId, approve, checkedAt, decidedAt, code, ⟨a, mem, read⟩, undecided, unexpired,
    same, -, asked, decision, first⟩ := decides_of_asks asks decided
  have genuine := ledger.copies ⟨a, i⟩ ((valid.sound.traced i _ a there).mp mem) copy read
  rw [same.expiresAt] at unexpired
  exact ⟨userId, approve, checkedAt, decidedAt, code, asked, unexpired,
    decision (genuine.undecided undecided), first⟩

theorem Ledger.answered :
    Ledger rt (s.answered (IdentityStore.exec rt b) i r past op next) := by
  refine ledger.moved valid.keyed rfl rfl (requestEffect_exec s.store op)
    (ledger.proper valid there asks _) ?_ ?_
    (fun j t found => Lib.Server.answered_of_there _ there found) ?_ ?_
  · refine ledger.ids.answered valid.sound there (fun id wrote => ?_)
    obtain ⟨x, filed, same⟩ := Option.map_eq_some_iff.mp wrote
    obtain ⟨drawn, unfiled, -⟩ := files_of_asks asks filed
    exact ⟨by rw [← same, drawn], fun a mem => by simp [filesId, unfiled a mem]⟩
  · refine ledger.codes.answered valid.sound there (fun hash wrote => ?_)
    obtain ⟨x, decided, coded⟩ := Option.bind_eq_some_iff.mp wrote
    obtain ⟨userId, approve, checkedAt, decidedAt, code, asked, -, decision, first⟩ :=
      ledger.decider valid there asks decided
    refine ⟨?_, fun a mem => by simp [writesCode, first a mem]⟩
    cases approve with
    | false => cases decision.symm.trans coded
    | true =>
      rw [asked]
      exact decision.2.symm.trans coded
  · intro t' mem
    obtain ⟨j, found⟩ := List.getElem?_of_mem mem
    cases Lib.Server.answered_cases there found with
    | inl here => exact ⟨_, List.mem_of_getElem? there, by rw [here.2]⟩
    | inr other => exact ⟨t', List.mem_of_getElem? other.2, rfl⟩
  · intro x decided
    obtain ⟨userId, approve, checkedAt, decidedAt, code, asked, unexpired, decision, -⟩ :=
      ledger.decider valid there asks decided
    obtain ⟨t, found, same⟩ := Lib.Server.answered_of_there (IdentityStore.exec rt b) there there
    exact ⟨t, userId, approve, checkedAt, decidedAt, code, found, same.trans asked, unexpired,
      decision⟩

end

end

def loadedCode : IdentityThread → Option (String × OrcheoAuthorizationCode)
  | ⟨.loadAuthorizationCode clientId _, _, .done (.ok (.authorizationCode (some granted)))⟩ =>
    some (clientId, granted)
  | _ => none

def ExchangesLoaded (s : IdentityServer) : IdentityTurn → Prop
  | .begin (.exchangeAuthorizationCode clientId granted _ _ _) =>
    ∃ t ∈ s.threads, loadedCode t = some (clientId, granted)
  | _ => True

instance (s : IdentityServer) : (turn : IdentityTurn) → Decidable (ExchangesLoaded s turn)
  | .begin (.exchangeAuthorizationCode clientId granted _ _ _) =>
    inferInstanceAs (Decidable (∃ t ∈ s.threads, loadedCode t = some (clientId, granted)))
  | .begin (.startChallenge _ _ _ _ _) | .begin (.verifyCode _ _ _ _ _ _ _)
  | .begin (.refresh _ _ _ _) | .begin (.beginAuthentication _ _ _)
  | .begin (.finishAuthentication _ _ _ _ _ _) | .begin (.logout _ _)
  | .begin (.registerClient _) | .begin (.authorize _ _ _ _) | .begin (.decide _ _ _ _ _ _)
  | .begin (.loadAuthorizationCode _ _) | .begin (.loadRefreshToken _ _ _)
  | .begin (.exchangeRefreshToken _ _ _ _ _ _ _) | .begin (.revokeToken _ _ _ _)
  | .begin (.changeStatus _ _) | .advance _ => isTrue trivial

/-- No two calls draw the same request or the same code, and a code that is exchanged was loaded
by the same client. -/
def Orderly (s : IdentityServer) (turn : IdentityTurn) : Prop :=
  DrawsFresh requestDraw s turn ∧ DrawsFresh codeDraw s turn ∧ ExchangesLoaded s turn

instance (s : IdentityServer) (turn : IdentityTurn) : Decidable (Orderly s turn) :=
  inferInstanceAs (Decidable (DrawsFresh requestDraw s turn ∧ DrawsFresh codeDraw s turn ∧
    ExchangesLoaded s turn))

variable {clientId code : String} {granted : OrcheoAuthorizationCode}

theorem loadedCode_some {t : IdentityThread} (loaded : loadedCode t = some (clientId, granted)) :
    ∃ code past, t = ⟨.loadAuthorizationCode clientId code, past,
      .done (.ok (.authorizationCode (some granted)))⟩ := by
  unfold loadedCode at loaded
  split at loaded
  next code past granted =>
    cases loaded
    exact ⟨code, past, rfl⟩
  next => cases loaded

variable {result : Except IdentityError Reply}

theorem loaded_of_gives
    (gives : Gives rt config r past result) (asked : r = .loadAuthorizationCode clientId code)
    (handed : result = .ok (.authorizationCode (some granted))) :
    ∃ request, (∃ a ∈ past, reads a = some request) ∧
      request.codeHash = some (rt.hashSecret code) ∧
      grantedCode clientId code request = some granted := by
  cases gives with
  | failed => cases handed
  | plain _ plain =>
    cases handed
    exact absurd plain not_false
  | signedIn _ carried =>
    cases handed
    cases carried
  | refreshed => cases handed
  | approved => cases handed
  | @loaded request code' clientId' carries =>
    cases asked
    injection handed with handed
    injection handed with handed
    exact ⟨request, ⟨_, .head _, rfl⟩, carries, handed⟩

theorem Ledger.handed_of_loaded (ledger : Ledger rt s) (valid : Valid rt config s)
    (there : s.threads[i]? = some ⟨.loadAuthorizationCode clientId code, past,
      .done (.ok (.authorizationCode (some granted)))⟩) :
    granted.code = code ∧ Handed rt s.trace clientId granted := by
  obtain ⟨request, ⟨a, mem, read⟩, carries, grants⟩ :=
    loaded_of_gives (valid.sound.gives there) rfl rfl
  have same := (grantedCode_some grants).1
  refine ⟨same, request, ?_, by rw [same]; exact carries, by rw [same]; exact grants⟩
  exact ledger.copies ⟨a, i⟩ ((valid.sound.traced i _ a there).mp mem) request read

theorem Ledger.started (ledger : Ledger rt s) (valid : Valid rt config s)
    (injective : Function.Injective rt.hashSecret) (orderly : Orderly s (.begin r)) :
    Ledger rt (s.started (IdentityRequest.call rt config) r) where
  ids := ledger.ids.started orderly.1
  codes := by
    refine ledger.codes.started (fun hash drawn t mem drawn' => ?_)
    obtain ⟨code, drawn, same⟩ := Option.map_eq_some_iff.mp drawn
    obtain ⟨code', drawn', same'⟩ := Option.map_eq_some_iff.mp drawn'
    cases injective (same.trans same'.symm)
    exact orderly.2.1 code drawn t mem drawn'
  stored := ledger.stored
  copies := ledger.copies
  decidedOnce := ledger.decidedOnce
  decided := ledger.decided
  consumedOnce := ledger.consumedOnce
  consumed := ledger.consumed
  deciders e mem x decided := by
    obtain ⟨filed, t, userId, approve, checkedAt, decidedAt, code, found, rest⟩ :=
      ledger.deciders e mem x decided
    exact ⟨filed, t, userId, approve, checkedAt, decidedAt, code,
      Lib.Server.started_of_there found, rest⟩
  handed t mem clientId granted consumedAt now draw asked := by
    cases List.mem_append.mp mem with
    | inl old => exact ledger.handed t old clientId granted consumedAt now draw asked
    | inr new =>
      cases List.mem_singleton.mp new
      cases asked
      obtain ⟨t, mem, loaded⟩ := orderly.2.2
      obtain ⟨code, past, same⟩ := loadedCode_some loaded
      obtain ⟨j, there⟩ := List.getElem?_of_mem mem
      rw [same] at there
      exact (ledger.handed_of_loaded valid there).2

theorem ledger_fresh {store : IdentityStore} (empty : store.requests = ∅) :
    Ledger rt { store := store } where
  ids := Lib.Server.drawsOnce_fresh
  codes := Lib.Server.drawsOnce_fresh
  stored id x found := by
    rw [empty] at found
    cases found
  copies e mem := by cases mem
  decidedOnce := List.nodup_nil
  decided id mem := by cases mem
  consumedOnce := List.nodup_nil
  consumed id mem := by cases mem
  deciders e mem := by cases mem
  handed t mem := by cases mem

def Filed (s : IdentityServer) (x : OAuthAuthorizationRequest) : Prop :=
  ∃ e ∈ s.trace, files e.toAsked = some x

def Approved (rt : IdentityRuntime) (s : IdentityServer) (x : OAuthAuthorizationRequest)
    (userId : Uuid) (code : String) : Prop :=
  ∃ e ∈ s.trace, ∃ y, decides e.toAsked = some y ∧ y.id = x.id ∧
    y.codeHash = some (rt.hashSecret code) ∧ ∃ t checkedAt decidedAt,
      s.threads[e.caller]? = some t ∧
      t.request = .decide x.id userId true checkedAt decidedAt code ∧ checkedAt < x.expiresAt

structure ConsentKept (rt : IdentityRuntime) (s : IdentityServer) : Prop where
  decidedOnce : (s.written decidesId).Nodup
  denied : ∀ e ∈ s.trace, ∀ y, decides e.toAsked = some y → y.codeHash = none →
    ∀ x userId code, x.id = y.id → ¬ Approved rt s x userId code
  yielded : ∀ (i : Nat) requestId userId approve checkedAt decidedAt code past redirectUri code'
    state, s.threads[i]? = some ⟨.decide requestId userId approve checkedAt decidedAt code, past,
      .done (.ok (.approved redirectUri code' state))⟩ →
    ∃ x, Filed s x ∧ x.id = requestId ∧ Approved rt s x userId code'
  loaded : ∀ (i : Nat) clientId code past granted,
    s.threads[i]? = some ⟨.loadAuthorizationCode clientId code, past,
      .done (.ok (.authorizationCode (some granted)))⟩ →
    ∃ x, Filed s x ∧ x.id = granted.requestId ∧ x.clientId = clientId ∧
      granted.scopes = x.scopes ∧ Approved rt s x granted.userId code
  exchangedOnce : ∀ (i j : Nat) clientId clientId' granted granted' consumedAt consumedAt' now now'
    draw draw' past past' reply reply',
    s.threads[i]? = some ⟨.exchangeAuthorizationCode clientId granted consumedAt now draw, past,
      .done (.ok reply)⟩ →
    s.threads[j]? = some ⟨.exchangeAuthorizationCode clientId' granted' consumedAt' now' draw',
      past', .done (.ok reply')⟩ →
    granted.code = granted'.code → i = j
  /-- the session is the approving user's, for the client and the scopes of the request -/
  granted : ∀ (i : Nat) clientId granted consumedAt now draw past reply,
    s.threads[i]? = some ⟨.exchangeAuthorizationCode clientId granted consumedAt now draw, past,
      .done (.ok reply)⟩ →
    ∃ x userId, Filed s x ∧ x.clientId = clientId ∧ Approved rt s x userId granted.code ∧
      ∃ e ∈ s.trace, e.caller = i ∧ ∃ session added,
        e.toAsked = ⟨.addSession session, .ok added⟩ ∧ session.userId = userId ∧
        session.oauthClientId = some clientId ∧ session.scopes = some x.scopes

theorem Ledger.same_filing (ledger : Ledger rt s) {x y : OAuthAuthorizationRequest}
    (filed : Filed s x) (filed' : Filed s y) (same : x.id = y.id) : x = y := by
  obtain ⟨e, mem, filed⟩ := filed
  obtain ⟨e', mem', filed'⟩ := filed'
  have here : e = e' := by
    refine Lib.Server.eq_of_nodup_filterMap ledger.ids.nodup mem mem' (x := x.id) ?_ ?_
    · simp [filesId, filed]
    · simp [filesId, filed', same]
  subst here
  exact Option.some.inj (filed.symm.trans filed')

theorem Ledger.approved (ledger : Ledger rt s) (injective : Function.Injective rt.hashSecret)
    {e : Lib.Event IdentityOp.Answer} {y : OAuthAuthorizationRequest} (mem : e ∈ s.trace)
    (decided : decides e.toAsked = some y) (coded : y.codeHash = some (rt.hashSecret code)) :
    ∃ x userId, Filed s x ∧ SameRequest x y ∧ y.userId = some userId ∧
      Approved rt s x userId code := by
  obtain ⟨⟨e', mem', x, filed, same⟩, t, userId, approve, checkedAt, decidedAt, code', there, asked,
    unexpired, decision⟩ := ledger.deciders e mem y decided
  cases approve with
  | false => cases decision.symm.trans coded
  | true =>
    cases injective (Option.some.inj (coded.symm.trans decision.2))
    rw [← same.id] at asked
    rw [← same.expiresAt] at unexpired
    exact ⟨x, userId, ⟨e', mem', filed⟩, same, decision.1, e, mem, y, decided, same.id.symm, coded,
      t, checkedAt, decidedAt, there, asked, unexpired⟩

theorem Ledger.approved_of_handed (ledger : Ledger rt s)
    (injective : Function.Injective rt.hashSecret) (handed : Handed rt s.trace clientId granted) :
    ∃ x, Filed s x ∧ x.id = granted.requestId ∧ x.clientId = clientId ∧
      granted.scopes = x.scopes ∧ Approved rt s x granted.userId granted.code := by
  obtain ⟨copy, genuine, coded, grants⟩ := handed
  obtain ⟨-, requestId, client, user, scopes⟩ := grantedCode_some grants
  obtain ⟨e, mem, y, decided, sameId, sameCode, sameUser⟩ := genuine.coded _ coded
  obtain ⟨x, userId, filed, same, approver, approved⟩ :=
    ledger.approved injective mem decided sameCode
  obtain ⟨e', mem', z, filed', copied⟩ := genuine.filed
  have here : x = z := ledger.same_filing filed ⟨e', mem', filed'⟩
    (same.id.trans (sameId.trans copied.id.symm))
  subst here
  cases Option.some.inj (approver.symm.trans (sameUser.trans user))
  exact ⟨x, filed, copied.id.trans requestId.symm, copied.clientId.trans client,
    scopes.trans copied.scopes.symm, approved⟩

theorem exchanged_of_gives {consumedAt now : Instant}
    {draw : SessionDraw} {reply : Reply} (gives : Gives rt config r past result)
    (asked : r = .exchangeAuthorizationCode clientId granted consumedAt now draw)
    (exchanged : result = .ok reply) :
    (∃ a ∈ past, consumes a = some granted.requestId) ∧ ∃ session added,
      ⟨.addSession session, .ok added⟩ ∈ past ∧ session.userId = granted.userId ∧
      session.oauthClientId = some clientId ∧ session.scopes = some granted.scopes := by
  subst asked
  cases gives with
  | failed => cases exchanged
  | plain quiet => exact absurd trivial quiet
  | signedIn asks =>
    cases asks with
    | grant named active =>
      exact ⟨⟨_, .tail _ (.tail _ (.head _)), rfl⟩, _, _, .head _, named, rfl, rfl⟩
  | refreshed asks =>
    cases asks with
    | rotate presents => cases presents

/-- For every interleaving of calls, on either back end, as long as requests and codes are drawn
anew and codes are hashed apart. -/
theorem consent_kept (injective : Function.Injective rt.hashSecret) {store : IdentityStore}
    (keyed : store.Keyed) (empty : store.requests = ∅) (turns : List IdentityTurn)
    (orderly : Lib.AllSteps (step rt config b) Orderly { store := store } turns) :
    ConsentKept rt (turns.foldl (step rt config b) { store := store }) := by
  obtain ⟨valid, ledger⟩ := keep_run (J := Ledger rt)
    (fun _ _ valid ledger orderly => ledger.started valid injective orderly)
    (fun _ _ _ _ _ _ valid ledger there asks _ => ledger.answered valid there asks)
    ⟨valid_fresh keyed, ledger_fresh empty⟩ orderly
  generalize turns.foldl (step rt config b) { store := store } = s at valid ledger
  have traced {i : Nat} {t : IdentityThread} {a : Asked IdentityOp.Answer}
      (there : s.threads[i]? = some t) (mem : a ∈ t.past) : ⟨a, i⟩ ∈ s.trace :=
    (valid.sound.traced i t a there).mp mem
  have handed {i : Nat} {t : IdentityThread} {clientId : String}
      {granted : OrcheoAuthorizationCode} {consumedAt now : Instant} {draw : SessionDraw}
      (there : s.threads[i]? = some t)
      (asked : t.request = .exchangeAuthorizationCode clientId granted consumedAt now draw) :
      Handed rt s.trace clientId granted :=
    ledger.handed t (List.mem_of_getElem? there) clientId granted consumedAt now draw asked
  constructor
  case decidedOnce => exact ledger.decidedOnce
  case denied =>
    rintro e mem y decided uncoded x userId code same ⟨e', mem', z, decided', same', coded, -⟩
    have here : e = e' := by
      refine Lib.Server.eq_of_nodup_filterMap ledger.decidedOnce mem mem' (x := x.id) ?_ ?_
      · simp [decidesId, decided, same]
      · simp [decidesId, decided', same']
    subst here
    cases decided.symm.trans decided'
    cases uncoded.symm.trans coded
  case yielded =>
    intro i requestId userId approve checkedAt decidedAt code past redirectUri code' state there
    cases valid.sound.gives there with
    | plain _ plain => exact absurd plain not_false
    | signedIn _ carried => cases carried
    | approved asked =>
      cases asked with
      | approve named =>
        obtain ⟨x, approver, filed, same, user, approved⟩ :=
          ledger.approved injective (traced there (.head _)) rfl rfl
        cases user
        exact ⟨x, filed, same.id.trans named, approved⟩
  case loaded =>
    intro i clientId code past granted there
    obtain ⟨same, handed⟩ := ledger.handed_of_loaded valid there
    rw [← same]
    exact ledger.approved_of_handed injective handed
  case exchangedOnce =>
    intro i j clientId clientId' granted granted' consumedAt consumedAt' now now' draw draw' past
      past' reply reply' there there' same
    obtain ⟨⟨a, mem, consumed⟩, -⟩ := exchanged_of_gives (valid.sound.gives there) rfl rfl
    obtain ⟨⟨a', mem', consumed'⟩, -⟩ := exchanged_of_gives (valid.sound.gives there') rfl rfl
    obtain ⟨x, -, sameId, -, -, e, traced_e, y, decided, sameY, coded, -⟩ :=
      ledger.approved_of_handed injective (handed there rfl)
    obtain ⟨x', -, sameId', -, -, e', traced_e', y', decided', sameY', coded', -⟩ :=
      ledger.approved_of_handed injective (handed there' rfl)
    -- one code is written by one decision, so both calls consume one request
    have here : e = e' := by
      refine Lib.Server.eq_of_nodup_filterMap ledger.codes.nodup traced_e traced_e'
        (x := rt.hashSecret granted.code) ?_ ?_
      · simp [writesCode, decided, coded]
      · simp [writesCode, decided', coded', same]
    subst here
    cases decided.symm.trans decided'
    have one : granted.requestId = granted'.requestId :=
      sameId.symm.trans (sameY.symm.trans (sameY'.trans sameId'))
    rw [← one] at consumed'
    cases Lib.Server.eq_of_nodup_filterMap ledger.consumedOnce (traced there mem)
      (traced there' mem') consumed consumed'
    rfl
  case granted =>
    intro i clientId granted consumedAt now draw past reply there
    obtain ⟨-, session, added, mem, owner, client, scopes⟩ :=
      exchanged_of_gives (valid.sound.gives there) rfl rfl
    obtain ⟨x, filed, -, sameClient, sameScopes, approved⟩ :=
      ledger.approved_of_handed injective (handed there rfl)
    rw [sameScopes] at scopes
    exact ⟨x, granted.userId, filed, sameClient, approved, _, traced there mem, rfl, session, added,
      rfl, owner, client, scopes⟩

end Runs

def askingClient : OAuthClient where
  clientId := "c"

def askedParams : AuthorizationParams where
  redirectUri := "u"
  redirectUriProvidedExplicitly := true
  codeChallenge := "x"
  scopes := some ["vault:read"]

def handedCode : OrcheoAuthorizationCode where
  code := "k"
  scopes := ["vault:read"]
  expiresAt := 1 + authorizationCodeTtl
  clientId := "c"
  codeChallenge := "x"
  redirectUri := "u"
  redirectUriProvidedExplicitly := true
  resource := none
  requestId := "q"
  userId := 5

def consentTurns : List IdentityTurn :=
  [.begin (.registerClient askingClient), .advance 0,
    .begin (.authorize askingClient askedParams "q" 0), .advance 1,
    .begin (.decide "q" 5 true 1 1 "k"), .begin (.decide "q" 6 false 1 1 ""),
    .advance 2, .advance 3, .advance 2, .advance 3, .advance 2, .advance 3,
    .begin (.loadAuthorizationCode "c" "k"), .advance 4,
    .begin (.exchangeAuthorizationCode "c" handedCode 2 2 ⟨8, "r"⟩),
    .begin (.exchangeAuthorizationCode "c" handedCode 2 2 ⟨9, "s"⟩),
    .advance 5, .advance 6, .advance 5, .advance 5]

def consentStore : IdentityStore where
  accounts := { users := Dict.set ∅ 5 { id := 5, email := "a@b.c", createdAt := 0 } }

theorem keyed_consentStore : consentStore.Keyed where
  users := by
    apply Dict.KeyedBy.set
    · exact Dict.keyedBy_empty
    · rfl
  challenges := Dict.keyedBy_empty
  sessions := Dict.keyedBy_empty
  requests := Dict.keyedBy_empty

theorem consent_kept_racing :
    let s := consentTurns.foldl (step .plain {} .postgres) { store := consentStore }
    (s.written decidesId = ["q"] ∧ s.written consumes = ["q"]) ∧ ConsentKept .plain s :=
  ⟨⟨by decide +kernel, by decide +kernel⟩, consent_kept (fun _ _ same => same)
    keyed_consentStore rfl consentTurns (by decide +kernel)⟩

end Consent

end Orcheo.Identity
