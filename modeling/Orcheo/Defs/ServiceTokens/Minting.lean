import Orcheo.Defs.ServiceTokens.Endpoints
import Orcheo.Defs.Workspaces.Administration

/-! Service tokens never exceed their minters: in scopes, in workspaces and in time. -/

namespace Orcheo.ServiceTokens

open Lib.Call (meets_andThen)
open Lib (AllSteps Always Asked Dict Server)
open Routers (AuthenticationError RequestContext)
open Workspaces (RouteError WorkspaceContext WorkspaceStore)
open TokenRequest (call handler)

abbrev TokenEvent := Lib.Event TokenOp.Answer

abbrev TokenServer := Server TokenStore TokenRequest TokenOp.Answer (Except RouteError TokenReply)

abbrev TokenThread := Lib.Thread TokenRequest TokenOp.Answer (Except RouteError TokenReply)

abbrev TokenTurn := Lib.Turn TokenRequest

def mints : Asked TokenOp.Answer → Option TokenRecord
  | ⟨.create record, true⟩ => some record
  | _ => none

def revokes : Asked TokenOp.Answer → Option TokenRecord
  | ⟨.update record, _⟩ => some record
  | _ => none

def looksUp : Asked TokenOp.Answer → Option TokenRecord
  | ⟨.findByHash _, found⟩ => found
  | _ => none

def uses : Asked TokenOp.Answer → Option String
  | ⟨.recordUsage tokenId _, _⟩ => some tokenId
  | _ => none

def resolves : Asked TokenOp.Answer → Option (Identity × WorkspaceContext)
  | ⟨.resolve identity _, .ok context⟩ => some (identity, context)
  | _ => none

def shows : Asked TokenOp.Answer → List TokenRecord
  | ⟨.findByHash _, found⟩ | ⟨.findById _, found⟩ => found.toList
  | ⟨.listForWorkspace _ _, records⟩ => records
  | _ => []

def Revoked (identifier : String) (trace : List TokenEvent) : Prop :=
  ∃ e ∈ trace, ∃ record, revokes e.toAsked = some record ∧ record.identifier = identifier

def ActsIn (s : TokenServer) (i : Nat) (identity : Identity) (context : WorkspaceContext) : Prop :=
  ∃ e ∈ s.trace, e.caller = i ∧ resolves e.toAsked = some (identity, context)

variable (d : Deployment)

def tokenStep : TokenServer → TokenTurn → TokenServer :=
  Server.step (TokenStore.exec d) (call d)

def Owns (context : WorkspaceContext) (record : TokenRecord) : Prop :=
  record.workspaceId = some (d.workspaces.showUuid context.workspaceId)

structure Contained (s : TokenServer) : Prop where
  minted : ∀ identifier record, s.store.get? identifier = some record →
    ∃ e ∈ s.trace, ∃ created minter context, mints e.toAsked = some created ∧
      created.identifier = identifier ∧ ActsIn s e.caller minter context ∧
      (∀ scope ∈ record.scopes, scope ∈ minter.context.scopes) ∧ Owns d context record ∧
      ∀ w ∈ record.workspaceIds, w = d.workspaces.showUuid context.workspaceId
  /-- Who acts with a token has the scopes of a stored one, and acts in its workspace. -/
  resolved : ∀ i token context, ActsIn s i (.token token) context →
    (∃ record, s.store.get? token.identifier = some record ∧ token.scopes = record.scopes ∧
      Owns d context record) ∧
    ∃ e ∈ s.trace, e.caller = i ∧ uses e.toAsked = some token.identifier
  read : ∀ i request past reply, s.threads[i]? = some ⟨request, past, .done (.ok reply)⟩ →
    ∀ response ∈ reply.shown, ∃ identity context record, ActsIn s i identity context ∧
      s.store.get? response.identifier = some record ∧ Owns d context record
  revoked : ∀ e ∈ s.trace, ∀ revocation, revokes e.toAsked = some revocation →
    ∃ identity context record, ActsIn s e.caller identity context ∧
      s.store.get? revocation.identifier = some record ∧ Owns d context record
  /-- A revocation lasts, with the time that it was recorded with. -/
  kept : ∀ e ∈ s.trace, ∀ revocation, revokes e.toAsked = some revocation →
    ∃ record, s.store.get? revocation.identifier = some record ∧ record.isRevoked = true ∧
      record.revokedAt = revocation.revokedAt
  /-- Who looks a token up after it was revoked is not authenticated with it. -/
  revokedRefused : ∀ later earlier e token, s.trace = later ++ e :: earlier →
    looksUp e.toAsked = some token → Revoked token.identifier earlier →
    ∀ e' ∈ s.trace, e'.caller = e.caller → uses e'.toAsked = none
  expiredRefused : ∀ (i : Nat) (t : TokenThread) a identifier record,
    s.threads[i]? = some t → a ∈ t.past → uses a = some identifier →
    s.store.get? identifier = some record → record.isExpired t.request.clock.checkTime = false

def asksProperly (store : TokenStore) (route : TokenRoute) (past : List (Asked TokenOp.Answer)) :
    TokenOp → Prop
  | .create _ => match route with
    | .createServiceToken _ scopes _ _ => "" ∈ scopes → ∀ a ∈ past, ∀ identity context,
      resolves a = some (identity, context) → "" ∈ identity.context.scopes
    | _ => True
  | .update _ => match route with
    | .revokeServiceToken tokenId _ now => ∀ record, store.get? tokenId = some record →
      record.revokedAt = none ∨ record.revokedAt = some now
    | _ => True
  | _ => True

def properly (s : TokenServer) : TokenTurn → Prop
  | .begin _ => True
  | .advance i => match s.threads[i]? with
    | some ⟨request, past, .ask op _⟩ => asksProperly s.store request.route past op
    | _ => True

def drawsIdentifier (request : TokenRequest) : Option String :=
  match request.route with
  | .createServiceToken _ _ _ draw => some draw.identifier
  | _ => none

variable {d}

structure Grant where
  identifier : String
  secretHash : String
  scopes : List String
  workspaceIds : List String
  expiresAt : Option Instant
  workspaceId : Option String

def TokenRecord.grant (record : TokenRecord) : Grant where
  identifier := record.identifier
  secretHash := record.secretHash
  scopes := record.scopes
  workspaceIds := record.workspaceIds
  expiresAt := record.expiresAt
  workspaceId := record.workspaceId

structure Copies (record copy : TokenRecord) : Prop where
  grant : copy.grant = record.grant
  revokedAt : copy.revokedAt = record.revokedAt

theorem Copies.refl (record : TokenRecord) : Copies record record := ⟨rfl, rfl⟩

theorem copies_toRecord (b : Workspaces.Backend) (record : TokenRecord) :
    Copies record (TokenStore.toRecord b record) := by
  cases b <;> exact ⟨rfl, rfl⟩

variable {r r' : TokenRecord}

theorem identifier_of_grant (same : r.grant = r'.grant) :
    r.identifier = r'.identifier := congrArg Grant.identifier same

theorem workspaceId_of_grant (same : r.grant = r'.grant) :
    r.workspaceId = r'.workspaceId := congrArg Grant.workspaceId same

theorem owns_of_grant {context : WorkspaceContext} (same : r.grant = r'.grant)
    (owns : Owns d context r) : Owns d context r' := (workspaceId_of_grant same).symm.trans owns

namespace TokenStore

variable {s : TokenStore} {b : Workspaces.Backend} {identifier : String}
  {record copy : TokenRecord}

abbrev Keyed (s : TokenStore) : Prop := s.KeyedBy (fun record => record.identifier)

def Holds (s : TokenStore) (copy : TokenRecord) : Prop :=
  ∃ record, s.get? copy.identifier = some record ∧ Copies record copy

theorem holds_toRecord (keyed : Keyed s) (mem : record ∈ s.values) :
    Holds s (toRecord b record) := by
  have copies := copies_toRecord b record
  obtain ⟨key, stored⟩ := (s.mem_values_iff record).mp mem
  have own : record.identifier = key := keyed key record stored
  refine ⟨record, ?_, copies⟩
  rw [identifier_of_grant copies.grant, own]
  exact stored

theorem holds_shown (keyed : Keyed s) (op : TokenOp) (shown : copy ∈ shows ⟨op, (exec d op s).1⟩) :
    Holds s copy := by
  cases op with
  | findByHash secretHash =>
    have found := Option.mem_toList.mp shown
    obtain ⟨record, stored, same⟩ := Option.map_eq_some_iff.mp found
    rw [← same]
    exact holds_toRecord keyed (List.mem_of_find?_eq_some stored)
  | findById identifier =>
    have found := Option.mem_toList.mp shown
    obtain ⟨record, stored, same⟩ := Option.map_eq_some_iff.mp found
    rw [← same]
    exact holds_toRecord keyed ((s.mem_values_iff record).mpr ⟨identifier, stored⟩)
  | listForWorkspace workspaceId now =>
    change copy ∈ listForWorkspace d.tokens s workspaceId now at shown
    unfold listForWorkspace at shown
    cases at_b : d.tokens with
    | inMemory =>
      rw [at_b] at shown
      exact holds_toRecord (b := .inMemory) keyed (List.mem_filter.mp shown).1
    | postgres =>
      rw [at_b] at shown
      obtain ⟨record, mem, same⟩ := List.mem_map.mp (List.mem_reverse.mp shown)
      rw [← same]
      exact holds_toRecord keyed (List.mem_filter.mp mem).1
  | recordUsage _ _ | resolve _ _ | create _ | update _ | recordAuditEvent _ _ => cases shown

theorem identifier_findById (keyed : Keyed s) (found : findById b s identifier = some copy) :
    copy.identifier = identifier := by
  obtain ⟨record, stored, same⟩ := Option.map_eq_some_iff.mp found
  rw [← same, identifier_of_grant (copies_toRecord b record).grant]
  exact keyed identifier record stored

theorem workspaceId_listed {workspaceId : String} {now : Instant}
    (mem : copy ∈ listForWorkspace b s workspaceId now) : copy.workspaceId = some workspaceId := by
  unfold listForWorkspace at mem
  cases b with
  | inMemory =>
    have fits := (List.mem_filter.mp mem).2
    exact of_decide_eq_true (Bool.and_eq_true_iff.mp fits).2
  | postgres =>
    obtain ⟨record, mem, same⟩ := List.mem_map.mp (List.mem_reverse.mp mem)
    have fits := (List.mem_filter.mp mem).2
    rw [← same]
    exact of_decide_eq_true (Bool.and_eq_true_iff.mp fits).2

structure Keeps (s s' : TokenStore) (a : Asked TokenOp.Answer) : Prop where
  stays : ∀ identifier record, s.get? identifier = some record → ∃ record',
    s'.get? identifier = some record' ∧ record'.grant = record.grant ∧
      (record.isRevoked = true → record'.revokedAt = record.revokedAt)
  comes : ∀ identifier record', s'.get? identifier = some record' →
    (∃ record, s.get? identifier = some record ∧ record.grant = record'.grant) ∨
      mints a = some record' ∧ record'.identifier = identifier
  minted : ∀ record, mints a = some record → s'.get? record.identifier = some record
  revoked : ∀ revocation, revokes a = some revocation →
    ∃ record, s'.get? revocation.identifier = some record ∧ Copies revocation record

theorem keeps_unchanged {a : Asked TokenOp.Answer} (unminted : mints a = none)
    (unrevoked : revokes a = none) : Keeps s s a where
  stays identifier record stored := ⟨record, stored, rfl, fun _ => rfl⟩
  comes identifier record' stored := Or.inl ⟨record', stored, rfl⟩
  minted record minted := by
    rw [unminted] at minted
    cases minted
  revoked revocation revoked := by
    rw [unrevoked] at revoked
    cases revoked

theorem keeps_recordUsage (tokenId : String) (now : Instant) :
    Keeps s (recordUsage s tokenId now) ⟨.recordUsage tokenId now, ()⟩ := by
  unfold recordUsage
  cases stored : s.get? tokenId with
  | none => exact keeps_unchanged rfl rfl
  | some used =>
    constructor
    case stays =>
      intro identifier record there
      dsimp only
      rw [Dict.get?_set]
      by_cases here : identifier = tokenId
      · rw [here, stored] at there
        cases there
        rw [if_pos here]
        exact ⟨_, rfl, rfl, fun _ => rfl⟩
      · rw [if_neg here]
        exact ⟨record, there, rfl, fun _ => rfl⟩
    case comes =>
      intro identifier record' there
      dsimp only at there
      obtain ⟨here, rfl⟩ | ⟨-, there⟩ := Dict.of_get?_set there
      · rw [here]
        exact Or.inl ⟨used, stored, rfl⟩
      · exact Or.inl ⟨record', there, rfl⟩
    case minted => exact fun _ minted => by cases minted
    case revoked => exact fun _ revoked => by cases revoked

theorem keeps_set (absent : s.get? record.identifier = none) :
    Keeps s (s.set record.identifier record) ⟨.create record, true⟩ where
  stays identifier record' there := by
    rw [Dict.get?_set, if_neg]
    · exact ⟨record', there, rfl, fun _ => rfl⟩
    · intro here
      rw [here, absent] at there
      cases there
  comes identifier record' there := by
    obtain ⟨here, rfl⟩ | ⟨-, there⟩ := Dict.of_get?_set there
    · exact Or.inr ⟨rfl, here.symm⟩
    · exact Or.inl ⟨record', there, rfl⟩
  minted record' minted := by
    cases minted
    rw [Dict.get?_set, if_pos rfl]
  revoked revocation revoked := by cases revoked

theorem keeps_create (absent : s.get? record.identifier = none) :
    Keeps s (create b s record).2 ⟨.create record, (create b s record).1⟩ := by
  unfold create
  cases b with
  | inMemory => exact keeps_set absent
  | postgres =>
    dsimp only
    split
    next => exact keeps_unchanged rfl rfl
    next => exact keeps_set absent

theorem get?_update (stored : s.get? record.identifier = some copy) :
    ∃ row, Copies record row ∧ update b s record = s.set record.identifier row := by
  unfold update
  cases b with
  | inMemory => exact ⟨record, Copies.refl record, rfl⟩
  | postgres =>
    refine ⟨{ record with
      name := copy.name
      secretPreview := copy.secretPreview
      lastUsedAt := copy.lastUsedAt
      useCount := copy.useCount }, ⟨rfl, rfl⟩, ?_⟩
    simp only [stored]

theorem keeps_update (stored : s.get? record.identifier = some copy)
    (same : record.grant = copy.grant)
    (once : copy.revokedAt = none ∨ copy.revokedAt = record.revokedAt) :
    Keeps s (update b s record) ⟨.update record, ()⟩ := by
  obtain ⟨row, copies, written⟩ := get?_update (b := b) stored
  rw [written]
  constructor
  case stays =>
    intro identifier other there
    rw [Dict.get?_set]
    by_cases here : identifier = record.identifier
    · rw [here, stored] at there
      cases there
      rw [if_pos here]
      refine ⟨row, rfl, copies.grant.trans same, fun before => ?_⟩
      cases once with
      | inl unrevoked =>
        unfold TokenRecord.isRevoked at before
        rw [unrevoked] at before
        cases before
      | inr again => exact copies.revokedAt.trans again.symm
    · rw [if_neg here]
      exact ⟨other, there, rfl, fun _ => rfl⟩
  case comes =>
    intro identifier record' there
    obtain ⟨here, rfl⟩ | ⟨-, there⟩ := Dict.of_get?_set there
    · rw [here]
      exact Or.inl ⟨copy, stored, same.symm.trans copies.grant.symm⟩
    · exact Or.inl ⟨record', there, rfl⟩
  case minted => exact fun _ minted => by cases minted
  case revoked =>
    intro revocation revoked
    cases revoked
    rw [Dict.get?_set, if_pos rfl]
    exact ⟨row, rfl, copies⟩

end TokenStore

open TokenStore (exec holds_shown)

section Requests

variable {request : TokenRequest} {past : List (Asked TokenOp.Answer)}

def Unminting (past : List (Asked TokenOp.Answer)) : Prop := ∀ a ∈ past, mints a = none

def Known (past : List (Asked TokenOp.Answer)) : Identity → Prop
  | .token token =>
    (∃ a ∈ past, ∃ found, looksUp a = some found ∧ found.grant = token.grant) ∧
      ∃ a ∈ past, uses a = some token.identifier
  | .other _ => True

def Acts (past : List (Asked TokenOp.Answer)) (identity : Identity) (context : WorkspaceContext) :
    Prop := ∃ a ∈ past, resolves a = some (identity, context)

structure MayUse (request : TokenRequest) (past : List (Asked TokenOp.Answer)) (tokenId : String)
    (token : TokenRecord) : Prop where
  only : ∃ secretHash, past = [⟨.findByHash secretHash, some token⟩]
  identifier : token.identifier = tokenId
  unrevoked : token.isRevoked = false
  unexpired : token.isExpired request.clock.checkTime = false

structure MayMint (d : Deployment) (request : TokenRequest) (past : List (Asked TokenOp.Answer))
    (record : TokenRecord) (identity : Identity) (context : WorkspaceContext) : Prop where
  acts : Acts past identity context
  unminting : Unminting past
  drawn : drawsIdentifier request = some record.identifier
  asked : ∃ name scopes expiresIn draw,
    request.route = .createServiceToken name scopes expiresIn draw ∧
      ∀ scope ∈ record.scopes, scope ∈ scopes
  covered : ∀ scope ∈ record.scopes, scope ≠ "" → scope ∈ identity.context.scopes
  workspaceIds : record.workspaceIds = [d.workspaces.showUuid context.workspaceId]
  owns : Owns d context record

structure MayRevoke (d : Deployment) (request : TokenRequest) (past : List (Asked TokenOp.Answer))
    (record : TokenRecord) (identity : Identity) (context : WorkspaceContext) : Prop where
  acts : Acts past identity context
  asked : ∃ reason now, request.route = .revokeServiceToken record.identifier reason now ∧
    record.revokedAt = some now
  own : ∃ a ∈ past, ∃ copy ∈ shows a, copy.identifier = record.identifier ∧ Owns d context copy
  found : ∃ a ∈ past, ∃ copy ∈ shows a, copy.grant = record.grant

def mayAsk (d : Deployment) (request : TokenRequest) (past : List (Asked TokenOp.Answer)) :
    TokenOp → Prop
  | .findByHash _ => past = []
  | .recordUsage tokenId _ => ∃ token, MayUse request past tokenId token
  | .resolve identity _ => Known past identity
  | .create record => ∃ identity context, MayMint d request past record identity context
  | .update record => ∃ identity context, MayRevoke d request past record identity context
  | _ => True

def mayGive (d : Deployment) (past : List (Asked TokenOp.Answer))
    (result : Except RouteError TokenReply) : Prop :=
  ∀ reply, result = .ok reply → ∀ response ∈ reply.shown, ∃ identity context a record,
    Acts past identity context ∧ a ∈ past ∧ (record ∈ shows a ∨ mints a = some record) ∧
      record.identifier = response.identifier ∧ Owns d context record

def fitting (d : Deployment) : (op : TokenOp) → op.Answer → Prop
  | .findById identifier, found => ∀ record, found = some record → record.identifier = identifier
  | .listForWorkspace workspaceId _, records => ∀ record ∈ records,
    record.workspaceId = some workspaceId
  | .resolve identity query, answer => answer = resolution d identity query
  | _, _ => True

def contract (d : Deployment) :
    Server.Contract TokenOp.Answer TokenRequest (Except RouteError TokenReply) where
  fits := fitting d
  asks := mayAsk d
  gives _ := mayGive d

structure Ends {ε α : Type} (K : List (Asked TokenOp.Answer) → Prop)
    (P : List (Asked TokenOp.Answer) → α → Prop) (past : List (Asked TokenOp.Answer))
    (r : Except ε α) : Prop where
  kept : K past
  result : ∀ a, r = .ok a → P past a

section Ends

variable {ε α β : Type} {K : List (Asked TokenOp.Answer) → Prop}
  {P : List (Asked TokenOp.Answer) → α → Prop} {Q : List (Asked TokenOp.Answer) → β → Prop}

theorem Ends.failed {e : ε} (kept : K past) : Ends K P past (.error e) :=
  ⟨kept, fun _ same => by cases same⟩

theorem Ends.done {a : α} (kept : K past) (holds : P past a) :
    Ends K P past (.ok a : Except ε α) := by
  refine ⟨kept, fun _ same => ?_⟩
  cases same
  exact holds

theorem ends_andThen {call : TokenCall ε α} {next : α → TokenCall ε β}
    (first : call.Meets (fitting d) (mayAsk d request) (Ends K P) past)
    (second : ∀ past a, K past → P past a →
      (next a).Meets (fitting d) (mayAsk d request) (Ends K Q) past) :
    (call.andThen next).Meets (fitting d) (mayAsk d request) (Ends K Q) past := by
  rw [meets_andThen]
  refine first.mono (fun _ _ allowed => allowed) (fun past r ends => ?_)
  cases r with
  | error e => exact Ends.failed ends.kept
  | ok a => exact second past a ends.kept (ends.result a rfl)

end Ends

open Ends (failed done)

theorem unminting_nil : Unminting [] := fun _ mem => by cases mem

theorem unminting_cons {a : Asked TokenOp.Answer} (unminting : Unminting past)
    (other : mints a = none) : Unminting (a :: past) := by
  intro a' mem
  cases List.mem_cons.mp mem with
  | inl here => rw [here, other]
  | inr before => exact unminting a' before

variable (token : String)

theorem tryAuthenticate_meets :
    (tryAuthenticateServiceToken d request.clock token).Meets (fitting d) (mayAsk d request)
      (Ends Unminting (fun past r =>
        ∀ record, r = some record → Known past (.token record))) [] := by
  refine ⟨rfl, fun found _ => ?_⟩
  have unminting : Unminting [⟨.findByHash (d.auth.sha256 token), found⟩] :=
    unminting_cons unminting_nil rfl
  cases found with
  | none => exact done unminting (fun _ same => by cases same)
  | some record =>
    dsimp only
    split
    next => exact done unminting (fun _ same => by cases same)
    next =>
      split
      next => exact failed unminting
      next unrevoked =>
        split
        next => exact failed unminting
        next unexpired =>
          refine ⟨⟨record, ⟨_, rfl⟩, rfl, Bool.eq_false_of_not_eq_true unrevoked,
            Bool.eq_false_of_not_eq_true unexpired⟩, fun _ _ => ?_⟩
          refine done (unminting_cons unminting rfl) (fun used same => ?_)
          cases same
          exact ⟨⟨_, List.mem_cons_of_mem _ List.mem_cons_self, record, rfl, rfl⟩, _,
            List.mem_cons_self, rfl⟩

theorem known_other {r : Except AuthenticationError RequestContext} {identity : Identity}
    (made : r.map Identity.other = .ok identity) : Known past identity := by
  cases r with
  | error e => cases made
  | ok context =>
    cases made
    exact trivial

theorem authenticateServiceToken_meets :
    (authenticateServiceToken d request.clock token).Meets (fitting d) (mayAsk d request)
      (Ends Unminting (fun past r => ∀ identity, r = some identity → Known past identity)) [] := by
  refine ends_andThen (tryAuthenticate_meets token) (fun past r unminting tried => ?_)
  cases r with
  | some record =>
    refine done unminting (fun identity same => ?_)
    cases same
    exact tried record rfl
  | none =>
    refine ⟨unminting, fun r same identity here => ?_⟩
    rw [here] at same
    cases boot : Routers.Authentication.authenticateBootstrapToken { settings := d.settings } token
      request.clock.bootstrapTime with
    | error e =>
      rw [boot] at same
      cases same
    | ok context =>
      rw [boot] at same
      cases context with
      | none => cases same
      | some context =>
        cases same
        exact trivial

theorem authenticate_meets :
    (authenticate d request.clock token).Meets (fitting d) (mayAsk d request)
      (Ends Unminting Known) [] := by
  unfold authenticate
  split
  next => exact failed unminting_nil
  next =>
    dsimp only
    split
    next context _ => exact done unminting_nil trivial
    next =>
      refine ends_andThen (authenticateServiceToken_meets token)
        (fun past r unminting served => ?_)
      cases r with
      | some identity => exact done unminting (served identity rfl)
      | none =>
        dsimp only
        split
        next => exact failed unminting
        next =>
          split
          next => exact ⟨unminting, fun identity decoded => known_other decoded⟩
          next => exact failed unminting

theorem eq_of_checked {u v : Except AuthenticationError Unit} {identity identity' : Identity}
    (checked : asHttp (do u; v; return identity) = .ok identity') : identity = identity' := by
  cases u with
  | error e => cases checked
  | ok _ =>
    cases v with
    | error e => cases checked
    | ok _ =>
      cases checked
      rfl

theorem attemptBearerAuth_meets (session : Option RequestContext) :
    (attemptBearerAuth d request token session).Meets (fitting d) (mayAsk d request)
      (Ends Unminting Known) [] := by
  unfold attemptBearerAuth
  rw [Lib.Call.meets_bind]
  refine (authenticate_meets token).mono (fun _ _ allowed => allowed) (fun past r ends => ?_)
  cases r with
  | error e =>
    dsimp only
    split
    next => exact failed ends.kept
    next =>
      split
      next context => exact done ends.kept trivial
      next => exact failed ends.kept
  | ok identity =>
    refine ⟨ends.kept, fun identity' checked => ?_⟩
    rw [← eq_of_checked checked]
    exact ends.result identity rfl

theorem authenticateRequest_meets :
    (authenticateRequest d request).Meets (fitting d) (mayAsk d request)
      (Ends Unminting Known) [] := by
  unfold authenticateRequest
  rw [meets_andThen, Lib.Call.meets_done]
  split
  next => exact failed unminting_nil
  next =>
    split
    next token session _ => exact attemptBearerAuth_meets token session
    next context _ => exact done unminting_nil trivial

structure Placed (past : List (Asked TokenOp.Answer)) (identity : Identity)
    (context : WorkspaceContext) : Prop where
  acts : Acts past identity context
  unminting : Unminting past

variable {identity : Identity} {context : WorkspaceContext}

theorem Acts.cons (acts : Acts past identity context) (a : Asked TokenOp.Answer) :
    Acts (a :: past) identity context := by
  obtain ⟨a', mem, resolved⟩ := acts
  exact ⟨a', List.mem_cons_of_mem _ mem, resolved⟩

theorem mayGive_error {e : RouteError} : mayGive d past (.error e) := fun _ same => by cases same

theorem mayGive_ok (context : WorkspaceContext) {reply : TokenReply}
    (shown : ∀ response ∈ reply.shown, ∃ a record, a ∈ past ∧
      (record ∈ shows a ∨ mints a = some record) ∧ record.identifier = response.identifier ∧
      Owns d context record) (acts : Acts past identity context) :
    mayGive d past (.ok reply) := by
  intro reply' same response mem
  cases same
  obtain ⟨a, record, there⟩ := shown response mem
  exact ⟨identity, context, a, record, acts, there⟩

theorem covered_of_required {scopes : List String}
    (required : requireScopes identity scopes = .ok ()) :
    ∀ scope ∈ scopes, scope ≠ "" → scope ∈ identity.context.scopes := by
  intro scope mem named
  by_contra missing
  have mem : scope ∈ scopes.filter (fun scope =>
      scope ≠ "" && !identity.context.scopes.contains scope) := by
    simp [mem, named, missing]
  unfold requireScopes at required
  dsimp only at required
  split at required
  next none =>
    rw [List.isEmpty_iff.mp none] at mem
    cases mem
  next => cases required

theorem createServiceToken_meets {name : Option String} {scopes : List String}
    {expiresIn : Option { n : Int // 60 ≤ n }} {draw : TokenDraw}
    (route : request.route = .createServiceToken name scopes expiresIn draw)
    (placed : Placed past identity context) :
    (createServiceToken d name scopes expiresIn draw identity context).Meets (fitting d)
      (mayAsk d request) (mayGive d) past := by
  unfold createServiceToken
  split
  next => exact mayGive_error
  next => exact mayGive_error
  next _ required =>
    refine ⟨⟨identity, context, placed.acts, placed.unminting, ?_, ?_, ?_, rfl, rfl⟩,
      fun stored _ => ?_⟩
    · unfold drawsIdentifier
      rw [route]
    · exact ⟨name, scopes, expiresIn, draw, route, fun scope mem => List.mem_dedup.mp mem⟩
    · exact fun scope mem named => covered_of_required required scope (List.mem_dedup.mp mem) named
    · cases stored with
      | false => exact mayGive_error
      | true =>
        refine ⟨trivial, fun _ _ => mayGive_ok context (fun response mem => ?_)
          ((placed.acts.cons _).cons _)⟩
        cases List.mem_singleton.mp mem
        exact ⟨_, _, List.mem_cons_of_mem _ List.mem_cons_self, Or.inr rfl, rfl, rfl⟩

theorem listServiceTokens_meets {now : Instant} (placed : Placed past identity context) :
    (listServiceTokens d now identity context).Meets (fitting d) (mayAsk d request) (mayGive d)
      past := by
  unfold listServiceTokens
  split
  next => exact mayGive_error
  next =>
    refine ⟨trivial, fun records fits => mayGive_ok context (fun response mem => ?_)
      (placed.acts.cons _)⟩
    obtain ⟨record, mem, same⟩ := List.mem_map.mp mem
    rw [← same]
    exact ⟨_, record, List.mem_cons_self, Or.inl mem, rfl, fits record mem⟩

structure Found (d : Deployment) (past : List (Asked TokenOp.Answer)) (identity : Identity)
    (context : WorkspaceContext) (tokenId : String) (record : TokenRecord) : Prop where
  placed : Placed past identity context
  read : ∃ a ∈ past, record ∈ shows a
  identifier : record.identifier = tokenId
  owns : Owns d context record

variable {tokenId : String}

theorem requireWorkspaceToken_meets (placed : Placed past identity context) :
    (requireWorkspaceToken d tokenId context).Meets (fitting d) (mayAsk d request)
      (Ends (fun _ => True) (fun past record => Found d past identity context tokenId record))
      past := by
  refine ⟨trivial, fun found fits => ?_⟩
  cases found with
  | none => exact failed trivial
  | some record =>
    dsimp only
    split
    next => exact failed trivial
    next own =>
      exact done trivial ⟨⟨placed.acts.cons _, unminting_cons placed.unminting rfl⟩,
        ⟨_, List.mem_cons_self, List.mem_singleton.mpr rfl⟩, fits record rfl,
        not_not.mp own⟩

theorem meets_of_found {next : TokenRecord → TokenCall RouteError TokenReply}
    (placed : Placed past identity context)
    (goes : ∀ past record, Found d past identity context tokenId record →
      (next record).Meets (fitting d) (mayAsk d request) (mayGive d) past) :
    ((requireWorkspaceToken d tokenId context).andThen next).Meets (fitting d) (mayAsk d request)
      (mayGive d) past := by
  rw [meets_andThen]
  refine (requireWorkspaceToken_meets placed).mono (fun _ _ allowed => allowed)
    (fun past r ends => ?_)
  cases r with
  | error e => exact mayGive_error
  | ok record => exact goes past record (ends.result record rfl)

theorem getServiceToken_meets (placed : Placed past identity context) :
    (getServiceToken d tokenId identity context).Meets (fitting d) (mayAsk d request) (mayGive d)
      past := by
  unfold getServiceToken
  split
  next => exact mayGive_error
  next =>
    refine meets_of_found placed (fun past record found => mayGive_ok context
      (fun response mem => ?_) found.placed.acts)
    cases List.mem_singleton.mp mem
    obtain ⟨a, mem, shown⟩ := found.read
    exact ⟨a, record, mem, Or.inl shown, rfl, found.owns⟩

theorem revokeServiceToken_meets {reason : String} {now : Instant}
    (route : request.route = .revokeServiceToken tokenId reason now)
    (placed : Placed past identity context) :
    (revokeServiceToken d tokenId reason now identity context).Meets (fitting d)
      (mayAsk d request) (mayGive d) past := by
  unfold revokeServiceToken
  split
  next => exact mayGive_error
  next =>
    refine meets_of_found placed (fun past own found => ?_)
    refine ⟨trivial, fun read fits => ?_⟩
    cases read with
    | none => exact mayGive_error
    | some record =>
      have named : record.identifier = tokenId := fits record rfl
      obtain ⟨a, mem, shown⟩ := found.read
      refine ⟨⟨identity, context, found.placed.acts.cons _, ⟨reason, now, ?_, rfl⟩,
        ⟨a, List.mem_cons_of_mem _ mem, own, shown, ?_, found.owns⟩,
        ⟨_, List.mem_cons_self, record, List.mem_singleton.mpr rfl, rfl⟩⟩, fun _ _ => ?_⟩
      · rw [route, ← named]
      · exact found.identifier.trans named.symm
      · refine ⟨trivial, fun _ _ => mayGive_ok context (fun response mem => ?_)
          (((found.placed.acts.cons _).cons _).cons _)⟩
        cases mem

theorem handler_meets (placed : Placed past identity context) :
    (request.handler d identity context).Meets (fitting d) (mayAsk d request) (mayGive d) past := by
  unfold handler
  split
  next route => exact createServiceToken_meets route placed
  next => exact listServiceTokens_meets placed
  next => exact getServiceToken_meets placed
  next route => exact revokeServiceToken_meets route placed
  next => exact mayGive_ok context (fun response mem => by cases mem) placed.acts

theorem resolveWorkspace_meets (known : Known past identity) (unminting : Unminting past) :
    ((resolveWorkspace request identity).andThen (request.handler d identity)).Meets (fitting d)
      (mayAsk d request) (mayGive d) past := by
  refine ⟨known, fun answer _ => ?_⟩
  cases answer with
  | error e => exact mayGive_error
  | ok context => exact handler_meets ⟨⟨_, List.mem_cons_self, rfl⟩, unminting_cons unminting rfl⟩

theorem call_meets : (request.call d).Meets (fitting d) (mayAsk d request) (mayGive d) [] := by
  unfold call
  rw [meets_andThen]
  refine authenticateRequest_meets.mono (fun _ _ allowed => allowed) (fun past r ends => ?_)
  cases r with
  | error e => exact mayGive_error
  | ok identity =>
    dsimp only
    split
    next =>
      intro reply same response mem
      cases same
      cases mem
    next => exact resolveWorkspace_meets (ends.result identity rfl) ends.kept

end Requests

section Resolution

open Workspaces (Principal Workspace)

variable {w : Uuid} {query : WorkspaceQuery} {context : WorkspaceContext}

theorem authorizedWorkspaces_runs {C : Except RouteError (List Workspace) → WorkspaceStore → Prop}
    {store : WorkspaceStore}
    (there : ∀ workspace, store.workspaces.get? w = some workspace → C (.ok [workspace]) store)
    (absent : C (.ok []) store) :
    (Workspaces.authorizedWorkspaces d.workspaces [d.workspaces.showUuid w]).Runs
      (WorkspaceStore.exec d.workspaces d.directory) C store := by
  unfold Workspaces.authorizedWorkspaces
  simp only [d.uuid_showUuid]
  rw [Lib.Call.runs_ask]
  cases found : store.workspaces.get? w with
  | none =>
    have answer : WorkspaceStore.exec d.workspaces d.directory (.getWorkspace w) store =
        (.error .workspaceNotFound, store) := by
      unfold WorkspaceStore.exec WorkspaceStore.getWorkspace
      simp only [found]
      rfl
    rw [answer]
    exact absent
  | some workspace =>
    have answer : WorkspaceStore.exec d.workspaces d.directory (.getWorkspace w) store =
        (.ok workspace, store) := by
      unfold WorkspaceStore.exec WorkspaceStore.getWorkspace
      simp only [found]
      rfl
    rw [answer]
    exact there workspace found

theorem resolution_of_token {token : TokenRecord}
    (named : token.workspaceIds = [d.workspaces.showUuid w])
    (resolved : resolution d (.token token) query = .ok context) : context.workspaceId = w := by
  have uses : (principal (Identity.token token).context).usesToken = true := by
    have ids : (principal (Identity.token token).context).workspaceIds =
        [d.workspaces.showUuid w] := named
    unfold Principal.usesToken
    rw [ids]
    rfl
  have runs : (Workspaces.resolveWorkspaceContext d.workspaces
      (principal (Identity.token token).context) query.header query.allowed query.now
        query.setAt).Runs (WorkspaceStore.exec d.workspaces d.directory)
      (fun r _ => ∀ context, r = .ok context → context.workspaceId = w)
      query.directory.store := by
    have ids : (principal (Identity.token token).context).workspaceIds =
        [d.workspaces.showUuid w] := named
    unfold Workspaces.resolveWorkspaceContext Workspaces.resolveFromAuthorizedWorkspaces
    dsimp only
    rw [if_pos uses, Lib.Call.runs_andThen, Lib.Call.runs_andThen, ids]
    refine authorizedWorkspaces_runs (fun workspace found => ?_) (fun _ same => by cases same)
    have own : workspace.id = w := query.directory.keyed w workspace found
    dsimp only
    split
    next => exact fun _ same => by cases same
    next selected chosen =>
      have here := List.mem_singleton.mp (Workspaces.Administration.selectAuthorized_mem chosen)
      split
      next => exact fun _ same => by cases same
      next =>
        rw [Lib.Call.runs_done]
        dsimp only
        split
        next =>
          intro context same
          cases same
          rw [here]
          exact own
        next => exact fun _ same => by cases same
  exact runs context resolved

end Resolution

def Seen : List TokenEvent → Prop
  | [] => True
  | e :: earlier => (∀ token, looksUp e.toAsked = some token → Revoked token.identifier earlier →
      token.isRevoked = true) ∧ Seen earlier

theorem seen_at {later earlier : List TokenEvent} {e : TokenEvent} {token : TokenRecord}
    (seen : Seen (later ++ e :: earlier)) (found : looksUp e.toAsked = some token)
    (revoked : Revoked token.identifier earlier) : token.isRevoked = true := by
  induction later with
  | nil => exact seen.1 token found revoked
  | cons _ _ ih => exact ih seen.2

structure Valid (request : TokenRequest) (past : List (Asked TokenOp.Answer)) (tokenId : String)
    (token : TokenRecord) : Prop where
  found : ∃ a ∈ past, looksUp a = some token
  only : ∀ a ∈ past, ∀ token', looksUp a = some token' → token' = token
  identifier : token.identifier = tokenId
  unrevoked : token.isRevoked = false
  unexpired : token.isExpired request.clock.checkTime = false

def Checked (request : TokenRequest) (past : List (Asked TokenOp.Answer)) : Prop :=
  ∀ a ∈ past, ∀ tokenId, uses a = some tokenId → ∃ token, Valid request past tokenId token

section Step

variable {request : TokenRequest} {past : List (Asked TokenOp.Answer)}

theorem checked_cons {a : Asked TokenOp.Answer} (checked : Checked request past)
    (unused : uses a = none) (unseen : looksUp a = none) : Checked request (a :: past) := by
  intro a' mem tokenId used
  cases List.mem_cons.mp mem with
  | inl here =>
    rw [here, unused] at used
    cases used
  | inr before =>
    obtain ⟨token, valid⟩ := checked a' before tokenId used
    obtain ⟨b, there, found⟩ := valid.found
    refine ⟨token, ⟨b, List.mem_cons_of_mem _ there, found⟩, fun c mem token' found' => ?_,
      valid.identifier, valid.unrevoked, valid.unexpired⟩
    cases List.mem_cons.mp mem with
    | inl here =>
      rw [here, unseen] at found'
      cases found'
    | inr before => exact valid.only c before token' found'

theorem checked_asked (checked : Checked request past) (op : TokenOp) (answer : op.Answer)
    (asks : mayAsk d request past op) : Checked request (⟨op, answer⟩ :: past) := by
  cases op with
  | findByHash secretHash =>
    have first : past = [] := asks
    intro a mem tokenId used
    rw [first] at mem
    rw [List.mem_singleton.mp mem] at used
    cases used
  | recordUsage tokenId now =>
    obtain ⟨token, may⟩ := asks
    obtain ⟨secretHash, only⟩ := may.only
    rw [only]
    intro a mem tokenId' used
    cases List.mem_cons.mp mem with
    | inl here =>
      rw [here] at used
      cases used
      refine ⟨token, ⟨_, List.mem_cons_of_mem _ List.mem_cons_self, rfl⟩,
        fun b mem token' found => ?_, may.identifier, may.unrevoked, may.unexpired⟩
      cases List.mem_cons.mp mem with
      | inl here =>
        rw [here] at found
        cases found
      | inr before =>
        rw [List.mem_singleton.mp before] at found
        exact (Option.some.inj found).symm
    | inr before =>
      rw [List.mem_singleton.mp before] at used
      cases used
  | resolve _ _ | create _ | findById _ | update _ | listForWorkspace _ _
  | recordAuditEvent _ _ => exact checked_cons checked rfl rfl

end Step

def writesIdentifier (a : Asked TokenOp.Answer) : Option String :=
  (mints a).map (fun record => record.identifier)

structure Minted (d : Deployment) (s : TokenServer) (i : Nat) (record : TokenRecord)
    (minter : Identity) (context : WorkspaceContext) : Prop where
  acts : ActsIn s i minter context
  scopes : ∀ scope ∈ record.scopes, scope ∈ minter.context.scopes
  workspaceIds : record.workspaceIds = [d.workspaces.showUuid context.workspaceId]
  owns : Owns d context record

def Mentions (a : Asked TokenOp.Answer) (record : TokenRecord) : Prop :=
  mints a = some record ∨ record ∈ shows a ∨ revokes a = some record

def Granted (store : TokenStore) (record : TokenRecord) : Prop :=
  ∃ record', store.get? record.identifier = some record' ∧ record'.grant = record.grant

structure Tracked (d : Deployment) (s : TokenServer) : Prop where
  keyed : TokenStore.Keyed s.store
  minted : ∀ identifier record, s.store.get? identifier = some record →
    ∃ e ∈ s.trace, ∃ created, mints e.toAsked = some created ∧ created.grant = record.grant
  covered : ∀ e ∈ s.trace, ∀ record, mints e.toAsked = some record →
    ∃ minter context, Minted d s e.caller record minter context
  granted : ∀ e ∈ s.trace, ∀ record, Mentions e.toAsked record → Granted s.store record
  resolved : ∀ i token context, ActsIn s i (.token token) context →
    Granted s.store token ∧ Owns d context token ∧
      ∃ e ∈ s.trace, e.caller = i ∧ uses e.toAsked = some token.identifier
  revoked : ∀ e ∈ s.trace, ∀ revocation, revokes e.toAsked = some revocation →
    ∃ identity context, ActsIn s e.caller identity context ∧ Owns d context revocation
  kept : ∀ e ∈ s.trace, ∀ revocation, revokes e.toAsked = some revocation →
    ∃ record, s.store.get? revocation.identifier = some record ∧ record.isRevoked = true ∧
      record.revokedAt = revocation.revokedAt
  seen : Seen s.trace
  checked : ∀ (i : Nat) (t : TokenThread), s.threads[i]? = some t → Checked t.request t.past

section Runs

variable {s : TokenServer} {i : Nat} {request : TokenRequest}
  {past : List (Asked TokenOp.Answer)} {op : TokenOp}
  {next : op.Answer → Lib.Call TokenOp.Answer (Except RouteError TokenReply)}

variable {record : TokenRecord} {a : Asked TokenOp.Answer} {t : TokenThread} {answer : op.Answer}

theorem Granted.copy {store : TokenStore} {copy : TokenRecord}
    (granted : Granted store record) (same : copy.grant = record.grant) : Granted store copy := by
  obtain ⟨record', stored, grant⟩ := granted
  refine ⟨record', ?_, grant.trans same.symm⟩
  rw [identifier_of_grant same]
  exact stored

theorem Granted.keeps {store store' : TokenStore}
    (granted : Granted store record) (keeps : TokenStore.Keeps store store' a) :
    Granted store' record := by
  obtain ⟨record', stored, grant⟩ := granted
  obtain ⟨record'', stored', grant', _⟩ := keeps.stays _ record' stored
  exact ⟨record'', stored', grant'.trans grant⟩

theorem traced_of_past (sound : Server.Sound (contract d) s)
    (there : s.threads[i]? = some t) (mem : a ∈ t.past) :
    ⟨a, i⟩ ∈ s.trace := (sound.traced i t a there).mp mem

variable {context : WorkspaceContext} {identity : Identity}

theorem actsIn_of_acts (sound : Server.Sound (contract d) s) (there : s.threads[i]? = some t) (acts : Acts t.past identity context) :
    ActsIn s i identity context := by
  obtain ⟨a, mem, resolved⟩ := acts
  exact ⟨⟨a, i⟩, traced_of_past sound there mem, rfl, resolved⟩

theorem absent_of_drawn (tracked : Tracked d s) (sound : Server.Sound (contract d) s)
    (once : Server.DrawsOnce drawsIdentifier writesIdentifier s)
    (there : s.threads[i]? = some t) {identifier : String}
    (drawn : drawsIdentifier t.request = some identifier) (unminting : Unminting t.past) :
    s.store.get? identifier = none := by
  cases stored : s.store.get? identifier with
  | none => rfl
  | some record =>
    obtain ⟨e, mem, created, minted, same⟩ := tracked.minted identifier record stored
    have own : record.identifier = identifier := tracked.keyed identifier record stored
    refine absurd (Server.mem_written.mpr ⟨e, mem, ?_⟩)
      (once.unwritten sound there drawn fun a mem => ?_)
    · unfold writesIdentifier
      rw [minted, ← own, ← identifier_of_grant same]
      rfl
    · unfold writesIdentifier
      rw [unminting a mem]
      rfl

theorem Tracked.keeps (tracked : Tracked d s) (sound : Server.Sound (contract d) s)
    (once : Server.DrawsOnce drawsIdentifier writesIdentifier s)
    (there : s.threads[i]? = some ⟨request, past, .ask op next⟩)
    (asks : mayAsk d request past op) (proper : asksProperly s.store request.route past op) :
    TokenStore.Keeps s.store (exec d op s.store).2
      ⟨op, (exec d op s.store).1⟩ := by
  cases op with
  | recordUsage tokenId now => exact TokenStore.keeps_recordUsage tokenId now
  | create record =>
    obtain ⟨identity, context, may⟩ := asks
    exact TokenStore.keeps_create (absent_of_drawn tracked sound once there may.drawn may.unminting)
  | update record =>
    obtain ⟨identity, context, may⟩ := asks
    obtain ⟨a, mem, copy, shown, same⟩ := may.found
    obtain ⟨stored, found, grant⟩ := (tracked.granted _ (traced_of_past sound there mem) copy
      (Or.inr (Or.inl shown))).copy same.symm
    refine TokenStore.keeps_update found grant.symm ?_
    obtain ⟨reason, now, route, at_now⟩ := may.asked
    rw [at_now]
    unfold asksProperly at proper
    rw [route] at proper
    exact proper stored found
  | findByHash _ | resolve _ _ | findById _ | listForWorkspace _ _ | recordAuditEvent _ _ =>
    exact TokenStore.keeps_unchanged rfl rfl

theorem shown_of_lookedUp {token : TokenRecord} (looked : looksUp a = some token) :
    token ∈ shows a := by
  obtain ⟨op, answer⟩ := a
  cases op with
  | findByHash secretHash => exact Option.mem_toList.mpr looked
  | recordUsage _ _ | resolve _ _ | create _ | findById _ | update _ | listForWorkspace _ _
  | recordAuditEvent _ _ => cases looked

theorem op_of_mints (minted : mints ⟨op, answer⟩ = some record) : op = .create record := by
  cases op with
  | create record' =>
    cases answer with
    | false => cases minted
    | true =>
      cases minted
      rfl
  | findByHash _ | recordUsage _ _ | resolve _ _ | findById _ | update _ | listForWorkspace _ _
  | recordAuditEvent _ _ => cases minted

theorem op_of_revokes (revoked : revokes ⟨op, answer⟩ = some record) : op = .update record := by
  cases op with
  | update record' =>
    cases revoked
    rfl
  | findByHash _ | recordUsage _ _ | resolve _ _ | create _ | findById _ | listForWorkspace _ _
  | recordAuditEvent _ _ => cases revoked

theorem op_of_resolves
    (fits : fitting d op answer) (resolved : resolves ⟨op, answer⟩ = some (identity, context)) :
    ∃ query, op = .resolve identity query ∧ resolution d identity query = .ok context := by
  cases op with
  | resolve identity' query =>
    cases answer with
    | error e => cases resolved
    | ok context' =>
      cases resolved
      exact ⟨query, rfl, fits.symm⟩
  | findByHash _ | recordUsage _ _ | create _ | findById _ | update _ | listForWorkspace _ _
  | recordAuditEvent _ _ => cases resolved

theorem Tracked.belongs (tracked : Tracked d s) (granted : Granted s.store record) : ∃ context,
      record.workspaceIds = [d.workspaces.showUuid context.workspaceId] ∧
        Owns d context record := by
  obtain ⟨record', stored, same⟩ := granted
  obtain ⟨e, mem, created, minted, grant⟩ := tracked.minted _ record' stored
  obtain ⟨minter, context, placed⟩ := tracked.covered e mem created minted
  have whole : created.grant = record.grant := grant.trans same
  exact ⟨context, (congrArg Grant.workspaceIds whole).symm.trans placed.workspaceIds,
    owns_of_grant whole placed.owns⟩

theorem Tracked.resolvedNow (tracked : Tracked d s) (sound : Server.Sound (contract d) s)
    (there : s.threads[i]? = some t) {token : TokenRecord}
    {query : WorkspaceQuery} (known : Known t.past (.token token))
    (resolved : resolution d (.token token) query = .ok context) :
    Granted s.store token ∧ Owns d context token ∧
      ∃ e ∈ s.trace, e.caller = i ∧ uses e.toAsked = some token.identifier := by
  obtain ⟨⟨a, mem, found, looked, same⟩, b, used, usage⟩ := known
  have granted : Granted s.store token := (tracked.granted _ (traced_of_past sound there mem) found
    (Or.inr (Or.inl (shown_of_lookedUp looked)))).copy same.symm
  obtain ⟨context', ids, owns⟩ := tracked.belongs granted
  refine ⟨granted, ?_, ⟨b, i⟩, traced_of_past sound there used, rfl, usage⟩
  unfold Owns
  rw [resolution_of_token ids resolved]
  exact owns

theorem ActsIn.answered {j : Nat} (acts : ActsIn s j identity context) :
    ActsIn (s.answered (exec d) i request past op next) j identity context := by
  obtain ⟨e, mem, there⟩ := acts
  exact ⟨e, List.mem_cons_of_mem _ mem, there⟩

theorem Tracked.answered (tracked : Tracked d s) (sound : Server.Sound (contract d) s)
    (there : s.threads[i]? = some ⟨request, past, .ask op next⟩)
    (asks : mayAsk d request past op) (proper : asksProperly s.store request.route past op)
    (fits : fitting d op (exec d op s.store).1)
    (keeps : TokenStore.Keeps s.store (exec d op s.store).2
      ⟨op, (exec d op s.store).1⟩) :
    Tracked d (s.answered (exec d) i request past op next) := by
  constructor
  case keyed =>
    intro identifier record' stored
    cases keeps.comes identifier record' stored with
    | inl old =>
      obtain ⟨record, before, same⟩ := old
      exact (identifier_of_grant same).symm.trans (tracked.keyed identifier record before)
    | inr new => exact new.2
  case minted =>
    intro identifier record' stored
    cases keeps.comes identifier record' stored with
    | inl old =>
      obtain ⟨record, before, same⟩ := old
      obtain ⟨e, mem, created, minted, grant⟩ := tracked.minted identifier record before
      exact ⟨e, List.mem_cons_of_mem _ mem, created, minted, grant.trans same⟩
    | inr new => exact ⟨_, List.mem_cons_self, record', new.1, rfl⟩
  case covered =>
    intro e mem record minted
    cases List.mem_cons.mp mem with
    | inr old =>
      obtain ⟨minter, context, placed⟩ := tracked.covered e old record minted
      exact ⟨minter, context, placed.acts.answered, placed.scopes, placed.workspaceIds, placed.owns⟩
    | inl new =>
      rw [new] at minted
      rw [op_of_mints minted] at asks proper
      obtain ⟨minter, context, may⟩ := asks
      obtain ⟨name, scopes, expiresIn, draw, route, asked⟩ := may.asked
      refine ⟨minter, context, ?_, fun scope mem => ?_, may.workspaceIds, may.owns⟩
      · rw [new]
        exact (actsIn_of_acts sound there may.acts).answered
      · by_cases named : scope = ""
        · unfold asksProperly at proper
          rw [route] at proper
          obtain ⟨a, mem', resolved⟩ := may.acts
          rw [named] at mem ⊢
          exact proper (asked "" mem) a mem' minter context resolved
        · exact may.covered scope mem named
  case granted =>
    intro e mem record mentions
    cases List.mem_cons.mp mem with
    | inr old => exact (tracked.granted e old record mentions).keeps keeps
    | inl new =>
      rw [new] at mentions
      obtain minted | shown | revoked := mentions
      · exact ⟨record, keeps.minted record minted, rfl⟩
      · obtain ⟨stored, found, copies⟩ := holds_shown tracked.keyed op shown
        have granted : Granted s.store record := ⟨stored, found, copies.grant.symm⟩
        exact granted.keeps keeps
      · obtain ⟨stored, found, copies⟩ := keeps.revoked record revoked
        exact ⟨stored, found, copies.grant⟩
  case resolved =>
    intro j token context acts
    obtain ⟨e, mem, caller, resolved⟩ := acts
    have now : Granted s.store token ∧ Owns d context token ∧
        ∃ e ∈ s.trace, e.caller = j ∧ uses e.toAsked = some token.identifier := by
      cases List.mem_cons.mp mem with
      | inr old => exact tracked.resolved j token context ⟨e, old, caller, resolved⟩
      | inl new =>
        rw [new] at caller resolved
        rw [← caller]
        obtain ⟨query, asked, answer⟩ := op_of_resolves fits resolved
        rw [asked] at asks
        exact tracked.resolvedNow sound there asks answer
    obtain ⟨granted, owns, e', mem', usage⟩ := now
    exact ⟨granted.keeps keeps, owns, e', List.mem_cons_of_mem _ mem', usage⟩
  case revoked =>
    intro e mem revocation revoked
    cases List.mem_cons.mp mem with
    | inr old =>
      obtain ⟨identity, context, acts, owns⟩ := tracked.revoked e old revocation revoked
      exact ⟨identity, context, acts.answered, owns⟩
    | inl new =>
      rw [new] at revoked
      rw [op_of_revokes revoked] at asks
      obtain ⟨identity, context, may⟩ := asks
      refine ⟨identity, context, ?_, ?_⟩
      · rw [new]
        exact (actsIn_of_acts sound there may.acts).answered
      · obtain ⟨a, mem, copy, shown, same, owns⟩ := may.own
        obtain ⟨a', mem', copy', shown', same'⟩ := may.found
        obtain ⟨stored, found, grant⟩ := tracked.granted _ (traced_of_past sound there mem) copy
          (Or.inr (Or.inl shown))
        obtain ⟨stored', found', grant'⟩ := tracked.granted _ (traced_of_past sound there mem')
          copy' (Or.inr (Or.inl shown'))
        rw [same] at found
        rw [identifier_of_grant same', found] at found'
        cases found'
        exact owns_of_grant (grant.symm.trans (grant'.trans same')) owns
  case kept =>
    intro e mem revocation revoked
    cases List.mem_cons.mp mem with
    | inr old =>
      obtain ⟨record, stored, gone, same⟩ := tracked.kept e old revocation revoked
      obtain ⟨record', stored', _, kept⟩ := keeps.stays _ record stored
      refine ⟨record', stored', ?_, (kept gone).trans same⟩
      unfold TokenRecord.isRevoked at gone ⊢
      rw [kept gone]
      exact gone
    | inl new =>
      rw [new] at revoked
      obtain ⟨record, stored, copies⟩ := keeps.revoked revocation revoked
      refine ⟨record, stored, ?_, copies.revokedAt⟩
      unfold TokenRecord.isRevoked
      rw [op_of_revokes revoked] at asks
      obtain ⟨_, _, may⟩ := asks
      obtain ⟨_, now, _, at_now⟩ := may.asked
      rw [copies.revokedAt, at_now]
      rfl
  case seen =>
    refine ⟨fun token looked revoked => ?_, tracked.seen⟩
    obtain ⟨e, mem, revocation, revoked, same⟩ := revoked
    obtain ⟨record, stored, gone, _⟩ := tracked.kept e mem revocation revoked
    obtain ⟨record', stored', copies⟩ :=
      holds_shown tracked.keyed op (shown_of_lookedUp looked)
    rw [same, stored'] at stored
    cases stored
    unfold TokenRecord.isRevoked at gone ⊢
    rw [copies.revokedAt]
    exact gone
  case checked =>
    intro j t found
    cases Server.answered_cases there found with
    | inl here =>
      rw [here.2]
      exact checked_asked (tracked.checked i _ there) op _ asks
    | inr other => exact tracked.checked j t other.2

theorem Tracked.started (tracked : Tracked d s) :
    Tracked d (s.started (call d) request) where
  keyed := tracked.keyed
  minted := tracked.minted
  covered e mem record minted := by
    obtain ⟨minter, context, placed⟩ := tracked.covered e mem record minted
    exact ⟨minter, context, placed.acts, placed.scopes, placed.workspaceIds, placed.owns⟩
  granted := tracked.granted
  resolved := tracked.resolved
  revoked := tracked.revoked
  kept := tracked.kept
  seen := tracked.seen
  checked i t there := by
    cases Server.started_cases there with
    | inl old => exact tracked.checked i t old
    | inr new =>
      rw [new.2]
      exact fun _ mem => by cases mem

theorem tracked_fresh : Tracked d { store := ∅ } where
  keyed := Dict.keyedBy_empty
  minted _ _ stored := by cases stored
  covered _ mem := by cases mem
  granted _ mem := by cases mem
  resolved _ _ _ acts := by
    obtain ⟨_, mem, _⟩ := acts
    cases mem
  revoked _ mem := by cases mem
  kept _ mem := by cases mem
  seen := trivial
  checked _ _ there := by cases there

theorem fits_exec (keyed : TokenStore.Keyed s.store) (op : TokenOp) :
    fitting d op (exec d op s.store).1 := by
  cases op with
  | findById identifier => exact fun record found => TokenStore.identifier_findById keyed found
  | listForWorkspace workspaceId now => exact fun record mem => TokenStore.workspaceId_listed mem
  | resolve identity query => exact rfl
  | findByHash _ | recordUsage _ _ | create _ | update _ | recordAuditEvent _ _ => exact trivial

structure Good (d : Deployment) (s : TokenServer) : Prop where
  tracked : Tracked d s
  once : Server.DrawsOnce drawsIdentifier writesIdentifier s

def Guarded (s : TokenServer) (turn : TokenTurn) : Prop :=
  Server.DrawsFresh drawsIdentifier s turn ∧ properly s turn

theorem own_of_writes (asks : mayAsk d request past op) {identifier : String}
    (writes : writesIdentifier ⟨op, answer⟩ = some identifier) :
    drawsIdentifier request = some identifier ∧ ∀ a ∈ past, writesIdentifier a = none := by
  obtain ⟨record, minted, same⟩ := Option.map_eq_some_iff.mp writes
  rw [op_of_mints minted] at asks
  obtain ⟨_, _, may⟩ := asks
  refine ⟨same ▸ may.drawn, fun a mem => ?_⟩
  unfold writesIdentifier
  rw [may.unminting a mem]
  rfl

theorem good_step (turn : TokenTurn) (good : Good d s ∧ Server.Sound (contract d) s)
    (guard : Guarded s turn) :
    Good d (tokenStep d s turn) ∧ Server.Sound (contract d) (tokenStep d s turn) := by
  refine Server.keep_step (exec d) (call d) (contract d) ?_ ?_ ?_ ?_ s turn
    good guard
  · exact fun request => call_meets
  · exact fun s op good => fits_exec good.tracked.keyed op
  · exact fun s request good _ guard => ⟨good.tracked.started, good.once.started guard.1⟩
  · intro s i request past op next good sound there asks guard
    have proper : asksProperly s.store request.route past op := by
      have proper := guard.2
      unfold properly at proper
      simp only [there] at proper
      exact proper
    exact ⟨good.tracked.answered sound there asks proper (fits_exec good.tracked.keyed op)
      (good.tracked.keeps sound good.once there asks proper),
      good.once.answered sound there (fun _ writes => own_of_writes asks writes)⟩

theorem contained_of_good (good : Good d s) (sound : Server.Sound (contract d) s) :
    Contained d s := by
  have tracked := good.tracked
  constructor
  case minted =>
    intro identifier record stored
    have own : record.identifier = identifier := tracked.keyed identifier record stored
    obtain ⟨e, mem, created, minted, grant⟩ := tracked.minted identifier record stored
    obtain ⟨minter, context, placed⟩ := tracked.covered e mem created minted
    have scopes : created.scopes = record.scopes := congrArg Grant.scopes grant
    have ids : created.workspaceIds = record.workspaceIds := congrArg Grant.workspaceIds grant
    refine ⟨e, mem, created, minter, context, minted, (identifier_of_grant grant).trans own,
      placed.acts, ?_, owns_of_grant grant placed.owns, fun w mem => ?_⟩
    · rw [← scopes]
      exact placed.scopes
    · rw [← ids, placed.workspaceIds] at mem
      exact List.mem_singleton.mp mem
  case resolved =>
    intro i token context acts
    obtain ⟨⟨record, stored, grant⟩, owns, usage⟩ := tracked.resolved i token context acts
    exact ⟨⟨record, stored, (congrArg Grant.scopes grant).symm, owns_of_grant grant.symm owns⟩,
      usage⟩
  case read =>
    intro i request past reply there response mem
    obtain ⟨identity, context, a, record, acts, asked, mentions, named, owns⟩ :=
      sound.gives there reply rfl response mem
    have granted : Granted s.store record :=
      tracked.granted _ (traced_of_past sound there asked) record
        (mentions.elim (fun shown => Or.inr (Or.inl shown)) Or.inl)
    obtain ⟨stored, found, grant⟩ := granted
    rw [named] at found
    exact ⟨identity, context, stored, actsIn_of_acts sound there acts, found,
      owns_of_grant grant.symm owns⟩
  case revoked =>
    intro e mem revocation revoked
    obtain ⟨identity, context, acts, owns⟩ := tracked.revoked e mem revocation revoked
    obtain ⟨stored, found, grant⟩ := tracked.granted e mem revocation (Or.inr (Or.inr revoked))
    exact ⟨identity, context, stored, acts, found, owns_of_grant grant.symm owns⟩
  case kept => exact tracked.kept
  case revokedRefused =>
    intro later earlier e token split looked revoked e' mem' same
    have mem : e ∈ s.trace := by
      rw [split]
      exact List.mem_append_right _ List.mem_cons_self
    have seen := tracked.seen
    rw [split] at seen
    have gone := seen_at seen looked revoked
    cases used : uses e'.toAsked with
    | none => rfl
    | some tokenId =>
      have bound := sound.callers e mem
      have there : s.threads[e.caller]? = some s.threads[e.caller] :=
        List.getElem?_eq_getElem bound
      have asked := (sound.traced _ _ e.toAsked there).mpr mem
      have asked' := (sound.traced _ _ e'.toAsked there).mpr (same ▸ mem')
      obtain ⟨valid, checks⟩ := tracked.checked _ _ there e'.toAsked asked' tokenId used
      rw [checks.only e.toAsked asked token looked, checks.unrevoked] at gone
      cases gone
  case expiredRefused =>
    intro i t a identifier record there asked used stored
    obtain ⟨token, checks⟩ := tracked.checked i t there a asked identifier used
    obtain ⟨b, found, looked⟩ := checks.found
    obtain ⟨record', stored', grant⟩ := tracked.granted _ (traced_of_past sound there found) token
      (Or.inr (Or.inl (shown_of_lookedUp looked)))
    rw [checks.identifier, stored] at stored'
    cases stored'
    have expiry : record.expiresAt = token.expiresAt := congrArg Grant.expiresAt grant
    have unexpired := checks.unexpired
    unfold TokenRecord.isExpired at unexpired ⊢
    rw [expiry]
    exact unexpired

end Runs

/-- Over every interleaving whose empty scopes are minted by who has them, and in which no token is
revoked again at another time, no token exceeds its minter. -/
theorem tokens_contained {turns : List TokenTurn}
    (fresh : AllSteps (tokenStep d) (Server.DrawsFresh drawsIdentifier) { store := ∅ } turns)
    (proper : AllSteps (tokenStep d) properly { store := ∅ } turns) :
    Always (tokenStep d) (Contained d) { store := ∅ } turns := by
  have guarded : AllSteps (tokenStep d) Guarded { store := ∅ } turns :=
    Lib.allSteps_and_iff.mpr ⟨fresh, proper⟩
  exact guarded.always (I := fun s => Good d s ∧ Server.Sound (contract d) s)
    (fun _ good => contained_of_good good.1 good.2)
    (fun _ turn good guard => good_step turn good guard)
    ⟨⟨tracked_fresh, Server.drawsOnce_fresh⟩, Server.sound_fresh⟩

def strokes : Workspaces.WorkspaceRuntime where
  toTextRuntime := { Repository.TextRuntime.ascii with uuid := fun text => some text.length }
  hashInvitationToken token := token
  showUuid x := String.ofList (List.replicate x '|')
  orderWorkspaces ws := ws
  orderWorkspaces_perm _ := List.Perm.refl _
  orderInvitations is := is
  orderInvitations_perm _ := List.Perm.refl _

def smallDeployment : Deployment where
  auth := .ascii
  workspaces := strokes
  uuid_showUuid x := by
    show some (String.ofList (List.replicate x '|')).length = some x
    rw [String.length_ofList, List.length_replicate]
  settings := {}
  tokens := .postgres
  directory := .postgres

def acme : Workspaces.Workspace where
  id := 1
  slug := "acme"
  name := "Acme"

def onlyAcme : Directory where
  store := { workspaces := (∅ : Dict Uuid Workspaces.Workspace).set 1 acme }
  keyed := Dict.keyedBy_empty.set rfl

def asAda (route : TokenRoute) : TokenRequest where
  caller := .context {
    subject := "ada"
    identityType := "developer"
    scopes := ["read"]
    workspaceIds := ["|"] }
  query := { directory := onlyAcme }
  route := route

def mintsToken (scope : String) : TokenRequest :=
  asAda (.createServiceToken none [scope] none { secret := "s3cret", identifier := "t1" })

def revokesToken (now : Instant) : TokenRequest := asAda (.revokeServiceToken "t1" "leaked" now)

def mintedAndUsed : List TokenTurn :=
  [.begin (mintsToken "read"), .advance 0, .advance 0, .advance 0,
    .begin { asAda (.other true) with caller := .bearer "s3cret" none }, .advance 1, .advance 1,
    .advance 1]

theorem tokens_contained_used : Always (tokenStep smallDeployment) (Contained smallDeployment)
    { store := ∅ } mintedAndUsed := by
  refine tokens_contained (by decide +kernel) ⟨trivial, trivial, ?_, trivial, trivial, trivial,
    trivial, trivial, trivial⟩
  show "" ∈ ["read"] → _
  intro empty
  exact absurd empty (by decide)

def revokedTwice : List TokenTurn :=
  [.begin (mintsToken "read"), .advance 0, .advance 0, .advance 0,
    .begin (revokesToken 5), .advance 1, .advance 1, .advance 1, .advance 1, .advance 1,
    .begin (revokesToken 9), .advance 2, .advance 2, .advance 2, .advance 2, .advance 2]

theorem not_contained_of_moved {s : TokenServer}
    (moved : s.trace.any (fun e => (revokes e.toAsked).any (fun revocation =>
      (s.store.get? revocation.identifier).any (fun record =>
        record.revokedAt ≠ revocation.revokedAt))) = true) : ¬ Contained d s := by
  intro contained
  obtain ⟨e, mem, found⟩ := List.any_eq_true.mp moved
  cases revoked : revokes e.toAsked with
  | none =>
    rw [revoked] at found
    cases found
  | some revocation =>
    obtain ⟨record, stored, _, same⟩ := contained.kept e mem revocation revoked
    rw [revoked, Option.any_some, stored, Option.any_some] at found
    exact of_decide_eq_true found same

theorem revocation_moved : ¬ ∀ (d : Deployment) (turns : List TokenTurn),
    AllSteps (tokenStep d) (Server.DrawsFresh drawsIdentifier) { store := ∅ } turns →
    Always (tokenStep d) (Contained d) { store := ∅ } turns := by
  intro all
  have fresh : AllSteps (tokenStep smallDeployment) (Server.DrawsFresh drawsIdentifier)
      { store := ∅ } revokedTwice := by decide +kernel
  refine not_contained_of_moved ?_ (all smallDeployment revokedTwice fresh).last
  decide +kernel

end Orcheo.ServiceTokens
