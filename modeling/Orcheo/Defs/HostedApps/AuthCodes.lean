import Orcheo.Defs.HostedApps.Sessions
import Orcheo.Lib.Except
import Orcheo.Lib.Run

/-! Authorization codes that are exchanged for sessions, and sessions that end. -/

namespace Orcheo.HostedApps

open Lib (AllSteps Dict)
open HostedAppsRepository (Descriptor)

local instance lawfulBEqMember : LawfulBEq (Uuid × String) := inferInstance

structure AuthorizationCode where
  codeHash : String
  appId : Uuid
  workspaceId : Uuid
  userId : String
  redirectUri : String
  codeChallenge : String
  expiresAt : Instant
  consumedAt : Option Instant := none
  deriving DecidableEq

structure AuthService extends AppAuthService where
  codeTtl : Duration := seconds 300
  absolute : Duration := seconds 43200
  codes : Dict String AuthorizationCode := ∅

/-- `_hash` and `_pkce_challenge` -/
structure AuthRuntime where
  hash : String → String
  pkceChallenge : String → String

/-- The arguments of `issue_code`, with what it reads of the clock and draws. -/
structure CodeIssue where
  now : Instant
  raw : String
  appId : Uuid
  workspaceId : Uuid
  userId : String
  redirectUri : String
  codeChallenge : String

structure CodeExchange where
  now : Instant
  rawSecret : String
  rawCode : String
  verifier : String
  appHost : String
  redirectUri : String
  runtimeGeneration : Nat
  currentMember : Bool

structure SessionLookup where
  now : Instant
  rawSecret : String
  appHost : String
  runtimeGeneration : Nat
  currentMember : Bool

structure SessionRevocation where
  now : Instant
  rawSecret : String

namespace AuthService

section Definitions

variable (rt : AuthRuntime) (s : AuthService)

def issueCode (call : CodeIssue) : AuthService :=
  { s with codes := s.codes.set (rt.hash call.raw) {
      codeHash := rt.hash call.raw
      appId := call.appId
      workspaceId := call.workspaceId
      userId := call.userId
      redirectUri := call.redirectUri
      codeChallenge := call.codeChallenge
      expiresAt := call.now + s.codeTtl } }

def newSession (code : AuthorizationCode) (call : CodeExchange) : AppSession where
  secretHash := rt.hash call.rawSecret
  appId := code.appId
  workspaceId := code.workspaceId
  appHost := call.appHost
  userId := code.userId
  runtimeGeneration := call.runtimeGeneration
  expiresAt := call.now + s.absolute
  idleExpiresAt := call.now + s.idle
  lastSeenAt := call.now

def exchange (call : CodeExchange) : Except String (AuthService × AppSession) :=
  match s.codes.get? (rt.hash call.rawCode) with
  | none => .error "App authorization code is invalid or expired."
  | some code =>
    if code.consumedAt.isSome ∨ code.expiresAt ≤ call.now ∨ code.redirectUri ≠ call.redirectUri ∨
        call.currentMember = false then
      .error "App authorization code is invalid or expired."
    else if rt.pkceChallenge call.verifier ≠ code.codeChallenge then
      .error "App authorization PKCE verification failed."
    else
      let session := s.newSession rt code call
      .ok ({ s with
        codes := s.codes.set (rt.hash call.rawCode) { code with consumedAt := some call.now }
        sessions := s.sessions.set session.secretHash session }, session)

def lookup (call : SessionLookup) : Option (AuthService × AppSession) :=
  (s.introspect (rt.hash call.rawSecret) call.appHost call.runtimeGeneration call.currentMember
    call.now).map fun (service, session) => ({ s with toAppAuthService := service }, session)

def revokeSession (call : SessionRevocation) : AuthService :=
  { s with toAppAuthService := s.revoke (rt.hash call.rawSecret) call.now }

/-- `exchange_app_code`, over the memberships of the users and what the host resolves to: the
secret that is given out, if one is. -/
def exchangeAppCode (members : List (Uuid × String)) (descriptor : Descriptor)
    (call : CodeExchange) : AuthService × Option String :=
  match s.exchange rt { call with
    runtimeGeneration := descriptor.generation, currentMember := true } with
  | .error _ => (s, none)
  | .ok (s, session) => match descriptor with
    -- a suspended app has no workspace to compare
    | .suspended _ _ => (s, none)
    | .published d =>
      if session.workspaceId ≠ d.workspaceId ∨ session.appId ≠ d.appId then
        (s.revokeSession rt ⟨call.now, call.rawSecret⟩, none)
      else if (session.workspaceId, session.userId) ∈ members then (s, some call.rawSecret)
      else (s.revokeSession rt ⟨call.now, call.rawSecret⟩, none)

end Definitions

end AuthService

inductive AuthCall
  | issue (call : CodeIssue)
  | exchange (call : CodeExchange)
  | introspect (call : SessionLookup)
  | revoke (call : SessionRevocation)

def AuthCall.now : AuthCall → Instant
  | .issue call => call.now
  | .exchange call => call.now
  | .introspect call => call.now
  | .revoke call => call.now

namespace AuthService

section Runs

variable (rt : AuthRuntime) (s : AuthService)

def step : AuthCall → AuthService
  | .issue call => s.issueCode rt call
  | .exchange call => match s.exchange rt call with
    | .error _ => s
    | .ok (s, _) => s
  | .introspect call => match s.lookup rt call with
    | none => s
    | some (s, _) => s
  | .revoke call => s.revokeSession rt call

def DrawsFresh (call : AuthCall) : Prop :=
  (∀ i, call = .issue i → s.codes.get? (rt.hash i.raw) = none) ∧
    ∀ e, call = .exchange e → s.sessions.get? (rt.hash e.rawSecret) = none

def start (codeTtl absolute idle : Duration) : AuthService :=
  { codeTtl := codeTtl, absolute := absolute, idle := idle }

def after (calls : List AuthCall) : AuthService := calls.foldl (step rt) s

def SingleUse (calls : List AuthCall) : Prop :=
  ∀ before first between second rest s₁ session₁ s₂ session₂,
    calls = before ++ .exchange first :: (between ++ .exchange second :: rest) →
    (s.after rt before).exchange rt first = .ok (s₁, session₁) →
    (s.after rt (before ++ .exchange first :: between)).exchange rt second = .ok (s₂, session₂) →
    rt.hash first.rawCode ≠ rt.hash second.rawCode

structure IssuedFor (i : CodeIssue) (e : CodeExchange) (session : AppSession) : Prop where
  code : rt.hash i.raw = rt.hash e.rawCode
  redirectUri : i.redirectUri = e.redirectUri
  verifier : rt.pkceChallenge e.verifier = i.codeChallenge
  unexpired : e.now < i.now + s.codeTtl
  appId : session.appId = i.appId
  workspaceId : session.workspaceId = i.workspaceId
  userId : session.userId = i.userId

def Over (secretHash : String) (now : Instant) : Prop :=
  ∃ session, s.sessions.get? secretHash = some session ∧
    (session.revokedAt.isSome = true ∨ session.expiresAt ≤ now ∨ session.idleExpiresAt ≤ now)

def NeverFound (secretHash : String) (calls : List AuthCall) : Prop :=
  ∀ before call rest, calls = before ++ .introspect call :: rest →
    rt.hash call.rawSecret = secretHash → (s.after rt before).lookup rt call = none

end Runs

section Calls

variable {rt : AuthRuntime} {s s' : AuthService}

variable {call : CodeExchange} {session : AppSession} {secretHash : String}

theorem exchange_ok (exchanged : s.exchange rt call = .ok (s', session)) :
    ∃ code, s.codes.get? (rt.hash call.rawCode) = some code ∧ code.consumedAt = none ∧
      call.now < code.expiresAt ∧ code.redirectUri = call.redirectUri ∧
      rt.pkceChallenge call.verifier = code.codeChallenge ∧ session = s.newSession rt code call ∧
      s' = { s with
        codes := s.codes.set (rt.hash call.rawCode) { code with consumedAt := some call.now }
        sessions := s.sessions.set (rt.hash call.rawSecret) session } := by
  unfold exchange at exchanged
  cases stored : s.codes.get? (rt.hash call.rawCode) with
  | none =>
    rw [stored] at exchanged
    cases exchanged
  | some code =>
    simp only [stored] at exchanged
    by_cases invalid : code.consumedAt.isSome ∨ code.expiresAt ≤ call.now ∨
        code.redirectUri ≠ call.redirectUri ∨ call.currentMember = false
    · rw [if_pos invalid] at exchanged
      cases exchanged
    · rw [if_neg invalid] at exchanged
      by_cases failed : rt.pkceChallenge call.verifier ≠ code.codeChallenge
      · rw [if_pos failed] at exchanged
        cases exchanged
      · rw [if_neg failed] at exchanged
        cases exchanged
        simp only [not_or, ne_eq, Decidable.not_not] at invalid failed
        obtain ⟨unconsumed, unexpired, redirectUri, _⟩ := invalid
        exact ⟨code, rfl, Option.not_isSome_iff_eq_none.mp unconsumed, Int.not_le.mp unexpired,
          redirectUri, failed, rfl, rfl⟩

theorem lookup_some {call : SessionLookup} (found : s.lookup rt call = some (s', session)) :
    ∃ held, s.sessions.get? (rt.hash call.rawSecret) = some held ∧
      held.Live call.appHost call.runtimeGeneration call.now ∧
      session = { held with
        lastSeenAt := call.now
        idleExpiresAt := min held.expiresAt (call.now + s.idle) } ∧
      s' = { s with sessions := s.sessions.set (rt.hash call.rawSecret) session } := by
  unfold lookup AppAuthService.introspect at found
  cases stored : s.sessions.get? (rt.hash call.rawSecret) with
  | none => simp [stored] at found
  | some held =>
    simp only [stored] at found
    by_cases invalid : held.revokedAt.isSome ∨ held.appHost ≠ call.appHost ∨
        held.runtimeGeneration ≠ call.runtimeGeneration ∨ held.expiresAt ≤ call.now ∨
        held.idleExpiresAt ≤ call.now ∨ call.currentMember = false
    · rw [if_pos invalid] at found
      cases found
    · rw [if_neg invalid] at found
      cases found
      simp only [not_or, ne_eq, Decidable.not_not] at invalid
      obtain ⟨unrevoked, host, generation, unexpired, active, _⟩ := invalid
      exact ⟨held, rfl, ⟨Option.not_isSome_iff_eq_none.mp unrevoked, host, generation,
        Int.not_le.mp unexpired, Int.not_le.mp active⟩, rfl, rfl⟩

theorem get?_revokeSession (call : SessionRevocation) (secretHash : String) :
    (s.revokeSession rt call).sessions.get? secretHash = (s.sessions.get? secretHash).map
      fun session => if secretHash = rt.hash call.rawSecret then
        { session with revokedAt := session.revokedAt <|> some call.now } else session := by
  unfold revokeSession AppAuthService.revoke
  cases stored : s.sessions.get? (rt.hash call.rawSecret) with
  | none =>
    by_cases same : secretHash = rt.hash call.rawSecret
    · simp [same, stored]
    · simp [same]
  | some session =>
    by_cases same : secretHash = rt.hash call.rawSecret
    · simp [same, stored]
    · simp [same]

theorem sessions_step {call : AuthCall} (fresh : s.DrawsFresh rt call)
    (stored : s.sessions.get? secretHash = some session) :
    ∃ session', (s.step rt call).sessions.get? secretHash = some session' ∧
      session'.runtimeGeneration = session.runtimeGeneration ∧
      session'.expiresAt = session.expiresAt ∧
      (session.revokedAt.isSome = true → session'.revokedAt.isSome = true) ∧
      (session'.idleExpiresAt = session.idleExpiresAt ∨
        ∃ appHost, session.Live appHost session.runtimeGeneration call.now) := by
  have kept : ∃ session', some session = some session' ∧
      session'.runtimeGeneration = session.runtimeGeneration ∧
      session'.expiresAt = session.expiresAt ∧
      (session.revokedAt.isSome = true → session'.revokedAt.isSome = true) ∧
      (session'.idleExpiresAt = session.idleExpiresAt ∨
        ∃ appHost, session.Live appHost session.runtimeGeneration call.now) :=
    ⟨session, rfl, rfl, rfl, id, .inl rfl⟩
  cases call with
  | issue i => rwa [← stored] at kept
  | exchange e =>
    cases exchanged : s.exchange rt e with
    | error message =>
      simp only [step, exchanged]
      rwa [← stored] at kept
    | ok result =>
      obtain ⟨s', made⟩ := result
      obtain ⟨code, _, _, _, _, _, _, same⟩ := exchange_ok exchanged
      have apart : secretHash ≠ rt.hash e.rawSecret := by
        rintro rfl
        cases stored.symm.trans (fresh.2 e rfl)
      simp only [step, exchanged, same]
      rwa [Dict.get?_set, if_neg apart, stored]
  | introspect call =>
    cases found : s.lookup rt call with
    | none =>
      simp only [step, found]
      rwa [← stored] at kept
    | some result =>
      obtain ⟨s', seen⟩ := result
      obtain ⟨held, there, live, same, same'⟩ := lookup_some found
      simp only [step, found, same']
      by_cases here : secretHash = rt.hash call.rawSecret
      · rw [Dict.get?_set, if_pos here]
        rw [← here, stored] at there
        cases there
        refine ⟨seen, rfl, same ▸ rfl, same ▸ rfl, same ▸ id, .inr ⟨call.appHost, ?_⟩⟩
        exact live.generation ▸ live
      · rwa [Dict.get?_set, if_neg here, stored]
  | revoke call =>
    simp only [step]
    rw [get?_revokeSession, stored]
    refine ⟨_, rfl, ?_⟩
    by_cases here : secretHash = rt.hash call.rawSecret
    · simp only [if_pos here]
      refine ⟨trivial, trivial, fun revoked => ?_, .inl trivial⟩
      obtain ⟨time, given⟩ := Option.isSome_iff_exists.mp revoked
      rw [given]
      rfl
    · simp only [if_neg here]
      exact ⟨trivial, trivial, id, .inl trivial⟩

theorem Over.lookup {now : Instant} (ended : s.Over secretHash now)
    {call : SessionLookup} (named : rt.hash call.rawSecret = secretHash) (later : now ≤ call.now) :
    s.lookup rt call = none := by
  obtain ⟨session, stored, ended⟩ := ended
  cases found : s.lookup rt call with
  | none => rfl
  | some result =>
    obtain ⟨s', seen⟩ := result
    obtain ⟨held, there, live, _⟩ := lookup_some found
    rw [named, stored] at there
    cases there
    rcases ended with revoked | expired | idle
    · rw [live.unrevoked] at revoked
      cases revoked
    · exact absurd (Int.le_trans expired later) (Int.not_le.mpr live.unexpired)
    · exact absurd (Int.le_trans idle later) (Int.not_le.mpr live.active)

theorem Over.step {now : Instant} (ended : s.Over secretHash now)
    {call : AuthCall} (fresh : s.DrawsFresh rt call) (later : now ≤ call.now) :
    (s.step rt call).Over secretHash now := by
  obtain ⟨session, stored, ended⟩ := ended
  obtain ⟨session', stored', _, expires, revokes, idles⟩ := sessions_step fresh stored
  refine ⟨session', stored', ?_⟩
  rcases ended with revoked | expired | idle
  · exact .inl (revokes revoked)
  · exact .inr (.inl (expires ▸ expired))
  · cases idles with
    | inl same => exact .inr (.inr (same ▸ idle))
    | inr seen =>
      obtain ⟨_, live⟩ := seen
      exact absurd (Int.le_trans idle later) (Int.not_le.mpr live.active)

def Consumed (s : AuthService) (codeHash : String) : Prop :=
  ∃ code, s.codes.get? codeHash = some code ∧ code.consumedAt.isSome = true

theorem Consumed.step {codeHash : String} (consumed : s.Consumed codeHash) {call : AuthCall}
    (fresh : s.DrawsFresh rt call) : (s.step rt call).Consumed codeHash := by
  obtain ⟨code, stored, consumed⟩ := consumed
  cases call with
  | issue i =>
    have apart : codeHash ≠ rt.hash i.raw := by
      rintro rfl
      cases stored.symm.trans (fresh.1 i rfl)
    refine ⟨code, ?_, consumed⟩
    simp only [AuthService.step, issueCode]
    rw [Dict.get?_set, if_neg apart, stored]
  | exchange e =>
    cases exchanged : s.exchange rt e with
    | error message =>
      simp only [AuthService.step, exchanged]
      exact ⟨code, stored, consumed⟩
    | ok result =>
      obtain ⟨s', session⟩ := result
      obtain ⟨other, there, unconsumed, _, _, _, _, same⟩ := exchange_ok exchanged
      simp only [AuthService.step, exchanged, same]
      refine ⟨code, ?_, consumed⟩
      have apart : codeHash ≠ rt.hash e.rawCode := by
        rintro rfl
        cases stored.symm.trans there
        rw [unconsumed] at consumed
        cases consumed
      rw [Dict.get?_set, if_neg apart, stored]
  | introspect call =>
    cases found : s.lookup rt call with
    | none =>
      simp only [AuthService.step, found]
      exact ⟨code, stored, consumed⟩
    | some result =>
      obtain ⟨s', seen⟩ := result
      obtain ⟨_, _, _, _, same⟩ := lookup_some found
      simp only [AuthService.step, found, same]
      exact ⟨code, stored, consumed⟩
  | revoke call => exact ⟨code, stored, consumed⟩

theorem consumed_of_exchange (exchanged : s.exchange rt call = .ok (s', session)) :
    (s.step rt (.exchange call)).Consumed (rt.hash call.rawCode) := by
  obtain ⟨code, _, _, _, _, _, _, same⟩ := exchange_ok exchanged
  simp only [AuthService.step, exchanged, same]
  exact ⟨_, by rw [Dict.get?_set, if_pos rfl], rfl⟩

structure Issued (rt : AuthRuntime) (codeTtl : Duration) (calls : List AuthCall)
    (s : AuthService) : Prop where
  ttl : s.codeTtl = codeTtl
  codes : ∀ codeHash code, s.codes.get? codeHash = some code → ∃ i, .issue i ∈ calls ∧
    rt.hash i.raw = codeHash ∧ code.redirectUri = i.redirectUri ∧
    code.codeChallenge = i.codeChallenge ∧ code.expiresAt = i.now + codeTtl ∧
    code.appId = i.appId ∧ code.workspaceId = i.workspaceId ∧ code.userId = i.userId

theorem Issued.snoc {codeTtl : Duration} {calls : List AuthCall}
    (issued : Issued rt codeTtl calls s) (call : AuthCall) :
    Issued rt codeTtl (calls ++ [call]) (s.step rt call) := by
  have before {codeHash : String} {code : AuthorizationCode}
      (stored : s.codes.get? codeHash = some code) : ∃ i, .issue i ∈ calls ++ [call] ∧
      rt.hash i.raw = codeHash ∧ code.redirectUri = i.redirectUri ∧
      code.codeChallenge = i.codeChallenge ∧ code.expiresAt = i.now + codeTtl ∧
      code.appId = i.appId ∧ code.workspaceId = i.workspaceId ∧ code.userId = i.userId := by
    obtain ⟨i, mem, same⟩ := issued.codes codeHash code stored
    exact ⟨i, List.mem_append_left _ mem, same⟩
  cases call with
  | issue i =>
    refine ⟨issued.ttl, fun codeHash code stored => ?_⟩
    simp only [AuthService.step, issueCode] at stored
    rw [Dict.get?_set] at stored
    by_cases here : codeHash = rt.hash i.raw
    · rw [if_pos here] at stored
      cases stored
      exact ⟨i, List.mem_append_right _ (List.mem_singleton_self _), here.symm, rfl, rfl,
        congrArg (i.now + ·) issued.ttl, rfl, rfl, rfl⟩
    · rw [if_neg here] at stored
      exact before stored
  | exchange e =>
    cases exchanged : s.exchange rt e with
    | error message =>
      simp only [AuthService.step, exchanged]
      exact ⟨issued.ttl, fun _ _ => before⟩
    | ok result =>
      obtain ⟨s', session⟩ := result
      obtain ⟨held, there, _, _, _, _, _, same⟩ := exchange_ok exchanged
      simp only [AuthService.step, exchanged, same]
      refine ⟨issued.ttl, fun codeHash code stored => ?_⟩
      rw [Dict.get?_set] at stored
      by_cases here : codeHash = rt.hash e.rawCode
      · rw [if_pos here] at stored
        cases stored
        obtain ⟨i, mem, same⟩ := before there
        exact ⟨i, mem, here ▸ same⟩
      · rw [if_neg here] at stored
        exact before stored
  | introspect call =>
    cases found : s.lookup rt call with
    | none =>
      simp only [AuthService.step, found]
      exact ⟨issued.ttl, fun _ _ => before⟩
    | some result =>
      obtain ⟨s', seen⟩ := result
      obtain ⟨_, _, _, _, same⟩ := lookup_some found
      simp only [AuthService.step, found, same]
      exact ⟨issued.ttl, fun _ _ => before⟩
  | revoke call => exact ⟨issued.ttl, fun _ _ => before⟩

theorem issued_after (rt : AuthRuntime) (codeTtl absolute idle : Duration) (calls : List AuthCall) :
    Issued rt codeTtl calls ((start codeTtl absolute idle).after rt calls) := by
  unfold after
  induction calls using List.reverseRecOn with
  | nil =>
    refine ⟨rfl, fun _ _ stored => ?_⟩
    cases stored
  | append_singleton calls call ih =>
    rw [List.foldl_append]
    exact ih.snoc call

theorem issuedFor_of_exchange {codeTtl : Duration} {calls : List AuthCall}
    (issued : Issued rt codeTtl calls s) (exchanged : s.exchange rt call = .ok (s', session)) :
    ∃ i, .issue i ∈ calls ∧ s.IssuedFor rt i call session := by
  obtain ⟨code, stored, _, unexpired, redirectUri, verifier, rfl, _⟩ := exchange_ok exchanged
  obtain ⟨i, mem, hash, redirect, challenge, expires, app, workspace, user⟩ :=
    issued.codes _ code stored
  refine ⟨i, mem, hash, redirect ▸ redirectUri, verifier.trans challenge, ?_, app, workspace,
    user⟩
  rw [issued.ttl, ← expires]
  exact unexpired

theorem exchangeAppCode_some {members : List (Uuid × String)} {descriptor : Descriptor}
    {secret : String} (given : s.exchangeAppCode rt members descriptor call = (s', some secret)) :
    ∃ d s₁ session, descriptor = .published d ∧
      s.exchange rt { call with
        runtimeGeneration := d.generation, currentMember := true } = .ok (s₁, session) ∧
      session.appId = d.appId ∧ session.workspaceId = d.workspaceId := by
  unfold exchangeAppCode at given
  cases exchanged : s.exchange rt { call with
      runtimeGeneration := descriptor.generation, currentMember := true } with
  | error message =>
    simp only [exchanged] at given
    cases given
  | ok result =>
    obtain ⟨s₁, session⟩ := result
    simp only [exchanged] at given
    cases descriptor with
    | suspended _ _ => cases given
    | published d =>
      simp only at given
      by_cases scope : session.workspaceId ≠ d.workspaceId ∨ session.appId ≠ d.appId
      · rw [if_pos scope] at given
        cases given
      · simp only [not_or, ne_eq, Decidable.not_not] at scope
        exact ⟨d, s₁, session, rfl, exchanged, scope.2, scope.1⟩

end Calls

section Trace

variable {rt : AuthRuntime} {s : AuthService}

theorem after_append (calls more : List AuthCall) :
    s.after rt (calls ++ more) = (s.after rt calls).after rt more := List.foldl_append

variable {calls : List AuthCall} {secretHash : String}

theorem consumed_after {codeHash : String} (consumed : s.Consumed codeHash)
    (fresh : AllSteps (step rt) (DrawsFresh rt) s calls) :
    (s.after rt calls).Consumed codeHash :=
  (Lib.AllSteps.always (P := fun s => s.Consumed codeHash) (I := fun s => s.Consumed codeHash)
    (fun _ consumed => consumed) (fun _ _ consumed fresh => consumed.step fresh) consumed
    fresh).last

theorem singleUse (fresh : AllSteps (step rt) (DrawsFresh rt) s calls) :
    s.SingleUse rt calls := by
  rintro before first between second rest s₁ session₁ s₂ session₂ rfl exchanged again same
  obtain ⟨_, _, fresh⟩ := Lib.allSteps_append.mp fresh
  obtain ⟨fresh, _⟩ := Lib.allSteps_append.mp fresh
  obtain ⟨code, stored, consumed⟩ := consumed_after (consumed_of_exchange exchanged) fresh
  obtain ⟨code', stored', unconsumed, _⟩ := exchange_ok again
  rw [after_append] at stored'
  cases (same ▸ stored).symm.trans stored'
  rw [unconsumed] at consumed
  cases consumed

theorem over_after {now : Instant} (ended : s.Over secretHash now)
    (fresh : AllSteps (step rt) (DrawsFresh rt) s calls)
    (later : ∀ call ∈ calls, now ≤ call.now) : (s.after rt calls).Over secretHash now := by
  induction calls generalizing s with
  | nil => exact ended
  | cons call calls ih =>
    obtain ⟨here, later⟩ := List.forall_mem_cons.mp later
    exact ih (ended.step fresh.1 here) fresh.2 later

theorem neverFound_of_over {now : Instant} (ended : s.Over secretHash now)
    (fresh : AllSteps (step rt) (DrawsFresh rt) s calls)
    (later : ∀ call ∈ calls, now ≤ call.now) : s.NeverFound rt secretHash calls := by
  rintro before call rest rfl named
  obtain ⟨earlier, here, _⟩ := List.forall_mem_append.mp later |>.imp_right List.forall_mem_cons.mp
  exact (over_after ended (Lib.allSteps_append.mp fresh).1 earlier).lookup named here

theorem generation_after {generation : Nat}
    (stored : ∃ session, s.sessions.get? secretHash = some session ∧
      session.runtimeGeneration = generation)
    (fresh : AllSteps (step rt) (DrawsFresh rt) s calls) :
    ∃ session, (s.after rt calls).sessions.get? secretHash = some session ∧
      session.runtimeGeneration = generation := by
  refine (Lib.AllSteps.always (I := fun s => ∃ session, s.sessions.get? secretHash = some session ∧
    session.runtimeGeneration = generation) (fun _ stored => stored) ?_ stored fresh).last
  rintro s call ⟨session, held, same⟩ fresh
  obtain ⟨session', held', same', _⟩ := sessions_step fresh held
  exact ⟨session', held', same'.trans same⟩

end Trace

def portalRuntime : AuthRuntime where
  hash raw :=
    if raw = "code" then "5694d08a2e53ffcae0c3103e5ad6f6076abd960eb1f8a56577040bc1028f702b"
    else "2bb80d537b1da3e38bd30361aa855686bde0eacd7162fef6a25fe97bf527a25b"
  pkceChallenge _ := "iMnq5o6zALKXGivsnlom_0F5_WYda32GHkxlV7mq7hQ"

def portalCallback : String := "https://portal.apps.test/__orcheo/auth/callback"

def portalIssue : AuthCall :=
  .issue ⟨0, "code", 1, 2, "member", portalCallback, "iMnq5o6zALKXGivsnlom_0F5_WYda32GHkxlV7mq7hQ"⟩

def portalExchange : AuthCall :=
  .exchange ⟨1, "secret", "code", "verifier", "portal.apps.test", portalCallback, 3, true⟩

def portalLookup (now : Instant) : AuthCall :=
  .introspect ⟨now, "secret", "portal.apps.test", 3, true⟩

end AuthService

end Orcheo.HostedApps
