import Orcheo.Defs.Workspaces.ServiceLaws

/-! The life of an invitation: who may accept it, and that it is settled once. -/

namespace Orcheo.Workspaces

open Lib (AllSteps Always Asked Dict)
open WorkspaceServer (step)
open WorkspaceStore (addInvitation getInvitation exec)
open InvitationStatus (noConfusion)

namespace Invitations

def record : Asked WorkspaceOp.Answer → Option WorkspaceInvitation
  | ⟨.getInvitation _, .ok (invitation : WorkspaceInvitation)⟩ => some invitation
  | ⟨.getInvitationByTokenHash _, .ok (invitation : WorkspaceInvitation)⟩ => some invitation
  | ⟨.updateInvitation invitation, .ok _⟩ => some invitation
  | ⟨.acceptInvitationAtomic _ _ invitation _, .ok _⟩ => some invitation
  | _ => none

def revoked : Asked WorkspaceOp.Answer → Option Uuid
  | ⟨.updateInvitation invitation, .ok _⟩ => some invitation.id
  | _ => none

def accepted : Asked WorkspaceOp.Answer → Option (WorkspaceInvitation × WorkspaceMembership)
  | ⟨.acceptInvitationAtomic m _ invitation _, .ok _⟩ => some (invitation, m)
  | _ => none

def settles (asked : Asked WorkspaceOp.Answer) : Option Uuid :=
  (revoked asked).or ((accepted asked).map (fun a => a.1.id))

structure LifecycleKept (rt : WorkspaceRuntime) (s : WorkspaceServer) : Prop where
  /-- It leaves the pending state once, -/
  settledOnce : (s.written settles).Nodup
  /-- for good. -/
  settled : ∀ id ∈ s.written settles, ∀ stored, s.store.invitations.get? id = some stored →
    stored.status ≠ .pending
  /-- A revoked invitation makes nobody a member. -/
  revoked : ∀ e ∈ s.trace, ∀ e' ∈ s.trace, ∀ id a, revoked e.toAsked = some id →
    accepted e'.toAsked = some a → a.1.id ≠ id
  oneUser : ∀ e ∈ s.trace, ∀ e' ∈ s.trace, ∀ a a', accepted e.toAsked = some a →
    accepted e'.toAsked = some a' → a.1.id = a'.1.id → a.2.userId = a'.2.userId
  /-- The verified address of the new member is the one that the invitation was stored for. -/
  verified : ∀ e ∈ s.trace, ∀ a, accepted e.toAsked = some a → ∃ t rawToken email now acceptedAt,
    s.threads[e.caller]? = some t ∧
    t.request = .acceptInvitation rawToken a.2.userId (some email) true now acceptedAt ∧
    normalizeEmail rt.toTextRuntime email = some a.1.email ∧
    ∀ stored, s.store.invitations.get? a.1.id = some stored → stored.email = a.1.email

def accepts : WorkspaceRequest → Bool
  | .acceptInvitation _ _ _ _ _ _ => true
  | _ => false

def RolesKept (rt : WorkspaceRuntime) (config : WorkspaceConfig) (b : Backend) (s : WorkspaceServer)
    (turn : WorkspaceTurn) : Prop :=
  ∀ (i : Nat) (t : WorkspaceThread), turn = .advance i → s.threads[i]? = some t →
    accepts t.request = true → ∀ key m, s.store.memberships.get? key = some m →
      ∃ m', (s.step rt config b turn).store.memberships.get? key = some m' ∧ m'.role = m.role

/-- What is revoked or accepted is still pending in the store.  Postgres refuses to accept what is
not stored. -/
def settlesPending (b : Backend) (s : WorkspaceServer) : WorkspaceTurn → Bool
  | .begin _ => true
  | .advance i => match s.threads[i]? with
    | some ⟨_, _, .ask (.updateInvitation invitation) _⟩ =>
      (s.store.invitations.get? invitation.id).all (fun stored => stored.status = .pending)
    | some ⟨_, _, .ask (.acceptInvitationAtomic _ _ invitation _) _⟩ =>
      match s.store.invitations.get? invitation.id with
      | none => b = .postgres
      | some stored => stored.status = .pending
    | _ => true

def createsFresh (s : WorkspaceServer) : WorkspaceTurn → Bool
  | .begin _ => true
  | .advance i => match s.threads[i]? with
    | some ⟨_, _, .ask (.addInvitation invitation) _⟩ =>
      s.trace.all (fun e => (record e.toAsked).all (fun x => x.id ≠ invitation.id))
    | _ => true

variable {rt : WorkspaceRuntime} {config : WorkspaceConfig} {b : Backend} {s : WorkspaceServer}
  {i : Nat} {r : WorkspaceRequest} {past : Past} {op : WorkspaceOp}
  {next : op.Answer → WorkspaceCall WorkspaceReply}

inductive InvitationStep (before after : Dict Uuid WorkspaceInvitation)
    (asked : Asked WorkspaceOp.Answer) : Prop
  | kept (quiet : settles asked = none)
      (kept : ∀ id x, after.get? id = some x → before.get? id = some x)
  | added (invitation : WorkspaceInvitation) (quiet : record asked = none)
      (same : asked.op = .addInvitation invitation)
      (set : after = before.set invitation.id invitation)
  | settled (invitation stored written : WorkspaceInvitation)
      (recorded : record asked = some invitation) (settles : settles asked = some invitation.id)
      (found : before.get? invitation.id = some stored) (pending : stored.status = .pending)
      (set : after = before.set invitation.id written) (closed : written.status ≠ .pending)
      (same : written.email = stored.email) (read : invitation.email = stored.email)

def touches : WorkspaceOp → Bool
  | .addInvitation _ | .updateInvitation _ | .acceptInvitationAtomic _ _ _ _ => true
  | _ => false

theorem touches_of_plain (plain : op.Neutral ∨ op.Manages) : touches op = false := by
  cases op with
  | addInvitation | updateInvitation | acceptInvitationAtomic => cases plain with
    | inl quiet => cases quiet
    | inr quiet => cases quiet
  | _ => rfl

theorem settles_of_untouched (untouched : touches op = false) (answer : op.Answer) :
    settles ⟨op, answer⟩ = none := by
  cases op with
  | updateInvitation | acceptInvitationAtomic => cases untouched
  | _ => rfl

variable {store : WorkspaceStore} {x invitation : WorkspaceInvitation}
  {asked : Asked WorkspaceOp.Answer} {m : WorkspaceMembership}

theorem invitations_kept (untouched : touches op = false) {id : Uuid}
    (found : (store.exec rt b op).2.invitations.get? id = some x) :
    store.invitations.get? id = some x := by
  cases store.exec_cases rt b op with
  | inl same =>
    rw [same.1] at found
    exact found
  | inr changed =>
    obtain ⟨-, effect⟩ := changed
    generalize (store.exec rt b op).2 = after at found effect
    cases effect with
    | deleteWorkspace =>
      rw [Dict.get?_filter, Option.filter_eq_some_iff] at found
      exact found.1
    | addInvitation | updateInvitation | acceptInMemory | acceptInPostgres => cases untouched
    | _ => exact found

/-- What has been read or written under an identifier has the stored address. -/
def Known (s : WorkspaceServer) : Prop :=
  ∀ e ∈ s.trace, ∀ x, record e.toAsked = some x → ∀ stored,
    s.store.invitations.get? x.id = some stored → stored.email = x.email

theorem known_past (valid : Valid rt config s) (known : Known s)
    (there : s.threads[i]? = some ⟨r, past, .ask op next⟩)
    (mem : asked ∈ past) {stored : WorkspaceInvitation} (read : record asked = some x)
    (found : s.store.invitations.get? x.id = some stored) : stored.email = x.email :=
  known ⟨asked, i⟩ ((valid.sound.traced i _ asked there).mp mem) x read stored found

theorem step_addInvitation (invitation : WorkspaceInvitation) :
    InvitationStep store.invitations (store.exec rt b (.addInvitation invitation)).2.invitations
      ⟨.addInvitation invitation, (store.exec rt b (.addInvitation invitation)).1⟩ := by
  show InvitationStep _ (store.addInvitation b invitation).2.invitations
    ⟨.addInvitation invitation, (store.addInvitation b invitation).1⟩
  unfold addInvitation
  split
  next => exact InvitationStep.kept rfl (fun _ _ found => found)
  next =>
    split
    next => exact InvitationStep.kept rfl (fun _ _ found => found)
    next =>
      split
      next => exact InvitationStep.kept rfl (fun _ _ found => found)
      next => exact InvitationStep.added invitation rfl rfl rfl

theorem step_revoke (pending : ∀ stored, store.invitations.get? invitation.id = some stored →
      stored.status = .pending)
    (known : ∀ stored, store.invitations.get? invitation.id = some stored →
      stored.email = invitation.email) :
    InvitationStep store.invitations
      (store.exec rt b (.updateInvitation (revokedInvitation invitation))).2.invitations
      ⟨.updateInvitation (revokedInvitation invitation),
        (store.exec rt b (.updateInvitation (revokedInvitation invitation))).1⟩ := by
  show InvitationStep _ (store.updateInvitation b (revokedInvitation invitation)).2.invitations
    ⟨.updateInvitation (revokedInvitation invitation),
      (store.updateInvitation b (revokedInvitation invitation)).1⟩
  unfold WorkspaceStore.updateInvitation
  split
  next => exact InvitationStep.kept rfl (fun _ _ found => found)
  next stored found =>
    have same := known stored found
    refine InvitationStep.settled (revokedInvitation invitation) stored _ rfl rfl found
      (pending stored found) rfl ?_ ?_ same.symm
    · cases b with
      | inMemory => exact noConfusion
      | postgres => exact noConfusion
    · cases b with
      | inMemory => exact same.symm
      | postgres => rfl

theorem step_accept {email : String} {acceptedAt : Instant}
    (pending : ∀ stored, store.invitations.get? invitation.id = some stored →
      stored.status = .pending)
    (there : store.invitations.get? invitation.id = none → b = .postgres)
    (known : ∀ stored, store.invitations.get? invitation.id = some stored →
      stored.email = invitation.email) :
    InvitationStep store.invitations
      (store.exec rt b (.acceptInvitationAtomic m email invitation acceptedAt)).2.invitations
      ⟨.acceptInvitationAtomic m email invitation acceptedAt,
        (store.exec rt b (.acceptInvitationAtomic m email invitation acceptedAt)).1⟩ := by
  show InvitationStep _ (store.acceptInvitationAtomic b m email invitation acceptedAt).2.invitations
    ⟨.acceptInvitationAtomic m email invitation acceptedAt,
      (store.acceptInvitationAtomic b m email invitation acceptedAt).1⟩
  unfold WorkspaceStore.acceptInvitationAtomic
  cases b with
  | inMemory =>
    cases found : store.invitations.get? invitation.id with
    | none => cases there found
    | some stored =>
      exact InvitationStep.settled invitation stored _ rfl rfl found (pending stored found) rfl
        noConfusion (known stored found).symm (known stored found).symm
  | postgres =>
    dsimp only
    split
    next => exact InvitationStep.kept rfl (fun _ _ found => found)
    next =>
      split
      next => exact InvitationStep.kept rfl (fun _ _ found => found)
      next stored found =>
        exact InvitationStep.settled invitation stored _ rfl rfl found (pending stored found) rfl
          noConfusion rfl (known stored found).symm

theorem invitation_step (valid : Valid rt config s) (known : Known s)
    (there : s.threads[i]? = some ⟨r, past, .ask op next⟩) (asks : Asks rt config r past op)
    (pending : settlesPending b s (.advance i) = true) :
    InvitationStep s.store.invitations (s.store.exec rt b op).2.invitations
      ⟨op, (s.store.exec rt b op).1⟩ := by
  have kept (untouched : touches op = false) : InvitationStep s.store.invitations
      (s.store.exec rt b op).2.invitations ⟨op, (s.store.exec rt b op).1⟩ :=
    InvitationStep.kept (settles_of_untouched untouched _) (fun _ _ => invitations_kept untouched)
  unfold settlesPending at pending
  dsimp only at pending
  rw [there] at pending
  cases asks with
  | neutral neutral => exact kept (touches_of_plain (Or.inl neutral))
  | manage managing manages => exact kept (touches_of_plain (Or.inr manages))
  | remove => exact kept rfl
  | changeRole => exact kept rfl
  | invite => exact step_addInvitation _
  | revoke named open' =>
    apply step_revoke
    · intro stored found
      change (s.store.invitations.get? _).all _ = true at pending
      have found' : s.store.invitations.get? (revokedInvitation _).id = some stored := found
      rw [found'] at pending
      exact of_decide_eq_true pending
    · intro stored found
      exact known_past valid known there List.mem_cons_self rfl found
  | @accept _ _ _ _ _ _ _ invitation open' live invited =>
    dsimp only at pending
    apply step_accept
    · intro stored found
      rw [found] at pending
      exact of_decide_eq_true pending
    · intro absent
      rw [absent] at pending
      exact of_decide_eq_true pending
    · intro stored found
      exact known_past valid known there (List.mem_cons_of_mem _ List.mem_cons_self) rfl found

theorem record_of_settles {id : Uuid} (settled : settles asked = some id) :
    ∃ x, record asked = some x ∧ x.id = id := by
  obtain ⟨op, answer⟩ := asked
  cases op with
  | updateInvitation invitation =>
    cases answer with
    | error e => cases settled
    | ok a => exact ⟨invitation, rfl, Option.some.inj settled⟩
  | acceptInvitationAtomic m email invitation acceptedAt =>
    cases answer with
    | error e => cases settled
    | ok a => exact ⟨invitation, rfl, Option.some.inj settled⟩
  | _ => cases settled

theorem stored_of_record (keyed : s.store.Keyed)
    (quiet : settles ⟨op, (s.store.exec rt b op).1⟩ = none)
    (read : record ⟨op, (s.store.exec rt b op).1⟩ = some x) :
    s.store.invitations.get? x.id = some x := by
  cases op with
  | getInvitation invitationId =>
    change record ⟨.getInvitation invitationId, s.store.getInvitation invitationId⟩ = some x at read
    unfold getInvitation at read
    split at read
    next => cases read
    next invitation found =>
      cases read
      rw [keyed.invitations _ x found]
      exact found
  | getInvitationByTokenHash tokenHash =>
    change record ⟨.getInvitationByTokenHash tokenHash,
      s.store.getInvitationByTokenHash tokenHash⟩ = some x at read
    unfold WorkspaceStore.getInvitationByTokenHash at read
    split at read
    next => cases read
    next invitation found =>
      cases read
      obtain ⟨k, there⟩ := (Dict.mem_values_iff _ _).mp (List.mem_of_find?_eq_some found)
      rw [keyed.invitations _ x there]
      exact there
  | updateInvitation invitation =>
    cases answer : (s.store.exec rt b (.updateInvitation invitation)).1 with
    | error e =>
      rw [answer] at read
      cases read
    | ok a =>
      rw [answer] at quiet
      cases quiet
  | acceptInvitationAtomic m email invitation acceptedAt =>
    cases answer : (s.store.exec rt b (.acceptInvitationAtomic m email invitation acceptedAt)).1 with
    | error e =>
      rw [answer] at read
      cases read
    | ok a =>
      rw [answer] at quiet
      cases quiet
  | _ => cases read

theorem redeemerEmail_ok {email : Option String} {emailVerified : Bool} {normalized : String}
    (read : redeemerEmail rt email emailVerified = .ok normalized) :
    emailVerified = true ∧
      ∃ given, email = some given ∧ normalizeEmail rt.toTextRuntime given = some normalized := by
  unfold redeemerEmail at read
  split at read
  next => cases read
  next given here =>
    split at read
    next => cases read
    next normal =>
      split at read
      next => cases read
      next verified =>
        cases read
        exact ⟨by simpa using verified, given, (Option.filter_eq_some_iff.mp here).1, normal⟩

structure Settling (rt : WorkspaceRuntime) (s : WorkspaceServer) : Prop where
  once : (s.written settles).Nodup
  closed : ∀ id ∈ s.written settles, ∀ stored, s.store.invitations.get? id = some stored →
    stored.status ≠ .pending
  known : Known s
  redeemed : ∀ e ∈ s.trace, ∀ a, accepted e.toAsked = some a → ∃ t rawToken email now acceptedAt,
    s.threads[e.caller]? = some t ∧
    t.request = .acceptInvitation rawToken a.2.userId (some email) true now acceptedAt ∧
    normalizeEmail rt.toTextRuntime email = some a.1.email

theorem settling_fresh : Settling rt { store := store } where
  once := List.nodup_nil
  closed id mem := by cases mem
  known e mem := by cases mem
  redeemed e mem := by cases mem

theorem Settling.started (settling : Settling rt s) :
    Settling rt (s.started (WorkspaceRequest.call rt config) r) where
  once := settling.once
  closed := settling.closed
  known := settling.known
  redeemed e mem a acceptance := by
    obtain ⟨t, rawToken, email, now, acceptedAt, there, asked, normal⟩ :=
      settling.redeemed e mem a acceptance
    exact ⟨t, rawToken, email, now, acceptedAt, Lib.Server.started_of_there there, asked, normal⟩

theorem redeemed_of_asks (asks : Asks rt config r past op) {answer : op.Answer}
    {a : WorkspaceInvitation × WorkspaceMembership} (acceptance : accepted ⟨op, answer⟩ = some a) :
    ∃ rawToken email now acceptedAt,
      r = .acceptInvitation rawToken a.2.userId (some email) true now acceptedAt ∧
        normalizeEmail rt.toTextRuntime email = some a.1.email := by
  cases op with
  | acceptInvitationAtomic m email invitation acceptedAt =>
    cases answer with
    | error e => cases acceptance
    | ok reply =>
      cases acceptance
      cases asks with
      | neutral quiet => cases quiet
      | manage managing manages => cases manages
      | accept pending live invited =>
        obtain ⟨verified, given, same, normal⟩ := redeemerEmail_ok invited
        subst verified same
        exact ⟨_, given, _, acceptedAt, rfl, normal⟩
  | _ => cases acceptance

theorem unnamed_of_fresh (there : s.threads[i]? = some ⟨r, past, .ask op next⟩)
    (fresh : createsFresh s (.advance i) = true) (same : op = .addInvitation invitation)
    {e : Lib.Event WorkspaceOp.Answer} (mem : e ∈ s.trace) (recorded : record e.toAsked = some x) :
    x.id ≠ invitation.id := by
  subst same
  unfold createsFresh at fresh
  dsimp only at fresh
  rw [there] at fresh
  have unused := List.all_eq_true.mp fresh e mem
  rw [recorded] at unused
  exact of_decide_eq_true unused

section Answered

variable (settling : Settling rt s) (valid : Valid rt config s)
  (there : s.threads[i]? = some ⟨r, past, .ask op next⟩) (asks : Asks rt config r past op)
  (pending : settlesPending b s (.advance i) = true) (fresh : createsFresh s (.advance i) = true)
include settling valid there asks pending

theorem Settling.answered_once :
    ((s.answered (exec rt b) i r past op next).written settles).Nodup := by
  rw [Lib.Server.written_of_traced rfl]
  cases invitation_step valid settling.known there asks pending with
  | kept quiet kept =>
    rw [quiet]
    exact settling.once
  | added invitation quiet same set =>
    cases settled : settles ⟨op, (s.store.exec rt b op).1⟩ with
    | none => exact settling.once
    | some id =>
      obtain ⟨x, recorded, -⟩ := record_of_settles settled
      cases quiet.symm.trans recorded
  | settled invitation stored written recorded settled found open' =>
    rw [settled]
    exact List.nodup_cons.mpr
      ⟨fun mem => settling.closed _ mem stored found open', settling.once⟩

include fresh

theorem Settling.answered_closed :
    ∀ id ∈ (s.answered (exec rt b) i r past op next).written settles,
      ∀ stored, (s.store.exec rt b op).2.invitations.get? id = some stored →
        stored.status ≠ .pending := by
  intro id mem stored' found'
  rw [Lib.Server.written_of_traced rfl] at mem
  cases invitation_step valid settling.known there asks pending with
  | kept quiet kept =>
    rw [quiet] at mem
    exact settling.closed id mem stored' (kept id stored' found')
  | added invitation quiet same set =>
    cases settled : settles ⟨op, (s.store.exec rt b op).1⟩ with
    | some id =>
      obtain ⟨x, recorded, -⟩ := record_of_settles settled
      cases quiet.symm.trans recorded
    | none =>
      rw [settled] at mem
      obtain ⟨e, traced, wrote⟩ := Lib.Server.mem_written.mp mem
      obtain ⟨x, recorded, named⟩ := record_of_settles wrote
      have other := unnamed_of_fresh there fresh same traced recorded
      rw [named] at other
      rw [set, Dict.get?_set, if_neg other] at found'
      exact settling.closed id mem stored' found'
  | settled invitation stored written recorded settled found open' set closed =>
    rw [set] at found'
    obtain ⟨-, rfl⟩ | ⟨other, found'⟩ := Dict.of_get?_set found'
    · exact closed
    · rw [settled] at mem
      cases List.mem_cons.mp mem with
      | inl here => exact absurd here other
      | inr before => exact settling.closed id before stored' found'

theorem Settling.answered_known :
    Known (s.answered (exec rt b) i r past op next) := by
  intro e mem x recorded' stored' found'
  change (s.store.exec rt b op).2.invitations.get? x.id = some stored' at found'
  have read : InvitationStep s.store.invitations (s.store.exec rt b op).2.invitations
      ⟨op, (s.store.exec rt b op).1⟩ := invitation_step valid settling.known there asks pending
  cases read with
  | kept quiet kept =>
    have before := kept x.id stored' found'
    cases List.mem_cons.mp mem with
    | inl new =>
      rw [new] at recorded'
      cases before.symm.trans (stored_of_record valid.keyed quiet recorded')
      rfl
    | inr old => exact settling.known e old x recorded' stored' before
  | added invitation quiet same set =>
    cases List.mem_cons.mp mem with
    | inl new =>
      rw [new] at recorded'
      cases quiet.symm.trans recorded'
    | inr old =>
      have other := unnamed_of_fresh there fresh same old recorded'
      rw [set, Dict.get?_set, if_neg other] at found'
      exact settling.known e old x recorded' stored' found'
  | settled invitation stored written recorded settled found open' set closed same read =>
    rw [set] at found'
    obtain ⟨here, rfl⟩ | ⟨other, found'⟩ := Dict.of_get?_set found'
    · rw [same]
      cases List.mem_cons.mp mem with
      | inl new =>
        rw [new] at recorded'
        cases recorded.symm.trans recorded'
        exact read.symm
      | inr old =>
        refine settling.known e old x recorded' stored ?_
        rw [here]
        exact found
    · cases List.mem_cons.mp mem with
      | inl new =>
        rw [new] at recorded'
        cases recorded.symm.trans recorded'
        exact absurd rfl other
      | inr old => exact settling.known e old x recorded' stored' found'

theorem Settling.answered :
    Settling rt (s.answered (exec rt b) i r past op next) where
  once := settling.answered_once valid there asks pending
  closed := settling.answered_closed valid there asks pending fresh
  known := settling.answered_known valid there asks pending fresh
  redeemed e mem a acceptance := by
    cases List.mem_cons.mp mem with
    | inl new =>
      rw [new] at acceptance ⊢
      obtain ⟨rawToken, email, now, acceptedAt, asked, normal⟩ := redeemed_of_asks asks acceptance
      obtain ⟨t', there', same⟩ :=
        Lib.Server.answered_of_there (exec rt b) there there
      exact ⟨t', rawToken, email, now, acceptedAt, there', same.trans asked, normal⟩
    | inr old =>
      obtain ⟨t, rawToken, email, now, acceptedAt, found, asked, normal⟩ :=
        settling.redeemed e old a acceptance
      obtain ⟨t', found', same⟩ :=
        Lib.Server.answered_of_there (exec rt b) there found
      exact ⟨t', rawToken, email, now, acceptedAt, found', same.trans asked, normal⟩

end Answered

theorem settles_of_accepted
    {a : WorkspaceInvitation × WorkspaceMembership} (acceptance : accepted asked = some a) :
    settles asked = some a.1.id ∧ record asked = some a.1 ∧ revoked asked = none := by
  obtain ⟨op, answer⟩ := asked
  cases op with
  | acceptInvitationAtomic m email invitation acceptedAt =>
    cases answer with
    | error e => cases acceptance
    | ok reply =>
      cases acceptance
      exact ⟨rfl, rfl, rfl⟩
  | _ => cases acceptance

theorem Settling.lifecycleKept (settling : Settling rt s) : LifecycleKept rt s where
  settledOnce := settling.once
  settled := settling.closed
  revoked e mem e' mem' id a revocation acceptance same := by
    obtain ⟨settled', -, unrevoked⟩ := settles_of_accepted acceptance
    have settled : settles e.toAsked = some id := by simp [settles, revocation]
    rw [same] at settled'
    cases Lib.Server.eq_of_nodup_filterMap settling.once mem mem' settled settled'
    cases unrevoked.symm.trans revocation
  oneUser e mem e' mem' a a' acceptance acceptance' same := by
    have settled := (settles_of_accepted acceptance).1
    rw [same] at settled
    cases Lib.Server.eq_of_nodup_filterMap settling.once mem mem' settled
      (settles_of_accepted acceptance').1
    cases acceptance.symm.trans acceptance'
    rfl
  verified e mem a acceptance := by
    obtain ⟨t, rawToken, email, now, acceptedAt, there, asked, normal⟩ :=
      settling.redeemed e mem a acceptance
    exact ⟨t, rawToken, email, now, acceptedAt, there, asked, normal,
      settling.known e mem a.1 (settles_of_accepted acceptance).2.1⟩

theorem memberships_of_neutral (quiet : op.Neutral) :
    (store.exec rt b op).2.memberships = store.memberships := by
  cases store.exec_cases rt b op with
  | inl same => rw [same.1]
  | inr changed =>
    obtain ⟨-, effect⟩ := changed
    generalize (store.exec rt b op).2 = after at effect ⊢
    cases effect with
    | recordAuditEvent | expire | cacheSet | invalidate => rfl
    | _ => cases quiet

theorem role_upsertedMembership {existing : WorkspaceMembership}
    {email : String} (found : store.memberships.get? m.key = some existing) :
    (store.upsertedMembership b m email).role = existing.role := by
  have found : store.memberships.get? (m.workspaceId, m.userId) = some existing := found
  unfold WorkspaceStore.upsertedMembership
  rw [found]
  dsimp only
  split
  next => rfl
  next => rfl

theorem role_of_set {memberships : Dict (Uuid × String) WorkspaceMembership}
    {key key' : Uuid × String} {written : WorkspaceMembership}
    (same : ∀ existing, memberships.get? key' = some existing → written.role = existing.role)
    (found : memberships.get? key = some m) :
    ∃ m', (memberships.set key' written).get? key = some m' ∧ m'.role = m.role := by
  rw [Dict.get?_set]
  split
  next here =>
    rw [here] at found
    exact ⟨written, rfl, same m found⟩
  next => exact ⟨m, found, rfl⟩

theorem roles_kept (valid : Valid rt config s) (turn : WorkspaceTurn) :
    RolesKept rt config b s turn := by
  intro i t advancing there accepting key m found
  subst advancing
  unfold step
  cases Lib.Server.step_advance (exec rt b) (WorkspaceRequest.call rt config) s i with
  | inl idle =>
    rw [idle]
    exact ⟨m, found, rfl⟩
  | inr asked =>
    obtain ⟨r, past, op, next, there', moved⟩ := asked
    cases there.symm.trans there'
    rw [moved]
    show ∃ m', (s.store.exec rt b op).2.memberships.get? key = some m' ∧ _
    cases valid.sound.asks there' with
    | neutral quiet =>
      rw [memberships_of_neutral quiet]
      exact ⟨m, found, rfl⟩
    | accept pending live invited =>
      cases s.store.exec_cases rt b _ with
      | inl same =>
        rw [same.1]
        exact ⟨m, found, rfl⟩
      | inr changed =>
        obtain ⟨-, effect⟩ := changed
        generalize (s.store.exec rt b _).2 = after at effect ⊢
        cases effect with
        | acceptInMemory => exact role_of_set (fun _ => role_upsertedMembership) found
        | acceptInPostgres => exact role_of_set (fun _ => role_upsertedMembership) found
    | manage managing manages =>
      cases r with
      | acceptInvitation => cases managing
      | _ => cases accepting
    | _ => cases accepting

/-- In every run in which what is settled is still pending, an invitation is settled once, a
revoked one makes nobody a member, and at most one user, whose verified address is the invited one,
becomes a member by it. -/
theorem lifecycle_kept {store : WorkspaceStore} (keyed : store.Keyed) (turns : List WorkspaceTurn)
    (allFresh : AllSteps (step rt config b)
      (fun s turn => createsFresh s turn = true) { store := store } turns)
    (allPending : AllSteps (step rt config b)
      (fun s turn => settlesPending b s turn = true) { store := store } turns) :
    Always (step rt config b) (LifecycleKept rt) { store := store } turns ∧
      AllSteps (step rt config b) (RolesKept rt config b) { store := store }
        turns := by
  have kept (s : WorkspaceServer) (turn : WorkspaceTurn) (good : Valid rt config s ∧ Settling rt s)
      (guard : createsFresh s turn = true ∧ settlesPending b s turn = true) :
      Valid rt config (s.step rt config b turn) ∧ Settling rt (s.step rt config b turn) :=
    keep_step (G := fun s turn => createsFresh s turn = true ∧ settlesPending b s turn = true)
      (fun _ _ _ settling _ => settling.started)
      (fun _ _ _ _ _ _ valid settling there asks guard =>
        settling.answered valid there asks guard.2 guard.1)
      s turn good guard
  have guarded := Lib.allSteps_and_iff.mpr ⟨allFresh, allPending⟩
  have good : Valid rt config { store := store } ∧ Settling rt { store := store } :=
    ⟨valid_fresh keyed, settling_fresh⟩
  constructor
  · exact guarded.always (I := fun s => Valid rt config s ∧ Settling rt s)
      (fun _ good => good.2.lifecycleKept) kept good
  · exact Lib.AllSteps.of_invariant (P := fun s => Valid rt config s ∧ Settling rt s)
      (fun s turn good guard => ⟨kept s turn good guard, roles_kept good.1 turn⟩) good guarded

def storeOfWorkspace : WorkspaceStore where
  workspaces := Dict.set ∅ 1 { id := 1, slug := "acme", name := "Acme" }

theorem keyed_storeOfWorkspace : storeOfWorkspace.Keyed where
  workspaces := by
    apply Dict.KeyedBy.set
    · exact Dict.keyedBy_empty
    · rfl
  memberships := Dict.keyedBy_empty
  invitations := Dict.keyedBy_empty

def inviteTurns : List WorkspaceTurn :=
  [.begin (.createInvitation 1 "a@b.c" .editor none none (some "Acme") 7 "t" 0), .advance 0,
    .advance 0, .begin (.acceptInvitation "t" "u" (some "a@b.c") true 1 1)]

def acceptTurns (caller : Nat) : List WorkspaceTurn :=
  [.advance caller, .advance caller, .advance caller, .advance caller, .advance caller]

def revokeTurns : List WorkspaceTurn :=
  [.begin (.revokeInvitation 1 7 none none), .advance 2, .advance 2, .advance 2]

def revokedTurns : List WorkspaceTurn :=
  inviteTurns ++ [.advance 1, .advance 1] ++ revokeTurns ++ [.advance 1]

def forwardedTurns : List WorkspaceTurn :=
  inviteTurns ++ [.advance 1] ++
    .begin (.acceptInvitation "t" "v" (some "a@b.c") true 1 1) :: (acceptTurns 2 ++ acceptTurns 1)

theorem lifecycle_kept_raced :
    let step := step .plain {} .postgres
    let s := revokedTurns.foldl step { store := storeOfWorkspace }
    let s' := forwardedTurns.foldl step { store := storeOfWorkspace }
    (s.written revoked = [7] ∧ s.store.memberships.keys = [(1, "u")]) ∧
      s'.store.memberships.keys = [(1, "v"), (1, "u")] ∧
      ¬ Always step (LifecycleKept .plain) { store := storeOfWorkspace } revokedTurns ∧
      ¬ Always step (LifecycleKept .plain) { store := storeOfWorkspace } forwardedTurns := by
  refine ⟨by decide +kernel, by decide +kernel, fun always => ?revocation, fun always => ?users⟩
  case revocation =>
    have once := always.last.settledOnce
    revert once
    decide +kernel
  case users =>
    have once := always.last.settledOnce
    revert once
    decide +kernel

theorem lifecycle_kept_twice :
    let step := step .plain {} .postgres
    let turns := inviteTurns ++ acceptTurns 1 ++
      .begin (.acceptInvitation "t" "v" (some "a@b.c") true 1 1) :: acceptTurns 2
    Always step (LifecycleKept .plain) { store := storeOfWorkspace } turns ∧
      AllSteps step (RolesKept .plain {} .postgres) { store := storeOfWorkspace } turns :=
  lifecycle_kept keyed_storeOfWorkspace _ (by decide +kernel) (by decide +kernel)

end Invitations

end Orcheo.Workspaces
