import Orcheo.Defs.Workspaces.ServiceLaws
import Orcheo.Lib.Ledger

/-! What a resolver serves from its cache after a membership has been revoked. -/

namespace Orcheo.Workspaces

open Lib (AllSteps Asked Change Dict Ledger.takenBy)
open WorkspaceStore (bySlug cacheGet cacheSet exec getWorkspace getWorkspaceBySlug invalidate
  listMembershipsForUser)

namespace MembershipCache

def change (workspaceId : Uuid) (userId : String) (role : Role) :
    Asked WorkspaceOp.Answer → Option Change
  | ⟨.addMembership m, .ok _⟩ =>
    if m.key = (workspaceId, userId) ∧ m.role = role then some .given else none
  | ⟨.acceptInvitationAtomic m _ _ _, .ok (a : WorkspaceMembership × WorkspaceInvitation)⟩ =>
    if m.key = (workspaceId, userId) ∧ a.1.role = role then some .given else none
  | ⟨.updateMembershipRole workspaceId' userId' role', .ok _⟩ =>
    if (workspaceId', userId') = (workspaceId, userId) then
      some (if role' = role then .given else .taken)
    else none
  | ⟨.removeMembership workspaceId' userId', .ok _⟩ =>
    if (workspaceId', userId') = (workspaceId, userId) then some .taken else none
  | _ => none

variable (s : WorkspaceServer)

def lost (workspaceId : Uuid) (userId : String) (role : Role) : List Nat :=
  Ledger.takenBy (fun e => change workspaceId userId role e.toAsked) (·.caller) s.trace

def dropped (caller : Nat) (userId : String) : Bool :=
  s.trace.any (fun e => e.caller = caller && e.op = .invalidate userId)

def returned : WorkspaceThread → Option WorkspaceRequest
  | ⟨r, _, .done (.ok _)⟩ => some r
  | _ => none

/-- The user of a successful `resolve`, with the context. -/
def resolved : WorkspaceThread → Option (String × WorkspaceContext)
  | ⟨.resolve userId _ _ _, _, .done (.ok (.context context))⟩ => some (userId, context)
  | _ => none

def GivenAgain (caller : Nat) (workspaceId : Uuid) (userId : String) (role : Role) : Prop :=
  ∀ newer e older, s.trace = newer ++ e :: older → e.caller = caller →
    change workspaceId userId role e.toAsked = some .taken →
    ∃ e' ∈ newer, change workspaceId userId role e'.toAsked = some .given

/-- What a returned call has revoked is not in the context of a `resolve` that begins later. -/
def NotServed (s s' : WorkspaceServer) : Prop :=
  ∀ (i j : Nat) t t' r userId context, s.threads[j]? = some t → returned t = some r →
    s.threads.length ≤ i → s'.threads[i]? = some t' → resolved t' = some (userId, context) →
    match r with
    | .removeMember workspaceId userId' _ | .updateMemberRole workspaceId userId' _ _ =>
      userId' = userId → workspaceId = context.workspaceId →
        GivenAgain s' j workspaceId userId context.role
    | .hardDeleteWorkspace workspaceId => workspaceId ≠ context.workspaceId
    | _ => True

/-- What is put in the cache lists no role that a call has taken away which has dropped the user's
entry by now. -/
def setsCurrent : WorkspaceTurn → Bool
  | .begin _ => true
  | .advance i => match s.threads[i]? with
    | some ⟨_, _, .ask (.cacheSet userId ms _) _⟩ =>
      ms.all (fun m => (lost s m.workspaceId userId m.role).all (fun k => !dropped s k userId))
    | _ => true

def createsFresh : WorkspaceTurn → Bool
  | .begin _ => true
  | .advance i => match s.threads[i]? with
    | some ⟨_, _, .ask (.createWorkspace workspace) _⟩ =>
      s.trace.all (fun e => e.op ≠ .deleteWorkspace workspace.id)
    | _ => true

variable {rt : WorkspaceRuntime} {config : WorkspaceConfig} {b : Backend} {s : WorkspaceServer}
  {i : Nat} {r : WorkspaceRequest} {past : Past} {op : WorkspaceOp}
  {next : op.Answer → WorkspaceCall WorkspaceReply} {store : WorkspaceStore} {workspaceId : Uuid}
  {userId : String} {role : Role}

theorem givenAgain_iff {caller : Nat} : GivenAgain s caller workspaceId userId role ↔
    caller ∉ lost s workspaceId userId role := Lib.Ledger.not_mem_takenBy_iff.symm

theorem returned_iff {t : WorkspaceThread} :
    returned t = some r ↔ ∃ past reply, t = ⟨r, past, .done (.ok reply)⟩ := by
  unfold returned
  split
  next => simp
  next other =>
    constructor
    · intro found
      cases found
    · rintro ⟨past, reply, rfl⟩
      exact absurd rfl (other _ _ _)

theorem resolved_iff {t : WorkspaceThread} {context : WorkspaceContext} :
    resolved t = some (userId, context) ↔
      ∃ slug now setAt past, t = ⟨.resolve userId slug now setAt, past, .done (.ok (.context context))⟩ := by
  unfold resolved
  split
  next => simp
  next other =>
    constructor
    · intro found
      cases found
    · rintro ⟨slug, now, setAt, past, rfl⟩
      exact absurd rfl (other _ _ _ _ _ _)

theorem change_of_error {e : WorkspaceError} :
    change workspaceId userId role ⟨op, .error e⟩ = none := by
  cases op <;> rfl

theorem change_of_neutral (quiet : op.Neutral) (answer : op.Answer) :
    change workspaceId userId role ⟨op, answer⟩ = none := by
  cases op with
  | addMembership | acceptInvitationAtomic | updateMembershipRole | removeMembership => cases quiet
  | _ => rfl

theorem stored_cases {m : WorkspaceMembership}
    (found : (store.exec rt b op).2.memberships.get? (workspaceId, userId) = some m) :
    change workspaceId userId m.role ⟨op, (store.exec rt b op).1⟩ = some .given ∨
      change workspaceId userId m.role ⟨op, (store.exec rt b op).1⟩ = none ∧
        ∃ m', store.memberships.get? (workspaceId, userId) = some m' ∧ m'.role = m.role := by
  cases store.exec_cases rt b op with
  | inl same =>
    rw [same.1] at found
    refine Or.inr ⟨?_, m, found, rfl⟩
    cases same.2 with
    | inl failed =>
      obtain ⟨e, failed⟩ := failed
      rw [failed]
      exact change_of_error
    | inr quiet => exact change_of_neutral quiet _
  | inr changed =>
    obtain ⟨⟨answer, answered⟩, effect⟩ := changed
    have member : ∀ (m : WorkspaceMembership) (email : String) (invitation : WorkspaceInvitation)
        (now : Instant), op = .acceptInvitationAtomic m email invitation now →
        ∀ a : WorkspaceMembership × WorkspaceInvitation, HEq answer a →
          a.1 = store.upsertedMembership b m email := by
      rintro m email invitation now rfl a same
      cases same
      exact store.accepted_membership b answered
    rw [answered]
    generalize (store.exec rt b op).2 = after at found effect
    have set {key : Uuid × String} {written : WorkspaceMembership}
        (here : (store.memberships.set key written).get? (workspaceId, userId) = some m) :
        key = (workspaceId, userId) ∧ written = m ∨
          key ≠ (workspaceId, userId) ∧
            store.memberships.get? (workspaceId, userId) = some m := by
      rw [Dict.get?_set] at here
      split at here
      next same => exact Or.inl ⟨same.symm, Option.some.inj here⟩
      next other => exact Or.inr ⟨Ne.symm other, here⟩
    cases effect with
    | addMembership =>
      cases set found with
      | inl here =>
        left
        cases here.2
        exact if_pos ⟨here.1, rfl⟩
      | inr other =>
        right
        exact ⟨if_neg (fun same => other.1 same.1), m, other.2, rfl⟩
    | acceptInMemory =>
      cases set found with
      | inl here =>
        left
        refine if_pos ⟨here.1, ?_⟩
        rw [member _ _ _ _ rfl _ HEq.rfl, here.2]
      | inr other =>
        right
        exact ⟨if_neg (fun same => other.1 same.1), m, other.2, rfl⟩
    | acceptInPostgres =>
      cases set found with
      | inl here =>
        left
        refine if_pos ⟨here.1, ?_⟩
        rw [member _ _ _ _ rfl _ HEq.rfl, here.2]
      | inr other =>
        right
        exact ⟨if_neg (fun same => other.1 same.1), m, other.2, rfl⟩
    | updateMembershipRole =>
      cases set found with
      | inl here =>
        left
        cases here.2
        simp [change, here.1]
      | inr other =>
        right
        exact ⟨if_neg other.1, m, other.2, rfl⟩
    | removeMembership =>
      right
      rw [Dict.get?_erase] at found
      split at found
      next => cases found
      next other => exact ⟨if_neg (Ne.symm other), m, found, rfl⟩
    | updateMembershipIdentity stored =>
      right
      cases set found with
      | inl here =>
        rw [here.1] at stored
        cases here.2
        exact ⟨rfl, _, stored, rfl⟩
      | inr other => exact ⟨rfl, m, other.2, rfl⟩
    | deleteWorkspace =>
      right
      rw [Dict.get?_filter, Option.filter_eq_some_iff] at found
      exact ⟨rfl, m, found.1, rfl⟩
    | _ => exact Or.inr ⟨rfl, m, found, rfl⟩

theorem cached_cases {entry : CacheEntry}
    (found : (store.exec rt b op).2.cache.get? userId = some entry) :
    (∃ now, op = .cacheSet userId entry.memberships now) ∨
      store.cache.get? userId = some entry ∧ op ≠ .invalidate userId := by
  cases store.exec_cases rt b op with
  | inl same =>
    rw [same.1] at found
    refine Or.inr ⟨found, ?_⟩
    rintro rfl
    have gone : (store.invalidate userId).cache.get? userId = some entry := by
      rw [← same.1] at found
      exact found
    rw [invalidate, Dict.get?_erase, if_pos rfl] at gone
    cases gone
  | inr changed =>
    obtain ⟨-, effect⟩ := changed
    generalize (store.exec rt b op).2 = after at found effect
    cases effect with
    | expire =>
      rw [Dict.get?_erase] at found
      split at found
      next => cases found
      next => exact Or.inr ⟨found, WorkspaceOp.noConfusion⟩
    | @cacheSet userId' ms now =>
      rw [cacheSet] at found
      obtain ⟨same, rfl⟩ | ⟨-, found⟩ := Dict.of_get?_set found
      · rw [same]
        exact Or.inl ⟨now, rfl⟩
      · exact Or.inr ⟨found, WorkspaceOp.noConfusion⟩
    | @invalidate userId' =>
      rw [invalidate, Dict.get?_erase] at found
      split at found
      next => cases found
      next other =>
        refine Or.inr ⟨found, fun same => other ?_⟩
        cases same
        rfl
    | _ => exact Or.inr ⟨found, WorkspaceOp.noConfusion⟩

theorem absent_of_deleted (asked : (⟨op, (store.exec rt b op).1⟩ : Asked WorkspaceOp.Answer) =
      ⟨.deleteWorkspace workspaceId, .ok ()⟩) :
    (store.exec rt b op).2.workspaces.get? workspaceId = none := by
  have same : op = .deleteWorkspace workspaceId := congrArg Asked.op asked
  subst same
  have deleted : (store.exec rt b (.deleteWorkspace workspaceId)).1 = .ok () :=
    eq_of_heq (Asked.mk.inj asked).2
  cases store.exec_cases rt b (.deleteWorkspace workspaceId) with
  | inl same =>
    cases same.2 with
    | inl failed =>
      obtain ⟨e, failed⟩ := failed
      cases deleted.symm.trans failed
    | inr quiet => cases quiet
  | inr changed =>
    obtain ⟨-, effect⟩ := changed
    clear asked deleted
    generalize (store.exec rt b (.deleteWorkspace workspaceId)).2 = after at effect ⊢
    cases effect with
    | deleteWorkspace => exact (Dict.get?_erase _ _ _).trans (if_pos rfl)

theorem absent_kept (absent : store.workspaces.get? workspaceId = none)
    (other : ∀ workspace, op = .createWorkspace workspace → workspace.id ≠ workspaceId) :
    (store.exec rt b op).2.workspaces.get? workspaceId = none := by
  cases store.exec_cases rt b op with
  | inl same =>
    rw [same.1]
    exact absent
  | inr changed =>
    obtain ⟨-, effect⟩ := changed
    generalize (store.exec rt b op).2 = after at effect ⊢
    cases effect with
    | @createWorkspace workspace =>
      show (store.workspaces.set _ _).get? _ = none
      rw [Dict.get?_set, if_neg (Ne.symm (other workspace rfl))]
      exact absent
    | @updateStatus workspaceId' _ _ _ found =>
      show (store.workspaces.set _ _).get? _ = none
      rw [Dict.get?_set]
      split
      next same =>
        rw [same] at absent
        cases absent.symm.trans found
      next => exact absent
    | deleteWorkspace =>
      show (store.workspaces.erase _).get? _ = none
      rw [Dict.get?_erase]
      split
      next => rfl
      next => exact absent
    | _ => exact absent

theorem stored_of_found {workspace : Workspace} (keyed : store.Keyed)
    (found : FoundWorkspace workspace ⟨op, (store.exec rt b op).1⟩) :
    store.workspaces.get? workspace.id = some workspace := by
  have byKey {key : Uuid} (stored : store.workspaces.get? key = some workspace) :
      store.workspaces.get? workspace.id = some workspace := by
    have named : workspace.id = key := keyed.workspaces _ workspace stored
    rw [named]
    exact stored
  generalize answered : (store.exec rt b op).1 = answer at found
  cases found with
  | @byId workspaceId =>
    have answered : store.getWorkspace workspaceId = .ok workspace := answered
    unfold getWorkspace at answered
    split at answered
    next => cases answered
    next _ stored =>
      cases answered
      exact byKey stored
  | @bySlug slug =>
    have answered : store.getWorkspaceBySlug rt b slug = .ok workspace := answered
    unfold getWorkspaceBySlug bySlug at answered
    split at answered
    next => cases answered
    next normalized _ =>
      split at answered
      next => cases answered
      next _ stored =>
        cases answered
        cases b with
        | inMemory =>
          obtain ⟨key, -, stored⟩ := Option.bind_eq_some_iff.mp stored
          exact byKey stored
        | postgres =>
          obtain ⟨key, stored⟩ :=
            (Dict.mem_values_iff _ _).mp (List.mem_of_find?_eq_some stored)
          exact byKey stored

theorem listed_cases {ms : List WorkspaceMembership} {m : WorkspaceMembership}
    (keyed : store.Keyed) (listed : Listed userId ms ⟨op, (store.exec rt b op).1⟩) (mem : m ∈ ms) :
    (∃ entry, store.cache.get? userId = some entry ∧ m ∈ entry.memberships) ∨
      store.memberships.get? (m.workspaceId, userId) = some m := by
  generalize answered : (store.exec rt b op).1 = answer at listed
  cases listed with
  | @cached now =>
    have answered : (Except.ok (store.cacheGet userId now).1 : Except WorkspaceError _) =
      .ok (some ms) := answered
    have answered := Except.ok.inj answered
    unfold cacheGet at answered
    split at answered
    next => cases answered
    next entry found =>
      split at answered
      next => cases answered
      next =>
        cases answered
        exact Or.inl ⟨entry, found, mem⟩
  | stored =>
    have answered : (Except.ok (store.listMembershipsForUser userId) : Except WorkspaceError _) =
      .ok ms := answered
    cases answered
    rw [listMembershipsForUser, List.mem_filter] at mem
    obtain ⟨key, found⟩ := (Dict.mem_values_iff _ _).mp mem.1
    have named : m.key = key := keyed.memberships _ m found
    have own : m.userId = userId := by simpa using mem.2
    rw [← named, WorkspaceMembership.key, own] at found
    exact Or.inr found

structure Coherent (s : WorkspaceServer) : Prop where
  held : ∀ workspaceId userId m, s.store.memberships.get? (workspaceId, userId) = some m →
    lost s workspaceId userId m.role = []
  cached : ∀ userId entry, s.store.cache.get? userId = some entry → ∀ m ∈ entry.memberships,
    ∀ k ∈ lost s m.workspaceId userId m.role, ¬ dropped s k userId = true
  gone : ∀ e ∈ s.trace, ∀ workspaceId, e.toAsked = ⟨.deleteWorkspace workspaceId, .ok ()⟩ →
    s.store.workspaces.get? workspaceId = none

theorem coherent_fresh : Coherent { store := store } where
  held _ _ _ _ := rfl
  cached _ _ _ _ _ k mem := by cases mem
  gone e mem := by cases mem

section Answered

theorem past_of_taken {answer : op.Answer} (asks : Asks rt config r past op)
    (taken : change workspaceId userId role ⟨op, answer⟩ = some .taken) : past = [] := by
  cases asks with
  | remove => rfl
  | changeRole => rfl
  | neutral quiet =>
    rw [change_of_neutral quiet] at taken
    cases taken
  | manage managing manages =>
    cases op with
    | addMembership m =>
      cases answer with
      | error e => cases taken
      | ok a =>
        simp only [change] at taken
        split at taken <;> cases taken
    | createWorkspace | updateStatus | deleteWorkspace | updateMembershipIdentity => cases taken
    | _ => cases manages
  | accept =>
    cases answer with
    | error e => cases taken
    | ok a =>
      simp only [change] at taken
      split at taken <;> cases taken
  | invite => cases taken
  | revoke => cases taken

theorem lost_answered
    (unchanged : change workspaceId userId role ⟨op, (s.store.exec rt b op).1⟩ = none) :
    lost (s.answered (exec rt b) i r past op next) workspaceId userId role =
      lost s workspaceId userId role := by
  unfold lost
  apply Lib.Ledger.takenBy_unchanged
  exact unchanged

theorem dropped_iff {k : Nat} : dropped s k userId = true ↔
    ∃ e ∈ s.trace, e.caller = k ∧ e.op = .invalidate userId := by
  simp [dropped, List.any_eq_true]

theorem dropped_answered {k : Nat} :
    dropped (s.answered (exec rt b) i r past op next) k userId = true ↔
      i = k ∧ op = .invalidate userId ∨ dropped s k userId = true := by
  rw [dropped_iff, dropped_iff]
  show (∃ e ∈ (⟨⟨op, _⟩, i⟩ : Lib.Event WorkspaceOp.Answer) :: s.trace, _) ↔ _
  rw [List.exists_mem_cons_iff]

theorem not_dropped_of_first (valid : Valid rt config s)
    (there : s.threads[i]? = some ⟨r, [], .ask op next⟩) : ¬ dropped s i userId = true := by
  rw [dropped_iff]
  rintro ⟨e, mem, same, -⟩
  rw [← same] at there
  have inPast := (valid.sound.traced e.caller _ e.toAsked there).mpr mem
  cases inPast

theorem Coherent.answered (coherent : Coherent s) (valid : Valid rt config s)
    (there : s.threads[i]? = some ⟨r, past, .ask op next⟩) (asks : Asks rt config r past op)
    (current : setsCurrent s (.advance i) = true) (fresh : createsFresh s (.advance i) = true) :
    Coherent (s.answered (exec rt b) i r past op next) where
  held workspaceId userId m found := by
    cases stored_cases found with
    | inl given => exact Lib.Ledger.takenBy_given given
    | inr old =>
      obtain ⟨unchanged, m', found', same⟩ := old
      have before : lost s workspaceId userId m'.role = [] := coherent.held _ _ m' found'
      rw [same] at before
      exact (lost_answered unchanged).trans before
  cached userId entry found m mem k taken := by
    rw [dropped_answered, not_or]
    cases cached_cases found with
    | inl now =>
      obtain ⟨now, rfl⟩ := now
      rw [lost_answered rfl] at taken
      simp only [setsCurrent, there, List.all_eq_true] at current
      exact ⟨fun here => WorkspaceOp.noConfusion here.2, by simpa using current m mem k taken⟩
    | inr old =>
      refine ⟨fun here => old.2 here.2, ?_⟩
      cases Lib.Ledger.mem_takenBy_cons taken with
      | inl now =>
        cases past_of_taken asks now.1
        rw [now.2]
        exact not_dropped_of_first valid there
      | inr before => exact coherent.cached userId entry old.1 m mem k before
  gone e mem workspaceId deleted := by
    cases List.mem_cons.mp mem with
    | inl new =>
      rw [new] at deleted
      exact absent_of_deleted deleted
    | inr old =>
      refine absent_kept (coherent.gone e old workspaceId deleted) ?_
      rintro workspace rfl same
      simp only [createsFresh, there, List.all_eq_true] at fresh
      have other := fresh e old
      rw [same, congrArg Asked.op deleted] at other
      simp at other

end Answered

/-- The call is over and has dropped the user's entry; what a call from `n` on has listed for the
user is nothing that it has taken away. -/
structure Behind (j : Nat) (userId : String) (n : Nat) (s : WorkspaceServer) : Prop where
  returned : ∃ r past reply, s.threads[j]? = some ⟨r, past, .done reply⟩
  dropped : dropped s j userId = true
  there : n ≤ s.threads.length
  listed : ∀ (i : Nat) (t : WorkspaceThread) ms a, n ≤ i → s.threads[i]? = some t → a ∈ t.past →
    Listed userId ms a → ∀ m ∈ ms, j ∉ lost s m.workspaceId userId m.role

/-- The workspace was deleted, and no call from `n` on has found it. -/
structure BehindDeletion (workspaceId : Uuid) (n : Nat) (s : WorkspaceServer) : Prop where
  deleted : ∃ e ∈ s.trace, e.toAsked = ⟨.deleteWorkspace workspaceId, .ok ()⟩
  there : n ≤ s.threads.length
  found : ∀ (i : Nat) (t : WorkspaceThread) workspace a, n ≤ i → s.threads[i]? = some t →
    a ∈ t.past → FoundWorkspace workspace a → workspace.id ≠ workspaceId

section Later

variable {j n : Nat}

theorem none_of_beyond {t : WorkspaceThread} (beyond : s.threads.length ≤ i) :
    s.threads[i]? ≠ some t := by
  intro there
  have within := (List.getElem?_eq_some_iff.mp there).1
  omega

theorem Behind.started (behind : Behind j userId n s) :
    Behind j userId n (s.started (WorkspaceRequest.call rt config) r) where
  returned := by
    obtain ⟨r', past', reply, found⟩ := behind.returned
    exact ⟨r', past', reply, Lib.Server.started_of_there found⟩
  dropped := behind.dropped
  there := by
    show n ≤ (s.threads ++ [_]).length
    rw [List.length_append]
    exact Nat.le_trans behind.there (Nat.le_add_right _ _)
  listed i t ms a later there inPast := by
    cases Lib.Server.started_cases there with
    | inl old => exact behind.listed i t ms a later old inPast
    | inr new =>
      rw [new.2] at inPast
      cases inPast

theorem Behind.answered (behind : Behind j userId n s) (valid : Valid rt config s)
    (coherent : Coherent s) (there : s.threads[i]? = some ⟨r, past, .ask op next⟩) :
    Behind j userId n (s.answered (exec rt b) i r past op next) := by
  obtain ⟨r', past', reply, returned⟩ := behind.returned
  obtain ⟨other, returned'⟩ :=
    Lib.Server.answered_of_done (exec rt b) there returned
  have kept {workspaceId : Uuid} {role : Role} (held : j ∉ lost s workspaceId userId role) :
      j ∉ lost (s.answered (exec rt b) i r past op next) workspaceId userId role := by
    intro taken
    cases Lib.Ledger.mem_takenBy_cons taken with
    | inl now => exact other now.2
    | inr before => exact held before
  constructor
  case returned => exact ⟨r', past', reply, returned'⟩
  case dropped => exact dropped_answered.mpr (Or.inr behind.dropped)
  case there =>
    show n ≤ (s.threads.set i _).length
    rw [List.length_set]
    exact behind.there
  case listed =>
    intro k t ms a later found inPast listed m mem
    cases Lib.Server.answered_cases there found with
    | inl here =>
      rw [here.1] at later
      rw [here.2] at inPast
      apply kept
      cases List.mem_cons.mp inPast with
      | inl new =>
        rw [new] at listed
        cases listed_cases valid.keyed listed mem with
        | inl cached =>
          obtain ⟨entry, inCache, inEntry⟩ := cached
          exact fun taken => coherent.cached _ _ inCache m inEntry j taken behind.dropped
        | inr stored =>
          rw [coherent.held _ _ m stored]
          exact List.not_mem_nil
      | inr old => exact behind.listed i _ ms a later there old listed m mem
    | inr old => exact kept (behind.listed k t ms a later old.2 inPast listed m mem)

theorem BehindDeletion.started (behind : BehindDeletion workspaceId n s) :
    BehindDeletion workspaceId n (s.started (WorkspaceRequest.call rt config) r) where
  deleted := behind.deleted
  there := by
    show n ≤ (s.threads ++ [_]).length
    rw [List.length_append]
    exact Nat.le_trans behind.there (Nat.le_add_right _ _)
  found i t workspace a later there inPast := by
    cases Lib.Server.started_cases there with
    | inl old => exact behind.found i t workspace a later old inPast
    | inr new =>
      rw [new.2] at inPast
      cases inPast

theorem BehindDeletion.answered (behind : BehindDeletion workspaceId n s)
    (valid : Valid rt config s) (coherent : Coherent s)
    (there : s.threads[i]? = some ⟨r, past, .ask op next⟩) :
    BehindDeletion workspaceId n (s.answered (exec rt b) i r past op next) := by
  obtain ⟨e, mem, deleted⟩ := behind.deleted
  constructor
  case deleted => exact ⟨e, List.mem_cons_of_mem _ mem, deleted⟩
  case there =>
    show n ≤ (s.threads.set i _).length
    rw [List.length_set]
    exact behind.there
  case found =>
    intro k t workspace a later found inPast isFound
    cases Lib.Server.answered_cases there found with
    | inl here =>
      rw [here.1] at later
      rw [here.2] at inPast
      cases List.mem_cons.mp inPast with
      | inl new =>
        rw [new] at isFound
        have stored := stored_of_found valid.keyed isFound
        intro same
        rw [same] at stored
        cases (coherent.gone e mem workspaceId deleted).symm.trans stored
      | inr old => exact behind.found i _ workspace a later there old isFound
    | inr old => exact behind.found k t workspace a later old.2 inPast isFound

end Later

section Runs

variable {turns before after : List WorkspaceTurn}

def Guarded (s : WorkspaceServer) (turn : WorkspaceTurn) : Prop :=
  setsCurrent s turn = true ∧ createsFresh s turn = true

theorem kept_along {J : WorkspaceServer → Prop}
    (starts : ∀ s r, J s → J (s.started (WorkspaceRequest.call rt config) r))
    (answers : ∀ (s : WorkspaceServer) i r past op next, Valid rt config s → Coherent s → J s →
      s.threads[i]? = some ⟨r, past, .ask op next⟩ →
      J (s.answered (exec rt b) i r past op next))
    (valid : Valid rt config s) (coherent : Coherent s) (good : J s)
    (guarded : AllSteps (WorkspaceServer.step rt config b) Guarded s turns) :
    let s' := turns.foldl (WorkspaceServer.step rt config b) s
    Valid rt config s' ∧ Coherent s' ∧ J s' := by
  refine Lib.Always.last (guarded.always
    (I := fun s => Valid rt config s ∧ Coherent s ∧ J s) (fun _ good => good) ?_
    ⟨valid, coherent, good⟩)
  intro s turn good guard
  refine keep_step (J := fun s => Coherent s ∧ J s) (G := Guarded) ?_ ?_ s turn good guard
  · intro s r _ good _
    exact ⟨⟨good.1.held, good.1.cached, good.1.gone⟩, starts s r good.2⟩
  · intro s i r past op next valid good there asks guard
    exact ⟨good.1.answered valid there asks guard.1 guard.2,
      answers s i r past op next valid good.1 good.2 there⟩

theorem behind_of_returned {j : Nat} {reply : WorkspaceReply} {t : WorkspaceThread}
    (valid : Valid rt config s) (there : s.threads[j]? = some t)
    (returned : t.call = .done (.ok reply)) (asked : ⟨.invalidate userId, .ok ()⟩ ∈ t.past) :
    Behind j userId s.threads.length s where
  returned := by
    obtain ⟨r, past, call⟩ := t
    cases returned
    exact ⟨r, past, _, there⟩
  dropped := dropped_iff.mpr ⟨_, (valid.sound.traced j t _ there).mp asked, rfl, rfl⟩
  there := Nat.le_refl _
  listed _ _ _ _ beyond found := absurd found (none_of_beyond beyond)

/-- In every run in which the lists that are cached hold nothing that a call has revoked which has
dropped the user's entry, what a returned call has revoked is not served to a later `resolve`. -/
theorem revoked_membership_not_served (keyed : store.Keyed)
    (current : AllSteps (WorkspaceServer.step rt config b)
      (fun s turn => setsCurrent s turn = true) { store := store } (before ++ after))
    (fresh : AllSteps (WorkspaceServer.step rt config b)
      (fun s turn => createsFresh s turn = true) { store := store } (before ++ after)) :
    let s := before.foldl (WorkspaceServer.step rt config b) { store := store }
    NotServed s (after.foldl (WorkspaceServer.step rt config b) s) := by
  have guarded : AllSteps (WorkspaceServer.step rt config b) Guarded { store := store }
      (before ++ after) := Lib.allSteps_and_iff.mpr ⟨current, fresh⟩
  rw [Lib.allSteps_append] at guarded
  obtain ⟨valid, coherent, -⟩ := kept_along (J := fun _ => True) (fun _ _ _ => trivial)
    (fun _ _ _ _ _ _ _ _ _ _ => trivial) (valid_fresh keyed) coherent_fresh trivial guarded.1
  intro s i j t t' r userId context there isReturned later there' isResolved
  obtain ⟨past, reply, rfl⟩ := returned_iff.mp isReturned
  obtain ⟨slug, now, setAt, past', rfl⟩ := resolved_iff.mp isResolved
  have behind (asked : ⟨.invalidate userId, .ok ()⟩ ∈ past) :=
    kept_along (J := Behind j userId s.threads.length) (fun _ _ behind => behind.started)
      (fun _ _ _ _ _ _ valid coherent behind there => behind.answered valid coherent there)
      valid coherent (behind_of_returned valid there rfl asked) guarded.2
  have served (asked : ⟨.invalidate userId, .ok ()⟩ ∈ past) :
      GivenAgain (after.foldl (WorkspaceServer.step rt config b) s) j context.workspaceId userId
        context.role := by
    obtain ⟨valid', -, behind⟩ := behind asked
    rw [givenAgain_iff]
    cases valid'.sound.gives there' with
    | other quiet => cases quiet
    | resolved listed inList mem _ _ named =>
      dsimp only [makeContext]
      rw [named]
      exact behind.listed i _ _ _ later there' inList listed _ mem
  cases valid.sound.gives there with
  | removed _ asked =>
    rintro rfl rfl
    exact served asked
  | changedRole _ asked =>
    rintro rfl rfl
    exact served asked
  | deleted asked =>
    rename_i workspaceId
    have inTrace := (valid.sound.traced j _ _ there).mp asked
    obtain ⟨valid', -, behind⟩ := kept_along (J := BehindDeletion workspaceId s.threads.length)
      (fun _ _ behind => behind.started)
      (fun _ _ _ _ _ _ valid coherent behind there => behind.answered valid coherent there)
      valid coherent
      ⟨⟨_, inTrace, rfl⟩, Nat.le_refl _, fun _ _ _ _ beyond found =>
        absurd found (none_of_beyond beyond)⟩
      guarded.2
    cases valid'.sound.gives there' with
    | other quiet => cases quiet
    | resolved _ _ _ isFound inFound _ =>
      exact Ne.symm (behind.found i _ _ _ later there' inFound isFound)
  | other quiet =>
    cases r with
    | removeMember | updateMemberRole | hardDeleteWorkspace => cases quiet
    | _ => trivial
  | resolved => trivial

end Runs

def storeWithEditor : WorkspaceStore where
  workspaces := Dict.set ∅ 1 { id := 1, slug := "acme", name := "Acme" }
  memberships := Dict.set ∅ (1, "u") { workspaceId := 1, userId := "u", role := .editor }

theorem keyed_storeWithEditor : storeWithEditor.Keyed where
  workspaces := by
    apply Dict.KeyedBy.set
    · exact Dict.keyedBy_empty
    · rfl
  memberships := by
    apply Dict.KeyedBy.set
    · exact Dict.keyedBy_empty
    · rfl
  invitations := Dict.keyedBy_empty

def resolveEditor : WorkspaceTurn := .begin (.resolve "u" none 0 0)

def removeEditor : List WorkspaceTurn :=
  [.begin (.removeMember 1 "u" (some .admin)), .advance 1, .advance 1, .advance 1]

theorem revoked_membership_not_served_straddled :
    let step := WorkspaceServer.step .plain {} .postgres
    let s := ([resolveEditor, .advance 0, .advance 0] ++ removeEditor).foldl step
      { store := storeWithEditor }
    ¬ NotServed s ([.advance 0, resolveEditor, .advance 2, .advance 2].foldl step s) := by
  intro step s notServed
  have served := notServed 2 1 _ _ (.removeMember 1 "u" (some .admin)) "u"
    { workspaceId := 1, workspaceSlug := "acme", userId := "u", role := .editor }
    (List.getElem?_eq_getElem (by decide +kernel)) (by decide +kernel) (by decide +kernel)
    (List.getElem?_eq_getElem (by decide +kernel)) (by decide +kernel) rfl rfl
  rw [givenAgain_iff] at served
  revert served
  decide +kernel

theorem revoked_membership_not_served_after_removal :
    let step := WorkspaceServer.step .plain {} .postgres
    let s := ([resolveEditor, .advance 0, .advance 0, .advance 0, .advance 0] ++ removeEditor).foldl
      step { store := storeWithEditor }
    NotServed s ([resolveEditor, .advance 2, .advance 2, .advance 2].foldl step s) :=
  revoked_membership_not_served keyed_storeWithEditor (by decide +kernel) (by decide +kernel)

end MembershipCache

end Orcheo.Workspaces
