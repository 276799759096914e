import Orcheo.Lib.Run
import Orcheo.Defs.Listeners.Supervisor

/-! Mutual exclusion of the leases that supervisors claim. -/

namespace Orcheo.Listeners

open Lib

namespace ListenerSubscription

variable {b : Backend} {sub claimed : ListenerSubscription} {runtimeId : String}
  {leaseSeconds : Nat} {now : Instant}

theorem claim_some (h : sub.claim b runtimeId leaseSeconds now = some claimed) :
    sub.leasedToOther runtimeId now = false ∧ claimed.assignedRuntime = some runtimeId ∧
      claimed.leaseExpiresAt = some (now + seconds leaseSeconds) := by
  unfold claim at h
  split at h
  case isFalse => cases h
  case isTrue hc =>
    simp only [claimable, Bool.and_eq_true, Bool.not_eq_true'] at hc
    refine ⟨hc.1.2, ?_⟩
    simp only [Option.some.injEq] at h
    rw [← h]
    split
    · exact ⟨rfl, rfl⟩
    · exact ⟨rfl, rfl⟩

theorem leasedToOther_of {runtime : String} {expires : Instant}
    (hr : sub.assignedRuntime = some runtime) (he : sub.leaseExpiresAt = some expires)
    (hn : runtime ≠ "") (hne : runtime ≠ runtimeId) (hl : now < expires) :
    sub.leasedToOther runtimeId now = true := by
  simp [leasedToOther, hr, he, hn, hne, hl]

end ListenerSubscription

namespace ListenerStore

theorem get?_claim {b : Backend} {s : ListenerStore} {x : Uuid} {runtimeId : String}
    {leaseSeconds : Nat} {now : Instant} {claimed : ListenerSubscription}
    (h : (s.claimListenerSubscription b x runtimeId leaseSeconds now).2 = some claimed) :
    ∃ sub, s.subscriptions.get? x = some sub ∧
      sub.claim b runtimeId leaseSeconds now = some claimed ∧
      (s.claimListenerSubscription b x runtimeId leaseSeconds now).1.subscriptions =
        s.subscriptions.set x claimed := by
  unfold claimListenerSubscription at h ⊢
  cases hx : s.subscriptions.get? x with
  | none => simp [hx] at h
  | some sub =>
    cases hc : sub.claim b runtimeId leaseSeconds now with
    | none => simp [hx, hc] at h
    | some claimed' =>
      simp only [hx, hc, Option.some.injEq] at h
      subst h
      exact ⟨sub, rfl, hc, by simp [hc]⟩

theorem claim_none {b : Backend} {s : ListenerStore} {x : Uuid} {runtimeId : String}
    {leaseSeconds : Nat} {now : Instant}
    (h : (s.claimListenerSubscription b x runtimeId leaseSeconds now).2 = none) :
    (s.claimListenerSubscription b x runtimeId leaseSeconds now).1 = s := by
  unfold claimListenerSubscription at h ⊢
  cases hx : s.subscriptions.get? x with
  | none => rfl
  | some sub =>
    cases hc : sub.claim b runtimeId leaseSeconds now with
    | none => simp [hc]
    | some claimed => simp [hx, hc] at h

theorem get?_release (s : ListenerStore) (x y : Uuid) (runtimeId : String) (now : Instant)
    {sub : ListenerSubscription} (hy : s.subscriptions.get? y = some sub)
    (hr : y = x → sub.assignedRuntime ≠ some runtimeId) :
    (s.releaseListenerSubscription x runtimeId now).1.subscriptions.get? y = some sub := by
  unfold releaseListenerSubscription
  cases hx : s.subscriptions.get? x with
  | none => exact hy
  | some sub' =>
    by_cases hxy : y = x
    · subst hxy
      cases hx.symm.trans hy
      simpa [ListenerSubscription.release, hr rfl] using hy
    · cases hrel : sub'.release runtimeId now with
      | none => simpa [hrel] using hy
      | some released => simpa [hrel, hxy] using hy

theorem get?_updateStatus (s : ListenerStore) {x y : Uuid} (hxy : y ≠ x)
    (status : ListenerSubscriptionStatus) (actor : String) (lastError : Option String)
    (now : Instant) :
    (s.updateListenerSubscriptionStatus x status actor lastError now).1.subscriptions.get? y =
      s.subscriptions.get? y := by
  unfold updateListenerSubscriptionStatus
  cases s.subscriptions.get? x with
  | none => rfl
  | some sub => simp [hxy]

theorem get?_disable (b : Backend) (s : ListenerStore) (w : Uuid) (actor : String)
    (now : Instant) {y : Uuid} (hy : y ∉ s.subscriptionsOf b w) :
    (s.disableListenerSubscriptions b w actor now).subscriptions.get? y =
      s.subscriptions.get? y := by
  simp only [disableListenerSubscriptions, Dict.get?_mapValues, hy, if_false]
  cases s.subscriptions.get? y <;> rfl

theorem get?_insertCompiled (w : Uuid) (actor : String) (now : Instant) {y : Uuid}
    {compiled : List (Uuid × ListenerSubscription)} (hy : y ∉ compiled.map Prod.fst)
    (s : ListenerStore) :
    (compiled.foldl (fun s e => s.insertCompiled w actor now e) s).subscriptions.get? y =
      s.subscriptions.get? y := by
  induction compiled generalizing s with
  | nil => rfl
  | cons e compiled ih =>
    simp only [List.map_cons, List.mem_cons, not_or] at hy
    rw [List.foldl_cons, ih hy.2]
    simp [insertCompiled, hy.1]

section Changed

variable {b : Backend} {s : ListenerStore} {x y : Uuid} {sub : ListenerSubscription}

theorem active_disable (actor : String) (now : Instant) :
    ((s.disableListenerSubscriptions b x actor now).subscriptions.get? y = some sub ∧
        sub.status = .active) ↔
      s.subscriptions.get? y = some sub ∧ sub.status = .active ∧ y ∉ s.subscriptionsOf b x := by
  by_cases listed : y ∈ s.subscriptionsOf b x
  · constructor
    · rintro ⟨found, active⟩
      simp only [disableListenerSubscriptions, Dict.get?_mapValues, if_pos listed,
        Option.map_eq_some_iff] at found
      obtain ⟨old, _, rfl⟩ := found
      rw [ListenerSubscription.status_disable] at active
      cases active
    · rintro ⟨_, _, unlisted⟩
      exact absurd listed unlisted
  · rw [get?_disable b s x actor now listed]
    exact ⟨fun h => ⟨h.1, h.2, listed⟩, fun h => ⟨h.1, h.2.1⟩⟩

theorem get?_insertCompiled_of_mem {actor : String} {now : Instant}
    {compiled : List (Uuid × ListenerSubscription)} (nodup : (compiled.map Prod.fst).Nodup)
    (mem : (y, sub) ∈ compiled) :
    (compiled.foldl (fun s e => s.insertCompiled x actor now e) s).subscriptions.get? y =
      some (sub.recordEvent now actor "listener_subscription_synced") := by
  induction compiled generalizing s with
  | nil => cases mem
  | cons e compiled ih =>
    rw [List.map_cons, List.nodup_cons] at nodup
    rw [List.foldl_cons]
    cases List.mem_cons.mp mem with
    | inl same =>
      subst same
      rw [get?_insertCompiled x actor now nodup.1]
      simp [insertCompiled]
    | inr mem => exact ih nodup.2 mem

end Changed

theorem get?_sync (b : Backend) (s : ListenerStore) (w : Uuid) (actor : String)
    (compiled : List (Uuid × ListenerSubscription)) (now : Instant) {y : Uuid}
    (hy : y ∉ s.subscriptionsOf b w) (hc : y ∉ compiled.map Prod.fst) :
    (s.syncListenerSubscriptions b w actor compiled now).subscriptions.get? y =
      s.subscriptions.get? y := by
  unfold syncListenerSubscriptions
  rw [get?_insertCompiled w actor now hc]
  exact get?_disable b s w actor now hy

end ListenerStore

namespace ListenerSystem

variable {b : Backend} {s : ListenerSystem}

def Shows (s : ListenerSystem) (x : Uuid) (p : RuntimeId) (expires : Instant) : Prop :=
  ∃ sub, s.store.subscriptions.get? x = some sub ∧ sub.assignedRuntime = some p.val ∧
    sub.leaseExpiresAt = some expires

def LeasesShown (s : ListenerSystem) : Prop :=
  ∀ x p expires, s.granted x p = some expires → s.now < expires → s.Shows x p expires

def claimOf (b : Backend) (s : ListenerSystem) : ListenerOp → Option (RuntimeId × Uuid)
  | .supervisor q op => match s.act q op with
    | .call (.claim x leaseSeconds) _ =>
      if (s.store.claimListenerSubscription b x q.val leaseSeconds s.now).2.isSome then some (q, x)
      else none
    | _ => none
  | _ => none

def LeaseExclusive (b : Backend) (s : ListenerSystem) (op : ListenerOp) : Prop :=
  ∀ q x, s.claimOf b op = some (q, x) → ∀ p, p ≠ q → ∀ expires, s.granted x p = some expires →
    expires ≤ s.now

def leaseSafe (s : ListenerSystem) : ListenerOp → Bool
  | .supervisor q op => match (s.act q op).statusTarget with
    | some x => (s.store.subscriptions.get? x).all (fun sub => !sub.leasedToOther q.val s.now)
    | none => true
  | _ => true

def LeaseSafe (s : ListenerSystem) (op : ListenerOp) : Prop := s.leaseSafe op = true

instance (s : ListenerSystem) (op : ListenerOp) : Decidable (s.LeaseSafe op) :=
  inferInstanceAs (Decidable (s.leaseSafe op = true))

theorem claimOf_eq_some {op : ListenerOp} {q : RuntimeId} {x : Uuid}
    (h : s.claimOf b op = some (q, x)) : ∃ leaseSeconds claimed,
      (s.store.claimListenerSubscription b x q.val leaseSeconds s.now).2 = some claimed := by
  unfold claimOf at h
  split at h
  case h_2 => cases h
  case h_1 q' op =>
    split at h
    case h_2 => cases h
    case h_1 x' leaseSeconds next _ =>
      split at h
      case isFalse => cases h
      case isTrue hc =>
        cases h
        exact ⟨leaseSeconds, Option.isSome_iff_exists.mp hc⟩

theorem granted_grant (s : ListenerSystem) (x y : Uuid) (q p : RuntimeId) (lease : Option Instant) :
    (s.grant x q lease).granted y p = if y = x ∧ p = q then lease else s.granted y p := rfl

theorem LeasesShown.not_claimable (h : s.LeasesShown) {x : Uuid} {p q : RuntimeId}
    {expires : Instant} (hg : s.granted x p = some expires) (hl : s.now < expires) (hp : p ≠ q)
    {sub : ListenerSubscription} (hx : s.store.subscriptions.get? x = some sub) :
    sub.leasedToOther q.val s.now = true := by
  obtain ⟨sub', hx', hr, he⟩ := h x p expires hg hl
  cases hx.symm.trans hx'
  exact ListenerSubscription.leasedToOther_of hr he p.property (fun hv => hp (Subtype.ext hv)) hl

theorem LeasesShown.exclusive (h : s.LeasesShown) (op : ListenerOp) : s.LeaseExclusive b op := by
  intro q x hc p hp expires hg
  by_contra hl
  obtain ⟨leaseSeconds, claimed, hc⟩ := claimOf_eq_some hc
  obtain ⟨sub, hx, hclaim, -⟩ := ListenerStore.get?_claim hc
  have hfree := (ListenerSubscription.claim_some hclaim).1
  rw [h.not_claimable hg (Int.not_le.mp hl) hp hx] at hfree
  cases hfree

theorem LeasesShown.perform (h : s.LeasesShown) (q : RuntimeId) (c : Call)
    (hsafe : ∀ x status lastError, c = .updateStatus x status lastError →
      ∀ sub, s.store.subscriptions.get? x = some sub → sub.leasedToOther q.val s.now = false) :
    (s.perform b q c).1.LeasesShown := by
  cases c with
  | list => exact h
  | claim x leaseSeconds =>
    cases hc : (s.store.claimListenerSubscription b x q.val leaseSeconds s.now).2 with
    | none =>
      have hs := ListenerStore.claim_none hc
      have hp : (s.perform b q (.claim x leaseSeconds)).1 = s := by
        simp only [ListenerSystem.perform]
        cases hr : s.store.claimListenerSubscription b x q.val leaseSeconds s.now with
        | mk store result => rw [hr] at hs hc; cases hs; cases hc; rfl
      rw [hp]
      exact h
    | some claimed =>
      obtain ⟨sub, hx, hclaim, hset⟩ := ListenerStore.get?_claim hc
      obtain ⟨hfree, hrun, hlease⟩ := ListenerSubscription.claim_some hclaim
      have hp : (s.perform b q (.claim x leaseSeconds)).1 =
          { s.grant x q claimed.leaseExpiresAt with
            store := (s.store.claimListenerSubscription b x q.val leaseSeconds s.now).1 } := by
        simp only [ListenerSystem.perform]
        cases hr : s.store.claimListenerSubscription b x q.val leaseSeconds s.now with
        | mk store result => rw [hr] at hc; cases hc; rfl
      rw [hp]
      intro y p expires hg hl
      simp only [granted_grant] at hg
      split at hg
      case isTrue hyp =>
        obtain ⟨rfl, rfl⟩ := hyp
        exact ⟨claimed, by simp [hset], hrun, hg⟩
      case isFalse hyp =>
        have hyx : y ≠ x := by
          rintro rfl
          have hpq : p ≠ q := fun hpq => hyp ⟨rfl, hpq⟩
          rw [h.not_claimable hg hl hpq hx] at hfree
          cases hfree
        obtain ⟨sub', hy, hr, he⟩ := h y p expires hg hl
        exact ⟨sub', by simpa [hset, hyx] using hy, hr, he⟩
  | release x =>
    intro y p expires hg hl
    simp only [ListenerSystem.perform, granted_grant] at hg
    split at hg
    case isTrue => cases hg
    case isFalse hyp =>
      obtain ⟨sub, hy, hr, he⟩ := h y p expires hg hl
      refine ⟨sub, ?_, hr, he⟩
      apply ListenerStore.get?_release _ _ _ _ _ hy
      intro hyx hq
      exact hyp ⟨hyx, Subtype.ext (Option.some.inj (hr.symm.trans hq))⟩
  | updateStatus x status lastError =>
    intro y p expires hg hl
    simp only [ListenerSystem.perform, granted_grant] at hg
    split at hg
    case isTrue => cases hg
    case isFalse hyp =>
      obtain ⟨sub, hy, hr, he⟩ := h y p expires hg hl
      have hyx : y ≠ x := by
        rintro rfl
        have hpq : p ≠ q := fun hpq => hyp ⟨rfl, hpq⟩
        have hfree := hsafe y status lastError rfl sub hy
        rw [h.not_claimable hg hl hpq hy] at hfree
        cases hfree
      exact ⟨sub, (ListenerStore.get?_updateStatus _ hyx _ _ _ _).trans hy, hr, he⟩

theorem LeasesShown.step (h : s.LeasesShown) {op : ListenerOp} (hsafe : s.LeaseSafe op) :
    (s.step b op).LeasesShown := by
  cases op with
  | tick elapsed =>
    intro x p expires hg hl
    have hnow : s.now ≤ s.now + elapsed := Int.le_add_of_nonneg_right (Int.natCast_nonneg elapsed)
    exact h x p expires hg (lt_of_le_of_lt hnow hl)
  | operatorStatus x status actor lastError =>
    intro y p expires hg hl
    simp only [ListenerSystem.step, revoke, List.mem_singleton] at hg
    split at hg
    case isTrue => cases hg
    case isFalse hyx =>
      obtain ⟨sub, hy, hr, he⟩ := h y p expires hg hl
      exact ⟨sub, (ListenerStore.get?_updateStatus _ hyx _ _ _ _).trans hy, hr, he⟩
  | disable w actor =>
    intro y p expires hg hl
    simp only [ListenerSystem.step, revoke] at hg
    split at hg
    case isTrue => cases hg
    case isFalse hyx =>
      obtain ⟨sub, hy, hr, he⟩ := h y p expires hg hl
      exact ⟨sub, (ListenerStore.get?_disable b _ w actor _ hyx).trans hy, hr, he⟩
  | sync w actor compiled =>
    intro y p expires hg hl
    simp only [ListenerSystem.step, revoke, List.mem_append] at hg
    split at hg
    case isTrue => cases hg
    case isFalse hyx =>
      rw [not_or] at hyx
      obtain ⟨sub, hy, hr, he⟩ := h y p expires hg hl
      exact ⟨sub, (ListenerStore.get?_sync b _ w actor _ _ hyx.1 hyx.2).trans hy, hr, he⟩
  | supervisor q op =>
    simp only [ListenerSystem.step]
    cases ha : s.act q op with
    | proceed next => exact h
    | call c next =>
      refine h.perform q c fun x status lastError hc sub hx => ?_
      subst hc
      have hs : (s.store.subscriptions.get? x).all
          (fun sub => !sub.leasedToOther q.val s.now) = true := by
        simpa [LeaseSafe, leaseSafe, ha, Action.statusTarget] using hsafe
      simpa [hx] using hs

theorem leasesShown_init : ({} : ListenerSystem).LeasesShown := by
  intro x p expires hg
  cases hg

/-- In every interleaving whose supervisors never write a status over another runtime's
unexpired lease, leases exclude each other. -/
theorem leases_exclusive (b : Backend) (ops : List ListenerOp)
    (h : AllSteps (step b) LeaseSafe {} ops) : AllSteps (step b) (LeaseExclusive b) {} ops :=
  AllSteps.of_invariant (fun _ op hs hsafe => ⟨hs.step hsafe, hs.exclusive op⟩)
    leasesShown_init h

section Race

def runtimeA : RuntimeId := ⟨"a", by decide⟩

def runtimeB : RuntimeId := ⟨"b", by decide⟩

def recoveryRace : List ListenerOp :=
  [.sync 1 "owner" [(5, { workflowId := 1, workflowVersionId := 1 })],
    .supervisor runtimeA .list, .supervisor runtimeA (.visit .built),
    .supervisor runtimeA (.build (.credentialsMissing "missing")),
    .supervisor runtimeA .finish, .supervisor runtimeA .stopNext,
    .supervisor runtimeA .list, .supervisor runtimeB .list,
    .supervisor runtimeA (.visit .built), .supervisor runtimeA .recover,
    .supervisor runtimeB (.visit .built)]

theorem leases_exclusive_after_expiry :
    AllSteps (step .postgres) (LeaseExclusive .postgres) {}
      [.sync 1 "owner" [(5, { workflowId := 1, workflowVersionId := 1 })],
        .supervisor runtimeA .list, .supervisor runtimeA (.visit .built),
        .supervisor runtimeA (.build .built), .tick 60000000,
        .supervisor runtimeB .list, .supervisor runtimeB (.visit .built)] :=
  leases_exclusive .postgres _ (by decide)

theorem recovery_steals_lease :
    ¬ ∀ b ops, AllSteps (step b) (LeaseExclusive b) {} ops := by
  intro h
  have hlast := (h .postgres (recoveryRace ++ [.supervisor runtimeB .recover])).last
  have hle := hlast runtimeB 5 (by decide) runtimeA (by decide) 60000000 (by decide)
  exact absurd hle (by decide)

end Race

end ListenerSystem

end Orcheo.Listeners
