import Mathlib.Algebra.Ring.Int.Defs
import Orcheo.Defs.Base
import Orcheo.Lib.Run

/-! Quota leases: capacity that is reserved, committed and released, under limits for each
workspace and operation. -/

namespace Orcheo.HostedApps

open Lib (Always Dict)

/-- `OPERATION_POLICY`, whether the operation fails open -/
def operationPolicy : List (String × Bool) := [
  ("static_delivery", true),
  ("upload_bytes", false),
  ("data_write_bytes", false),
  ("data_write_rows", false),
  ("new_session", false),
  ("anonymous_invocation", false),
  ("authenticated_invocation", false),
  ("concurrent_run", false)]

inductive LeaseState
  | reserved | committed | released
  deriving DecidableEq, Repr

structure Lease where
  id : Uuid
  workspaceId : Uuid
  operation : String
  amount : Int
  expiresAt : Instant
  state : LeaseState := .reserved
  deriving DecidableEq, Repr

inductive LeaseError
  /-- a `ValueError` -/
  | invalid (message : String)
  /-- a `QuotaExceededError` -/
  | exceeded (message : String)
  deriving DecidableEq, Repr

structure QuotaLeaseManager where
  limits : Dict (Uuid × String) Int
  leases : Dict Uuid Lease := ∅

namespace QuotaLeaseManager

variable (m : QuotaLeaseManager)

def update (f : Lease → Lease) : QuotaLeaseManager :=
  { m with leases := m.leases.mapValues fun _ lease => f lease }

def expired (now : Instant) (lease : Lease) : Bool :=
  lease.state == .reserved && decide (lease.expiresAt ≤ now)

def reconcile (now : Instant) : Nat × QuotaLeaseManager :=
  ((m.leases.values.filter (expired now)).length,
    m.update fun lease => if expired now lease then { lease with state := .released } else lease)

def counts (workspaceId : Uuid) (operation : String) (lease : Lease) : Bool :=
  lease.workspaceId == workspaceId && lease.operation == operation &&
    (lease.state == .reserved || lease.state == .committed)

def used (workspaceId : Uuid) (operation : String) : Int :=
  ((m.leases.values.filter (counts workspaceId operation)).map Lease.amount).sum

def reservable (operation : String) (amount : Int) : Bool :=
  operationPolicy.any (fun p => p.1 == operation) && decide (0 < amount)

def reserve (reconciledAt madeAt : Instant) (drawn : Uuid) (workspaceId : Uuid)
    (operation : String) (amount : Int) (ttlSeconds : Int := 300) :
    Except LeaseError Uuid × QuotaLeaseManager :=
  if ¬ reservable operation amount then
    (.error (.invalid "Hosted Apps quota reservation is invalid."), m)
  else
    let m := (m.reconcile reconciledAt).2
    match m.limits.get? (workspaceId, operation) with
    | none => (.error (.exceeded "Hosted Apps governance limit is unavailable."), m)
    | some limit =>
      if m.used workspaceId operation + amount > limit then
        (.error (.exceeded "Hosted Apps governance limit exceeded."), m)
      else
        (.ok drawn, { m with leases := m.leases.set drawn {
          id := drawn
          workspaceId := workspaceId
          operation := operation
          amount := amount
          expiresAt := madeAt + seconds ttlSeconds } })

def settle (leaseId : Uuid) (state : LeaseState) : QuotaLeaseManager :=
  m.update fun lease => if lease.id = leaseId then { lease with state := state } else lease

def commit (leaseId : Uuid) : Except LeaseError Unit × QuotaLeaseManager :=
  match m.leases.get? leaseId with
  | none => (.error (.exceeded "Hosted Apps quota lease is unavailable."), m)
  | some lease =>
    if lease.state = .released then
      (.error (.exceeded "Hosted Apps quota lease is unavailable."), m)
    else (.ok (), m.settle leaseId .committed)

def release (leaseId : Uuid) : QuotaLeaseManager :=
  match m.leases.get? leaseId with
  | none => m
  | some _ => m.settle leaseId .released

end QuotaLeaseManager

open QuotaLeaseManager (release reconcile)

inductive LeaseCall
  | reserve (reconciledAt madeAt : Instant) (drawn workspaceId : Uuid) (operation : String)
      (amount ttlSeconds : Int)
  | commit (leaseId : Uuid)
  | release (leaseId : Uuid)
  | reconcile (now : Instant)

def LeaseCall.reconciles : LeaseCall → Option Instant
  | .reserve reconciledAt _ _ _ operation amount _ =>
    if QuotaLeaseManager.reservable operation amount then some reconciledAt else none
  | .reconcile now => some now
  | _ => none

namespace QuotaLeaseManager

variable (m : QuotaLeaseManager)

def step : LeaseCall → QuotaLeaseManager
  | .reserve reconciledAt madeAt drawn workspaceId operation amount ttlSeconds =>
    (m.reserve reconciledAt madeAt drawn workspaceId operation amount ttlSeconds).2
  | .commit leaseId => (m.commit leaseId).2
  | .release leaseId => m.release leaseId
  | .reconcile now => (m.reconcile now).2

def DrawsFresh (call : LeaseCall) : Prop :=
  ∀ reconciledAt madeAt drawn workspaceId operation amount ttlSeconds,
    call = .reserve reconciledAt madeAt drawn workspaceId operation amount ttlSeconds →
      m.leases.get? drawn = none

def live (now : Instant) (workspaceId : Uuid) (operation : String) (lease : Lease) : Bool :=
  lease.workspaceId == workspaceId && lease.operation == operation &&
    (lease.state == .committed || lease.state == .reserved && decide (now < lease.expiresAt))

def counted (now : Instant) (workspaceId : Uuid) (operation : String) :
    List Lease := m.leases.values.filter (live now workspaceId operation)

variable {f : Lease → Lease} {l lease : Lease} {operation : String} {workspaceId leaseId : Uuid}

theorem sum_amounts_le {p q : Lease → Bool} {leases : List Lease}
    (positive : ∀ l ∈ leases, 0 < l.amount)
    (kept : ∀ l ∈ leases, p (f l) = true → q l = true ∧ (f l).amount = l.amount) :
    (((leases.map f).filter p).map Lease.amount).sum ≤
      ((leases.filter q).map Lease.amount).sum := by
  induction leases with
  | nil => exact Int.le_refl _
  | cons l leases ih =>
    obtain ⟨here, positive⟩ := List.forall_mem_cons.mp positive
    obtain ⟨kept, others⟩ := List.forall_mem_cons.mp kept
    have rest := ih positive others
    rw [List.map_cons, List.filter_cons, List.filter_cons]
    cases counted : p (f l) with
    | true =>
      obtain ⟨before, same⟩ := kept counted
      rw [if_pos rfl, if_pos before, List.map_cons, List.map_cons, List.sum_cons, List.sum_cons,
        same]
      exact Int.add_le_add_left rest _
    | false =>
      rw [if_neg Bool.false_ne_true]
      by_cases before : q l = true
      · rw [if_pos before, List.map_cons, List.sum_cons]
        omega
      · rw [if_neg before]
        exact rest

theorem sum_insertEntry_le (p : Lease → Bool) (id : Uuid) (lease : Lease)
    {entries : List (Uuid × Lease)} (positive : ∀ e ∈ entries, 0 < e.2.amount) :
    ((((Dict.insertEntry id lease entries).map Prod.snd).filter p).map Lease.amount).sum ≤
      (((entries.map Prod.snd).filter p).map Lease.amount).sum +
        if p lease then lease.amount else 0 := by
  induction entries with
  | nil =>
    rw [Dict.insertEntry, List.map_singleton, List.filter_cons]
    cases p lease with
    | true => simp
    | false => simp
  | cons e entries ih =>
    obtain ⟨key, other⟩ := e
    obtain ⟨here, positive⟩ := List.forall_mem_cons.mp positive
    by_cases same : key = id
    · rw [Dict.insertEntry, if_pos same, List.map_cons, List.map_cons, List.filter_cons,
        List.filter_cons]
      cases p lease with
      | true =>
        cases p other with
        | true => simp at here ⊢; omega
        | false => simp [Int.add_comm]
      | false =>
        cases p other with
        | true => simp at here ⊢; omega
        | false => simp
    · rw [Dict.insertEntry, if_neg same, List.map_cons, List.map_cons, List.filter_cons,
        List.filter_cons]
      have rest := ih positive
      cases p other with
      | true => simp at rest ⊢; omega
      | false => simpa using rest

structure Bounded (m : QuotaLeaseManager) : Prop where
  keyed : m.leases.KeyedBy Lease.id
  positive : ∀ l ∈ m.leases.values, 0 < l.amount
  within : ∀ workspaceId operation, m.leases.values.filter (counts workspaceId operation) ≠ [] →
    ∃ limit, m.limits.get? (workspaceId, operation) = some limit ∧
      m.used workspaceId operation ≤ limit

theorem values_update (f : Lease → Lease) : (m.update f).leases.values = m.leases.values.map f := by
  unfold update Dict.values Dict.mapValues
  rw [List.map_map, List.map_map]
  rfl

def Loosens (f : Lease → Lease) (l : Lease) : Prop :=
  (f l).id = l.id ∧ (f l).amount = l.amount ∧
    ∀ workspaceId operation, counts workspaceId operation (f l) = true →
      counts workspaceId operation l = true

variable {m : QuotaLeaseManager}

theorem Bounded.update (bounded : m.Bounded)
    (loosens : ∀ l ∈ m.leases.values, Loosens f l) : (m.update f).Bounded where
  keyed := by
    intro id l found
    unfold QuotaLeaseManager.update at found
    rw [Dict.get?_mapValues] at found
    obtain ⟨l, stored, rfl⟩ := Option.map_eq_some_iff.mp found
    have mem := (m.leases.mem_values_iff l).mpr ⟨id, stored⟩
    exact (loosens l mem).1.trans (bounded.keyed id l stored)
  positive := by
    rw [values_update]
    refine List.forall_mem_map.mpr (fun l mem => ?_)
    rw [(loosens l mem).2.1]
    exact bounded.positive l mem
  within := by
    intro workspaceId operation some
    unfold used
    rw [values_update] at some ⊢
    obtain ⟨_, there⟩ := List.exists_mem_of_ne_nil _ some
    obtain ⟨changed, counted⟩ := List.mem_filter.mp there
    obtain ⟨l, mem, rfl⟩ := List.mem_map.mp changed
    have before := (loosens l mem).2.2 workspaceId operation counted
    obtain ⟨limit, set, within⟩ := bounded.within workspaceId operation
      (List.ne_nil_of_mem (List.mem_filter.mpr ⟨mem, before⟩))
    refine ⟨limit, set, Int.le_trans (sum_amounts_le bounded.positive ?_) within⟩
    intro l mem counted
    obtain ⟨_, amount, before⟩ := loosens l mem
    exact ⟨before workspaceId operation counted, amount⟩

theorem counts_of_state {state : LeaseState} (counted : l.state ≠ .released) :
    counts workspaceId operation { l with state := state } = true →
      counts workspaceId operation l = true := by
  unfold counts
  cases given : l.state with
  | reserved => simp +contextual
  | committed => simp +contextual
  | released => exact absurd given counted

theorem counts_released :
    counts workspaceId operation { l with state := .released } = false := by
  simp [counts]

theorem Bounded.reconcile (bounded : m.Bounded) (now : Instant) : (m.reconcile now).2.Bounded := by
  refine bounded.update (fun l _ => ?_)
  simp only [Loosens]
  by_cases late : expired now l = true
  · rw [if_pos late]
    refine ⟨rfl, rfl, fun workspaceId operation counted => ?_⟩
    rw [counts_released] at counted
    cases counted
  · rw [if_neg late]
    exact ⟨rfl, rfl, fun _ _ counted => counted⟩

theorem Bounded.settle (bounded : m.Bounded) {state : LeaseState}
    (unsettled : state = .released ∨ ∀ l, m.leases.get? leaseId = some l → l.state ≠ .released) :
    (m.settle leaseId state).Bounded := by
  refine bounded.update (fun l mem => ?_)
  simp only [Loosens]
  by_cases named : l.id = leaseId
  · rw [if_pos named]
    refine ⟨rfl, rfl, fun workspaceId operation counted => ?_⟩
    cases unsettled with
    | inl released =>
      rw [released, counts_released] at counted
      cases counted
    | inr unsettled =>
      obtain ⟨id, stored⟩ := (m.leases.mem_values_iff l).mp mem
      obtain rfl := (bounded.keyed id l stored).symm.trans named
      exact counts_of_state (unsettled l stored) counted
  · rw [if_neg named]
    exact ⟨rfl, rfl, fun _ _ counted => counted⟩

theorem mem_leases_set {leases : Dict Uuid Lease} {id : Uuid}
    (mem : l ∈ (leases.set id lease).values) : l = lease ∨ l ∈ leases.values := by
  obtain ⟨e, stored, rfl⟩ := List.mem_map.mp mem
  cases Dict.mem_insertEntry stored with
  | inl here => exact .inl (congrArg Prod.snd here)
  | inr before => exact .inr (List.mem_map_of_mem before)

theorem Bounded.reserve (bounded : m.Bounded)
    (reconciledAt madeAt : Instant) (drawn workspaceId : Uuid) (operation : String)
    (amount ttlSeconds : Int) :
    (m.reserve reconciledAt madeAt drawn workspaceId operation amount ttlSeconds).2.Bounded := by
  unfold QuotaLeaseManager.reserve
  by_cases invalid : ¬ reservable operation amount = true
  · rw [if_pos invalid]
    exact bounded
  · rw [if_neg invalid]
    have bounded := bounded.reconcile reconciledAt
    generalize (m.reconcile reconciledAt).2 = m at bounded
    cases limited : m.limits.get? (workspaceId, operation) with
    | none => simpa only [limited] using bounded
    | some limit =>
      simp only [limited]
      by_cases full : m.used workspaceId operation + amount > limit
      · rw [if_pos full]
        exact bounded
      · rw [if_neg full]
        have positive : 0 < amount := by
          unfold reservable at invalid
          simpa using (Bool.and_eq_true_iff.mp (not_not.mp invalid)).2
        have stored : ∀ e ∈ m.leases.entries, 0 < e.2.amount := fun e mem =>
          bounded.positive e.2 (List.mem_map_of_mem mem)
        exact {
          keyed := bounded.keyed.set rfl
          positive := by
            intro l mem
            cases mem_leases_set mem with
            | inl here => exact here ▸ positive
            | inr before => exact bounded.positive l before
          within := by
            intro workspaceId' operation' some
            have more := sum_insertEntry_le (counts workspaceId' operation') drawn
              ⟨drawn, workspaceId, operation, amount,
                madeAt + seconds ttlSeconds, .reserved⟩ stored
            -- only what is counted together with the new lease has more than before
            by_cases here : workspaceId = workspaceId' ∧ operation = operation'
            · obtain ⟨rfl, rfl⟩ := here
              rw [if_pos (by simp [counts])] at more
              exact ⟨limit, limited, Int.le_trans more (Int.not_lt.mp full)⟩
            · have uncounted : counts workspaceId' operation' ⟨drawn, workspaceId, operation,
                  amount, madeAt + seconds ttlSeconds, .reserved⟩ = false := by
                simpa [counts] using here
              rw [uncounted, if_neg Bool.false_ne_true, Int.add_zero] at more
              obtain ⟨l, mem⟩ := List.exists_mem_of_ne_nil _ some
              obtain ⟨mem, counted⟩ := List.mem_filter.mp mem
              cases mem_leases_set mem with
              | inl new =>
                rw [new, uncounted] at counted
                cases counted
              | inr before =>
                obtain ⟨limit', limited', within⟩ := bounded.within workspaceId' operation'
                  (List.ne_nil_of_mem (List.mem_filter.mpr ⟨before, counted⟩))
                exact ⟨limit', limited', Int.le_trans more within⟩ }

theorem Bounded.step (bounded : m.Bounded) (call : LeaseCall) : (m.step call).Bounded := by
  cases call with
  | reserve reconciledAt madeAt drawn workspaceId operation amount ttlSeconds =>
    exact bounded.reserve ..
  | commit leaseId =>
    unfold QuotaLeaseManager.step QuotaLeaseManager.commit
    cases stored : m.leases.get? leaseId with
    | none => simpa only [stored] using bounded
    | some lease =>
      simp only [stored]
      by_cases released : lease.state = .released
      · rw [if_pos released]
        exact bounded
      · rw [if_neg released]
        refine bounded.settle (.inr fun l found => ?_)
        cases stored.symm.trans found
        exact released
  | release leaseId =>
    unfold QuotaLeaseManager.step release
    cases stored : m.leases.get? leaseId with
    | none => simpa only [stored] using bounded
    | some lease => simpa only [stored] using bounded.settle (.inl rfl)
  | reconcile now => exact bounded.reconcile now

def Released (m : QuotaLeaseManager) (leaseId : Uuid) : Prop :=
  ∃ lease, m.leases.get? leaseId = some lease ∧ lease.state = .released

theorem Released.commit (released : m.Released leaseId) :
    m.commit leaseId = (.error (.exceeded "Hosted Apps quota lease is unavailable."), m) := by
  obtain ⟨lease, stored, state⟩ := released
  simp only [QuotaLeaseManager.commit, stored, if_pos state]

theorem Released.update (released : m.Released leaseId)
    (keeps : ∀ l, m.leases.get? leaseId = some l → l.state = .released → (f l).state = .released) :
    (m.update f).Released leaseId := by
  obtain ⟨lease, stored, state⟩ := released
  refine ⟨f lease, ?_, keeps lease stored state⟩
  unfold QuotaLeaseManager.update
  rw [Dict.get?_mapValues, stored]
  rfl

theorem Released.reconcile (released : m.Released leaseId)
    (now : Instant) : (m.reconcile now).2.Released leaseId := by
  refine released.update (fun l _ state => ?_)
  by_cases late : expired now l = true
  · rw [if_pos late]
  · rw [if_neg late]
    exact state

theorem Released.reserve {reconciledAt : Instant}
    (released : (m.reconcile reconciledAt).2.Released leaseId) (madeAt : Instant)
    {drawn : Uuid} (apart : leaseId ≠ drawn) (workspaceId : Uuid)
    {amount : Int} (reservable : reservable operation amount = true) (ttlSeconds : Int) :
    (m.reserve reconciledAt madeAt drawn workspaceId operation amount ttlSeconds).2.Released
      leaseId := by
  unfold QuotaLeaseManager.reserve
  rw [if_neg (not_not.mpr reservable)]
  generalize (m.reconcile reconciledAt).2 = m at released
  cases limited : m.limits.get? (workspaceId, operation) with
  | none => simpa only [limited] using released
  | some limit =>
    simp only [limited]
    by_cases full : m.used workspaceId operation + amount > limit
    · rw [if_pos full]
      exact released
    · rw [if_neg full]
      obtain ⟨lease, stored, state⟩ := released
      exact ⟨lease, by rw [Dict.get?_set, if_neg apart, stored], state⟩

theorem apart_of_fresh {drawn : Uuid}
    (stored : m.leases.get? leaseId = some lease) (fresh : m.leases.get? drawn = none) :
    leaseId ≠ drawn := by
  rintro rfl
  cases stored.symm.trans fresh

theorem Released.step (bounded : m.Bounded)
    (released : m.Released leaseId) {call : LeaseCall} (fresh : m.DrawsFresh call) :
    (m.step call).Released leaseId := by
  cases call with
  | reserve reconciledAt madeAt drawn workspaceId operation amount ttlSeconds =>
    by_cases reservable : reservable operation amount = true
    · obtain ⟨lease, stored, _⟩ := id released
      exact (released.reconcile reconciledAt).reserve madeAt
        (apart_of_fresh stored (fresh _ _ _ _ _ _ _ rfl)) workspaceId reservable ttlSeconds
    · simp only [QuotaLeaseManager.step, QuotaLeaseManager.reserve, if_pos reservable]
      exact released
  | commit other =>
    by_cases same : other = leaseId
    · simp only [QuotaLeaseManager.step, same, released.commit]
      exact released
    · cases stored : m.leases.get? other with
      | none =>
        simp only [QuotaLeaseManager.step, QuotaLeaseManager.commit, stored]
        exact released
      | some lease =>
        simp only [QuotaLeaseManager.step, QuotaLeaseManager.commit, stored]
        by_cases state : lease.state = .released
        · rw [if_pos state]
          exact released
        · rw [if_neg state]
          refine released.update (fun l stored state => ?_)
          rw [if_neg (bounded.keyed leaseId l stored ▸ Ne.symm same)]
          exact state
  | release other =>
    cases stored : m.leases.get? other with
    | none =>
      simp only [QuotaLeaseManager.step, release, stored]
      exact released
    | some lease =>
      simp only [QuotaLeaseManager.step, release, stored]
      refine released.update (fun l _ state => ?_)
      by_cases named : l.id = other
      · rw [if_pos named]
      · rw [if_neg named]
        exact state
  | reconcile now => exact released.reconcile now

theorem released_of_expired (stored : m.leases.get? leaseId = some lease)
    {now : Instant} (late : expired now lease = true) {call : LeaseCall}
    (reconciles : call.reconciles = some now) (fresh : m.DrawsFresh call) :
    (m.step call).Released leaseId := by
  have released : (m.reconcile now).2.Released leaseId := by
    refine ⟨{ lease with state := .released }, ?_, rfl⟩
    unfold reconcile QuotaLeaseManager.update
    rw [Dict.get?_mapValues, stored, Option.map_some]
    exact congrArg some (if_pos late)
  cases call with
  | reserve reconciledAt madeAt drawn workspaceId operation amount ttlSeconds =>
    by_cases reservable : reservable operation amount = true
    · rw [LeaseCall.reconciles, if_pos reservable] at reconciles
      cases reconciles
      exact released.reserve madeAt (apart_of_fresh stored (fresh _ _ _ _ _ _ _ rfl)) workspaceId
        reservable ttlSeconds
    · rw [LeaseCall.reconciles, if_neg reservable] at reconciles
      cases reconciles
  | reconcile now' =>
    cases reconciles
    exact released
  | commit leaseId => cases reconciles
  | release leaseId => cases reconciles

variable (limits : Dict (Uuid × String) Int)

def start : QuotaLeaseManager := { limits := limits }

theorem bounded_start : (start limits).Bounded where
  keyed := Dict.keyedBy_empty
  positive _ mem := absurd mem List.not_mem_nil
  within _ _ some := absurd rfl some

theorem limits_step (m : QuotaLeaseManager) (call : LeaseCall) :
    (m.step call).limits = m.limits := by
  cases call with
  | reserve reconciledAt madeAt drawn workspaceId operation amount ttlSeconds =>
    unfold QuotaLeaseManager.step QuotaLeaseManager.reserve
    by_cases invalid : ¬ reservable operation amount = true
    · simp only [if_pos invalid]
    · simp only [if_neg invalid]
      cases limited : (m.reconcile reconciledAt).2.limits.get? (workspaceId, operation) with
      | none => rfl
      | some limit =>
        by_cases full :
            (m.reconcile reconciledAt).2.used workspaceId operation + amount > limit
        · simp only [if_pos full]
          rfl
        · simp only [if_neg full]
          rfl
  | commit leaseId =>
    cases stored : m.leases.get? leaseId with
    | none => simp only [QuotaLeaseManager.step, QuotaLeaseManager.commit, stored]
    | some lease =>
      simp only [QuotaLeaseManager.step, QuotaLeaseManager.commit, stored]
      by_cases released : lease.state = .released
      · rw [if_pos released]
      · rw [if_neg released]
        rfl
  | release leaseId =>
    cases stored : m.leases.get? leaseId with
    | none => simp only [QuotaLeaseManager.step, release, stored]
    | some lease =>
      simp only [QuotaLeaseManager.step, release, stored]
      rfl
  | reconcile now => rfl

theorem counts_of_live {now : Instant} (counted : live now workspaceId operation l = true) :
    counts workspaceId operation l = true := by
  unfold live at counted
  unfold counts
  cases given : l.state with
  | reserved => simpa [given] using (Bool.and_eq_true_iff.mp counted).1
  | committed => simpa [given] using counted
  | released => simp [given] at counted

theorem Bounded.counted (bounded : m.Bounded) (now : Instant)
    (workspaceId : Uuid) (operation : String) :
    ((m.counted now workspaceId operation).map Lease.id).Nodup ∧
      (m.counted now workspaceId operation ≠ [] → ∃ limit,
        m.limits.get? (workspaceId, operation) = some limit ∧
        ((m.counted now workspaceId operation).map Lease.amount).sum ≤ limit) := by
  unfold QuotaLeaseManager.counted
  constructor
  · have ids := bounded.keyed.map_values
    refine List.Nodup.sublist (List.filter_sublist.map _) ?_
    rw [ids]
    exact m.leases.nodup
  · intro some
    obtain ⟨l, there⟩ := List.exists_mem_of_ne_nil _ some
    obtain ⟨mem, counted⟩ := List.mem_filter.mp there
    obtain ⟨limit, limited, within⟩ := bounded.within workspaceId operation
      (List.ne_nil_of_mem (List.mem_filter.mpr ⟨mem, counts_of_live counted⟩))
    refine ⟨limit, limited, Int.le_trans ?_ within⟩
    have less := sum_amounts_le (f := id) (p := live now workspaceId operation) (q := counts workspaceId operation)
      bounded.positive fun l _ counted => ⟨counts_of_live counted, rfl⟩
    rw [List.map_id] at less
    exact less

/-- Under no order of calls is more counted than a limit allows, or a lease twice, and what a
reconciliation has expired stays released and is never committed. -/
theorem leases_within_limits (calls : List LeaseCall)
    (fresh : Lib.AllSteps step DrawsFresh (start limits) calls) :
    Always step (fun m => ∀ now workspaceId operation,
      ((m.counted now workspaceId operation).map Lease.id).Nodup ∧
      (m.counted now workspaceId operation ≠ [] → ∃ limit,
        limits.get? (workspaceId, operation) = some limit ∧
        ((m.counted now workspaceId operation).map Lease.amount).sum ≤ limit))
      (start limits) calls ∧
    ∀ before call after now leaseId lease, calls = before ++ call :: after →
      call.reconciles = some now →
      (before.foldl step (start limits)).leases.get? leaseId = some lease →
      expired now lease = true →
      Always step (fun m => m.Released leaseId ∧
        (m.commit leaseId).1 = .error (.exceeded "Hosted Apps quota lease is unavailable."))
        ((before.foldl step (start limits)).step call) after := by
  constructor
  · refine Lib.always_of_invariant (I := fun m => m.Bounded ∧ m.limits = limits) ?_ ?_
      ⟨bounded_start limits, rfl⟩ calls
    · rintro m ⟨bounded, rfl⟩ now workspaceId operation
      exact bounded.counted now workspaceId operation
    · rintro m call ⟨bounded, same⟩
      exact ⟨bounded.step call, (limits_step m call).trans same⟩
  · rintro before call after now leaseId lease rfl reconciles stored late
    obtain ⟨_, drawn, rest⟩ := Lib.allSteps_append.mp fresh
    have bounded : ((before.foldl step (start limits)).step call).Bounded :=
      (Lib.foldl_invariant (P := Bounded) (fun m call bounded => Bounded.step bounded call)
        (bounded_start limits) before).step call
    refine rest.always (I := fun m => m.Bounded ∧ m.Released leaseId) ?_ ?_
      ⟨bounded, released_of_expired stored late reconciles drawn⟩
    · rintro m ⟨_, released⟩
      exact ⟨released, congrArg Prod.fst released.commit⟩
    · rintro m call ⟨bounded, released⟩ fresh
      exact ⟨bounded.step call, released.step bounded fresh⟩

def uploadLimits : Dict (Uuid × String) Int := Dict.ofList [((1, "upload_bytes"), 2)]

def uploadReserve : LeaseCall := .reserve 0 0 7 1 "upload_bytes" 2 300

theorem upload_within_limits :
    Always step (fun m => m.Released 7 ∧
      (m.commit 7).1 = .error (.exceeded "Hosted Apps quota lease is unavailable."))
      (((start uploadLimits).step uploadReserve).step (.reconcile (seconds 300))) [.commit 7] := by
  refine (leases_within_limits uploadLimits
    [uploadReserve, .reconcile (seconds 300), .commit 7] ?_).2
    [uploadReserve] (.reconcile (seconds 300)) [.commit 7] (seconds 300) 7
    ⟨7, 1, "upload_bytes", 2, seconds 300, .reserved⟩ rfl rfl (by decide +kernel) (by decide)
  refine ⟨?_, ?_, ?_, trivial⟩
  · intro _ _ drawn _ _ _ _ same
    rfl
  · intro _ _ _ _ _ _ _ same
    cases same
  · intro _ _ _ _ _ _ _ same
    cases same

end QuotaLeaseManager

end Orcheo.HostedApps
