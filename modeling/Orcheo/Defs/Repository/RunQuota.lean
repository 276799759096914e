import Orcheo.Defs.Repository.CronDispatchLaws
import Orcheo.Defs.Repository.RunCreation

/-! No workspace has more pending or running runs than its limit, over any interleaving, and a
creation that fails leaves no run behind. -/

universe u

namespace Orcheo.Repository

open Lib (Dict Within Admits Always AllSteps)
open Triggers (Calendar TriggerLayer WebhookRuntime)

structure RunTable.Moved (t t' : RunTable) : Prop where
  none : ∀ r, t.get? r = none → t'.get? r = none
  some : ∀ r row, t.get? r = some row → ∃ row', t'.get? r = some row' ∧ row'.Agrees ∧
    row.Evolves row'

namespace RunTable

variable {t : RunTable}

theorem moved_step (agrees : t.Agrees) {op : RunOp} (other : op.creates = false) :
    t.Moved (t.step op) where
  none r absent := t.get?_step_of_not_creates other absent
  some r row there := by
    obtain ⟨row', there', moved⟩ := t.get?_step op there
    exact ⟨row', there', moved.evolves (agrees r row there)⟩

theorem moved_markRun (agrees : t.Agrees) (q : Uuid) (actor : String) (m : Mark) (c : Readings) :
    t.Moved (t.markRun q actor m c).1 := by
  obtain ⟨agrees', -⟩ := evolves_markRun agrees q actor m c
  have kept (r : Uuid) : (t.markRun q actor m c).1.get? r = t.get? r ∨ ∃ row row' run,
      t.get? r = some row ∧ row.update (m.apply c actor) none = .ok (row', run) ∧
      (t.markRun q actor m c).1.get? r = some row' := by
    cases t.get?_onRow q r (RunRow.update (m.apply c actor) none) with
    | inl same => exact .inl same
    | inr moved =>
      obtain ⟨rfl, moved⟩ := moved
      exact .inr moved
  constructor
  · intro r absent
    cases kept r with
    | inl same => exact same.trans absent
    | inr moved =>
      obtain ⟨row, _, _, there, -⟩ := moved
      rw [absent] at there
      cases there
  · intro r row there
    cases kept r with
    | inl same =>
      rw [there] at same
      exact ⟨row, same, agrees' r row same, row.evolves_refl⟩
    | inr moved =>
      obtain ⟨row₁, row', run, there₁, updated, there'⟩ := moved
      rw [there, Option.some.injEq] at there₁
      subst there₁
      exact ⟨row', there', agrees' r row' there', RunRow.evolves_update (agrees r row there) updated⟩

end RunTable

namespace RunStore

variable (s : RunStore)

def limitOf (workspaceId : String) : Option Nat :=
  (s.limits.get? workspaceId).bind (fun limit => if 0 < limit then some limit.toNat else none)

def active (workspaceId : String) : Finset Uuid :=
  s.runs.keysWhere (fun r row =>
    decide (s.runWorkspaces.get? r = some workspaceId) && row.status.isActive)

/-- The pending and running runs of the workspace: those recorded under it, and those of its
workflows. -/
def activeOf (workspaceId : String) : Finset Uuid :=
  s.runs.keysWhere (fun r row => (decide (s.runWorkspaces.get? r = some workspaceId) ||
    decide (s.ownWorkspace row.payload.workflowId = some workspaceId)) && row.status.isActive)

def WithinLimits : Prop :=
  ∀ workspaceId limit, s.limits.get? workspaceId = some limit → 0 < limit →
    ((s.activeOf workspaceId).card : Int) ≤ limit

/-- A run of the workflow that is recorded so is counted where the workflow's workspace has a
limit. -/
structure Recorded (s : RunStore) (w : Uuid) (workspaceId : Option String) : Prop where
  known : ∃ scope, s.workflows.get? w = some scope
  named : ∀ own n, s.ownWorkspace w = some own → s.limitOf own = some n → workspaceId = some own

structure Sound (s : RunStore) : Prop where
  agrees : s.runs.Agrees
  stored : ∀ r workspaceId, s.runWorkspaces.get? r = some workspaceId →
    ∃ row, s.runs.get? r = some row
  recorded : ∀ r row, s.runs.get? r = some row →
    s.Recorded row.payload.workflowId (s.runWorkspaces.get? r)

structure Moves (s s' : RunStore) : Prop where
  limits : s'.limits = s.limits
  recorded : ∀ w workspaceId, s.Recorded w workspaceId → s'.Recorded w workspaceId
  active : ∀ workspaceId, s'.active workspaceId ⊆ s.active workspaceId

variable {s s' : RunStore}

@[simp] theorem mem_active {workspaceId : String} {r : Uuid} :
    r ∈ s.active workspaceId ↔ ∃ row, s.runs.get? r = some row ∧
      s.runWorkspaces.get? r = some workspaceId ∧ row.status.isActive = true := by
  simp [active]

theorem limitOf_eq_some {workspaceId : String} {limit : Int}
    (there : s.limits.get? workspaceId = some limit) (positive : 0 < limit) :
    s.limitOf workspaceId = some limit.toNat := by
  simp [limitOf, there, positive]

theorem limitOf_congr (same : s'.limits = s.limits) : s'.limitOf = s.limitOf := by
  funext workspaceId
  rw [limitOf, limitOf, same]

theorem Moves.refl : s.Moves s := ⟨rfl, fun _ _ => id, fun _ => Finset.Subset.refl _⟩

theorem Recorded.of_eq {w : Uuid} {workspaceId : Option String}
    (recorded : s.Recorded w workspaceId)
    (limits : s'.limits = s.limits) (workflows : s'.workflows.get? w = s.workflows.get? w) :
    s'.Recorded w workspaceId where
  known := by
    rw [workflows]
    exact recorded.known
  named own n here bound := by
    rw [limitOf_congr limits] at bound
    rw [ownWorkspace, workflows] at here
    exact recorded.named own n here bound

section

variable (sound : s.Sound)
include sound

theorem Sound.withinLimits (within : Within s.limitOf s.active) :
    s.WithinLimits := by
  intro workspaceId limit there positive
  have bound := limitOf_eq_some there positive
  have counted : s.activeOf workspaceId ⊆ s.active workspaceId := by
    intro r mem
    obtain ⟨row, stored, is⟩ := Dict.mem_keysWhere.mp mem
    simp only [Bool.and_eq_true, Bool.or_eq_true, decide_eq_true_eq] at is
    obtain ⟨here | own, busy⟩ := is
    · exact mem_active.mpr ⟨row, stored, here, busy⟩
    · exact mem_active.mpr ⟨row, stored, (sound.recorded r row stored).named _ _ own bound, busy⟩
  have most := (Finset.card_le_card counted).trans (within workspaceId _ bound)
  omega

theorem Sound.moved {t : RunTable} (moved : s.runs.Moved t) :
    Sound { s with runs := t } ∧ s.Moves { s with runs := t } := by
  have back {r : Uuid} {row' : RunRow} (there' : t.get? r = some row') :
      ∃ row, s.runs.get? r = some row ∧ row'.Agrees ∧ row.Evolves row' := by
    cases there : s.runs.get? r with
    | none =>
      rw [moved.none r there] at there'
      cases there'
    | some row =>
      obtain ⟨row'', there'', evolved⟩ := moved.some r row there
      rw [there', Option.some.injEq] at there''
      subst there''
      exact ⟨row, rfl, evolved⟩
  refine ⟨⟨?_, ?_, ?_⟩, rfl, fun w workspaceId recorded => recorded.of_eq rfl rfl, ?_⟩
  · intro r row' there'
    obtain ⟨_, _, agrees, _⟩ := back there'
    exact agrees
  · intro r workspaceId here
    obtain ⟨row, there⟩ := sound.stored r workspaceId here
    obtain ⟨row', there', _⟩ := moved.some r row there
    exact ⟨row', there'⟩
  · intro r row' there'
    obtain ⟨row, there, _, evolved⟩ := back there'
    rw [evolved.workflowId]
    exact (sound.recorded r row there).of_eq rfl rfl
  · intro workspaceId r mem
    obtain ⟨row', there', here, busy⟩ := mem_active.mp mem
    obtain ⟨row, there, _, evolved⟩ := back there'
    refine mem_active.mpr ⟨row, there, here, ?_⟩
    cases idle : row.status.isActive with
    | true => rfl
    | false =>
      rw [evolved.inactive idle] at busy
      cases busy

theorem Sound.of_workflows {workflows : Dict Uuid WorkflowScope}
    (kept : ∀ w scope, s.workflows.get? w = some scope → ∃ scope', workflows.get? w = some scope' ∧
      scope'.workspaceId = scope.workspaceId) :
    Sound { s with workflows := workflows } ∧ s.Moves { s with workflows := workflows } := by
  have recorded (w : Uuid) (workspaceId : Option String) (recorded : s.Recorded w workspaceId) :
      Recorded { s with workflows := workflows } w workspaceId := by
    obtain ⟨scope, there⟩ := recorded.known
    obtain ⟨scope', there', same⟩ := kept w scope there
    refine ⟨⟨scope', there'⟩, ?_⟩
    intro own n here bound
    apply recorded.named own n _ bound
    simpa [ownWorkspace, there, there', same] using here
  exact ⟨⟨sound.agrees, sound.stored, fun r row there => recorded _ _ (sound.recorded r row there)⟩,
    rfl, recorded, fun _ => Finset.Subset.refl _⟩

theorem Sound.step (op : StoreOp) : (s.step op).Sound ∧ s.Moves (s.step op) := by
  cases op with
  | createWorkflow w workspaceId =>
    rw [RunStore.step]
    split
    case isTrue absent =>
      apply sound.of_workflows
      intro w' scope there
      rw [Dict.get?_set]
      split
      case isTrue same =>
        rw [same, absent] at there
        cases there
      case isFalse => exact ⟨scope, there, rfl⟩
    case isFalse => exact ⟨sound, Moves.refl⟩
  | archiveWorkflow w isArchived =>
    rw [RunStore.step]
    cases stored : s.workflows.get? w with
    | none => exact ⟨sound, Moves.refl⟩
    | some old =>
      apply sound.of_workflows
      intro w' scope there
      rw [Dict.get?_set]
      split
      case isTrue same =>
        rw [same, stored, Option.some.injEq] at there
        subst there
        exact ⟨_, rfl, rfl⟩
      case isFalse => exact ⟨scope, there, rfl⟩
  | createVersion version w =>
    rw [RunStore.step]
    split
    case isTrue =>
      have recorded (w : Uuid) (workspaceId : Option String) (recorded : s.Recorded w workspaceId) :
          Recorded { s with versions := s.versions.set version w } w workspaceId :=
        recorded.of_eq rfl rfl
      refine ⟨⟨sound.agrees, sound.stored, ?_⟩, rfl, fun _ _ recorded => recorded.of_eq rfl rfl,
        fun _ => Finset.Subset.refl _⟩
      intro r row there
      exact (sound.recorded r row there).of_eq rfl rfl
    case isFalse => exact ⟨sound, Moves.refl⟩
  | markRun r actor m c => exact sound.moved (RunTable.moved_markRun sound.agrees r actor m c)
  | markRunCancelled r actor reason c =>
    have other : (RunOp.markRunCancelled r actor reason c).creates = false := rfl
    exact sound.moved (RunTable.moved_step sound.agrees other)

theorem Sound.insert {r : Uuid} {row : RunRow} {workspaceId : Option String}
    (fresh : s.runs.get? r = none) (agrees : row.Agrees)
    (recorded : s.Recorded row.payload.workflowId workspaceId) :
    (s.insert r row workspaceId).Sound ∧
      (∀ w ws, s.Recorded w ws → (s.insert r row workspaceId).Recorded w ws) ∧
      ∀ ws, (s.insert r row workspaceId).active ws ⊆
        if workspaceId = some ws then Insert.insert r (s.active ws) else s.active ws := by
  have unnamed : s.runWorkspaces.get? r = none := by
    cases here : s.runWorkspaces.get? r with
    | none => rfl
    | some ws =>
      obtain ⟨row, there⟩ := sound.stored r ws here
      rw [fresh] at there
      cases there
  have named (r' : Uuid) : (s.insert r row workspaceId).runWorkspaces.get? r' =
      if r' = r then workspaceId else s.runWorkspaces.get? r' := by
    cases workspaceId with
    | none =>
      split
      case isTrue same => rw [same]; exact unnamed
      case isFalse => rfl
    | some ws => exact Dict.get?_set ..
  have rows (r' : Uuid) : (s.insert r row workspaceId).runs.get? r' =
      if r' = r then some row else s.runs.get? r' := Dict.get?_set ..
  refine ⟨⟨?_, ?_, ?_⟩, fun w ws recorded => recorded.of_eq rfl rfl, ?_⟩
  · intro r' row' there
    rw [rows] at there
    split at there
    case isTrue =>
      cases there
      exact agrees
    case isFalse => exact sound.agrees r' row' there
  · intro r' ws here
    rw [named] at here
    rw [rows]
    split at here
    case isTrue same => exact ⟨row, if_pos same⟩
    case isFalse other =>
      rw [if_neg other]
      exact sound.stored r' ws here
  · intro r' row' there
    rw [rows] at there
    rw [named]
    split at there
    case isTrue same =>
      cases there
      rw [if_pos same]
      exact recorded.of_eq rfl rfl
    case isFalse other =>
      rw [if_neg other]
      exact (sound.recorded r' row' there).of_eq rfl rfl
  · intro ws r' mem
    obtain ⟨row', there, here, busy⟩ := mem_active.mp mem
    rw [rows] at there
    rw [named] at here
    by_cases same : r' = r
    · rw [if_pos same] at here
      rw [if_pos here, same]
      exact Finset.mem_insert_self ..
    · rw [if_neg same] at there here
      have old := mem_active.mpr ⟨row', there, here, busy⟩
      split
      case isTrue => exact Finset.mem_insert_of_mem old
      case isFalse => exact old

end

end RunStore

theorem Creator.names_own {creator : Creator} {own : String} {workspaceId : Option String}
    (other : creator ≠ .chatkitTrigger)
    (called : creator.workspaceId (some own) = .ok workspaceId) :
    workspaceId = some own := by
  have given {w : String} (h : (if (some own).all (· == w) then Except.ok (some w)
      else .error CreationError.workflowNotFound) = .ok workspaceId) : workspaceId = some own := by
    split at h
    case isTrue same =>
      cases h
      have same : own = w := by simpa using same
      rw [same]
    case isFalse => cases h
  cases creator with
  | api w => exact given called
  | executor w =>
    cases w with
    | none => exact (Except.ok.inj called).symm
    | some w => exact given called
  | chatkitTrigger => exact absurd rfl other
  | _ => exact (Except.ok.inj called).symm

namespace RunStore

variable {s s' : RunStore}

def NamesWorkspace (s : RunStore) (q : RunRequest) : Prop :=
  q.creator = .chatkitTrigger → ∀ own, s.ownWorkspace q.workflowId = some own →
    s.limitOf own = none

theorem recorded_of_admission {q : RunRequest} {scope : Option (String × Int)}
    (names : s.NamesWorkspace q) (admitted : s.admission q = .ok scope) :
    s.Recorded q.workflowId (scope.map Prod.fst) ∧
      ∀ e ∈ scope, s.limits.get? e.1 = some e.2 := by
  unfold admission at admitted
  cases there : s.workflows.get? q.workflowId with
  | none =>
    rw [there] at admitted
    cases admitted
  | some workflow =>
    have own : s.ownWorkspace q.workflowId = workflow.workspaceId := by simp [ownWorkspace, there]
    rw [there] at admitted
    dsimp only at admitted
    cases called : q.creator.workspaceId workflow.workspaceId with
    | error e =>
      rw [called] at admitted
      cases admitted
    | ok workspaceId =>
      have named : ∀ own n, workflow.workspaceId = some own → s.limitOf own = some n →
          workspaceId = some own := by
        intro here n is bound
        apply Creator.names_own _ (is ▸ called)
        intro creator
        rw [names creator here (own.trans is)] at bound
        cases bound
      simp only [called] at admitted
      repeat (split at admitted; · cases admitted)
      cases workspaceId with
      | none =>
        cases admitted
        exact ⟨⟨⟨workflow, there⟩, fun o n is bound => named o n (own.symm.trans is) bound⟩,
          by simp⟩
      | some workspaceId =>
        cases limit : s.limits.get? workspaceId with
        | none => simp [limit] at admitted
        | some limit =>
          simp only [limit, Except.ok.injEq] at admitted
          subst admitted
          exact ⟨⟨⟨workflow, there⟩, fun o n is bound => named o n (own.symm.trans is) bound⟩,
            by simpa using limit⟩

def Room (s : RunStore) (workspaceId : Option String) : Prop :=
  ∀ w n, workspaceId = some w → s.limitOf w = some n → (s.active w).card < n

theorem room_of_capacity {workspaceId : String} {limit : Int}
    (there : s.limits.get? workspaceId = some limit)
    (h : ensureConcurrentRunCapacity (s.active workspaceId).card limit = .ok ()) :
    s.Room (some workspaceId) := by
  rintro _ n ⟨⟩ bound
  have positive : 0 < limit := by
    by_contra negative
    simp [limitOf, there, negative] at bound
  rw [limitOf_eq_some there positive, Option.some.injEq] at bound
  unfold ensureConcurrentRunCapacity at h
  split at h
  case isTrue below => omega
  case isFalse => cases h

theorem Sound.admits (sound : s.Sound) {r : Uuid} {row : RunRow} {workspaceId : Option String}
    (fresh : s.runs.get? r = none) (agrees : row.Agrees)
    (recorded : s.Recorded row.payload.workflowId workspaceId) (room : s.Room workspaceId) :
    Admits s.limitOf s.active (s.insert r row workspaceId).active := by
  intro w
  have grown := (sound.insert fresh agrees recorded).2.2 w
  split at grown
  case isTrue here => exact Or.inr ⟨r, grown, fun n bound => room w n here bound⟩
  case isFalse => exact Or.inl grown

end RunStore

theorem RunRequest.agrees_row (q : RunRequest) (workspaceId : Option String) (c : Readings) :
    (q.row workspaceId c).Agrees := rfl

def Registers (layer : TriggerLayer) (q : RunRequest) : Prop :=
  q.triggeredBy = "cron" →
    (layer.cronStates.get? q.workflowId).all (fun state => state.canDispatch) = true

theorem registerRun_ok {layer : TriggerLayer} {q : RunRequest} (registers : Registers layer q)
    (r : Uuid) (now : Instant) : (registerRun layer q r now).2 = .ok () := by
  unfold registerRun
  dsimp only
  split
  case isFalse => rfl
  case isTrue cron =>
    have tracked : (layer.trackRun q.workflowId r now).runWorkflows.get? r =
        some q.workflowId := by
      rw [TriggerLayer.trackRun, TriggerLayer.maybeCleanupStates]
      split <;> simp [TriggerLayer.cleanupCompletedWorkflows]
    have kept : (layer.trackRun q.workflowId r now).cronStates = layer.cronStates := by
      rw [TriggerLayer.trackRun, TriggerLayer.maybeCleanupStates]
      split <;> rfl
    have free := registers cron
    rw [TriggerLayer.registerCronRun, tracked, kept]
    dsimp only
    cases stored : layer.cronStates.get? q.workflowId with
    | none => rfl
    | some state =>
      rw [stored] at free
      have free : state.canDispatch = true := by simpa using free
      simp [Triggers.CronTriggerState.registerRun, free]

namespace InMemoryRuns

variable {s : InMemoryRuns} {rt : WebhookRuntime} {cal : Calendar}

def raises (s : InMemoryRuns) : InMemoryRunsOp → Option CreationError
  | .createRun r q c => if s.store.runs.get? r = none then (match (s.createRun r q c).2 with
    | .error e => some e
    | .ok () => none) else none
  | _ => none

/-- The trigger of ChatKit creates no run in a limited workspace, and no run calls itself a cron
run against its workflow's schedule. -/
def Named (s : InMemoryRuns) : InMemoryRunsOp → Prop
  | .createRun _ q _ => s.store.NamesWorkspace q ∧ Registers s.layer q
  | _ => True

theorem countActiveRunsLocked_eq {s : RunStore} (sound : s.Sound) (workspaceId : String) :
    countActiveRunsLocked s workspaceId = (s.active workspaceId).card := by
  rw [countActiveRunsLocked, ← Dict.card_keysWhere s.runWorkspaces (fun r w =>
    decide (w = workspaceId) && (s.runs.get? r).any (fun row => !row.payload.status.isTerminal))]
  congr 1
  ext r
  rw [Dict.mem_keysWhere, RunStore.mem_active]
  constructor
  · rintro ⟨w, here, is⟩
    obtain ⟨row, there⟩ := sound.stored r w here
    simp only [Bool.and_eq_true, decide_eq_true_eq, there, Option.any_some] at is
    obtain ⟨rfl, busy⟩ := is
    refine ⟨row, there, here, ?_⟩
    rw [sound.agrees r row there, WorkflowRunStatus.isActive_eq]
    exact busy
  · rintro ⟨row, there, here, busy⟩
    rw [sound.agrees r row there, WorkflowRunStatus.isActive_eq] at busy
    exact ⟨workspaceId, here, by simpa [there] using busy⟩

theorem room_of_ensureCapacity {s : RunStore} (sound : s.Sound) {scope : Option (String × Int)}
    (limits : ∀ e ∈ scope, s.limits.get? e.1 = some e.2) (h : ensureCapacity s scope = .ok ()) :
    s.Room (scope.map Prod.fst) := by
  cases scope with
  | none =>
    intro w n is
    cases is
  | some e =>
    obtain ⟨workspaceId, limit⟩ := e
    rw [ensureCapacity, countActiveRunsLocked_eq sound] at h
    exact RunStore.room_of_capacity (limits _ rfl) h

theorem createRun_spec (sound : s.store.Sound) {r : Uuid} {q : RunRequest} {c : Readings}
    (named : s.Named (.createRun r q c)) :
    ((s.createRun r q c).1 = s) ∨ (s.createRun r q c).2 = .ok () ∧ ∃ row workspaceId,
      (s.createRun r q c).1.store = s.store.insert r row workspaceId ∧ row.Agrees ∧
      s.store.Recorded row.payload.workflowId workspaceId ∧ s.store.Room workspaceId := by
  unfold createRun
  cases admitted : s.store.admission q with
  | error e => exact Or.inl rfl
  | ok scope =>
    obtain ⟨recorded, limits⟩ := RunStore.recorded_of_admission named.1 admitted
    dsimp only
    cases checked : ensureCapacity s.store scope with
    | error e => exact Or.inl rfl
    | ok =>
      have registered := registerRun_ok named.2 r c.utcnow
      exact Or.inr ⟨registered, _, _, rfl, q.agrees_row _ c, recorded,
        room_of_ensureCapacity sound limits checked⟩

theorem step_spec (sound : s.store.Sound) (op : InMemoryRunsOp) (named : s.Named op) :
    (s.step rt cal op).store.Sound ∧
      (s.step rt cal op).store.limitOf = s.store.limitOf ∧
      Admits s.store.limitOf s.store.active (s.step rt cal op).store.active := by
  cases op with
  | store op =>
    obtain ⟨sound', moves⟩ := sound.step op
    exact ⟨sound', RunStore.limitOf_congr moves.limits, Admits.of_subset moves.active⟩
  | onLayer op => exact ⟨sound, rfl, Admits.refl⟩
  | createRun r q c =>
    rw [InMemoryRuns.step]
    split
    case isFalse => exact ⟨sound, rfl, Admits.refl⟩
    case isTrue fresh =>
      cases createRun_spec sound named with
      | inl same =>
        rw [same]
        exact ⟨sound, rfl, Admits.refl⟩
      | inr created =>
        obtain ⟨-, row, workspaceId, stored, agrees, recorded, room⟩ := created
        rw [stored]
        exact ⟨(sound.insert fresh agrees recorded).1, rfl,
          sound.admits fresh agrees recorded room⟩

theorem unchanged_of_raises (sound : s.store.Sound) (op : InMemoryRunsOp) (named : s.Named op)
    (raised : s.raises op ≠ none) : (s.step rt cal op).store = s.store := by
  cases op with
  | store op => exact absurd rfl raised
  | onLayer op => exact absurd rfl raised
  | createRun r q c =>
    rw [InMemoryRuns.step]
    split
    case isFalse => rfl
    case isTrue fresh =>
      cases createRun_spec sound named with
      | inl same => rw [same]
      | inr created =>
        rw [raises, if_pos fresh, created.1] at raised
        exact absurd rfl raised

end InMemoryRuns

namespace PostgresRuns

variable {P : Type u} [DecidableEq P] {s : PostgresRuns P} {rt : WebhookRuntime} {cal : Calendar}

def raises (s : PostgresRuns P) : PostgresRunsOp P → Option CreationError
  | .begin p q => match (s.begin p q).2 with
    | .error e => some e
    | .ok () => none
  | .ensureCapacity p => match (s.ensureCapacity p).2 with
    | .error e => some e
    | .ok () => none
  | .commit p now => match (s.commit p now).2 with
    | .error e => some e
    | .ok () => none
  | .rollback _ => some .rolledBack
  | _ => none

def Named (s : PostgresRuns P) : PostgresRunsOp P → Prop
  | .begin _ q => s.store.NamesWorkspace q
  | .commit p _ => match s.stages p with
    | .inserted q _ _ _ => Registers (s.layers p) q
    | _ => True
  | _ => True

theorem countActiveRuns_eq (s : RunStore) (workspaceId : String) :
    countActiveRuns s workspaceId = (s.active workspaceId).card := by
  rw [RunStore.active, Dict.card_keysWhere]
  rfl

variable (p : P)

@[simp] theorem stages_setStage_self (stage : CreationStage) :
    (s.setStage p stage).stages p = stage := Function.update_self ..

@[simp] theorem stages_setStage_of_ne {p q : P} (stage : CreationStage) (other : q ≠ p) :
    (s.setStage p stage).stages q = s.stages q := Function.update_of_ne other ..

@[simp] theorem stages_endTx_self : (s.endTx p).stages p = .idle :=
  Function.update_self ..

@[simp] theorem stages_endTx_of_ne {p q : P} (other : q ≠ p) :
    (s.endTx p).stages q = s.stages q := Function.update_of_ne other ..

theorem store_begin (q : RunRequest) : (s.begin p q).1.store = s.store := by
  unfold PostgresRuns.begin
  split
  case h_2 => rfl
  case h_1 => split <;> rfl

theorem store_lock : (s.lock p).store = s.store := by
  unfold PostgresRuns.lock
  split
  case h_2 => rfl
  case h_1 => split <;> rfl

theorem store_ensureCapacity : (s.ensureCapacity p).1.store = s.store := by
  unfold PostgresRuns.ensureCapacity
  split
  case h_2 => rfl
  case h_1 => split <;> rfl

theorem store_insert (r : Uuid) (c : Readings) : (s.insert p r c).store = s.store := by
  unfold PostgresRuns.insert
  split <;> rfl

def StageSound (s : RunStore) : CreationStage → Prop
  | .idle => True
  | .waiting q workspaceId limit => s.Recorded q.workflowId (some workspaceId) ∧
    s.limits.get? workspaceId = some limit
  | .locked q workspaceId limit => s.Recorded q.workflowId (some workspaceId) ∧
    s.limits.get? workspaceId = some limit
  | .ready q workspaceId => s.Recorded q.workflowId workspaceId ∧ s.Room workspaceId
  | .inserted q workspaceId _ row => s.Recorded q.workflowId workspaceId ∧ s.Room workspaceId ∧
    row.Agrees ∧ row.payload.workflowId = q.workflowId

/-- The lock of a workspace is held by the one process that checks and inserts there. -/
structure Sound (s : PostgresRuns P) : Prop where
  store : s.store.Sound
  locks : ∀ p w, (s.stages p).holds = some w → s.locks.get? w = some p
  stages : ∀ p, StageSound s.store (s.stages p)

theorem StageSound.mono {s s' : RunStore} {stage : CreationStage} (sound : StageSound s stage)
    (limits : s'.limits = s.limits)
    (recorded : ∀ w workspaceId, s.Recorded w workspaceId → s'.Recorded w workspaceId)
    (active : ∀ w, stage.holds = some w → s'.active w ⊆ s.active w) : StageSound s' stage := by
  have room {workspaceId : Option String} (holds : stage.holds = workspaceId)
      (room : s.Room workspaceId) : s'.Room workspaceId := by
    intro w n is bound
    rw [RunStore.limitOf_congr limits] at bound
    exact (Finset.card_le_card (active w (holds.trans is))).trans_lt (room w n is bound)
  cases stage with
  | idle => trivial
  | waiting q w limit => exact ⟨recorded _ _ sound.1, limits ▸ sound.2⟩
  | locked q w limit => exact ⟨recorded _ _ sound.1, limits ▸ sound.2⟩
  | ready q w => exact ⟨recorded _ _ sound.1, room rfl sound.2⟩
  | inserted q w r row => exact ⟨recorded _ _ sound.1, room rfl sound.2.1, sound.2.2⟩

section

variable (sound : s.Sound)
include sound

omit [DecidableEq P] in
theorem Sound.of_moves {store : RunStore} (sound' : store.Sound)
    (moves : s.store.Moves store) : Sound { s with store := store } where
  store := sound'
  locks := sound.locks
  stages p := (sound.stages p).mono moves.limits moves.recorded (fun w _ => moves.active w)

theorem Sound.setStage (p : P) {stage : CreationStage}
    (holds : ∀ w, stage.holds = some w → s.locks.get? w = some p)
    (known : StageSound s.store stage) : (s.setStage p stage).Sound where
  store := sound.store
  locks q w held := by
    by_cases same : q = p
    · rw [same, stages_setStage_self] at held
      rw [same]
      exact holds w held
    · rw [stages_setStage_of_ne _ same] at held
      exact sound.locks q w held
  stages q := by
    by_cases same : q = p
    · rw [same, stages_setStage_self]
      exact known
    · rw [stages_setStage_of_ne _ same]
      exact sound.stages q

theorem Sound.endTx (p : P) : (s.endTx p).Sound where
  store := sound.store
  locks q w held := by
    by_cases same : q = p
    · rw [same, stages_endTx_self] at held
      cases held
    · rw [stages_endTx_of_ne same] at held
      have mine := sound.locks q w held
      rw [PostgresRuns.endTx]
      cases given : (s.stages p).holds with
      | none => exact mine
      | some w' =>
        have his := sound.locks p w' given
        dsimp only
        rw [Dict.get?_erase, if_neg]
        · exact mine
        · intro here
          rw [here, his, Option.some.injEq] at mine
          exact same mine.symm
  stages q := by
    by_cases same : q = p
    · rw [same, stages_endTx_self]
      trivial
    · rw [stages_endTx_of_ne same]
      exact sound.stages q

theorem Sound.begin {p : P} {q : RunRequest} (names : s.store.NamesWorkspace q) :
    (s.begin p q).1.Sound := by
  unfold PostgresRuns.begin
  split
  case h_2 => exact sound
  case h_1 =>
    cases admitted : s.store.admission q with
    | error e => exact sound
    | ok scope =>
      obtain ⟨recorded, limits⟩ := RunStore.recorded_of_admission names admitted
      cases scope with
      | none =>
        have here : StageSound s.store (.ready q none) := ⟨recorded, nofun⟩
        apply sound.setStage p _ here
        intro w held
        cases held
      | some e =>
        have here : StageSound s.store (.waiting q e.1 e.2) := ⟨recorded, limits e rfl⟩
        apply sound.setStage p _ here
        intro w held
        cases held

theorem Sound.lock (p : P) : (s.lock p).Sound := by
  unfold PostgresRuns.lock
  split
  case h_2 => exact sound
  case h_1 q workspaceId limit stage =>
    have known := sound.stages p
    rw [stage] at known
    split
    case isFalse => exact sound
    case isTrue free =>
      have mine : Sound { s with locks := s.locks.set workspaceId p } := by
        refine ⟨sound.store, ?_, sound.stages⟩
        intro q w held
        have his := sound.locks q w held
        rw [Dict.get?_set, if_neg]
        · exact his
        · intro here
          rw [here, free] at his
          cases his
      have here : StageSound s.store (.locked q workspaceId limit) := known
      have held : ∀ w, some workspaceId = some w →
          (s.locks.set workspaceId p).get? w = some p := by
        rintro _ ⟨⟩
        exact (Dict.get?_set ..).trans (if_pos rfl)
      exact mine.setStage p held here

theorem Sound.ensureCapacity (p : P) : (s.ensureCapacity p).1.Sound := by
  unfold PostgresRuns.ensureCapacity
  split
  case h_2 => exact sound
  case h_1 q workspaceId limit stage =>
    have known := sound.stages p
    rw [stage] at known
    rw [countActiveRuns_eq]
    split
    case h_1 => exact sound.endTx p
    case h_2 checked =>
      have passed : StageSound s.store (.ready q (some workspaceId)) :=
        ⟨known.1, RunStore.room_of_capacity known.2 checked⟩
      apply sound.setStage p _ passed
      intro w held
      apply sound.locks p w
      rw [stage]
      exact held

theorem Sound.insert (p : P) (r : Uuid) (c : Readings) : (s.insert p r c).Sound := by
  unfold PostgresRuns.insert
  split
  case h_2 => exact sound
  case h_1 q workspaceId stage =>
    have known := sound.stages p
    rw [stage] at known
    have written : StageSound s.store (.inserted q workspaceId r (q.row workspaceId c)) :=
      ⟨known.1, known.2, q.agrees_row workspaceId c, rfl⟩
    apply sound.setStage p _ written
    intro w held
    apply sound.locks p w
    rw [stage]
    exact held

theorem Sound.commit (p : P) (now : Instant) :
    (s.commit p now).1.Sound ∧ (s.commit p now).1.store.limits = s.store.limits ∧
      Admits s.store.limitOf s.store.active (s.commit p now).1.store.active := by
  unfold PostgresRuns.commit
  split
  case h_2 => exact ⟨sound, rfl, Admits.refl⟩
  case h_1 q workspaceId r row stage =>
    have known := sound.stages p
    rw [stage] at known
    obtain ⟨recorded, room, agrees, here⟩ := known
    rw [← here] at recorded
    split
    case isFalse => exact ⟨sound.endTx p, rfl, Admits.refl⟩
    case isTrue fresh =>
      obtain ⟨store, later, grown⟩ := sound.store.insert fresh agrees recorded
      refine ⟨⟨store, (sound.endTx p).locks, ?_⟩, rfl,
        sound.store.admits fresh agrees recorded room⟩
      intro p'
      change StageSound (s.store.insert r row workspaceId) ((s.endTx p).stages p')
      have others : StageSound s.store ((s.endTx p).stages p') := (sound.endTx p).stages p'
      refine others.mono rfl later ?_
      intro w held
      have elsewhere : workspaceId ≠ some w := by
        rintro rfl
        by_cases same : p' = p
        · rw [same, stages_endTx_self] at held
          cases held
        · rw [stages_endTx_of_ne same] at held
          have his := sound.locks p' w held
          have mine := sound.locks p w (by rw [stage]; rfl)
          rw [his, Option.some.injEq] at mine
          exact same mine
      have grown := grown w
      rw [if_neg elsewhere] at grown
      exact grown

end

omit [DecidableEq P] in
theorem Sound.kept {s' : PostgresRuns P} (sound : s'.Sound) (same : s'.store = s.store) :
    s'.Sound ∧ s'.store.limitOf = s.store.limitOf ∧
      Admits s.store.limitOf s.store.active s'.store.active := by
  refine ⟨sound, ?_⟩
  rw [same]
  exact ⟨rfl, Admits.refl⟩

theorem step_spec (sound : s.Sound) (op : PostgresRunsOp P) (named : s.Named op) :
    (s.step rt cal op).Sound ∧ (s.step rt cal op).store.limitOf = s.store.limitOf ∧
      Admits s.store.limitOf s.store.active (s.step rt cal op).store.active := by
  cases op with
  | store op =>
    obtain ⟨sound', moves⟩ := sound.store.step op
    exact ⟨sound.of_moves sound' moves, RunStore.limitOf_congr moves.limits,
      Admits.of_subset moves.active⟩
  | onRuns op =>
    rw [PostgresRuns.step]
    split
    case isTrue => exact ⟨sound, rfl, Admits.refl⟩
    case isFalse other =>
      obtain ⟨sound', moves⟩ := sound.store.moved
        (RunTable.moved_step sound.store.agrees (eq_false_of_ne_true other))
      exact ⟨sound.of_moves sound' moves, rfl, Admits.of_subset moves.active⟩
  | onLayer p op => exact ⟨⟨sound.store, sound.locks, sound.stages⟩, rfl, Admits.refl⟩
  | begin p q => exact (sound.begin named).kept (store_begin p q)
  | lock p => exact (sound.lock p).kept (store_lock p)
  | ensureCapacity p => exact (sound.ensureCapacity p).kept (store_ensureCapacity p)
  | insert p r c => exact (sound.insert p r c).kept (store_insert p r c)
  | commit p now =>
    obtain ⟨sound', limits, admits⟩ := sound.commit p now
    exact ⟨sound', RunStore.limitOf_congr limits, admits⟩
  | rollback p => exact ⟨sound.endTx p, rfl, Admits.refl⟩

theorem unchanged_of_raises (op : PostgresRunsOp P) (named : s.Named op)
    (raised : s.raises op ≠ none) : (s.step rt cal op).store = s.store := by
  cases op with
  | begin p q => exact store_begin p q
  | ensureCapacity p => exact store_ensureCapacity p
  | rollback p => rfl
  | commit p now =>
    rw [PostgresRuns.step]
    unfold raises PostgresRuns.commit at raised
    unfold PostgresRuns.commit
    cases stage : s.stages p with
    | inserted q workspaceId r row =>
      simp only [stage] at raised ⊢
      by_cases fresh : s.store.runs.get? r = none
      · simp only [Named, stage] at named
        simp [fresh, registerRun_ok named] at raised
      · rw [if_neg fresh]
        rfl
    | _ => rfl
  | _ => exact absurd rfl raised

end PostgresRuns

open PostgresRuns (step step_spec)

/-- In both stores, over every interleaving: where ChatKit's trigger creates no run in a workspace
with a limit, and no run calls itself a cron run against its workflow's schedule, no workspace
ever has more pending or running runs than its limit, and a creation that fails leaves the store as
it was. -/
theorem run_quota {P : Type u} [DecidableEq P] (rt : WebhookRuntime) (cal : Calendar)
    (limits : Dict String Int) :
    (∀ ops, AllSteps (InMemoryRuns.step rt cal) InMemoryRuns.Named
        { store := { limits := limits } } ops →
      Always (InMemoryRuns.step rt cal) (fun s => s.store.WithinLimits)
        { store := { limits := limits } } ops ∧
      AllSteps (InMemoryRuns.step rt cal)
        (fun s op => s.raises op ≠ none → (s.step rt cal op).store = s.store)
        { store := { limits := limits } } ops) ∧
    ∀ ops, AllSteps (step rt cal) PostgresRuns.Named
        ({ store := { limits := limits } } : PostgresRuns P) ops →
      Always (step rt cal) (fun s => s.store.WithinLimits)
        { store := { limits := limits } } ops ∧
      AllSteps (step rt cal)
        (fun s op => s.raises op ≠ none → (s.step rt cal op).store = s.store)
        { store := { limits := limits } } ops := by
  have empty : RunStore.Sound { limits := limits } := by
    refine ⟨?_, ?_, ?_⟩
    · intro r row there
      simp at there
    · intro r w here
      simp at here
    · intro r row there
      simp at there
  have within : Within (RunStore.limitOf { limits := limits })
      (RunStore.active { limits := limits }) := by
    intro w n _
    have none_ : RunStore.active { limits := limits } w = ∅ := rfl
    rw [none_]
    exact Nat.zero_le n
  constructor
  · intro ops named
    constructor
    · apply (named.within (fun s => s.store.active) (fun s => s.store.limitOf)
        (I := fun s => s.store.Sound)
        (fun s op sound named => InMemoryRuns.step_spec sound op named) empty within).mono
      rintro s ⟨sound, within⟩
      exact sound.withinLimits within
    · exact named.of_invariant (P := fun s => s.store.Sound) (fun s op sound named =>
        ⟨(InMemoryRuns.step_spec sound op named).1,
          InMemoryRuns.unchanged_of_raises sound op named⟩) empty
  · intro ops named
    have sound : PostgresRuns.Sound ({ store := { limits := limits } } : PostgresRuns P) :=
      ⟨empty, nofun, fun _ => trivial⟩
    constructor
    · apply (named.within (fun s => s.store.active) (fun s => s.store.limitOf)
        (I := PostgresRuns.Sound)
        (fun s op sound named => step_spec sound op named) sound within).mono
      rintro s ⟨sound, within⟩
      exact sound.store.withinLimits within
    · exact named.of_invariant (P := PostgresRuns.Sound) (fun s op sound named =>
        ⟨(step_spec sound op named).1,
          PostgresRuns.unchanged_of_raises op named⟩) sound

theorem run_quota_third_refused :
    let q : RunRequest :=
      { creator := .api "acme", workflowId := 1, workflowVersionId := 2, triggeredBy := "api" }
    let c : Readings := { utcnow := 0, recordedAt := 0, heartbeatAt := 0, leaseFrom := 0 }
    let inMemory : List InMemoryRunsOp :=
      [.store (.createWorkflow 1 (some "acme")), .store (.createVersion 2 1), .createRun 3 q c,
        .createRun 4 q c, .createRun 5 q c, .store (.markRunCancelled 3 "api" none c),
        .createRun 6 q c]
    let uncommitted : List (PostgresRunsOp Bool) :=
      [.store (.createWorkflow 1 (some "acme")), .store (.createVersion 2 1), .begin true q,
        .begin false q, .lock false, .ensureCapacity false, .lock true, .insert false 3 c,
        .rollback false, .lock true, .ensureCapacity true, .insert true 4 c]
    Always (InMemoryRuns.step .ascii .hourly) (fun s => s.store.WithinLimits)
      { store := { limits := Dict.empty.set "acme" 2 } } inMemory ∧
    Always (step .ascii .hourly) (fun s => s.store.WithinLimits)
      { store := { limits := Dict.empty.set "acme" 2 } } (uncommitted ++ [.commit true 0]) := by
  intro q c inMemory uncommitted
  have named (s : RunStore) : s.NamesWorkspace q := fun h => by cases h
  have registers (layer : TriggerLayer) : Registers layer q := fun h => absurd h (by decide)
  have quota := run_quota (P := Bool) .ascii .hourly (Dict.empty.set "acme" 2)
  constructor
  · apply (quota.1 inMemory _).1
    exact ⟨trivial, trivial, ⟨named _, registers _⟩, ⟨named _, registers _⟩,
      ⟨named _, registers _⟩, trivial, ⟨named _, registers _⟩, trivial⟩
  · apply (quota.2 _ (Lib.allSteps_snoc.mpr ⟨_, _⟩)).1
    · exact ⟨trivial, trivial, named _, named _, trivial, trivial, trivial, trivial, trivial,
        trivial, trivial, trivial, trivial⟩
    · have stage : (uncommitted.foldl (step .ascii .hourly)
          { store := { limits := Dict.empty.set "acme" 2 } }).stages true =
            .inserted q (some "acme") 4 (q.row (some "acme") c) := by decide
      rw [PostgresRuns.Named, stage]
      exact registers _

theorem chatkit_runs_uncounted : ¬ ∀ (rt : WebhookRuntime) (cal : Calendar)
    (limits : Dict String Int) (ops : List InMemoryRunsOp),
    Always (InMemoryRuns.step rt cal) (fun s => s.store.WithinLimits)
      { store := { limits := limits } } ops := by
  intro always
  let q : RunRequest :=
    { creator := .chatkitTrigger, workflowId := 1, workflowVersionId := 2,
      triggeredBy := "chatkit" }
  let c : Readings := { utcnow := 0, recordedAt := 0, heartbeatAt := 0, leaseFrom := 0 }
  have last := (always .ascii .hourly (Dict.empty.set "acme" 1)
    [.store (.createWorkflow 1 (some "acme")), .store (.createVersion 2 1), .createRun 3 q c,
      .createRun 4 q c]).last
  exact absurd (last "acme" 1 (by decide) (by decide)) (by decide)

end Orcheo.Repository
