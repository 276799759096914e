import Orcheo.Defs.Listeners.Compile
import Orcheo.Defs.Listeners.Lease

/-! Which versions of a workflow listen, over any creations of versions and any pausing and
resuming of subscriptions. -/

namespace Orcheo.Listeners

open Lib (Dict Always AllSteps always_iff_allSteps_of_allowed)
open Compile
open CompiledSubscription (id idText version_of_idText)

structure VersionedListeners where
  workflows : List Uuid
  versions : Dict Uuid (Uuid × List (String × Json)) := ∅
  workflowVersions : Dict Uuid (List Uuid) := ∅
  listeners : ListenerStore := {}
  /-- the version that each workflow was last synced with -/
  synced : Dict Uuid Uuid := ∅

inductive ListeningOp
  | createVersion (workflowId version : Uuid) (graph : List (String × Json)) (createdBy : String)
      (now : Instant)
  | pause (subscriptionId : Uuid) (actor : String) (now : Instant)
  | resume (subscriptionId : Uuid) (actor : String) (now : Instant)

namespace VersionedListeners

section Operations

variable (rt : ListenerRuntime) (s : VersionedListeners)

def syncListenerSubscriptions (workflowId version : Uuid) (graph : List (String × Json))
    (actor : String) (now : Instant) : VersionedListeners :=
  match compileListenerSubscriptions rt workflowId version graph with
  | none => { s with
      listeners := s.listeners.disableListenerSubscriptions .inMemory workflowId actor now }
  | some cs => { s with
      listeners := s.listeners.syncListenerSubscriptions .inMemory workflowId actor
        (cs.map (fun c => (c.id rt, c.toSubscription rt))) now
      synced := s.synced.set workflowId version }

def createVersion (workflowId version : Uuid) (graph : List (String × Json)) (createdBy : String)
    (now : Instant) : VersionedListeners :=
  if s.workflows.contains workflowId then
    syncListenerSubscriptions rt { s with
      versions := s.versions.set version (workflowId, graph)
      workflowVersions := s.workflowVersions.set workflowId
        ((s.workflowVersions.get? workflowId).getD [] ++ [version]) }
      workflowId version graph createdBy now
  else s

def updateStatus (subscriptionId : Uuid) (status : ListenerSubscriptionStatus) (actor : String)
    (now : Instant) : VersionedListeners :=
  { s with listeners :=
      (s.listeners.updateListenerSubscriptionStatus subscriptionId status actor none now).1 }

def step (s : VersionedListeners) : ListeningOp → VersionedListeners
  | .createVersion workflowId version graph createdBy now =>
    s.createVersion rt workflowId version graph createdBy now
  | .pause subscriptionId actor now => s.updateStatus subscriptionId .paused actor now
  | .resume subscriptionId actor now => s.updateStatus subscriptionId .active actor now

end Operations

section Statements

variable (rt : ListenerRuntime) (s : VersionedListeners)

structure Subscribed (version : Uuid) (cs : List CompiledSubscription) : Prop where
  distinct : (cs.map (id rt)).Nodup
  stored : ∀ x, (∃ sub, s.listeners.subscriptions.get? x = some sub ∧
    sub.workflowVersionId = version) ↔ x ∈ cs.map (id rt)

structure Current : Prop where
  active : ∀ x sub, s.listeners.subscriptions.get? x = some sub → sub.status = .active →
    s.synced.get? sub.workflowId = some sub.workflowVersionId
  subscribed : ∀ w version, s.synced.get? w = some version → ∃ graph cs,
    s.versions.get? version = some (w, graph) ∧
      compileListenerSubscriptions rt w version graph = some cs ∧ s.Subscribed rt version cs

def Fresh (s : VersionedListeners) : ListeningOp → Prop
  | .createVersion _ version _ _ _ => s.versions.get? version = none
  | _ => True

/-- The items of a new version have different texts, and what is resumed belongs to the version
its workflow was last synced with. -/
def KeepsCurrent (s : VersionedListeners) : ListeningOp → Prop
  | .createVersion w version graph _ _ => w ∈ s.workflows →
    ∀ cs, compileListenerSubscriptions rt w version graph = some cs →
      (cs.map (idText rt)).Nodup
  | .resume x _ _ => ∀ sub, s.listeners.subscriptions.get? x = some sub →
    s.synced.get? sub.workflowId = some sub.workflowVersionId
  | .pause _ _ _ => True

/-- What holds beside: every stored subscription has the id of an item of a stored version, and
a workflow lists what its last synced version compiled to. -/
structure Tracked : Prop where
  current : s.Current rt
  stored : ∀ x sub, s.listeners.subscriptions.get? x = some sub → ∃ c : CompiledSubscription,
    c.id rt = x ∧ c.workflowId = sub.workflowId ∧ c.workflowVersionId = sub.workflowVersionId ∧
      ∃ graph, s.versions.get? sub.workflowVersionId = some (sub.workflowId, graph)
  listed : ∀ x sub, s.listeners.subscriptions.get? x = some sub →
    s.synced.get? sub.workflowId = some sub.workflowVersionId →
      x ∈ (s.listeners.workflowSubscriptions.get? sub.workflowId).getD []

end Statements

end VersionedListeners

theorem ListenerSubscription.ids_disable (sub : ListenerSubscription) (actor : String)
    (now : Instant) : (sub.disable actor now).workflowId = sub.workflowId ∧
      (sub.disable actor now).workflowVersionId = sub.workflowVersionId := by
  unfold disable
  split
  · exact ⟨rfl, rfl⟩
  · exact ⟨rfl, rfl⟩

namespace ListenerStore

variable {s : ListenerStore} {w x : Uuid} {actor : String} {now : Instant}
  {sub : ListenerSubscription}

theorem ids_disable (found :
    (s.disableListenerSubscriptions .inMemory w actor now).subscriptions.get? x = some sub) :
    ∃ old, s.subscriptions.get? x = some old ∧ old.workflowId = sub.workflowId ∧
      old.workflowVersionId = sub.workflowVersionId := by
  simp only [disableListenerSubscriptions, Dict.get?_mapValues, Option.map_eq_some_iff] at found
  obtain ⟨old, there, rfl⟩ := found
  refine ⟨old, there, ?_⟩
  split
  · exact ⟨(old.ids_disable actor now).1.symm, (old.ids_disable actor now).2.symm⟩
  · exact ⟨rfl, rfl⟩

theorem exists_disable (there : s.subscriptions.get? x = some sub) :
    ∃ new, (s.disableListenerSubscriptions .inMemory w actor now).subscriptions.get? x = some new ∧
      new.workflowVersionId = sub.workflowVersionId := by
  simp only [disableListenerSubscriptions, Dict.get?_mapValues, there, Option.map_some]
  refine ⟨_, rfl, ?_⟩
  split
  · exact (sub.ids_disable actor now).2
  · rfl

variable (compiled : List (Uuid × ListenerSubscription))

theorem workflowSubscriptions_insertCompiled :
    (compiled.foldl (fun s e => s.insertCompiled w actor now e) s).workflowSubscriptions.get? x =
      if x = w ∧ compiled ≠ [] then
        some ((s.workflowSubscriptions.get? w).getD [] ++ compiled.map Prod.fst)
      else s.workflowSubscriptions.get? x := by
  induction compiled generalizing s with
  | nil => simp
  | cons e compiled ih =>
    rw [List.foldl_cons, ih]
    by_cases same : x = w
    · subst same
      cases compiled with
      | nil => simp [insertCompiled]
      | cons e' compiled => simp [insertCompiled]
    · simp [insertCompiled, same]

theorem listed_sync :
    ((s.syncListenerSubscriptions .inMemory w actor compiled now).workflowSubscriptions.get? x).getD
        [] = if x = w then compiled.map Prod.fst
          else (s.workflowSubscriptions.get? x).getD [] := by
  unfold syncListenerSubscriptions
  rw [workflowSubscriptions_insertCompiled]
  by_cases same : x = w
  · cases compiled with
    | nil => simp [same]
    | cons e compiled => simp [same]
  · simp [same, disableListenerSubscriptions]

end ListenerStore

namespace VersionedListeners

section Steps

variable {rt : ListenerRuntime} {s : VersionedListeners} {w version x : Uuid}
  {graph : List (String × Json)} {actor : String} {now : Instant} {cs : List CompiledSubscription}

theorem tracked_new (rt : ListenerRuntime) (workflows : List Uuid) :
    Tracked rt { workflows := workflows } where
  current := {
    active := fun x sub there => by cases there
    subscribed := fun w version there => by cases there }
  stored x sub there := by cases there
  listed x sub there := by cases there

theorem Tracked.unstored (tracked : Tracked rt s) (injective : Function.Injective rt.uuid5)
    (renders : rt.RendersIds) (fresh : s.versions.get? version = none)
    (compiled : compileListenerSubscriptions rt w version graph = some cs)
    (mem : x ∈ cs.map (id rt)) {sub : ListenerSubscription} :
    s.listeners.subscriptions.get? x ≠ some sub := by
  intro there
  obtain ⟨c, item, rfl⟩ := List.mem_map.mp mem
  obtain ⟨c', same, -, version', graph', stored⟩ := tracked.stored _ sub there
  have versions := version_of_idText renders (injective same)
  rw [version', (compiled_ids compiled item).2] at versions
  rw [versions, fresh] at stored
  cases stored

open ListenerStore (active_disable exists_disable get?_insertCompiled get?_insertCompiled_of_mem
  ids_disable listed_sync)

theorem Tracked.disabled (tracked : Tracked rt s) (fresh : s.versions.get? version = none)
    {workflowVersions : Dict Uuid (List Uuid)} : Tracked rt { s with
      versions := s.versions.set version (w, graph)
      workflowVersions := workflowVersions
      listeners := s.listeners.disableListenerSubscriptions .inMemory w actor now } := by
  have kept {v : Uuid} {entry : Uuid × List (String × Json)} (there : s.versions.get? v = some entry) :
      (s.versions.set version (w, graph)).get? v = some entry := by
    have other : v ≠ version := by
      intro same
      rw [same, fresh] at there
      cases there
    simp [other, there]
  constructor
  case current =>
    constructor
    case active =>
      intro x sub there active
      obtain ⟨old, active, -⟩ := (active_disable actor now).mp ⟨there, active⟩
      exact tracked.current.active x sub old active
    case subscribed =>
      intro w' version' synced
      obtain ⟨graph', cs, stored, compiled, subscribed⟩ :=
        tracked.current.subscribed w' version' synced
      refine ⟨graph', cs, kept stored, compiled, subscribed.distinct, ?_⟩
      intro x
      rw [← subscribed.stored x]
      constructor
      · rintro ⟨sub, there, version⟩
        obtain ⟨old, there, -, same⟩ := ids_disable there
        exact ⟨old, there, same.trans version⟩
      · rintro ⟨sub, there, version⟩
        obtain ⟨new, there', same⟩ := exists_disable there
        exact ⟨new, there', same.trans version⟩
  case stored =>
    intro x sub there
    obtain ⟨old, there, workflow, same⟩ := ids_disable there
    obtain ⟨c, id, workflow', version', graph', stored⟩ := tracked.stored x old there
    refine ⟨c, id, workflow'.trans workflow, version'.trans same, graph', ?_⟩
    rw [← workflow, ← same]
    exact kept stored
  case listed =>
    intro x sub there synced
    obtain ⟨old, there, workflow, same⟩ := ids_disable there
    rw [← workflow, ← same] at synced
    rw [← workflow]
    exact tracked.listed x old there synced

theorem stored_sync {s : ListenerStore} {compiled : List (Uuid × ListenerSubscription)}
    {sub : ListenerSubscription} (nodup : (compiled.map Prod.fst).Nodup)
    (there : (s.syncListenerSubscriptions .inMemory w actor compiled now).subscriptions.get? x =
      some sub) :
    (∃ new, (x, new) ∈ compiled ∧ sub.workflowId = new.workflowId ∧
        sub.workflowVersionId = new.workflowVersionId) ∨
      x ∉ compiled.map Prod.fst ∧
        (s.disableListenerSubscriptions .inMemory w actor now).subscriptions.get? x = some sub := by
  unfold ListenerStore.syncListenerSubscriptions at there
  by_cases mem : x ∈ compiled.map Prod.fst
  · obtain ⟨⟨_, new⟩, item, rfl⟩ := List.mem_map.mp mem
    rw [get?_insertCompiled_of_mem nodup item] at there
    cases there
    exact Or.inl ⟨new, item, rfl, rfl⟩
  · rw [get?_insertCompiled w actor now mem] at there
    exact Or.inr ⟨mem, there⟩

theorem Tracked.synced (tracked : Tracked rt s) (injective : Function.Injective rt.uuid5)
    (renders : rt.RendersIds) (fresh : s.versions.get? version = none)
    (compiled : compileListenerSubscriptions rt w version graph = some cs)
    (distinct : (cs.map (idText rt)).Nodup)
    {workflowVersions : Dict Uuid (List Uuid)} : Tracked rt { s with
      versions := s.versions.set version (w, graph)
      workflowVersions := workflowVersions
      listeners := s.listeners.syncListenerSubscriptions .inMemory w actor
        (cs.map (fun c => (c.id rt, c.toSubscription rt))) now
      synced := s.synced.set w version } := by
  have ids : (cs.map (fun c => (c.id rt, c.toSubscription rt))).map Prod.fst =
      cs.map (id rt) := by
    rw [List.map_map]
    rfl
  have nodup : (cs.map (id rt)).Nodup := by
    have mapped := distinct.map injective
    rwa [List.map_map] at mapped
  have before : Tracked rt { s with
      versions := s.versions.set version (w, graph)
      workflowVersions := workflowVersions
      listeners := s.listeners.disableListenerSubscriptions .inMemory w actor now } :=
    tracked.disabled fresh
  have other {v : Uuid} {entry : Uuid × List (String × Json)}
      (there : s.versions.get? v = some entry) : v ≠ version := by
    intro same
    rw [same, fresh] at there
    cases there
  have older {x : Uuid} {sub : ListenerSubscription} (there :
      (s.listeners.disableListenerSubscriptions .inMemory w actor now).subscriptions.get? x =
        some sub) : sub.workflowVersionId ≠ version := by
    obtain ⟨old, there, -, same⟩ := ids_disable there
    obtain ⟨-, -, -, -, graph', stored⟩ := tracked.stored x old there
    exact same ▸ other stored
  have split {x : Uuid} {sub : ListenerSubscription} (there :
      (s.listeners.syncListenerSubscriptions .inMemory w actor
        (cs.map (fun c => (c.id rt, c.toSubscription rt))) now).subscriptions.get? x = some sub) :
      (x ∈ cs.map (id rt) ∧ (∃ c : CompiledSubscription, c.id rt = x ∧
          c.workflowId = w ∧ c.workflowVersionId = version) ∧
        sub.workflowId = w ∧ sub.workflowVersionId = version) ∨
      (x ∉ cs.map (id rt) ∧
        (s.listeners.disableListenerSubscriptions .inMemory w actor now).subscriptions.get? x =
          some sub) := by
    obtain ⟨new, mem, workflow, version⟩ | old := stored_sync (by rw [ids]; exact nodup) there
    · obtain ⟨c, item, same⟩ := List.mem_map.mp mem
      cases same
      obtain ⟨workflow', version'⟩ := compiled_ids compiled item
      exact Or.inl ⟨List.mem_map_of_mem item, ⟨c, rfl, workflow', version'⟩,
        workflow.trans workflow', version.trans version'⟩
    · rw [ids] at old
      exact Or.inr old
  constructor
  case current =>
    constructor
    case active =>
      intro x sub there active
      dsimp only
      obtain ⟨-, -, workflow, version⟩ | ⟨-, there⟩ := split there
      · rw [workflow, version]
        simp
      · obtain ⟨old, active, unlisted⟩ := (active_disable actor now).mp ⟨there, active⟩
        have synced := tracked.current.active x sub old active
        have other : sub.workflowId ≠ w := by
          intro same
          have listed := tracked.listed x sub old synced
          rw [same] at listed
          exact unlisted listed
        simpa [other] using synced
    case subscribed =>
      intro w' version' synced
      dsimp only at synced
      by_cases same : w' = w
      · subst same
        rw [Dict.get?_set, if_pos rfl] at synced
        cases synced
        refine ⟨graph, cs, by simp, compiled, nodup, ?_⟩
        intro x
        constructor
        · rintro ⟨sub, there, version⟩
          obtain ⟨mem, -⟩ | ⟨-, there⟩ := split there
          · exact mem
          · exact absurd version (older there)
        · intro mem
          obtain ⟨c, item, rfl⟩ := List.mem_map.mp mem
          refine ⟨_, get?_insertCompiled_of_mem (by rw [ids]; exact nodup)
            (List.mem_map_of_mem item), ?_⟩
          exact (compiled_ids compiled item).2
      · rw [Dict.get?_set, if_neg same] at synced
        obtain ⟨_, _, stored, -⟩ := tracked.current.subscribed w' version' synced
        obtain ⟨graph', cs', kept, compiled', subscribed⟩ :=
          before.current.subscribed w' version' synced
        refine ⟨graph', cs', kept, compiled', subscribed.distinct, ?_⟩
        intro x
        rw [← subscribed.stored x]
        constructor
        · rintro ⟨sub, there, version⟩
          obtain ⟨-, -, -, version''⟩ | ⟨-, there⟩ := split there
          · exact absurd (version.symm.trans version'') (other stored)
          · exact ⟨sub, there, version⟩
        · rintro ⟨sub, there, version⟩
          have unlisted : x ∉ cs.map (id rt) := by
            intro mem
            obtain ⟨old, there, -⟩ := ids_disable there
            exact tracked.unstored injective renders fresh compiled mem there
          refine ⟨sub, ?_, version⟩
          dsimp only
          unfold ListenerStore.syncListenerSubscriptions
          rw [get?_insertCompiled w actor now (by rw [ids]; exact unlisted)]
          exact there
  case stored =>
    intro x sub there
    obtain ⟨-, ⟨c, id, workflow', version'⟩, workflow, version⟩ | ⟨-, there⟩ := split there
    · refine ⟨c, id, workflow'.trans workflow.symm, version'.trans version.symm, graph, ?_⟩
      rw [workflow, version]
      simp
    · exact before.stored x sub there
  case listed =>
    intro x sub there synced
    dsimp only at synced ⊢
    rw [listed_sync, ids]
    obtain ⟨mem, -, workflow, -⟩ | ⟨-, there⟩ := split there
    · rw [if_pos workflow]
      exact mem
    · have elsewhere : sub.workflowId ≠ w := by
        intro here
        rw [Dict.get?_set, if_pos here] at synced
        exact older there (Option.some.inj synced).symm
      rw [Dict.get?_set, if_neg elsewhere] at synced
      rw [if_neg elsewhere]
      exact before.listed x sub there synced

theorem Tracked.updated (tracked : Tracked rt s) {status : ListenerSubscriptionStatus}
    (allowed : status = .active → ∀ sub, s.listeners.subscriptions.get? x = some sub →
      s.synced.get? sub.workflowId = some sub.workflowVersionId) :
    Tracked rt (s.updateStatus x status actor now) := by
  unfold updateStatus ListenerStore.updateListenerSubscriptionStatus
  cases there : s.listeners.subscriptions.get? x with
  | none => exact tracked
  | some old =>
    have split {y : Uuid} {sub : ListenerSubscription} (found :
        (s.listeners.subscriptions.set x (old.updateStatus status actor none now)).get? y =
          some sub) : ∃ before, s.listeners.subscriptions.get? y = some before ∧
        before.workflowId = sub.workflowId ∧ before.workflowVersionId = sub.workflowVersionId ∧
        (y = x ∧ sub.status = status ∨ before = sub) := by
      rw [Dict.get?_set] at found
      by_cases same : y = x
      · rw [if_pos same] at found
        cases found
        exact ⟨old, by rw [same]; exact there, rfl, rfl, Or.inl ⟨same, rfl⟩⟩
      · rw [if_neg same] at found
        exact ⟨sub, found, rfl, rfl, Or.inr rfl⟩
    constructor
    case current =>
      constructor
      case active =>
        intro y sub found active
        obtain ⟨before, there', workflow, version, ⟨rfl, set⟩ | rfl⟩ := split found
        · rw [← workflow, ← version]
          exact allowed (set.symm.trans active) before there'
        · exact tracked.current.active y before there' active
      case subscribed =>
        intro w' version' synced
        obtain ⟨graph', cs, stored, compiled, subscribed⟩ :=
          tracked.current.subscribed w' version' synced
        refine ⟨graph', cs, stored, compiled, subscribed.distinct, ?_⟩
        intro y
        rw [← subscribed.stored y]
        constructor
        · rintro ⟨sub, found, version⟩
          obtain ⟨before, there', -, same, -⟩ := split found
          exact ⟨before, there', same.trans version⟩
        · rintro ⟨sub, found, version⟩
          by_cases same : y = x
          · rw [same] at found
            cases there.symm.trans found
            exact ⟨old.updateStatus status actor none now, by rw [Dict.get?_set, if_pos same], version⟩
          · exact ⟨sub, by rw [Dict.get?_set, if_neg same]; exact found, version⟩
    case stored =>
      intro y sub found
      obtain ⟨before, there', workflow, version, -⟩ := split found
      rw [← workflow, ← version]
      exact tracked.stored y before there'
    case listed =>
      intro y sub found synced
      obtain ⟨before, there', workflow, version, -⟩ := split found
      rw [← workflow, ← version] at synced
      rw [← workflow]
      exact tracked.listed y before there' synced

theorem Tracked.step (tracked : Tracked rt s) (injective : Function.Injective rt.uuid5)
    (renders : rt.RendersIds) {op : ListeningOp} (fresh : s.Fresh op)
    (keeps : s.KeepsCurrent rt op) : Tracked rt (s.step rt op) := by
  cases op with
  | createVersion w version graph createdBy now =>
    unfold VersionedListeners.step createVersion syncListenerSubscriptions
    dsimp only
    split
    next there =>
      cases compiled : compileListenerSubscriptions rt w version graph with
      | none => exact tracked.disabled fresh
      | some cs =>
        exact tracked.synced injective renders fresh compiled
          (keeps (List.contains_iff_mem.mp there) cs compiled)
    next => exact tracked
  | pause x actor now => exact tracked.updated fun active => by cases active
  | resume x actor now => exact tracked.updated fun _ => keeps

theorem needed {op : ListeningOp} (after : (s.step rt op).Current rt) : s.KeepsCurrent rt op := by
  cases op with
  | createVersion w version graph createdBy now =>
    intro there cs compiled
    unfold VersionedListeners.step createVersion syncListenerSubscriptions at after
    dsimp only at after
    rw [if_pos (List.contains_iff_mem.mpr there), compiled] at after
    obtain ⟨graph', cs', stored, compiled', subscribed⟩ :=
      after.subscribed w version (by simp)
    simp only [Dict.get?_set, if_true, Option.some.injEq, Prod.mk.injEq, true_and] at stored
    rw [← stored, compiled] at compiled'
    cases compiled'
    have ids : cs.map (id rt) =
        (cs.map (idText rt)).map rt.uuid5 := by
      rw [List.map_map]
      rfl
    have nodup := subscribed.distinct
    rw [ids] at nodup
    exact nodup.of_map
  | pause => trivial
  | resume x actor now =>
    intro sub there
    have updated : (s.step rt (.resume x actor now)).listeners.subscriptions.get? x =
        some (sub.updateStatus .active actor none now) := by
      change (s.updateStatus x .active actor now).listeners.subscriptions.get? x = _
      unfold updateStatus ListenerStore.updateListenerSubscriptionStatus
      rw [there]
      simp
    exact after.active x (sub.updateStatus .active actor none now) updated rfl

/-- Over every run whose new versions are new, only the last synced versions listen exactly where
every step keeps them current. -/
theorem current_version_listens_iff (injective : Function.Injective rt.uuid5)
    (renders : rt.RendersIds) (workflows : List Uuid) {ops : List ListeningOp}
    (fresh : AllSteps (step rt) Fresh { workflows := workflows } ops) :
    Always (step rt) (Current rt) { workflows := workflows } ops ↔
      AllSteps (step rt) (KeepsCurrent rt) { workflows := workflows } ops :=
  always_iff_allSteps_of_allowed (I := Tracked rt) (fun _ tracked => tracked.current)
    (fun _ _ tracked fresh keeps => tracked.step injective renders fresh keeps)
    (fun _ _ _ _ after => needed after) (tracked_new rt workflows) fresh

end Steps

end VersionedListeners

theorem repr_injective {m n : Nat} (same : m.repr = n.repr) : m = n := by
  have digits : Nat.toDigits 10 m = Nat.toDigits 10 n := by
    rw [← Nat.toList_repr, ← Nat.toList_repr, same]
  calc m = Nat.ofDigitChars 10 (Nat.toDigits 10 m) 0 := Nat.ofDigitChars_ten_toDigits.symm
    _ = Nat.ofDigitChars 10 (Nat.toDigits 10 n) 0 := by rw [digits]
    _ = n := Nat.ofDigitChars_ten_toDigits

theorem toNat_lt (c : Char) : c.toNat < 1114112 := by
  obtain lower | ⟨-, upper⟩ := c.valid
  · exact lower.trans (by decide)
  · exact upper

def charsCode (chars : List Char) : Nat := chars.foldr (fun c n => n * 1114112 + c.toNat + 1) 0

theorem charsCode_injective {a b : List Char} (same : charsCode a = charsCode b) : a = b := by
  induction a generalizing b with
  | nil =>
    cases b with
    | nil => rfl
    | cons d b =>
      unfold charsCode at same
      rw [List.foldr_nil, List.foldr_cons] at same
      omega
  | cons c a ih =>
    cases b with
    | nil =>
      unfold charsCode at same
      rw [List.foldr_nil, List.foldr_cons] at same
      omega
    | cons d b =>
      have codes : charsCode a * 1114112 + c.toNat + 1 = charsCode b * 1114112 + d.toNat + 1 := same
      have head := toNat_lt c
      have head' := toNat_lt d
      have rest : charsCode a = charsCode b := by omega
      have first : c.toNat = d.toNat := by omega
      rw [ih rest, Char.toNat_inj.mp first]

def telegramRuntime : ListenerRuntime where
  str _ := ""
  int
    | .int n => some n
    | _ => none
  strip s := s
  lower s := s
  uuidText n := "00000000-0000-0000-0000-00000000000" ++ n.repr
  uuid5 s :=
    Equiv.swap (charsCode "00000000-0000-0000-0000-000000000001:telegram:bot:telegram:bot".toList)
      10221201590342337831583828204381882561
      (Equiv.swap
        (charsCode "00000000-0000-0000-0000-000000000002:telegram:bot:telegram:bot".toList)
        333031427117951791285702489548578278682 (charsCode s.toList))
  resolve s := if s = "telegram" then some "telegram" else none

theorem telegramRuntime_injective : Function.Injective telegramRuntime.uuid5 := by
  intro a b same
  have codes := Equiv.injective _ (Equiv.injective _ same)
  exact String.ext (charsCode_injective codes)

theorem telegramRuntime_rendersIds : telegramRuntime.RendersIds where
  injective := by
    intro m n same
    have chars := congrArg String.toList same
    simp only [telegramRuntime, String.toList_append, List.append_cancel_left_eq] at chars
    exact repr_injective (String.ext chars)
  plain v := by
    simp only [telegramRuntime, String.toList_append, List.mem_append, not_or]
    refine ⟨by decide, ?_⟩
    intro mem
    rw [Nat.toList_repr] at mem
    have digit := Nat.isDigit_of_mem_toDigits (by decide) (by decide) mem
    revert digit
    decide

def telegramGraph : List (String × Json) :=
  [("index", .obj [("listeners", .arr [.obj
    [("platform", .str "telegram"), ("node_name", .str "bot")]])])]

def firstSubscription : Uuid := 10221201590342337831583828204381882561

namespace VersionedListeners

theorem current_version_listens_paused :
    Always (step telegramRuntime) (Current telegramRuntime) { workflows := [7] }
      [.createVersion 7 1 telegramGraph "ada" 0, .pause firstSubscription "ada" 1] := by
  have fresh : AllSteps (step telegramRuntime) Fresh { workflows := [7] }
      [.createVersion 7 1 telegramGraph "ada" 0, .pause firstSubscription "ada" 1] :=
    ⟨rfl, trivial, trivial⟩
  refine (current_version_listens_iff telegramRuntime_injective telegramRuntime_rendersIds [7]
    fresh).mpr ⟨?_, trivial, trivial⟩
  intro _ cs compiled
  cases compiled
  decide

theorem older_version_resumed : ¬ ∀ (rt : ListenerRuntime) (workflows : List Uuid)
    (ops : List ListeningOp), Function.Injective rt.uuid5 → rt.RendersIds →
    AllSteps (step rt) Fresh { workflows := workflows } ops →
    Always (step rt) (Current rt) { workflows := workflows } ops := by
  intro all
  have current := (all telegramRuntime [7]
    [.createVersion 7 1 telegramGraph "ada" 0, .createVersion 7 2 telegramGraph "ada" 1,
      .resume firstSubscription "ada" 2]
    telegramRuntime_injective telegramRuntime_rendersIds ⟨rfl, rfl, trivial, trivial⟩).last
  have resumed : ∃ sub ∈ (List.foldl (step telegramRuntime) { workflows := [7] }
      [.createVersion 7 1 telegramGraph "ada" 0, .createVersion 7 2 telegramGraph "ada" 1,
        .resume firstSubscription "ada" 2]).listeners.subscriptions.get? firstSubscription,
      sub.status = .active ∧ sub.workflowId = 7 ∧ sub.workflowVersionId = 1 := by
    decide +kernel
  obtain ⟨sub, there, active, workflow, version⟩ := resumed
  have synced := current.active firstSubscription sub there active
  rw [workflow, version] at synced
  revert synced
  decide +kernel

end VersionedListeners

end Orcheo.Listeners
