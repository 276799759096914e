import Orcheo.Defs.Listeners.Compile

/-! What a creation of a workflow version that raises leaves behind, in both stores. -/

namespace Orcheo.Listeners

open Lib (Dict)
open Compile
open Repository (AuditRecord)

structure WorkflowVersion where
  workflowId : Uuid
  workspaceId : Option String
  version : Nat
  graph : List (String × Json)
  metadata : List (String × Json)
  runnableConfig : Option (List (String × Json))
  createdBy : String
  notes : Option String
  auditLog : List AuditRecord := []

structure VersionPayload where
  /-- the graph as it is read back from its JSON text, absent where no version can be built -/
  graph : Option (List (String × Json))
  metadata : List (String × Json) := []
  runnableConfig : Option (List (String × Json)) := none
  notes : Option String := none
  createdBy : String

inductive VersionError
  | workflowNotFound (workflowId : Uuid)
  | payload
  | compile (message : String)
  | database
  deriving DecidableEq, Repr

def VersionPayload.build (payload : VersionPayload) (workflowId : Uuid)
    (workspaceId : Option String) (number : Nat) (now : Instant) :
    Except VersionError WorkflowVersion :=
  match payload.graph with
  | none => .error .payload
  | some graph => .ok {
      workflowId := workflowId
      workspaceId := workspaceId
      version := number
      graph := graph
      metadata := payload.metadata
      runnableConfig := payload.runnableConfig.filter (fun config => !config.isEmpty)
      createdBy := payload.createdBy
      notes := payload.notes
      auditLog := [⟨payload.createdBy, "version_created", now, []⟩] }

abbrev CompilerHook :=
  Uuid → Uuid → List (String × Json) → String → Except String (Option (Uuid × ListenerSubscription))

structure ListenerRegistry where
  rt : ListenerRuntime
  /-- the hook of a registered platform, by its canonical id -/
  hook : String → CompilerHook

namespace ListenerRegistry

variable (registry : ListenerRegistry)

def compileSubscription (workflowId workflowVersionId : Uuid) (item : List (String × Json))
    (platformId : String) : Except String (Option (Uuid × ListenerSubscription)) :=
  match registry.rt.resolve platformId with
  | none => .ok none
  | some canonical => registry.hook canonical workflowId workflowVersionId item canonical

def compileItem (workflowId workflowVersionId : Uuid) (item : Json) :
    Except String (Option (Uuid × ListenerSubscription)) :=
  match item with
  | .obj item =>
    let platform := registry.rt.lower (registry.rt.strip
      (text registry.rt (orElse (get item "platform") (.str ""))))
    if platform = "" then .ok none
    else registry.compileSubscription workflowId workflowVersionId item platform
  | _ => .ok none

def compileItems (workflowId workflowVersionId : Uuid) :
    List Json → Except String (List (Uuid × ListenerSubscription))
  | [] => .ok []
  | item :: items => do
    let subscription ← registry.compileItem workflowId workflowVersionId item
    let rest ← compileItems workflowId workflowVersionId items
    .ok (subscription.toList ++ rest)

/-- `.get` is asked of the index before anything is compiled. -/
def compileListenerSubscriptions (workflowId workflowVersionId : Uuid)
    (graph : List (String × Json)) : Except String (List (Uuid × ListenerSubscription)) :=
  match (Json.field? graph "index").getD (.obj []) with
  | .obj index => match (Json.field? index "listeners").getD (.arr []) with
    | .arr listeners => registry.compileItems workflowId workflowVersionId listeners
    | _ => .ok []
  | _ => .error "object has no attribute 'get'"

def builtin (rt : ListenerRuntime) : ListenerRegistry where
  rt := rt
  hook _ workflowId workflowVersionId item platformId :=
    .ok ((defaultListenerCompiler rt workflowId workflowVersionId item platformId).map
      (fun c => (c.id rt, c.toSubscription rt)))

end ListenerRegistry

structure MemoryVersions where
  workflows : Dict Uuid (Option String) := ∅
  versions : Dict Uuid WorkflowVersion := ∅
  workflowVersions : Dict Uuid (List Uuid) := ∅
  versionRuns : Dict Uuid (List Uuid) := ∅
  listeners : ListenerStore := {}
  listed : ∀ w, workflows.get? w ≠ none → workflowVersions.get? w ≠ none

namespace MemoryVersions

variable (registry : ListenerRegistry) (s : MemoryVersions)

def recordVersion (workflowId version : Uuid) (stored : WorkflowVersion) :
    MemoryVersions :=
  { s with
    versions := s.versions.set version stored
    workflowVersions := s.workflowVersions.set workflowId
      ((s.workflowVersions.get? workflowId).getD [] ++ [version])
    versionRuns := s.versionRuns.set version ((s.versionRuns.get? version).getD [])
    listed := by
      intro w there
      rw [Dict.get?_set]
      split
      · simp
      · exact s.listed w there }

def syncListenerSubscriptions (workflowId version : Uuid)
    (graph : List (String × Json)) (actor : String) (now : Instant) :
    MemoryVersions × Except VersionError Unit :=
  match registry.compileListenerSubscriptions workflowId version graph with
  | .error message =>
    ({ s with
      listeners := s.listeners.disableListenerSubscriptions .inMemory workflowId actor now },
      .error (.compile message))
  | .ok compiled =>
    ({ s with
      listeners := s.listeners.syncListenerSubscriptions .inMemory workflowId actor compiled now },
      .ok ())

def nextVersionNumber (workflowId : Uuid) : Nat :=
  ((s.workflowVersions.get? workflowId).getD []).length + 1

/-- `setdefault` makes no list: every workflow has one. -/
def createVersion (workflowId version : Uuid) (payload : VersionPayload)
    (now : Instant) : MemoryVersions × Except VersionError WorkflowVersion :=
  match s.workflows.get? workflowId with
  | none => (s, .error (.workflowNotFound workflowId))
  | some workspaceId =>
    match payload.build workflowId workspaceId (s.nextVersionNumber workflowId) now with
    | .error e => (s, .error e)
    | .ok stored =>
      let synced := (s.recordVersion workflowId version stored).syncListenerSubscriptions registry
        workflowId version stored.graph payload.createdBy now
      (synced.1, synced.2.map (fun _ => stored))

/-- Absent where `WorkflowNotFoundError` is raised. -/
def listVersions (workflowId : Uuid) :
    Option (List (Option WorkflowVersion)) :=
  (s.workflowVersions.get? workflowId).map (List.map s.versions.get?)

structure Untouched (s t : MemoryVersions) (workflowId : Uuid) : Prop where
  versions : t.listVersions workflowId = s.listVersions workflowId
  number : t.nextVersionNumber workflowId = s.nextVersionNumber workflowId
  listed : t.listeners.subscriptionsOf .inMemory workflowId =
    s.listeners.subscriptionsOf .inMemory workflowId
  subscriptions : ∀ x sub, sub.workflowId = workflowId →
    (t.listeners.subscriptions.get? x = some sub ↔ s.listeners.subscriptions.get? x = some sub)

theorem Untouched.refl (workflowId : Uuid) : Untouched s s workflowId :=
  ⟨rfl, rfl, rfl, fun _ _ _ => Iff.rfl⟩

end MemoryVersions

structure Transactions where
  inserted : Bool := true
  replaced : Bool := true

structure PostgresVersions where
  workflows : Dict Uuid (Option String) := ∅
  versions : Dict Uuid WorkflowVersion := ∅
  listeners : ListenerStore := {}

namespace PostgresVersions

variable (registry : ListenerRegistry) (s : PostgresVersions)

def listVersions (workflowId : Uuid) : Dict Uuid WorkflowVersion :=
  s.versions.filter (fun _ stored => decide (stored.workflowId = workflowId))

/-- `COALESCE(MAX(version), 0) + 1` -/
def nextVersionNumber (workflowId : Uuid) : Nat :=
  ((s.listVersions workflowId).values.map WorkflowVersion.version).foldr max 0 + 1

/-- The row is committed before the listeners of its graph are compiled. -/
def createVersion (db : Transactions) (s : PostgresVersions) (workflowId version : Uuid)
    (payload : VersionPayload) (now : Instant) :
    PostgresVersions × Except VersionError WorkflowVersion :=
  match s.workflows.get? workflowId with
  | none => (s, .error (.workflowNotFound workflowId))
  | some workspaceId =>
    match payload.build workflowId workspaceId (s.nextVersionNumber workflowId) now with
    | .error e => (s, .error e)
    | .ok stored =>
      if !db.inserted || s.versions.contains version then (s, .error .database)
      else
        let s := { s with versions := s.versions.set version stored }
        match registry.compileListenerSubscriptions workflowId version stored.graph with
        | .error message => (s, .error (.compile message))
        | .ok compiled =>
          let listeners := s.listeners.syncListenerSubscriptions .postgres workflowId
            payload.createdBy compiled now
          if !db.replaced then (s, .error .database)
          else ({ s with listeners := listeners }, .ok stored)

structure Untouched (s t : PostgresVersions) (workflowId : Uuid) : Prop where
  versions : t.listVersions workflowId = s.listVersions workflowId
  number : t.nextVersionNumber workflowId = s.nextVersionNumber workflowId
  subscriptions : ∀ x sub, sub.workflowId = workflowId →
    (t.listeners.subscriptions.get? x = some sub ↔ s.listeners.subscriptions.get? x = some sub)

theorem Untouched.refl (workflowId : Uuid) : Untouched s s workflowId :=
  ⟨rfl, rfl, fun _ _ _ => Iff.rfl⟩

end PostgresVersions

section Creations

variable {registry : ListenerRegistry} {workflowId version : Uuid} {payload : VersionPayload}
  {now : Instant} {graph : List (String × Json)}

theorem VersionPayload.build_none (absent : payload.graph = none) (workspaceId : Option String)
    (number : Nat) : payload.build workflowId workspaceId number now = .error .payload := by
  unfold build
  rw [absent]

theorem VersionPayload.build_some (there : payload.graph = some graph)
    (workflowId : Uuid) (workspaceId : Option String) (number : Nat) (now : Instant) : ∃ stored,
      payload.build workflowId workspaceId number now = .ok stored ∧ stored.graph = graph ∧
        stored.workflowId = workflowId := by
  unfold build
  rw [there]
  exact ⟨_, rfl, rfl, rfl⟩

def ListenerRegistry.Compiles (registry : ListenerRegistry) (workflowId version : Uuid)
    (graph : List (String × Json)) : Prop :=
  (registry.compileListenerSubscriptions workflowId version graph).isOk = true

theorem MemoryVersions.createVersion_untouched_iff (s : MemoryVersions) :
    ((s.createVersion registry workflowId version payload now).2.isOk = false →
      Untouched s (s.createVersion registry workflowId version payload now).1 workflowId) ↔
      ∀ graph, s.workflows.get? workflowId ≠ none → payload.graph = some graph →
        registry.Compiles workflowId version graph := by
  unfold createVersion
  cases found : s.workflows.get? workflowId with
  | none => exact iff_of_true (fun _ => .refl s workflowId) (fun _ there => absurd rfl there)
  | some workspaceId =>
    dsimp only
    cases written : payload.graph with
    | none =>
      rw [VersionPayload.build_none written]
      exact iff_of_true (fun _ => .refl s workflowId) nofun
    | some graph =>
      obtain ⟨stored, built, same, -⟩ := VersionPayload.build_some written workflowId
        workspaceId (s.nextVersionNumber workflowId) now
      rw [built]
      unfold syncListenerSubscriptions
      dsimp only
      rw [same]
      cases compiled : registry.compileListenerSubscriptions workflowId version graph with
      | ok subscriptions =>
        refine iff_of_true nofun ?_
        intro graph' _ there
        cases there
        rw [ListenerRegistry.Compiles, compiled]
        rfl
      | error message =>
        refine iff_of_false ?_ ?_
        · intro untouched
          have number := (untouched rfl).number
          simp [nextVersionNumber, recordVersion] at number
        · intro compiles
          have compiles := compiles graph (by simp) rfl
          rw [ListenerRegistry.Compiles, compiled] at compiles
          cases compiles

theorem PostgresVersions.createVersion_untouched_iff (s : PostgresVersions) (db : Transactions) :
    ((s.createVersion registry db workflowId version payload now).2.isOk = false →
      Untouched s (s.createVersion registry db workflowId version payload now).1 workflowId) ↔
      ∀ graph, s.workflows.get? workflowId ≠ none → payload.graph = some graph →
        db.inserted = true → s.versions.get? version = none →
        registry.Compiles workflowId version graph ∧ db.replaced = true := by
  unfold createVersion
  cases found : s.workflows.get? workflowId with
  | none => exact iff_of_true (fun _ => .refl s workflowId) (fun _ there => absurd rfl there)
  | some workspaceId =>
    dsimp only
    cases written : payload.graph with
    | none =>
      rw [VersionPayload.build_none written]
      exact iff_of_true (fun _ => .refl s workflowId) nofun
    | some graph =>
      obtain ⟨stored, built, same, owner⟩ := VersionPayload.build_some written workflowId
        workspaceId (s.nextVersionNumber workflowId) now
      rw [built]
      dsimp only
      rw [same]
      by_cases refused : (!db.inserted || s.versions.contains version) = true
      · rw [if_pos refused]
        refine iff_of_true (fun _ => .refl s workflowId) ?_
        intro graph' _ _ inserted fresh
        simp [inserted, Dict.contains, fresh] at refused
      · rw [if_neg refused]
        simp only [Bool.or_eq_true, Bool.not_eq_true', not_or, Bool.not_eq_false,
          Dict.contains, Option.isSome_iff_ne_none, ne_eq, not_not] at refused
        -- what stays of the creation where the rest of it raises
        have changed (t : PostgresVersions) (versions : t.versions = s.versions.set version stored) :
            ¬ Untouched s t workflowId := by
          intro untouched
          have listed := congrArg (fun d => Dict.get? d version) untouched.versions
          simp [listVersions, versions, owner, refused.2] at listed
        cases compiled : registry.compileListenerSubscriptions workflowId version graph with
        | error message =>
          refine iff_of_false (fun untouched => changed _ rfl (untouched rfl)) ?_
          intro condition
          have compiles := (condition graph (by simp) rfl refused.1 refused.2).1
          rw [ListenerRegistry.Compiles, compiled] at compiles
          cases compiles
        | ok subscriptions =>
          dsimp only
          cases replaced : db.replaced with
          | false =>
            refine iff_of_false (fun untouched => changed _ rfl (untouched rfl)) ?_
            intro condition
            cases (condition graph (by simp) rfl refused.1 refused.2).2
          | true =>
            refine iff_of_true (fun ok => by cases ok) ?_
            intro graph' _ there _ _
            cases there
            refine ⟨?_, rfl⟩
            rw [ListenerRegistry.Compiles, compiled]
            rfl

end Creations

/-- In both stores, a creation that raises leaves the versions, the numbering and the
subscriptions of the workflow as they were exactly where what follows the recording of the version
succeeds, or the version is not recorded. -/
theorem create_version_atomic_iff (registry : ListenerRegistry) (workflowId version : Uuid)
    (payload : VersionPayload) (now : Instant) :
    (∀ s : MemoryVersions,
      ((s.createVersion registry workflowId version payload now).2.isOk = false →
        s.Untouched (s.createVersion registry workflowId version payload now).1 workflowId) ↔
        ∀ graph, s.workflows.get? workflowId ≠ none → payload.graph = some graph →
          registry.Compiles workflowId version graph) ∧
    ∀ (s : PostgresVersions) (db : Transactions),
      ((s.createVersion registry db workflowId version payload now).2.isOk = false →
        s.Untouched (s.createVersion registry db workflowId version payload now).1 workflowId) ↔
        ∀ graph, s.workflows.get? workflowId ≠ none → payload.graph = some graph →
          db.inserted = true → s.versions.get? version = none →
          registry.Compiles workflowId version graph ∧ db.replaced = true :=
  ⟨fun s => s.createVersion_untouched_iff, fun s db => s.createVersion_untouched_iff db⟩

def MemoryVersions.single (workflowId : Uuid) : MemoryVersions where
  workflows := Dict.set ∅ workflowId none
  workflowVersions := Dict.set ∅ workflowId []
  listed := by
    intro w there
    rw [Dict.get?_set] at there ⊢
    split at there
    next same => simp [same]
    next => exact absurd rfl there

theorem uncompiled_version_stays : ¬ ∀ (registry : ListenerRegistry) (s : MemoryVersions)
    (workflowId version : Uuid) (payload : VersionPayload) (now : Instant),
    (s.createVersion registry workflowId version payload now).2.isOk = false →
      s.Untouched (s.createVersion registry workflowId version payload now).1 workflowId := by
  intro atomic
  have untouched := atomic
    (.builtin {
      str := fun _ => ""
      int := fun _ => none
      strip := id
      lower := id
      uuidText := toString
      uuid5 := fun _ => 0
      resolve := some })
    (.single 7) 7 1 { graph := some [("index", .arr [])], createdBy := "ada" } 0 rfl
  exact absurd untouched.number (by decide)

end Orcheo.Listeners
