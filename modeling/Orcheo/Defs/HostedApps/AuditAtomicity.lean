import Orcheo.Defs.HostedApps.RepositoryLaws

/-! An operation that raises leaves the repository as it was, unless it writes before an audit
event that is then refused. -/

namespace Orcheo.HostedApps

open Lib (Dict)
open Repository (TextRuntime)

def Outcome.raised {α : Type} (o : Outcome α) : Option HostedAppsError :=
  match o.2 with
  | .error e => some e
  | .ok _ => none

namespace HostedAppsRepository

def raises (rt : TextRuntime) (store : Store) (r : HostedAppsRepository)
    (c : Env × RepositoryOp) : Option HostedAppsError :=
  let env := c.1
  match c.2 with
  | .createAppWithAlias app rawAlias => (r.createAppWithAlias rt env app rawAlias).raised
  | .updateApp app actor action => (r.updateApp env app actor action).raised
  | .reserveAlias app rawAlias actor => (r.reserveAlias rt env app rawAlias actor).raised
  | .addDeployment deployment => (r.addDeployment env store deployment).raised
  | .saveBinding binding actor => (r.saveBinding env binding actor).raised
  | .deleteBinding workspaceId appId bindingId actor =>
    (r.deleteBinding env workspaceId appId bindingId actor).raised
  | .saveCollection collection actor => (r.saveCollection env collection actor).raised
  | .deleteCollection workspaceId appId collectionId actor =>
    (r.deleteCollection env workspaceId appId collectionId actor).raised
  | .invalidateBindingsForWorkflow workspaceId workflowId actor =>
    (r.invalidateBindingsForWorkflow env store workspaceId workflowId actor).raised
  | .publishRelease release => (r.publishRelease env release).raised
  | .unpublish workspaceId appId actor => (r.unpublish env workspaceId appId actor).raised
  | .reservePlatformAlias rawAlias actor => (r.reservePlatformAlias rt env rawAlias actor).raised
  | .createModerationBlock id targetKind targetId reasonCode reasonDetail actor =>
    (r.createModerationBlock env id targetKind targetId reasonCode reasonDetail actor).raised
  | .liftModerationBlock blockId actor => (r.liftModerationBlock env blockId actor).raised
  | .setRuntimeEnabled enabled actor => (r.setRuntimeEnabled env enabled actor).raised

structure Unchanged (r r' : HostedAppsRepository) : Prop where
  apps : r'.apps = r.apps
  aliases : r'.aliases = r.aliases
  deployments : r'.deployments = r.deployments
  releases : r'.releases = r.releases
  bindings : r'.bindings = r.bindings
  collections : r'.collections = r.collections
  moderationBlocks : r'.moderationBlocks = r.moderationBlocks
  runtime : r'.runtime = r.runtime

def Atomic (rt : TextRuntime) (store : Store) (r : HostedAppsRepository)
    (c : Env × RepositoryOp) : Prop :=
  r.raises rt store c ≠ none → r.Unchanged (r.step rt store c)

def invalidation (workspaceId : Uuid) (actor : String) (appId : Uuid) : PlatformAuditEvent :=
  { action := "capability.binding.dependency_invalidated", actor := actor, targetKind := "app",
    targetId := idText appId, workspaceId := some (idText workspaceId) }

/-- In memory, no operation meets a refusal of the audit after its first write: the manifest of a
new deployment is accepted, and so is every invalidated app after one that was. -/
def AuditsFirst (store : Store) (r : HostedAppsRepository) (c : Env × RepositoryOp) : Prop :=
  store = .inMemory → match c.2 with
  | .addDeployment deployment => asksCapabilities deployment = true →
    r.deployments.get? deployment.id = none → ∀ app,
    r.ensureAppScope deployment.workspaceId deployment.appId = .ok app →
    c.1.accepts (manifestRequest deployment app) = true
  | .invalidateBindingsForWorkflow workspaceId workflowId actor =>
    (match r.boundApps workspaceId workflowId with
    | [] => True
    | first :: rest => c.1.accepts (invalidation workspaceId actor first) = true →
      ∀ x ∈ rest, c.1.accepts (invalidation workspaceId actor x) = true)
  | _ => True

variable {r r' : HostedAppsRepository} {rt : TextRuntime} {env : Env} {store : Store}

theorem Unchanged.refl : r.Unchanged r := ⟨rfl, rfl, rfl, rfl, rfl, rfl, rfl, rfl⟩

theorem Unchanged.of_eq (same : r' = r) : r.Unchanged r' := by
  rw [same]
  exact Unchanged.refl

theorem attempt_unchanged {α : Type} {x : Except HostedAppsError (HostedAppsRepository × α)}
    (raised : (r.attempt x).raised ≠ none) : r.Unchanged (r.attempt x).1 := by
  cases x with
  | error e => exact Unchanged.refl
  | ok result => exact absurd rfl raised

theorem publishRelease_unchanged {release : AppRelease}
    (raised : (r.publishRelease env release).raised ≠ none) :
    r.Unchanged (r.publishRelease env release).1 := by
  cases (publishRelease_cases release :
      (∃ e, r.publishRelease env release = (r, .error e)) ∨ _) with
  | inl refused =>
    obtain ⟨e, refused⟩ := refused
    rw [refused]
    exact Unchanged.refl
  | inr released =>
    obtain ⟨app, events, -, written⟩ := released
    rw [written] at raised
    exact absurd rfl raised

variable {actor : String} {workspaceId x : Uuid} {appIds : List Uuid}

theorem liftModerationBlock_unchanged {blockId : Uuid}
    (raised : (r.liftModerationBlock env blockId actor).raised ≠ none) :
    r.Unchanged (r.liftModerationBlock env blockId actor).1 := by
  unfold liftModerationBlock at raised ⊢
  cases found : r.moderationBlocks.get? blockId with
  | none => exact Unchanged.refl
  | some block =>
    simp only [found] at raised ⊢
    split at raised
    next lifted =>
      rw [if_pos lifted]
      exact Unchanged.refl
    next blocked =>
      rw [if_neg blocked]
      exact attempt_unchanged raised

theorem addDeployment_atomic_iff (deployment : AppDeployment) :
    ((r.addDeployment env store deployment).raised ≠ none →
      r.Unchanged (r.addDeployment env store deployment).1) ↔
    (store = .inMemory → asksCapabilities deployment = true →
      r.deployments.get? deployment.id = none → ∀ app,
      r.ensureAppScope deployment.workspaceId deployment.appId = .ok app →
      env.accepts (manifestRequest deployment app) = true) := by
  unfold addDeployment
  cases scope : r.ensureAppScope deployment.workspaceId deployment.appId with
  | error e => simp [Unchanged.refl]
  | ok app =>
    cases there : r.deployments.get? deployment.id with
    | some stored => simp [Unchanged.refl]
    | none =>
      by_cases asks : deployment.status = .ready ∧ deployment.appManifest.isSome = true
      case neg => simp [asksCapabilities, asks, Outcome.raised]
      case pos =>
        have event (r : HostedAppsRepository) : r.recordAudit env "deployment.manifest.request"
            deployment.createdBy app = r.record env (manifestRequest deployment app) := rfl
        simp only [Option.isSome_none, Bool.false_eq_true, if_false, if_pos asks, event]
        have asked : asksCapabilities deployment = true := decide_eq_true asks
        cases accepted : env.accepts (manifestRequest deployment app) with
        | true => simp [record, accepted, Outcome.raised]
        | false =>
          cases store with
          | postgres => simp [record, accepted, Unchanged.refl]
          | inMemory =>
            simp only [record, accepted, Bool.false_eq_true, if_false]
            constructor
            · intro atomic
              -- the stored deployment was not there before
              have same := (atomic (by simp [Outcome.raised])).deployments
              have written := congrArg (fun d => d.get? deployment.id) same
              simp [Dict.get?_set, there] at written
            · intro audits
              have refused := audits trivial asked trivial app rfl
              rw [accepted] at refused
              cases refused

structure Bound (r : HostedAppsRepository) : Prop where
  keyed : r.Keyed
  app : ∀ k binding, r.bindings.get? k = some binding →
    ∃ app, r.apps.get? binding.appId = some app ∧ app.workspaceId = binding.workspaceId

theorem Bound.step (bound : r.Bound) (c : Env × RepositoryOp) : (r.step rt store c).Bound := by
  have spec : StepSpec r c (r.step rt store c) := step_spec bound.keyed c
  have stays {x : Uuid} {app : HostedApp} {workspaceId : Uuid}
      (stored : r.apps.get? x = some app) (same : app.workspaceId = workspaceId) :
      ∃ app', (r.step rt store c).apps.get? x = some app' ∧ app'.workspaceId = workspaceId := by
    obtain ⟨app', stored', change⟩ := spec.apps.changed x app stored
    exact ⟨app', stored', change.workspaceId_eq.trans same⟩
  refine ⟨spec.keyed bound.keyed, ?_⟩
  intro k binding there
  cases (step_effect bound.keyed c : Effect r c (r.step rt store c)).bindings with
  | inl kept =>
    rw [kept] at there
    obtain ⟨app, stored, same⟩ := bound.app k binding there
    exact stays stored same
  | inr written =>
    obtain ⟨k', new, app, written, stored, same⟩ := written
    rw [written] at there
    obtain ⟨-, rfl⟩ | ⟨-, there⟩ := Dict.of_get?_set there
    · exact stays stored same
    · obtain ⟨app, stored, same⟩ := bound.app k binding there
      exact stays stored same

theorem mem_boundApps {workflowId : Uuid} (mem : x ∈ r.boundApps workspaceId workflowId) :
    ∃ k binding,
      r.bindings.get? k = some binding ∧ binding.workspaceId = workspaceId ∧
      binding.appId = x := by
  rw [boundApps, List.mem_dedup, List.mem_map] at mem
  obtain ⟨binding, mem, rfl⟩ := mem
  obtain ⟨mem, is⟩ := List.mem_filter.mp mem
  obtain ⟨k, there⟩ := (Dict.mem_values_iff _ _).mp mem
  exact ⟨k, binding, there, (of_decide_eq_true is).1, rfl⟩

def AppsIn (r : HostedAppsRepository) (workspaceId : Uuid) (appIds : List Uuid) : Prop :=
  ∀ x ∈ appIds, ∃ app, r.apps.get? x = some app ∧ app.workspaceId = workspaceId

theorem Bound.appsIn (bound : r.Bound) (workspaceId workflowId : Uuid) :
    r.AppsIn workspaceId (r.boundApps workspaceId workflowId) := by
  intro x mem
  obtain ⟨k, binding, there, same, rfl⟩ := mem_boundApps mem
  rw [← same]
  exact bound.app k binding there

theorem AppsIn.set {app : HostedApp} {events : List PlatformAuditEvent}
    (there : r.AppsIn workspaceId appIds) (same : app.workspaceId = workspaceId) :
    AppsIn { r with auditEvents := events, apps := r.apps.set x app } workspaceId appIds := by
  intro y mem
  dsimp only
  rw [Dict.get?_set]
  split
  case isTrue => exact ⟨app, rfl, same⟩
  case isFalse => exact there y mem

theorem invalidateApp_eq {app : HostedApp}
    (keyed : r.Keyed) (stored : r.apps.get? x = some app) (same : app.workspaceId = workspaceId) :
    r.invalidateApp env workspaceId actor x =
      if env.accepts (invalidation workspaceId actor x) = true then
        .ok { r with
          auditEvents := r.auditEvents ++ [invalidation workspaceId actor x]
          apps := r.apps.set x (app.bumped env.now) }
      else .error .audit := by
  have event : r.recordAudit env "capability.binding.dependency_invalidated" actor app =
      r.record env (invalidation workspaceId actor x) := by
    rw [invalidation, ← keyed x app stored, ← same]
    rfl
  rw [invalidateApp, ensureAppScope_ok.mpr ⟨stored, same⟩]
  change (r.recordAudit env _ actor app >>= _) = _
  rw [event, record, keyed x app stored]
  split
  case isTrue => rfl
  case isFalse => rfl

theorem invalidateApps_eq_none_iff (keyed : r.Keyed) (there : r.AppsIn workspaceId appIds) :
    (invalidateApps env workspaceId actor r appIds).2 = none ↔
      ∀ x ∈ appIds, env.accepts (invalidation workspaceId actor x) = true := by
  induction appIds generalizing r with
  | nil => simp [invalidateApps]
  | cons x appIds ih =>
    obtain ⟨here, rest⟩ := List.forall_mem_cons.mp there
    obtain ⟨app, stored, same⟩ := here
    have done : r.invalidateApp env workspaceId actor x = _ := invalidateApp_eq keyed stored same
    rw [invalidateApps, List.forall_mem_cons]
    by_cases accepted : env.accepts (invalidation workspaceId actor x) = true
    · rw [if_pos accepted] at done
      have keyed' := (invalidateApp_ok keyed done).1
      simp only [done, accepted, true_and]
      exact ih keyed' (AppsIn.set rest same)
    · rw [if_neg accepted] at done
      simp [done, accepted]

theorem invalidateApps_changes (keyed : r.Keyed) (there : r.AppsIn workspaceId (x :: appIds))
    (accepted : env.accepts (invalidation workspaceId actor x) = true) :
    (invalidateApps env workspaceId actor r (x :: appIds)).1.apps ≠ r.apps := by
  obtain ⟨app, stored, same⟩ := there x (List.mem_cons_self ..)
  have done : r.invalidateApp env workspaceId actor x = _ := invalidateApp_eq keyed stored same
  rw [if_pos accepted] at done
  obtain ⟨apps, events, written, -, raised⟩ :=
    invalidateApps_cases workspaceId actor appIds (invalidateApp_ok keyed done).1
  rw [invalidateApps, done]
  dsimp only
  rw [written]
  intro kept
  dsimp only at kept
  -- its revision has gone up
  obtain ⟨n, t, above, there⟩ := raised x (app.bumped env.now) (by simp [Dict.get?_set])
  rw [kept, stored, Option.some.injEq] at there
  have revision : app.permissionRevision = n := congrArg HostedApp.permissionRevision there
  rw [← revision] at above
  exact Nat.not_succ_le_self _ above

theorem invalidateBindingsForWorkflow_atomic_iff (bound : r.Bound)
    (workspaceId workflowId : Uuid) (actor : String) :
    ((r.invalidateBindingsForWorkflow env store workspaceId workflowId actor).raised ≠ none →
      r.Unchanged (r.invalidateBindingsForWorkflow env store workspaceId workflowId actor).1) ↔
    (store = .inMemory → match r.boundApps workspaceId workflowId with
      | [] => True
      | first :: rest => env.accepts (invalidation workspaceId actor first) = true →
        ∀ x ∈ rest, env.accepts (invalidation workspaceId actor x) = true) := by
  have there := bound.appsIn workspaceId workflowId
  rw [invalidateBindingsForWorkflow]
  generalize r.boundApps workspaceId workflowId = appIds at there ⊢
  have all : (invalidateApps env workspaceId actor r appIds).2 = none ↔ _ :=
    invalidateApps_eq_none_iff bound.keyed there
  cases appIds with
  | nil => simp [invalidateApps, Outcome.raised]
  | cons first rest =>
    have changes : env.accepts (invalidation workspaceId actor first) = true →
        (invalidateApps env workspaceId actor r (first :: rest)).1.apps ≠ r.apps :=
      invalidateApps_changes bound.keyed there
    have failed : env.accepts (invalidation workspaceId actor first) = false →
        (invalidateApps env workspaceId actor r (first :: rest)).1 = r := by
      intro refused
      obtain ⟨app, stored, same⟩ := there first (List.mem_cons_self ..)
      rw [invalidateApps, invalidateApp_eq bound.keyed stored same, refused]
      rfl
    rw [List.forall_mem_cons] at all
    generalize invalidateApps env workspaceId actor r (first :: rest) = result at *
    obtain ⟨r', raised⟩ := result
    cases raised with
    | none =>
      have accepted := all.mp rfl
      exact ⟨fun _ _ _ => accepted.2, fun _ raised => absurd rfl raised⟩
    | some e =>
      cases store with
      | postgres => simp [Unchanged.refl]
      | inMemory =>
        have refused := mt all.mpr (Option.some_ne_none e)
        simp only [Outcome.raised, ne_eq, reduceCtorEq, not_false_eq_true, forall_const]
        constructor
        · intro unchanged accepted
          exact absurd unchanged.apps (changes accepted)
        · intro audits
          apply Unchanged.of_eq
          apply failed
          cases accepted : env.accepts (invalidation workspaceId actor first) with
          | true => exact absurd ⟨accepted, audits accepted⟩ refused
          | false => rfl

theorem atomic_iff (bound : r.Bound) (c : Env × RepositoryOp) :
    Atomic rt store r c ↔ AuditsFirst store r c := by
  obtain ⟨env, op⟩ := c
  cases op with
  | addDeployment deployment => exact addDeployment_atomic_iff deployment
  | invalidateBindingsForWorkflow workspaceId workflowId actor =>
    exact invalidateBindingsForWorkflow_atomic_iff bound workspaceId workflowId actor
  | publishRelease release =>
    exact ⟨fun _ _ => trivial, fun _ raised => publishRelease_unchanged raised⟩
  | liftModerationBlock blockId actor =>
    exact ⟨fun _ _ => trivial, fun _ raised => liftModerationBlock_unchanged raised⟩
  | _ => exact ⟨fun _ _ => trivial, fun _ raised => attempt_unchanged raised⟩

end HostedAppsRepository

end Orcheo.HostedApps
