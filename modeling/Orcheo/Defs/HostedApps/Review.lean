import Orcheo.Defs.HostedApps.RepositoryLaws

/-! Reviewing and publishing by several clients, who hold the apps they read, and the runs in
which no publication acknowledges an outdated revision. -/

namespace Orcheo.HostedApps

open Lib (Dict AllSteps)
open Repository (TextRuntime)

/-- What a `PATCH`, an archival or a restoration edits. -/
structure AppEdit where
  name : Option String := none
  description : Option String := none
  visibility : Option AppVisibility := none
  isArchived : Option Bool := none

def AppEdit.apply (edit : AppEdit) (app : HostedApp) : HostedApp :=
  { app with
    name := edit.name.getD app.name
    description := edit.description.or app.description
    visibility := edit.visibility.getD app.visibility
    permissionRevision := app.permissionRevision + if edit.visibility.isSome then 1 else 0
    isArchived := edit.isArchived.getD app.isArchived }

/-- What `publish_app` is asked for, beside the acknowledged revision. -/
structure ReleaseDraft where
  id : Uuid
  deploymentId : Uuid
  visibility : Option AppVisibility := none
  capabilitySnapshot : Json := .null
  snapshotSha256 : String := ""
  createdBy : String

structure Reading where
  app : HostedApp
  changes : Nat

/-- The release of `publish_app`: the revision that was read first is acknowledged, and the
visibility is compared with the one that `publish_app` reads itself. -/
def Reading.release (reading : Reading) (observed : AppVisibility) (draft : ReleaseDraft) :
    AppRelease where
  id := draft.id
  workspaceId := reading.app.workspaceId
  appId := reading.app.id
  deploymentId := draft.deploymentId
  permissionRevision := reading.app.permissionRevision +
    if draft.visibility.getD observed ≠ observed then 1 else 0
  visibility := draft.visibility.getD observed
  capabilitySnapshot := draft.capabilitySnapshot
  snapshotSha256 := draft.snapshotSha256
  createdBy := draft.createdBy

structure ReviewSystem where
  repo : HostedAppsRepository := {}
  /-- what each client read last -/
  readings : Dict Nat Reading := ∅
  /-- the clients whose `publish_app` has read the app, with the visibility it found -/
  publishing : Dict Nat (Reading × AppVisibility) := ∅
  /-- the apps whose bindings, collections or manifests were changed, once for each change -/
  changed : List Uuid := []

inductive ReviewOp
  | read (client : Nat) (workspaceId appId : Uuid)
  | observe (client : Nat)
  | update (client : Nat) (edit : AppEdit) (actor : Option String) (action : String)
  | publish (client : Nat) (draft : ReleaseDraft)
  | apply (op : RepositoryOp)

namespace ReviewSystem

variable (rt : TextRuntime) (store : Store) (s : ReviewSystem)

def request : ReviewOp → Option RepositoryOp
  | .read _ _ _ => none
  | .observe _ => none
  | .update client edit actor action =>
    (s.readings.get? client).map (fun reading => .updateApp (edit.apply reading.app) actor action)
  | .publish client draft =>
    (s.publishing.get? client).map (fun p => .publishRelease (p.1.release p.2 draft))
  | .apply op => some op

end ReviewSystem

def RepositoryOp.target : RepositoryOp → Option Uuid
  | .saveBinding binding _ => some binding.appId
  | .deleteBinding _ appId _ _ => some appId
  | .saveCollection collection _ => some collection.appId
  | .deleteCollection _ appId _ _ => some appId
  | .addDeployment deployment => some deployment.appId
  | _ => none

namespace HostedAppsRepository

def manifests (r : HostedAppsRepository) : Dict Uuid AppDeployment :=
  r.deployments.filter (fun _ deployment => asksCapabilities deployment)

def committed (r r' : HostedAppsRepository) (op : RepositoryOp) : List Uuid :=
  if r'.bindings = r.bindings ∧ r'.collections = r.collections ∧ r'.manifests = r.manifests then []
  else op.target.toList

end HostedAppsRepository

namespace ReviewSystem

variable (rt : TextRuntime) (store : Store) (s : ReviewSystem)

def act (env : Env) (op : RepositoryOp) : ReviewSystem :=
  let repo := s.repo.step rt store (env, op)
  { s with repo := repo, changed := s.changed ++ s.repo.committed repo op }

def read (client : Nat) (workspaceId appId : Uuid) : ReviewSystem :=
  match s.repo.getApp workspaceId appId with
  | .error _ => s
  | .ok app =>
    { s with readings := s.readings.set client ⟨app, s.changed.count appId⟩ }

def observe (client : Nat) : ReviewSystem :=
  match s.readings.get? client with
  | none => s
  | some reading => match s.repo.getApp reading.app.workspaceId reading.app.id with
    | .error _ => s
    | .ok app =>
      { s with publishing := s.publishing.set client (reading, app.visibility) }

variable (c : Env × ReviewOp)

def step : ReviewSystem :=
  match c.2 with
  | .read client workspaceId appId => s.read client workspaceId appId
  | .observe client => s.observe client
  | op => match s.request op with
    | none => s
    | some op => s.act rt store c.1 op

open HostedAppsRepository (asksCapabilities manifestRequest)

def KeepsRevisions (s' : ReviewSystem) : Prop :=
  ∀ x app, s.repo.apps.get? x = some app → ∃ app', s'.repo.apps.get? x = some app' ∧
    app.permissionRevision ≤ app'.permissionRevision

/-- A publication that succeeds acknowledges a revision since whose reading no binding,
collection or manifest of the app was changed. -/
def PublishesFresh : Prop :=
  ∀ client draft reading observed app, c.2 = .publish client draft →
    s.publishing.get? client = some (reading, observed) →
    (s.repo.publishRelease c.1 (reading.release observed draft)).2 = .ok app →
    s.changed.count reading.app.id = reading.changes

def Reviewed : Prop :=
  s.KeepsRevisions (s.step rt store c) ∧ s.PublishesFresh c

/-- An app is updated only with a revision that is not below the stored one, and above it with
another visibility; and the audit accepts manifests. -/
def careful : Prop :=
  match s.request c.2 with
  | some (.updateApp app _ _) => ∀ stored, s.repo.apps.get? app.id = some stored →
    stored.permissionRevision ≤ app.permissionRevision ∧
      (app.visibility ≠ stored.visibility → stored.permissionRevision < app.permissionRevision)
  | some (.addDeployment deployment) => store = .inMemory → asksCapabilities deployment = true →
    ∀ app, s.repo.apps.get? deployment.appId = some app →
      c.1.accepts (manifestRequest deployment app) = true
  | _ => True

end ReviewSystem

namespace HostedAppsRepository

variable {r r' : HostedAppsRepository} {rt : TextRuntime} {store : Store} {env : Env}

theorem committed_self (op : RepositoryOp) : r.committed r op = [] :=
  if_pos ⟨rfl, rfl, rfl⟩

variable {op : RepositoryOp} {x : Uuid}

theorem target_of_committed (mem : x ∈ r.committed r' op) :
    op.target = some x := by
  unfold committed at mem
  split at mem
  case isTrue => cases mem
  case isFalse => exact Option.mem_toList.mp mem

def Raised (r r' : HostedAppsRepository) (x : Uuid) : Prop :=
  ∀ app, r.apps.get? x = some app → ∃ app', r'.apps.get? x = some app' ∧
    app'.visibility = app.visibility ∧ app.permissionRevision < app'.permissionRevision

theorem raised_of_bumped {app : HostedApp} {now : Instant} (keyed : r.Keyed)
    (stored : r.apps.get? x = some app) (written : r'.apps = r.apps.set app.id (app.bumped now)) :
    r.Raised r' x := by
  intro app₁ stored₁
  rw [stored] at stored₁
  cases stored₁
  refine ⟨app.bumped now, ?_, rfl, Nat.lt_succ_self _⟩
  rw [written, Dict.get?_set, keyed x app stored, if_pos rfl]

theorem raised_of_write (keyed : r.Keyed) (write : r' = r ∨ ∃ app now, r.apps.get? x = some app ∧
      r'.apps = r.apps.set app.id (app.bumped now)) (mem : x ∈ r.committed r' op) : r.Raised r' x := by
  cases write with
  | inl same =>
    rw [same, committed_self] at mem
    cases mem
  | inr written =>
    obtain ⟨app, now, stored, written⟩ := written
    exact raised_of_bumped keyed stored written

theorem raised_of_committed (keyed : r.Keyed)
    (audited : ∀ deployment app, op = .addDeployment deployment → store = .inMemory →
      asksCapabilities deployment = true → r.apps.get? deployment.appId = some app →
      env.accepts (manifestRequest deployment app) = true)
    (mem : x ∈ r.committed (r.step rt store (env, op)) op) :
    r.Raised (r.step rt store (env, op)) x := by
  have about := target_of_committed mem
  cases op with
  | saveBinding binding actor =>
    cases about
    apply raised_of_write keyed _ mem
    apply Or.imp id _ (saveBinding_cases binding actor)
    rintro ⟨app, events, stored, _, written⟩
    exact ⟨app, env.now, stored, congrArg apps written⟩
  | deleteBinding workspaceId appId bindingId actor =>
    have here : appId = x := Option.some.inj about
    apply raised_of_write keyed _ mem
    apply Or.imp id _ (deleteBinding_cases workspaceId appId bindingId actor)
    rintro ⟨app, binding, events, stored, _, _, written⟩
    exact ⟨app, env.now, here ▸ stored, congrArg apps written⟩
  | saveCollection collection actor =>
    cases about
    apply raised_of_write keyed _ mem
    apply Or.imp id _ (saveCollection_cases collection actor)
    rintro ⟨app, events, stored, _, written⟩
    exact ⟨app, env.now, stored, congrArg apps written⟩
  | deleteCollection workspaceId appId collectionId actor =>
    have here : appId = x := Option.some.inj about
    apply raised_of_write keyed _ mem
    apply Or.imp id _ (deleteCollection_cases workspaceId appId collectionId actor)
    rintro ⟨app, collection, events, stored, _, written⟩
    exact ⟨app, env.now, here ▸ stored, congrArg apps written⟩
  | addDeployment deployment =>
    cases about
    cases addDeployment_cases deployment with
    | inl same =>
      have nothing := committed_self (r := r) (.addDeployment deployment)
      rw [show r.step rt store (env, .addDeployment deployment) = r from same, nothing] at mem
      cases mem
    | inr added =>
      obtain ⟨app, stored, _, absent, plain | ⟨events, requested⟩⟩ := added
      · obtain ⟨plain, refused⟩ := plain
        cases asks : asksCapabilities deployment with
        | true =>
          obtain ⟨inMemory, refused⟩ := refused asks
          rw [audited deployment app rfl inMemory asks stored] at refused
          cases refused
        | false =>
          -- the deployment is none of those that are counted
          have manifests : (r.step rt store (env, .addDeployment deployment)).manifests =
              r.manifests := by
            trans HostedAppsRepository.manifests { r with
              deployments := r.deployments.set deployment.id deployment }
            · exact congrArg _ plain
            · exact Dict.filter_set_of_refused absent asks
          rw [committed, if_pos] at mem
          · cases mem
          · have bindings := congrArg bindings plain
            have collections := congrArg collections plain
            exact ⟨bindings, collections, manifests⟩
      · exact raised_of_bumped keyed stored (congrArg apps requested)
  | _ => cases about

end HostedAppsRepository

structure Progress (app app' : HostedApp) (n n' : Nat) : Prop where
  revision : app.permissionRevision ≤ app'.permissionRevision
  counted : n' = n ∨
    app'.visibility = app.visibility ∧ app.permissionRevision < app'.permissionRevision
  shown : app'.visibility = app.visibility ∨
    n' = n ∧ app.permissionRevision < app'.permissionRevision

/-- What is known of a stored app from a reading: at the revision that was read, nothing has
changed. -/
structure Reading.Holds (reading : Reading) (app : HostedApp) (n : Nat) : Prop where
  behind : reading.app.permissionRevision ≤ app.permissionRevision
  unchanged : app.permissionRevision = reading.app.permissionRevision → n = reading.changes

structure Reading.Observed (reading : Reading) (observed : AppVisibility) (app : HostedApp)
    (n : Nat) : Prop extends reading.Holds app n where
  shown : app.visibility ≠ observed →
    reading.app.permissionRevision < app.permissionRevision ∧
    (app.permissionRevision = reading.app.permissionRevision + 1 → n = reading.changes)

variable {reading : Reading} {observed : AppVisibility} {app app' : HostedApp} {n n' : Nat}

theorem Reading.holds_self : Reading.Holds ⟨app, n⟩ app n :=
  ⟨Nat.le_refl _, fun _ => rfl⟩

theorem Reading.Holds.observe (holds : reading.Holds app n) :
    reading.Observed app.visibility app n :=
  ⟨holds, fun other => absurd rfl other⟩

theorem Reading.Holds.step (holds : reading.Holds app n) (progress : Progress app app' n n') :
    reading.Holds app' n' := by
  have behind := holds.behind
  have raised := progress.revision
  refine ⟨Nat.le_trans behind raised, ?_⟩
  intro same
  cases progress.counted with
  | inl counted =>
    rw [counted]
    apply holds.unchanged
    omega
  | inr above => omega

theorem Reading.Observed.step (seen : reading.Observed observed app n)
    (progress : Progress app app' n n') : reading.Observed observed app' n' := by
  refine ⟨seen.toHolds.step progress, ?_⟩
  intro other
  have behind := seen.behind
  cases progress.shown with
  | inl same =>
    -- the stored visibility was another one already
    rw [same] at other
    obtain ⟨above, unchanged⟩ := seen.shown other
    have raised := progress.revision
    refine ⟨by omega, ?_⟩
    intro next
    cases progress.counted with
    | inl counted =>
      rw [counted]
      apply unchanged
      omega
    | inr more => omega
  | inr changed =>
    obtain ⟨counted, above⟩ := changed
    refine ⟨by omega, ?_⟩
    intro next
    rw [counted]
    apply seen.unchanged
    omega

theorem Reading.Observed.fresh (seen : reading.Observed observed app n) {draft : ReleaseDraft}
    (acknowledged : (reading.release observed draft).permissionRevision =
      HostedAppsRepository.expectedRevision app (reading.release observed draft)) :
    n = reading.changes := by
  have behind := seen.behind
  have acknowledged : reading.app.permissionRevision +
      (if draft.visibility.getD observed ≠ observed then 1 else 0) = app.permissionRevision +
        (if draft.visibility.getD observed ≠ app.visibility then 1 else 0) := acknowledged
  by_cases asked : draft.visibility.getD observed = observed
  · rw [asked, if_neg (not_not.mpr rfl)] at acknowledged
    by_cases same : observed = app.visibility
    · rw [same, if_neg (not_not.mpr rfl)] at acknowledged
      exact seen.unchanged acknowledged.symm
    · rw [if_pos same] at acknowledged
      omega
  · rw [if_pos asked] at acknowledged
    by_cases same : draft.visibility.getD observed = app.visibility
    · rw [same, if_neg (not_not.mpr rfl)] at acknowledged
      rw [same] at asked
      exact (seen.shown asked).2 acknowledged.symm
    · rw [if_pos same] at acknowledged
      apply seen.unchanged
      omega

namespace ReviewSystem

variable {rt : TextRuntime} {store : Store} {s : ReviewSystem} {c : Env × ReviewOp}

open HostedAppsRepository (step_spec raised_of_committed published)

variable {op : RepositoryOp}

theorem progress_of_careful (keyed : s.repo.Keyed) (asked : s.request c.2 = some op)
    (ok : s.careful store c) {x : Uuid} {app : HostedApp} (stored : s.repo.apps.get? x = some app) :
    ∃ app', (s.act rt store c.1 op).repo.apps.get? x = some app' ∧
      Progress app app' (s.changed.count x) ((s.act rt store c.1 op).changed.count x) := by
  unfold careful at ok
  rw [asked] at ok
  have counted : (s.act rt store c.1 op).changed.count x = s.changed.count x +
      (s.repo.committed (s.repo.step rt store (c.1, op)) op).count x :=
    List.count_append
  by_cases mem : x ∈ s.repo.committed (s.repo.step rt store (c.1, op)) op
  · have audited : ∀ deployment app, op = .addDeployment deployment → store = .inMemory →
        HostedAppsRepository.asksCapabilities deployment = true →
        s.repo.apps.get? deployment.appId = some app →
        c.1.accepts (HostedAppsRepository.manifestRequest deployment app) = true := by
      intro deployment app addition inMemory asks stored
      rw [addition] at ok
      exact ok inMemory asks app stored
    obtain ⟨app', stored', same, above⟩ := raised_of_committed keyed audited mem app stored
    exact ⟨app', stored', Nat.le_of_lt above, Or.inr ⟨same, above⟩, Or.inl same⟩
  · rw [List.count_eq_zero_of_not_mem mem, Nat.add_zero] at counted
    rw [counted]
    have spec : HostedAppsRepository.StepSpec s.repo (c.1, op) (s.repo.step rt store (c.1, op)) :=
      step_spec keyed (c.1, op)
    obtain ⟨app', stored', change⟩ := spec.apps.changed x app stored
    refine ⟨app', stored', ?_⟩
    cases change with
    | raised above => exact ⟨above, Or.inl rfl, Or.inl rfl⟩
    | @replaced new _ _ update id _ =>
      rw [show op = _ from update] at ok
      rw [← keyed x app stored, ← id] at stored
      obtain ⟨above, shown⟩ := ok app stored
      refine ⟨above, Or.inl rfl, ?_⟩
      by_cases same : new.visibility = app.visibility
      · exact Or.inl same
      · exact Or.inr ⟨rfl, shown same⟩
    | @published release _ publishable =>
      have acknowledged := publishable.acknowledged
      unfold HostedAppsRepository.expectedRevision at acknowledged
      by_cases same : release.visibility = app.visibility
      · have kept : (published c.1 app release).permissionRevision = app.permissionRevision :=
          if_neg (not_not.mpr same)
        exact ⟨Nat.le_of_eq kept.symm, Or.inl rfl, Or.inl same⟩
      · rw [if_pos same] at acknowledged
        have raised : (published c.1 app release).permissionRevision =
            app.permissionRevision + 1 :=
          (if_pos same).trans acknowledged
        have above : app.permissionRevision < (published c.1 app release).permissionRevision := by
          rw [raised]
          exact Nat.lt_succ_self _
        exact ⟨Nat.le_of_lt above, Or.inl rfl, Or.inr ⟨rfl, above⟩⟩
    | unpublished => exact ⟨Nat.le_refl _, Or.inl rfl, Or.inl rfl⟩

structure Tracked (s : ReviewSystem) : Prop where
  keyed : s.repo.Keyed
  readings : ∀ client reading, s.readings.get? client = some reading →
    ∃ app, s.repo.apps.get? reading.app.id = some app ∧
      reading.Holds app (s.changed.count reading.app.id)
  publishing : ∀ client reading observed, s.publishing.get? client = some (reading, observed) →
    ∃ app, s.repo.apps.get? reading.app.id = some app ∧
      reading.Observed observed app (s.changed.count reading.app.id)

theorem tracked_fresh : Tracked {} where
  keyed _ _ stored := nomatch stored
  readings _ _ stored := nomatch stored
  publishing _ _ _ stored := nomatch stored

theorem tracked_act (tracked : s.Tracked)
    (asked : s.request c.2 = some op) (ok : s.careful store c) :
    (s.act rt store c.1 op).Tracked := by
  have spec : HostedAppsRepository.StepSpec s.repo (c.1, op) (s.repo.step rt store (c.1, op)) :=
    step_spec tracked.keyed (c.1, op)
  constructor
  case keyed => exact spec.keyed tracked.keyed
  case readings =>
    intro client reading held
    obtain ⟨app, stored, holds⟩ := tracked.readings client reading held
    obtain ⟨app', stored', progress⟩ := progress_of_careful tracked.keyed asked ok stored
    exact ⟨app', stored', holds.step progress⟩
  case publishing =>
    intro client reading observed held
    obtain ⟨app, stored, seen⟩ := tracked.publishing client reading observed held
    obtain ⟨app', stored', progress⟩ := progress_of_careful tracked.keyed asked ok stored
    exact ⟨app', stored', seen.step progress⟩

theorem tracked_read (tracked : s.Tracked) (client : Nat) (workspaceId appId : Uuid) :
    (s.read client workspaceId appId).Tracked := by
  unfold read
  cases found : s.repo.getApp workspaceId appId with
  | error e => exact tracked
  | ok app =>
    have stored := (HostedAppsRepository.ensureAppScope_ok.mp found).1
    have here := tracked.keyed appId app stored
    refine ⟨tracked.keyed, ?_, tracked.publishing⟩
    intro client₁ reading held
    rw [Dict.get?_set] at held
    split at held
    case isFalse => exact tracked.readings client₁ reading held
    case isTrue =>
      cases held
      refine ⟨app, ?_, ?_⟩
      · rw [here]
        exact stored
      · rw [here]
        exact Reading.holds_self

theorem tracked_observe (tracked : s.Tracked) (client : Nat) : (s.observe client).Tracked := by
  unfold observe
  cases held : s.readings.get? client with
  | none => exact tracked
  | some reading =>
    obtain ⟨app, stored, holds⟩ := tracked.readings client reading held
    dsimp only
    cases found : s.repo.getApp reading.app.workspaceId reading.app.id with
    | error e => exact tracked
    | ok app₁ =>
      have stored₁ := (HostedAppsRepository.ensureAppScope_ok.mp found).1
      rw [stored] at stored₁
      cases stored₁
      refine ⟨tracked.keyed, tracked.readings, ?_⟩
      intro client₁ reading₁ observed held₁
      rw [Dict.get?_set] at held₁
      split at held₁
      case isFalse => exact tracked.publishing client₁ reading₁ observed held₁
      case isTrue =>
        cases held₁
        exact ⟨app, stored, holds.observe⟩

theorem step_of_request (asked : s.request c.2 = some op) :
    s.step rt store c = s.act rt store c.1 op := by
  obtain ⟨env, op'⟩ := c
  cases op' with
  | read => cases asked
  | observe => cases asked
  | update =>
    show (match s.request _ with | none => s | some op => s.act rt store env op) = _
    rw [show s.request _ = some op from asked]
  | publish =>
    show (match s.request _ with | none => s | some op => s.act rt store env op) = _
    rw [show s.request _ = some op from asked]
  | apply => cases asked; rfl

theorem step_of_idle (idle : s.request c.2 = none) (tracked : s.Tracked) :
    (s.step rt store c).repo = s.repo ∧ (s.step rt store c).Tracked := by
  obtain ⟨env, op'⟩ := c
  cases op' with
  | read client workspaceId appId =>
    refine ⟨?_, tracked_read tracked client workspaceId appId⟩
    show (s.read client workspaceId appId).repo = s.repo
    unfold read
    split <;> rfl
  | observe client =>
    refine ⟨?_, tracked_observe tracked client⟩
    show (s.observe client).repo = s.repo
    unfold observe
    split
    case h_1 => rfl
    case h_2 => split <;> rfl
  | update =>
    show (match s.request _ with | none => s | some op => s.act rt store env op).repo = _ ∧
      (match s.request _ with | none => s | some op => s.act rt store env op).Tracked
    rw [show s.request _ = none from idle]
    exact ⟨rfl, tracked⟩
  | publish =>
    show (match s.request _ with | none => s | some op => s.act rt store env op).repo = _ ∧
      (match s.request _ with | none => s | some op => s.act rt store env op).Tracked
    rw [show s.request _ = none from idle]
    exact ⟨rfl, tracked⟩
  | apply => cases idle

theorem publishesFresh_of_tracked (tracked : s.Tracked) (c : Env × ReviewOp) :
    s.PublishesFresh c := by
  intro client draft reading observed app _ held done
  obtain ⟨app₁, stored, seen⟩ := tracked.publishing client reading observed held
  cases @HostedAppsRepository.publishRelease_cases s.repo c.1 (reading.release observed draft) with
  | inl refused =>
    obtain ⟨e, refused⟩ := refused
    rw [refused] at done
    cases done
  | inr released =>
    obtain ⟨app₂, events, publishable, _⟩ := released
    have found : s.repo.apps.get? reading.app.id = some app₂ := publishable.found
    rw [stored] at found
    cases found
    exact seen.fresh publishable.acknowledged

theorem reviewed_of_careful (tracked : s.Tracked) (ok : s.careful store c) :
    (s.step rt store c).Tracked ∧ s.Reviewed rt store c := by
  cases asked : s.request c.2 with
  | none =>
    have idle : (s.step rt store c).repo = s.repo ∧ (s.step rt store c).Tracked :=
      step_of_idle asked tracked
    obtain ⟨same, tracked'⟩ := idle
    refine ⟨tracked', ?_, publishesFresh_of_tracked tracked c⟩
    intro x app stored
    rw [same]
    exact ⟨app, stored, Nat.le_refl _⟩
  | some op =>
    have acted : s.step rt store c = s.act rt store c.1 op := step_of_request asked
    refine ⟨?_, ?_, publishesFresh_of_tracked tracked c⟩
    · rw [acted]
      exact tracked_act tracked asked ok
    · intro x app stored
      rw [acted]
      obtain ⟨app', stored', progress⟩ := progress_of_careful tracked.keyed asked ok stored
      exact ⟨app', stored', progress.revision⟩

/-- In every run whose updates carry no outdated revision, revisions never go down and every
publication has been reviewed. -/
theorem publications_reviewed (rt : TextRuntime) (store : Store) (cs : List (Env × ReviewOp))
    (ok : AllSteps (step rt store) (careful store) {} cs) :
    AllSteps (step rt store) (Reviewed rt store) {} cs := by
  apply ok.of_invariant (P := Tracked)
  · intro s c tracked ok
    exact reviewed_of_careful tracked ok
  · exact tracked_fresh

def reviewedApp : HostedApp := { id := 1, workspaceId := 10, name := "alpha", createdBy := "ada" }

def reviewedDeployment : AppDeployment :=
  { id := 3, appId := 1, workspaceId := 10, status := .ready, createdBy := "ada" }

def addedBinding : AppBinding :=
  { id := 5, appId := 1, workspaceId := 10, name := "orders", workflowId := 6 }

def accepting (now : Instant) : Env := ⟨now, fun _ => true⟩

def reviewRun : List (Env × ReviewOp) :=
  [(accepting 0, .apply (.createAppWithAlias reviewedApp "alpha")),
    (accepting 1, .apply (.addDeployment reviewedDeployment)),
    (accepting 2, .read 1 10 1), (accepting 3, .read 2 10 1), (accepting 4, .observe 2)]

theorem publications_reviewed_renamed :
    AllSteps (step .ascii .inMemory) (careful .inMemory) {}
        (reviewRun ++ [(accepting 5, .update 1 { name := some "beta" } none "app.update"),
          (accepting 6, .publish 2 { id := 4, deploymentId := 3, createdBy := "ada" })]) ∧
      AllSteps (step .ascii .inMemory) (Reviewed .ascii .inMemory) {}
        (reviewRun ++ [(accepting 5, .update 1 { name := some "beta" } none "app.update"),
          (accepting 6, .publish 2 { id := 4, deploymentId := 3, createdBy := "ada" })]) := by
  have ok : AllSteps (step .ascii .inMemory) (careful .inMemory) {}
      (reviewRun ++ [(accepting 5, .update 1 { name := some "beta" } none "app.update"),
        (accepting 6, .publish 2 { id := 4, deploymentId := 3, createdBy := "ada" })]) := by
    refine ⟨trivial, ?_, trivial, trivial, trivial, ?_, trivial, trivial⟩
    · intro _ asks
      cases asks
    · intro stored here
      have same : stored = reviewedApp := Option.some.inj here.symm
      rw [same]
      exact ⟨Nat.le_refl _, fun other => absurd rfl other⟩
  exact ⟨ok, publications_reviewed .ascii .inMemory _ ok⟩

theorem publication_outdated : ¬ ∀ (rt : TextRuntime) (store : Store)
    (cs : List (Env × ReviewOp)), AllSteps (step rt store) (Reviewed rt store) {} cs := by
  intro all
  have last := (all .ascii .inMemory (reviewRun ++
    [(accepting 5, .apply (.saveBinding addedBinding "ada")),
      (accepting 6, .update 1 { name := some "beta" } none "app.update")] ++
    [(accepting 7, .publish 2 { id := 4, deploymentId := 3, createdBy := "ada" })])).last
  have fresh := last.2 2 _ ⟨reviewedApp, 0⟩ .publicApp _ rfl rfl rfl
  cases fresh

end ReviewSystem

end Orcheo.HostedApps
