import Orcheo.Defs.HostedApps.RepositoryLaws

/-! What a published descriptor promises, and the runs in which every answer keeps it. -/

namespace Orcheo.HostedApps

open Lib (Dict Always AllSteps bind_ok_iff)
open Repository (TextRuntime)

namespace HostedAppsRepository

def deliverable (app : HostedApp) : Bool :=
  decide (app.isArchived = false ∧ app.publicationState = .published ∧ app.suspendedAt = none)

structure Gate (r : HostedAppsRepository) (d : PublishedDescriptor) : Prop where
  enabled : r.runtime.enabled = true
  live : ∃ held, r.aliases.get? d.alias_ = some held ∧ held.reservedKind = .app ∧
    held.appId = some d.appId ∧ held.workspaceId = some d.workspaceId
  app : ∃ app, r.apps.get? d.appId = some app ∧ app.workspaceId = d.workspaceId ∧
    deliverable app = true ∧ app.activeReleaseId = some d.releaseId ∧
    ∀ x block, r.moderationBlocks.get? x = some block → block.liftedAt = none →
      (block.targetKind, block.targetId) ∉ [("alias", d.alias_), ("app", idText d.appId),
        ("workspace", idText d.workspaceId), ("publisher", app.createdBy)]
  release : ∃ release, r.releases.get? d.releaseId = some release ∧ release.appId = d.appId ∧
    release.workspaceId = d.workspaceId ∧ release.deploymentId = d.deploymentId
  deployment : ∃ deployment, r.deployments.get? d.deploymentId = some deployment ∧
    deployment.appId = d.appId ∧ deployment.workspaceId = d.workspaceId ∧
    deployment.status = .ready

def Delivers (rt : TextRuntime) (store : Store) (r : HostedAppsRepository) : Prop :=
  ∀ rawAlias d, r.resolveDescriptor rt store rawAlias = .ok (.published d) →
    normalizeAlias rt rawAlias = .ok d.alias_ ∧ r.Gate d

def ServesOwn (store : Store) (r : HostedAppsRepository) : Prop :=
  store = .inMemory → ∀ x app y release, r.apps.get? x = some app → deliverable app = true →
    app.activeReleaseId = some y → r.releases.get? y = some release → release.appId = x

structure Sound (store : Store) (r : HostedAppsRepository) : Prop where
  keyed : r.Keyed
  aliasKeyed : r.AliasKeyed
  releaseKeyed : ∀ y release, r.releases.get? y = some release → release.id = y
  scoped_ : ∀ y release, r.releases.get? y = some release →
    ∃ app, r.apps.get? release.appId = some app ∧ app.workspaceId = release.workspaceId
  ready : ∀ y release, r.releases.get? y = some release →
    ∃ deployment, r.deployments.get? release.deploymentId = some deployment ∧
      deployment.appId = release.appId ∧ deployment.workspaceId = release.workspaceId ∧
      deployment.status = .ready
  own : r.ServesOwn store

/-- No app is stored as delivered with the release of another one, and no release is published
under an identifier that a delivered app of another one selects already. -/
def keepsOwn (store : Store) (r : HostedAppsRepository) (c : Env × RepositoryOp) : Prop :=
  store = .inMemory → match c.2 with
  | .createAppWithAlias app _ => ∀ y release, deliverable app = true →
    app.activeReleaseId = some y → r.releases.get? y = some release → release.appId = app.id
  | .updateApp app _ _ => ∀ y release, deliverable app = true →
    app.activeReleaseId = some y → r.releases.get? y = some release → release.appId = app.id
  | .publishRelease release => ∀ x app, r.apps.get? x = some app → deliverable app = true →
    app.activeReleaseId = some release.id → release.appId = x
  | _ => True

variable {r r' : HostedAppsRepository} {rt : TextRuntime} {store : Store}
  {c : Env × RepositoryOp}

theorem servesOwn_step (sound : r.Sound store) (spec : StepSpec r c r')
    (keeps : r.keepsOwn store c) : r'.ServesOwn store := by
  intro inMemory x app' y release stored' delivered active released
  have keeps := keeps inMemory
  have own := sound.own inMemory
  -- a release that is stored already, or the one that is published
  have old (app : HostedApp) (stored : r.apps.get? x = some app) (delivered : deliverable app = true)
      (active : app.activeReleaseId = some y) : release.appId = x := by
    cases spec.releases with
    | inl same =>
      rw [same] at released
      exact own x app y release stored delivered active released
    | inr new =>
      obtain ⟨release₁, app₁, op, publishable, written⟩ := new
      rw [written] at released
      obtain ⟨same, rfl⟩ | ⟨-, released⟩ := Dict.of_get?_set released
      · rw [op] at keeps
        rw [same] at active
        exact keeps x app stored delivered active
      · exact own x app y release stored delivered active released
  cases stored : r.apps.get? x with
  | none =>
    obtain ⟨here, rawAlias, op⟩ := spec.apps.added x app' stored stored'
    rw [op] at keeps
    cases spec.releases with
    | inl same =>
      rw [same] at released
      rw [← here]
      exact keeps y release delivered active released
    | inr new =>
      obtain ⟨release₁, app₁, op', _⟩ := new
      rw [op] at op'
      cases op'
  | some app =>
    obtain ⟨app₂, stored₂, change⟩ := spec.apps.changed x app stored
    rw [stored'] at stored₂
    cases stored₂
    cases change with
    | raised => exact old app stored delivered active
    | replaced op id workspace =>
      rw [op] at keeps
      cases spec.releases with
      | inl same =>
        rw [same] at released
        rw [← sound.keyed x app stored, ← id]
        exact keeps y release delivered active released
      | inr new =>
        obtain ⟨release₁, app₁, op', _⟩ := new
        rw [op] at op'
        cases op'
    | @published release₀ op publishable =>
      have y_eq : release₀.id = y := Option.some.inj active
      rw [← y_eq] at released
      have served : release = release₀ := by
        cases spec.releases with
        | inl same =>
          rw [same, publishable.fresh] at released
          cases released
        | inr new =>
          obtain ⟨release₁, app₁, op', _, written⟩ := new
          rw [op] at op'
          cases op'
          rw [written, Dict.get?_set, if_pos rfl] at released
          exact (Option.some.inj released).symm
      rw [served, ← sound.keyed _ _ publishable.found]
      exact sound.keyed x app stored
    | unpublished => simp [deliverable] at delivered

theorem sound_step (sound : r.Sound store) (c : Env × RepositoryOp) (keeps : r.keepsOwn store c) :
    (r.step rt store c).Sound store := by
  have spec : StepSpec r c (r.step rt store c) := step_spec sound.keyed c
  -- a stored release is an old one, or the one that is published
  have released (y : Uuid) (release : AppRelease)
      (stored : (r.step rt store c).releases.get? y = some release) :
      r.releases.get? y = some release ∨
        y = release.id ∧ ∃ app, r.Publishable app release := by
    cases spec.releases with
    | inl same =>
      rw [same] at stored
      exact Or.inl stored
    | inr new =>
      obtain ⟨release₁, app, _, publishable, written⟩ := new
      rw [written] at stored
      obtain ⟨same, rfl⟩ | ⟨-, stored⟩ := Dict.of_get?_set stored
      · exact Or.inr ⟨same, app, publishable⟩
      · exact Or.inl stored
  refine ⟨spec.keyed sound.keyed, spec.aliases sound.aliasKeyed, ?_, ?_, ?_,
    servesOwn_step sound spec keeps⟩
  · intro y release stored
    cases released y release stored with
    | inl old => exact sound.releaseKeyed y release old
    | inr new => exact new.1.symm
  · intro y release stored
    have owner : ∃ app, r.apps.get? release.appId = some app ∧
        app.workspaceId = release.workspaceId := by
      cases released y release stored with
      | inl old => exact sound.scoped_ y release old
      | inr new =>
        obtain ⟨_, app, publishable⟩ := new
        exact ⟨app, publishable.found, publishable.workspace⟩
    obtain ⟨app, found, workspace⟩ := owner
    obtain ⟨app', found', change⟩ := spec.apps.changed _ app found
    exact ⟨app', found', change.workspaceId_eq.trans workspace⟩
  · intro y release stored
    have ready : ∃ deployment, r.deployments.get? release.deploymentId = some deployment ∧
        deployment.appId = release.appId ∧ deployment.workspaceId = release.workspaceId ∧
        deployment.status = .ready := by
      cases released y release stored with
      | inl old => exact sound.ready y release old
      | inr new =>
        obtain ⟨_, app, publishable⟩ := new
        obtain ⟨deployment, present, good⟩ := (Option.any_eq_true _ _).mp publishable.deployment
        obtain ⟨app_eq, workspace, status⟩ := of_decide_eq_true good
        have owner := sound.keyed _ _ publishable.found
        exact ⟨deployment, present, app_eq.trans owner,
          workspace.trans publishable.workspace, status⟩
    obtain ⟨deployment, present, rest⟩ := ready
    exact ⟨deployment, spec.deployments _ _ present, rest⟩

theorem sound_fresh : Sound store {} where
  keyed _ _ stored := nomatch stored
  aliasKeyed _ _ stored := nomatch stored
  releaseKeyed _ _ stored := nomatch stored
  scoped_ _ _ stored := nomatch stored
  ready _ _ stored := nomatch stored
  own _ _ _ _ _ stored := nomatch stored

theorem liveAlias_ok {held : Option AppAlias} {reservation : AppAlias}
    {appId workspaceId : Uuid} (h : liveAlias held = .ok (reservation, appId, workspaceId)) :
    held = some reservation ∧ reservation.reservedKind = .app ∧
      reservation.appId = some appId ∧ reservation.workspaceId = some workspaceId := by
  cases held with
  | none => cases h
  | some held =>
    rw [liveAlias] at h
    split at h
    case h_1 kind app workspace =>
      cases h
      exact ⟨rfl, kind, app, workspace⟩
    case h_2 => cases h

theorem activeRelease_ok {app : HostedApp} {release : AppRelease}
    (h : r.activeRelease store app = .ok release) :
    app.isArchived = false ∧ app.publicationState = .published ∧
      ∃ y, app.activeReleaseId = some y ∧ r.findRelease store app y = some release := by
  unfold activeRelease at h
  split at h
  case isFalse => cases h
  case isTrue shown =>
    split at h
    case h_1 => cases h
    case h_2 y active =>
      split at h
      case h_1 => cases h
      case h_2 found =>
        cases h
        exact ⟨shown.1, shown.2, y, active, found⟩

theorem findRelease_some {app : HostedApp} {y : Uuid} {release : AppRelease}
    (h : r.findRelease store app y = some release) :
    r.releases.get? y = some release ∧ (store = .postgres → release.appId = app.id) := by
  cases store with
  | inMemory => exact ⟨h, nofun⟩
  | postgres =>
    obtain ⟨stored, own⟩ := Option.filter_eq_some_iff.mp h
    exact ⟨stored, fun _ => (of_decide_eq_true own).2⟩

theorem delivers_of_sound (sound : r.Sound store) : r.Delivers rt store := by
  intro rawAlias d h
  unfold resolveDescriptor at h
  obtain ⟨_, enabled, h⟩ := bind_ok_iff.mp h
  obtain ⟨normalized, normal, h⟩ := bind_ok_iff.mp h
  obtain ⟨⟨reservation, appId, workspaceId⟩, live, h⟩ := bind_ok_iff.mp h
  obtain ⟨app, found, h⟩ := bind_ok_iff.mp h
  obtain ⟨held, kind, heldApp, heldWorkspace⟩ := liveAlias_ok live
  obtain ⟨stored, workspace⟩ := ensureAppScope_ok.mp found
  have here : app.id = appId := sound.keyed _ _ stored
  have text : reservation.alias_ = normalized := sound.aliasKeyed _ _ held
  split at h
  case isTrue => cases h
  case isFalse open_ =>
    rw [not_or, Option.not_isSome_iff_eq_none] at open_
    obtain ⟨release, served, h⟩ := bind_ok_iff.mp h
    cases h
    obtain ⟨unarchived, shown, y, active, selected⟩ := activeRelease_ok served
    obtain ⟨released, postgres⟩ := findRelease_some selected
    have own : release.appId = app.id := by
      cases store with
      | postgres => exact postgres rfl
      | inMemory =>
        rw [here]
        apply sound.own rfl appId app y release stored _ active released
        exact decide_eq_true ⟨unarchived, shown, open_.1⟩
    have releaseId : release.id = y := sound.releaseKeyed y release released
    obtain ⟨app₂, stored₂, scope⟩ := sound.scoped_ y release released
    rw [own, here, stored] at stored₂
    cases stored₂
    obtain ⟨deployment, present, owner, deploymentScope, ready⟩ := sound.ready y release released
    refine ⟨?_, ⟨ensure_ok.mp enabled, ?_, ⟨app, ?_, rfl, ?_, ?_, ?_⟩, ?_, ?_⟩⟩
    · dsimp only [describe]
      rw [normal, text]
    · refine ⟨reservation, ?_, kind, ?_, ?_⟩
      · dsimp only [describe]
        rw [text]
        exact held
      · rw [heldApp, ← here]
        rfl
      · rw [heldWorkspace, ← workspace]
        rfl
    · dsimp only [describe]
      rw [here]
      exact stored
    · exact decide_eq_true ⟨unarchived, shown, open_.1⟩
    · dsimp only [describe]
      rw [releaseId]
      exact active
    · intro x block placed lifted targeted
      apply open_.2
      unfold isPlatformBlocked
      rw [List.any_eq_true]
      refine ⟨block, ?_, decide_eq_true ⟨lifted, targeted⟩⟩
      exact List.mem_map.mpr ⟨(x, block), (Dict.get?_eq_some_iff _ _ _).mp placed, rfl⟩
    · refine ⟨release, ?_, own, scope.symm, rfl⟩
      dsimp only [describe]
      rw [releaseId]
      exact released
    · refine ⟨deployment, present, owner.trans own, ?_, ready⟩
      exact deploymentScope.trans scope.symm

def alphaApp : HostedApp := { id := 1, workspaceId := 10, name := "alpha", createdBy := "ada" }

def betaApp : HostedApp := { id := 2, workspaceId := 20, name := "beta", createdBy := "bob" }

def betaDeployment : AppDeployment :=
  { id := 3, appId := 2, workspaceId := 20, status := .ready, createdBy := "bob" }

def betaRelease : AppRelease :=
  { id := 4, workspaceId := 20, appId := 2, deploymentId := 3, permissionRevision := 1,
    visibility := .publicApp, capabilitySnapshot := .null, snapshotSha256 := "",
    createdBy := "bob" }

def publishedRun : List (Env × RepositoryOp) :=
  [(⟨0, fun _ => true⟩, .setRuntimeEnabled true "root"),
    (⟨1, fun _ => true⟩, .createAppWithAlias alphaApp "alpha"),
    (⟨2, fun _ => true⟩, .createAppWithAlias betaApp "beta"),
    (⟨3, fun _ => true⟩, .addDeployment betaDeployment),
    (⟨4, fun _ => true⟩, .publishRelease betaRelease)]

def foreignRun : List (Env × RepositoryOp) :=
  publishedRun ++ [(⟨5, fun _ => true⟩, .updateApp
    { alphaApp with publicationState := .published, activeReleaseId := some 4 } none "app.update")]

def foreignDescriptor : PublishedDescriptor where
  alias_ := "alpha"
  generation := 1
  workspaceId := 10
  appId := 1
  releaseId := 4
  deploymentId := 3
  visibility := .publicApp
  snapshotSha256 := ""
  capabilitySnapshot := .null

end HostedAppsRepository

end Orcheo.HostedApps
