import Orcheo.Defs.Plugins.Runs

/-! What a change of the plugins leaves where one of its steps fails. -/

namespace Orcheo.Plugins

open Lib (AllSteps)
open FailurePoint (leaves)

structure PluginTurn where
  rt : PluginRuntime
  plan : FailurePlan
  request : PluginRequest

def pluginStep (s : PluginFiles) (turn : PluginTurn) : PluginFiles :=
  ((turn.request.program turn.rt).run (exec turn.rt turn.plan) s).2

def Stored.hasEnvironment (s : Stored) : Bool :=
  s.venv.any (·.whole) || s.backup.any (·.whole)

structure Stored.Same (s s' : Stored) : Prop where
  venv : s'.venv = s.venv
  manifests : s'.manifests = s.manifests
  desired : s'.desired = s.desired
  lock : s'.lock = s.lock

/-- Where the call fails everything is as before, and there still is a whole environment. -/
structure Transactional (s : PluginFiles) (turn : PluginTurn) : Prop where
  restored : ∀ e, ((turn.request.program turn.rt).run (exec turn.rt turn.plan) s).1 = .error e →
    s.stored.Same (pluginStep s turn).stored
  kept : s.stored.hasEnvironment = true → (pluginStep s turn).stored.hasEnvironment = true

namespace FailurePoint

def Harmless (rt : PluginRuntime) (s : Stored) (change : Change) : FailurePoint → Prop
  | early | nowhere => True
  | removingManifests left | copyingManifests left => left = s.manifests
  | removingOldBackup _ | renamingAway => change.cache rt = s.manifests
  | renamingIn => change.cache rt = s.manifests ∧ s.venv = none
  | removingBackup _ | writingDesired =>
    change.cache rt = s.manifests ∧ some (change.venv rt) = s.venv
  | writingLock => change.cache rt = s.manifests ∧ some (change.venv rt) = s.venv ∧
    change.desiredState rt = s.desired
  | showing => change.cache rt = s.manifests ∧ some (change.venv rt) = s.venv ∧
    change.desiredState rt = s.desired ∧ change.lockState rt = s.lock

def Keeps (s : Stored) : FailurePoint → Prop
  | removingOldBackup left =>
    s.venv.any (·.whole) = true ∨ s.backup.any (·.whole) = false ∨ left.any (·.whole) = true
  | renamingAway | renamingIn => s.venv.any (·.whole) = true ∨ s.backup.any (·.whole) = false
  | _ => True

end FailurePoint

/-- The call fails before it has changed anything, or nothing of what it has changed was new; and
it does not fail between the removal and the replacement of the only whole environment. -/
def FailsHarmlessly (s : PluginFiles) (turn : PluginTurn) : Prop :=
  ∀ change, turn.request.planned turn.rt turn.plan s = some change →
    (failurePoint turn.rt turn.plan s change).Harmless turn.rt s.stored change ∧
    (failurePoint turn.rt turn.plan s change).Keeps s.stored

variable {rt : PluginRuntime} {change : Change} {s : PluginFiles}

theorem Stored.same_iff {s s' : Stored} : s.Same s' ↔ s'.venv = s.venv ∧
    s'.manifests = s.manifests ∧ s'.desired = s.desired ∧ s'.lock = s.lock :=
  ⟨fun same => ⟨same.venv, same.manifests, same.desired, same.lock⟩,
    fun ⟨venv, manifests, desired, lock⟩ => ⟨venv, manifests, desired, lock⟩⟩

theorem harmless_iff {s : Stored} {point : FailurePoint} :
    (point ≠ .nowhere → s.Same (point.leaves rt s change)) ↔ point.Harmless rt s change := by
  rw [Stored.same_iff]
  cases point with
  | nowhere => simp [FailurePoint.Harmless]
  | _ => simp [FailurePoint.Harmless, leaves, eq_comm, and_assoc, and_comm]

theorem keeps_iff {s : Stored} {point : FailurePoint} :
    (s.hasEnvironment = true → (point.leaves rt s change).hasEnvironment = true) ↔
      point.Keeps s := by
  have whole : (change.venv rt).whole = true := rfl
  unfold Stored.hasEnvironment
  cases point with
  | early | removingManifests _ | copyingManifests _ =>
    simp [FailurePoint.Keeps, leaves]
  | removingBackup _ | writingDesired | writingLock | showing | nowhere =>
    simp [FailurePoint.Keeps, leaves, whole]
  | removingOldBackup left =>
    simp only [FailurePoint.Keeps, leaves]
    cases s.venv.any (·.whole) <;> cases s.backup.any (·.whole) <;> simp
  | renamingAway | renamingIn =>
    simp only [FailurePoint.Keeps, leaves, Option.any_none]
    cases s.venv.any (·.whole) <;> cases s.backup.any (·.whole) <;> simp

theorem transactional_iff (turn : PluginTurn) :
    Transactional s turn ↔ FailsHarmlessly s turn := by
  have ran := run_request turn.rt turn.plan s turn.request
  unfold FailsHarmlessly
  cases planned : turn.request.planned turn.rt turn.plan s with
  | none =>
    rw [planned] at ran
    have same : (pluginStep s turn).stored = s.stored := ran.2
    constructor
    · intro _ change absent
      cases absent
    · intro _
      refine ⟨fun _ _ => ?_, fun has => ?_⟩
      · rw [same]
        exact ⟨rfl, rfl, rfl, rfl⟩
      · rw [same]
        exact has
  | some change =>
    rw [planned] at ran
    obtain ⟨result, left⟩ := ran
    change (pluginStep s turn).stored = _ at left
    constructor
    · rintro ⟨restored, kept⟩ _ ⟨⟩
      rw [left] at restored kept
      refine ⟨harmless_iff.mp ?_, keeps_iff.mp kept⟩
      intro stops
      cases result with
      | inl succeeded => exact absurd succeeded.2 stops
      | inr failed =>
        obtain ⟨⟨e, failed⟩, -⟩ := failed
        exact restored e failed
    · intro harmless
      obtain ⟨harmless, keeps⟩ := harmless change rfl
      refine ⟨fun e failed => ?_, fun has => ?_⟩
      · rw [left]
        apply harmless_iff.mpr harmless
        cases result with
        | inl succeeded => cases failed.symm.trans succeeded.1
        | inr failed => exact failed.2
      · rw [left]
        exact keeps_iff.mpr keeps has

/-- Changes of the plugins are transactional exactly where they fail harmlessly. -/
theorem plugin_changes_transactional_iff (s : PluginFiles) (turns : List PluginTurn) :
    AllSteps pluginStep Transactional s turns ↔ AllSteps pluginStep FailsHarmlessly s turns := by
  apply Lib.allSteps_iff_of_invariant (P := fun _ => True)
  case hstep => exact fun s turn _ => transactional_iff turn
  case keep => exact fun _ _ _ _ => trivial
  case hs => trivial

namespace Retry

def plain : PluginRuntime where
  lower name := name
  tempVenvPath _ := "venv"
  emptyVenv _ := none
  installed _ _ _ := none
  loadPluginManifests _ := .ok [({
    name := "plugin"
    version := "2"
    description := ""
    author := ""
    pluginApiVersion := 1
    orcheoVersion := ""
    exports := [] }, "")]
  satisfies _ := some true
  runningOrcheoVersion := "1"
  dumps _ := ""
  hashInstallSource source := source

def installed : PluginFiles where
  dirs
    | .venv => some ⟨fun _ => none, true⟩
    | _ => none
  desired := some [{ name := "plugin", source := "plugin" }]

/-- The environment is set aside, and the new one cannot be put in its place. -/
def update : PluginTurn where
  rt := plain
  plan
    | .osReplace .tempVenv .venv => some none
    | _ => none
  request := .update "plugin"

end Retry

theorem retried_update_destroys_environment :
    ¬ AllSteps pluginStep Transactional Retry.installed [Retry.update] ∧
    (pluginStep Retry.installed Retry.update).stored.hasEnvironment = true ∧
    (pluginStep (pluginStep Retry.installed Retry.update) Retry.update).stored.hasEnvironment =
      false := by
  refine ⟨?_, by decide +kernel, by decide +kernel⟩
  intro all
  have failed : ∃ e, ((Retry.update.request.program Retry.plain).run
      (exec Retry.plain Retry.update.plan) Retry.installed).1 = .error e := ⟨.stepFailed, by rfl⟩
  obtain ⟨e, failed⟩ := failed
  have same := (all.1.restored e failed).venv
  have gone : (pluginStep Retry.installed Retry.update).stored.venv.isSome = false := by
    decide +kernel
  rw [same] at gone
  cases gone

end Orcheo.Plugins
