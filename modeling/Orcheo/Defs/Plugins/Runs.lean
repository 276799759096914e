import Orcheo.Defs.Plugins.FailurePoints

/-! Every call of the plugin manager ends at its failure point, with what that leaves. -/

namespace Orcheo.Plugins

open Lib (Call Dict)
open Lib.Call (andThen_assoc andThen_done run_andThen_error run_andThen_ok run_bind)
open PluginRequest (knows planned plannedBuild plannedChange previews)
open FailurePoint (leaves)
open Or (inr inl)
open Prod (fst ext snd)
open Stored (venv backup manifests desired lock)

variable {rt : PluginRuntime} {plan : FailurePlan} {s s₁ : PluginFiles} {change : Change}

variable {content : Option Directory} {d : PluginDir} {op : PluginOp} {stage : Stage}
  {built desired : List DesiredPluginRecord}
  {validate : List PluginManifest → Except PluginError Unit} {shown : Option String}

@[simp] theorem put_dirs {d' : PluginDir} :
    (s.put d content).dirs d' = if d' = d then content else s.dirs d' := rfl

@[simp] theorem put_desired : (s.put d content).desired = s.desired := rfl

@[simp] theorem put_lock : (s.put d content).lock = s.lock := rfl

theorem put_same (same : s.dirs d = content) :
    s.put d content = s := by
  unfold PluginFiles.put
  congr
  funext d'
  split
  next here => rw [here, same]
  next => rfl

theorem exec_fails (heeded : op.ignoresErrors = false) (failed : fails plan op = true) :
    exec rt plan op s =
      (.error .stepFailed, op.writes.elim s (fun d => s.put d (leavesOf plan op))) := by
  obtain ⟨left, there⟩ := Option.isSome_iff_exists.mp failed
  simp [exec, heeded, leavesOf, there]

theorem exec_performs (fine : op.ignoresErrors = true ∨ fails plan op = false) :
    exec rt plan op s = perform rt op s := by
  unfold exec
  cases fine with
  | inl ignored => rw [ignored]; rfl
  | inr fine =>
    have absent : plan op = none := by simpa [fails] using fine
    rw [absent, ite_self]

theorem run_pathExists :
    (PluginOp.pathExists d).call.run (exec rt plan) s = (.ok (s.dirs d).isSome, s) := rfl

theorem run_fails (heeded : op.ignoresErrors = false) (failed : fails plan op = true) :
    op.call.run (exec rt plan) s =
      (.error .stepFailed, op.writes.elim s (fun d => s.put d (leavesOf plan op))) :=
  exec_fails heeded failed

theorem run_performs (fine : fails plan op = false) :
    op.call.run (exec rt plan) s = perform rt op s := exec_performs (inr fine)

variable (rt plan s) in
theorem run_removeIfThere (d : PluginDir) (last : Bool) :
    ((s.dirs d).isSome && fails plan (.rmtree d last)) = true ∧
      (removeIfThere d last).run (exec rt plan) s =
        (.error .stepFailed, s.put d (leavesOf plan (.rmtree d last))) ∨
    ((s.dirs d).isSome && fails plan (.rmtree d last)) = false ∧
      (removeIfThere d last).run (exec rt plan) s = (.ok (), s.put d none) := by
  unfold removeIfThere
  rw [run_andThen_ok run_pathExists]
  cases there : s.dirs d with
  | none =>
    rw [put_same there]
    exact inr ⟨rfl, rfl⟩
  | some content =>
    cases failed : fails plan (.rmtree d last) with
    | true => exact inl ⟨rfl, run_fails rfl failed⟩
    | false => exact inr ⟨rfl, run_performs failed⟩

theorem overlaid_none {content : Directory} : Directory.overlaid none content = content := by
  unfold Directory.overlaid
  simp

variable (source destination : PluginDir)

variable (rt plan s) in
theorem run_copyIfThere (absent : s.dirs destination = none) :
    ((s.dirs source).isSome && fails plan (.copytree source destination)) = true ∧
      (copyIfThere source destination).run (exec rt plan) s =
        (.error .stepFailed, s.put destination (leavesOf plan (.copytree source destination))) ∨
    ((s.dirs source).isSome && fails plan (.copytree source destination)) = false ∧
      (copyIfThere source destination).run (exec rt plan) s =
        (.ok (), s.put destination (s.dirs source)) := by
  unfold copyIfThere
  rw [run_andThen_ok run_pathExists]
  cases there : s.dirs source with
  | none =>
    rw [put_same absent]
    exact inr ⟨rfl, rfl⟩
  | some content =>
    cases failed : fails plan (.copytree source destination) with
    | true => exact inl ⟨rfl, run_fails rfl failed⟩
    | false =>
      refine inr ⟨rfl, (run_performs failed).trans ?_⟩
      simp [perform, there, absent, overlaid_none]

variable (rt plan s) in
theorem run_osReplace (absent : s.dirs destination = none) :
    fails plan (.osReplace source destination) = true ∧
      (PluginOp.osReplace source destination).call.run (exec rt plan) s = (.error .stepFailed, s) ∨
    fails plan (.osReplace source destination) = false ∧
      (PluginOp.osReplace source destination).call.run (exec rt plan) s =
        (.ok (), (s.put destination (s.dirs source)).put source none) := by
  cases failed : fails plan (.osReplace source destination) with
  | true => exact inl ⟨rfl, run_fails rfl failed⟩
  | false =>
    refine inr ⟨rfl, (run_performs failed).trans ?_⟩
    simp [perform, absent]

/-- Only the directories of a build differ. -/
structure Kept (s s₁ : PluginFiles) : Prop where
  stored : s₁.stored = s.stored
  wheels : s₁.dirs .wheels = s.dirs .wheels

structure Prepared (rt : PluginRuntime) (s s₁ : PluginFiles) (change : Change) : Prop
    extends Kept s s₁ where
  tempVenv : s₁.dirs .tempVenv = some (change.venv rt)
  tempWheels : (s₁.dirs .tempWheels).isSome = !change.refs.isEmpty
  tempManifests : s₁.dirs .tempManifests = change.cache rt

theorem cache_isSome : (change.cache rt).isSome = !change.refs.isEmpty := by
  unfold Change.cache
  cases change.refs <;> rfl

def Activates (rt : PluginRuntime) (s : PluginFiles) (change : Change)
    (ran : Except PluginError Unit × PluginFiles) : Option FailurePoint → Prop
  | some point => (∃ e, ran.1 = .error e) ∧ ran.2.stored = point.leaves rt s.stored change
  | none => ran.1 = .ok () ∧ ran.2.stored = FailurePoint.writingDesired.leaves rt s.stored change

variable (rt plan s₁) in
theorem run_renameAway (absent : s₁.dirs .backup = none) :
    ((s₁.dirs .venv).isSome && fails plan (.osReplace .venv .backup)) = true ∧
      (if (s₁.dirs .venv).isSome then (PluginOp.osReplace .venv .backup).call
        else .done (.ok ())).run (exec rt plan) s₁ = (.error .stepFailed, s₁) ∨
    ((s₁.dirs .venv).isSome && fails plan (.osReplace .venv .backup)) = false ∧
      (if (s₁.dirs .venv).isSome then (PluginOp.osReplace .venv .backup).call
        else .done (.ok ())).run (exec rt plan) s₁ =
        (.ok (), (s₁.put .backup (s₁.dirs .venv)).put .venv none) := by
  cases there : s₁.dirs .venv with
  | none =>
    right
    rw [put_same absent, put_same there]
    exact ⟨rfl, rfl⟩
  | some env =>
    have replaced := run_osReplace rt plan s₁ .venv .backup absent
    rw [there] at replaced
    exact replaced

theorem run_replaceDirectory (stored : s₁.stored = { s.stored with manifests := change.cache rt })
    (tempVenv : s₁.dirs .tempVenv = some (change.venv rt)) :
    Activates rt s change (replaceDirectory.run (exec rt plan) s₁) (swapPoint plan s) := by
  have venv : s₁.dirs .venv = s.dirs .venv := congrArg venv stored
  have backup : s₁.dirs .backup = s.dirs .backup := congrArg backup stored
  have manifests : s₁.dirs .manifests = change.cache rt := congrArg manifests stored
  have desired : s₁.desired = s.desired := congrArg desired stored
  have lock : s₁.lock = s.lock := congrArg lock stored
  unfold replaceDirectory swapPoint
  obtain ⟨failed, ran⟩ | ⟨fine, ran⟩ := run_removeIfThere rt plan s₁ .backup false
  · rw [backup] at failed
    rw [run_andThen_error ran, if_pos failed]
    refine ⟨⟨_, rfl⟩, ?_⟩
    simp [leaves, PluginFiles.stored, venv, manifests, desired, lock]
  rw [backup] at fine
  rw [run_andThen_ok ran, if_neg (by simp [fine]), run_andThen_ok run_pathExists]
  obtain ⟨failed, ran⟩ | ⟨fine, ran⟩ := run_renameAway rt plan (s₁.put .backup none) rfl
  · rw [run_andThen_error ran, if_pos (by simpa [venv] using failed)]
    refine ⟨⟨_, rfl⟩, ?_⟩
    simp [leaves, PluginFiles.stored, venv, manifests, desired, lock]
  rw [run_andThen_ok ran, if_neg (by simpa [venv] using fine)]
  obtain ⟨failed, ran⟩ | ⟨fine, ran⟩ := run_osReplace rt plan
    (((s₁.put .backup none).put .backup ((s₁.put .backup none).dirs .venv)).put .venv none)
    .tempVenv .venv rfl
  · rw [run_andThen_error ran, if_pos failed]
    refine ⟨⟨_, rfl⟩, ?_⟩
    simp [leaves, PluginFiles.stored, venv, manifests, desired, lock]
  rw [run_andThen_ok ran, if_neg (by simp [fine])]
  obtain ⟨failed, ran⟩ | ⟨fine, ran⟩ := run_removeIfThere rt plan _ .backup true
  · rw [ran, if_pos (by simpa [venv] using failed)]
    refine ⟨⟨_, rfl⟩, ?_⟩
    simp [leaves, PluginFiles.stored, tempVenv, manifests, desired, lock]
  · rw [ran, if_neg (by simpa [venv] using fine)]
    refine ⟨rfl, ?_⟩
    simp [leaves, PluginFiles.stored, tempVenv, manifests, desired, lock]

variable (plan) in
theorem run_activate (prepared : Prepared rt s s₁ change) :
    Activates rt s change (activate.run (exec rt plan) s₁) (activationPoint plan s change) := by
  obtain ⟨⟨stored, wheels⟩, tempVenv, tempWheels, tempManifests⟩ := prepared
  have venv : s₁.dirs .venv = s.dirs .venv := congrArg venv stored
  have backup : s₁.dirs .backup = s.dirs .backup := congrArg backup stored
  have manifests : s₁.dirs .manifests = s.dirs .manifests := congrArg manifests stored
  have desired : s₁.desired = s.desired := congrArg desired stored
  have lock : s₁.lock = s.lock := congrArg lock stored
  unfold activate activationPoint
  cases makes : fails plan .makePluginDir with
  | true =>
    rw [run_andThen_error (run_fails rfl makes)]
    exact ⟨⟨_, rfl⟩, stored⟩
  | false =>
    rw [run_andThen_ok (run_performs makes), if_neg (by decide)]
    change Activates rt s change (Call.run (exec rt plan) _ s₁) _
    obtain ⟨failed, ran⟩ | ⟨fine, ran⟩ := run_removeIfThere rt plan s₁ .wheels false
    · rw [run_andThen_error ran, if_pos (by simpa [wheels] using failed)]
      refine ⟨⟨_, rfl⟩, ?_⟩
      simp [leaves, PluginFiles.stored, venv, backup, manifests, desired, lock]
    rw [run_andThen_ok ran, if_neg (by simpa [wheels] using fine)]
    obtain ⟨failed, ran⟩ | ⟨fine, ran⟩ := run_copyIfThere rt plan (s₁.put .wheels none)
      .tempWheels .wheels rfl
    · rw [run_andThen_error ran, if_pos (by simpa [tempWheels] using failed)]
      refine ⟨⟨_, rfl⟩, ?_⟩
      simp [leaves, PluginFiles.stored, venv, backup, manifests, desired, lock]
    rw [run_andThen_ok ran, if_neg (by simpa [tempWheels] using fine)]
    obtain ⟨failed, ran⟩ | ⟨fine, ran⟩ := run_removeIfThere rt plan
      ((s₁.put .wheels none).put .wheels ((s₁.put .wheels none).dirs .tempWheels)) .manifests false
    · rw [run_andThen_error ran, if_pos (by simpa [manifests] using failed)]
      refine ⟨⟨_, rfl⟩, ?_⟩
      simp [leaves, PluginFiles.stored, venv, backup, desired, lock]
    rw [run_andThen_ok ran, if_neg (by simpa [manifests] using fine)]
    obtain ⟨failed, ran⟩ | ⟨fine, ran⟩ := run_copyIfThere rt plan
      (((s₁.put .wheels none).put .wheels ((s₁.put .wheels none).dirs .tempWheels)).put .manifests
        none) .tempManifests .manifests rfl
    · rw [run_andThen_error ran,
        if_pos (by simpa [tempManifests, cache_isSome] using failed)]
      refine ⟨⟨_, rfl⟩, ?_⟩
      simp [leaves, PluginFiles.stored, venv, backup, desired, lock]
    rw [run_andThen_ok ran, if_neg (by simpa [tempManifests, cache_isSome] using fine)]
    apply run_replaceDirectory
    case stored =>
      simp [PluginFiles.stored, tempManifests, venv, backup, desired, lock]
    case tempVenv => simpa using tempVenv

theorem Kept.trans {s₂ : PluginFiles} (kept : Kept s s₁) (kept' : Kept s₁ s₂) : Kept s s₂ :=
  ⟨kept'.stored.trans kept.stored, kept'.wheels.trans kept.wheels⟩

structure Builds (rt : PluginRuntime) (stage : Stage) (refs : List String)
    (manifests : List (PluginManifest × String)) (s s₁ : PluginFiles) : Prop
    extends Kept s s₁ where
  tempVenv : s₁.dirs .tempVenv =
    some ⟨if refs = [] then rt.emptyVenv else rt.installed stage refs, true⟩
  tempWheels : (s₁.dirs .tempWheels).isSome = !refs.isEmpty
  tempManifests : s₁.dirs .tempManifests =
    if refs = [] then none else some (manifestCache rt manifests)

def BuildsAs (rt : PluginRuntime) (stage : Stage) (refs : List String) (s : PluginFiles)
    (ran : Except PluginError Built × PluginFiles) :
    Except PluginError (List (PluginManifest × String)) → Prop
  | .error e => ran.1 = .error e ∧ Kept s ran.2
  | .ok manifests => ran.1 = .ok (manifests.map fst, manifests.map (lockedRecord rt stage)) ∧
    Builds rt stage refs manifests s ran.2

structure Fresh (s : PluginFiles) : Prop where
  venv : s.dirs .tempVenv = none
  wheels : s.dirs .tempWheels = none
  manifests : s.dirs .tempManifests = none

theorem Kept.put (kept : Kept s s₁) (own : d = .tempVenv ∨ d = .tempWheels ∨ d = .tempManifests) :
    Kept s (s₁.put d content) := by
  refine kept.trans ⟨?_, ?_⟩ <;> rcases own with rfl | rfl | rfl <;> rfl

theorem Kept.refl : Kept s s := ⟨rfl, rfl⟩

theorem run_loadManifests {venv : Directory}
    {result : Except PluginError (List (PluginManifest × String))}
    (loaded : rt.loadPluginManifests venv = result)
    (fine : fails plan (.loadManifests stage) = false) (there : s.dirs .tempVenv = some venv) :
    (PluginOp.loadManifests stage).call.run (exec rt plan) s = (result, s) := by
  refine (run_performs fine).trans ?_
  simp only [perform, there, Option.elim_some, loaded]

theorem run_rebuildEnvironment (fresh : Fresh s) (stage : Stage) {refs : List String}
    (some : refs ≠ []) :
    BuildsAs rt stage refs s ((rebuildEnvironment rt stage refs).run (exec rt plan) s)
      (buildResult rt plan stage refs) := by
  have noVenv : (removeIfThere .tempVenv).run (exec rt plan) s = (.ok (), s) := by
    obtain ⟨failed, ran⟩ | ⟨fine, ran⟩ := run_removeIfThere rt plan s .tempVenv false
    · simp [fresh.venv] at failed
    · rw [ran, put_same fresh.venv]
  have noWheels : (removeIfThere .tempWheels).run (exec rt plan) s = (.ok (), s) := by
    obtain ⟨failed, ran⟩ | ⟨fine, ran⟩ := run_removeIfThere rt plan s .tempWheels false
    · simp [fresh.wheels] at failed
    · rw [ran, put_same fresh.wheels]
  unfold rebuildEnvironment buildResult installRefsIntoVenv
  rw [run_andThen_ok noVenv, run_andThen_ok noWheels, if_neg some, if_neg some]
  cases venv : fails plan (.ensureVenv stage) with
  | true =>
    rw [run_andThen_error (run_fails rfl venv), if_pos rfl]
    exact ⟨rfl, Kept.refl.put (inl rfl)⟩
  | false =>
  rw [run_andThen_ok (run_performs venv), if_neg (by decide)]
  cases wheels : fails plan (.makeWheels stage) with
  | true =>
    rw [run_andThen_error (run_fails rfl wheels),
      if_pos (show (true || _ || _) = true from rfl)]
    exact ⟨rfl, (Kept.refl.put (inl rfl)).put (inr (inl rfl))⟩
  | false =>
  rw [run_andThen_ok (run_performs wheels)]
  cases installs : fails plan (.installRefs stage refs) with
  | true =>
    rw [run_andThen_error (run_fails rfl installs),
      if_pos (show (false || true || _) = true from rfl)]
    exact ⟨rfl, ((Kept.refl.put (inl rfl)).put (inr (inl rfl))).put (inl rfl)⟩
  | false =>
  rw [run_andThen_ok (run_performs installs)]
  have kept : Kept s (perform rt (.installRefs stage refs) (perform rt (.makeWheels stage)
      (perform rt (.ensureVenv stage) s).2).2).2 :=
    ((Kept.refl.put (inl rfl)).put (inr (inl rfl))).put (inl rfl)
  cases loads : fails plan (.loadManifests stage) with
  | true =>
    rw [run_andThen_error (run_fails rfl loads),
      if_pos (show (false || false || true) = true from rfl)]
    exact ⟨rfl, kept⟩
  | false =>
  rw [if_neg (by decide)]
  cases loaded : rt.loadPluginManifests ⟨rt.installed stage refs, true⟩ with
  | error e =>
    rw [run_andThen_error (run_loadManifests loaded loads rfl)]
    exact ⟨rfl, kept⟩
  | ok manifests =>
    rw [run_andThen_ok (run_loadManifests loaded loads rfl)]
    dsimp only
    by_cases valid : validateManifests rt (manifests.map fst) ≠ []
    · rw [if_pos valid, if_pos valid]
      exact ⟨rfl, kept⟩
    rw [if_neg valid, if_neg valid]
    cases caches : fails plan (.writeManifestCache stage manifests) with
    | true =>
      rw [run_andThen_error (run_fails rfl caches), if_pos rfl]
      exact ⟨rfl, kept.put (inr (inr rfl))⟩
    | false =>
      rw [run_andThen_ok (run_performs caches), if_neg (by decide)]
      refine ⟨rfl, kept.put (inr (inr rfl)), ?_, ?_, ?_⟩
      · rw [if_neg some]
        rfl
      · rw [List.isEmpty_eq_false_iff.mpr some]
        rfl
      · rw [if_neg some]
        rfl

variable (rt plan) in
theorem run_buildEnvironment (fresh : Fresh s) (stage : Stage) (refs : List String) :
    BuildsAs rt stage refs s ((buildEnvironment rt stage refs).run (exec rt plan) s)
      (buildResult rt plan stage refs) := by
  unfold buildEnvironment
  by_cases empty : refs = []
  · subst empty
    rw [if_neg (by simp)]
    unfold buildResult
    cases venv : fails plan (.ensureVenv stage) with
    | true =>
      rw [run_andThen_error (run_fails rfl venv), if_pos rfl]
      exact ⟨rfl, Kept.refl.put (inl rfl)⟩
    | false =>
      rw [run_andThen_ok (run_performs venv), if_neg (by decide), if_pos rfl]
      exact ⟨rfl, Kept.refl.put (inl rfl), rfl, congrArg Option.isSome fresh.wheels,
        fresh.manifests⟩
  · rw [if_pos empty]
    exact run_rebuildEnvironment fresh stage empty

theorem kept_withoutTemp : Kept s s.withoutTemp :=
  ((Kept.refl.put (inl rfl)).put (inr (inl rfl))).put (inr (inr rfl))

theorem fresh_withoutTemp : Fresh s.withoutTemp := ⟨rfl, rfl, rfl⟩

theorem run_withTemp {α : Type} {body : PluginCall α}
    (fine : fails plan (.makeTemp stage) = false) :
    (PluginCall.withTemp stage body).run (exec rt plan) s =
      ((body.run (exec rt plan) s.withoutTemp).1,
        (body.run (exec rt plan) s.withoutTemp).2.withoutTemp) := by
  unfold PluginCall.withTemp
  rw [run_andThen_ok (run_performs fine), run_bind]
  rfl

theorem run_withTemp_fails {α : Type} {body : PluginCall α}
    (failed : fails plan (.makeTemp stage) = true) :
    (PluginCall.withTemp stage body).run (exec rt plan) s = (.error .stepFailed, s) :=
  run_andThen_error (run_fails rfl failed)

def previewResult (rt : PluginRuntime) (plan : FailurePlan) (stage : Stage) (refs : List String) :
    Except PluginError Built :=
  if fails plan (.makeTemp stage) then .error .stepFailed
  else (buildResult rt plan stage refs).map (fun manifests =>
    (manifests.map fst, manifests.map (lockedRecord rt stage)))

variable (rt plan s) in
theorem run_preview (stage : Stage) (desired : List DesiredPluginRecord) :
    ∃ s', (activateBuild rt stage desired validateNone false).run (exec rt plan) s =
      (previewResult rt plan stage (desired.map (·.source)), s') ∧ Kept s s' := by
  unfold activateBuild previewResult
  cases makes : fails plan (.makeTemp stage) with
  | true =>
    rw [run_withTemp_fails makes, if_pos rfl]
    exact ⟨s, rfl, Kept.refl⟩
  | false =>
    rw [run_withTemp makes, if_neg (by decide)]
    have ran := run_buildEnvironment rt plan (fresh_withoutTemp (s := s)) stage
      (desired.map (·.source))
    cases result : buildResult rt plan stage (desired.map (·.source)) with
    | error e =>
      rw [result] at ran
      rw [run_andThen_error (ext ran.1 rfl)]
      exact ⟨_, rfl, (kept_withoutTemp.trans ran.2).trans kept_withoutTemp⟩
    | ok manifests =>
      rw [result] at ran
      rw [run_andThen_ok (ext ran.1 rfl)]
      exact ⟨_, rfl, (kept_withoutTemp.trans ran.2.toKept).trans kept_withoutTemp⟩

def Applies (rt : PluginRuntime) (plan : FailurePlan) (s : PluginFiles)
    (ran : Except PluginError Built × PluginFiles) : Option Change → Prop
  | none => (∃ e, ran.1 = .error e) ∧ ran.2.stored = s.stored
  | some change => match activationPoint plan s change with
    | some point => (∃ e, ran.1 = .error e) ∧ ran.2.stored = point.leaves rt s.stored change
    | none => ran.1 = .ok (change.manifests.map fst,
        change.manifests.map (lockedRecord rt .apply)) ∧
      ran.2.stored = FailurePoint.writingDesired.leaves rt s.stored change

theorem stored_withoutTemp : s.withoutTemp.stored = s.stored := rfl

variable (rt plan s) in
theorem run_apply (desired built : List DesiredPluginRecord) (shown : Option String)
    (validate : List PluginManifest → Except PluginError Unit) :
    Applies rt plan s ((activateBuild rt .apply built validate true).run (exec rt plan) s)
      (plannedBuild rt plan desired built shown validate) := by
  unfold activateBuild plannedBuild
  cases makes : fails plan (.makeTemp .apply) with
  | true =>
    rw [run_withTemp_fails makes, if_pos rfl]
    exact ⟨⟨_, rfl⟩, rfl⟩
  | false =>
    rw [run_withTemp makes, if_neg (by decide)]
    have ran := run_buildEnvironment rt plan (fresh_withoutTemp (s := s)) .apply
      (built.map (·.source))
    cases result : buildResult rt plan .apply (built.map (·.source)) with
    | error e =>
      rw [result] at ran
      rw [run_andThen_error (ext ran.1 rfl)]
      exact ⟨⟨e, rfl⟩, ran.2.stored⟩
    | ok manifests =>
      rw [result] at ran
      rw [run_andThen_ok (ext ran.1 rfl)]
      dsimp only [PluginCall.ofExcept]
      cases valid : validate (manifests.map fst) with
      | error e => exact ⟨⟨e, rfl⟩, ran.2.stored⟩
      | ok _ =>
        rw [run_andThen_ok rfl, if_pos rfl]
        have prepared : Prepared rt s _
            ⟨built.map (·.source), manifests, desired, shown⟩ :=
          ⟨kept_withoutTemp.trans ran.2.toKept, ran.2.tempVenv, ran.2.tempWheels,
            ran.2.tempManifests⟩
        have activates := run_activate plan prepared
        unfold Applies
        dsimp only
        cases stops : activationPoint plan s ⟨built.map (·.source), manifests, desired, shown⟩ with
        | some point =>
          rw [stops] at activates
          obtain ⟨⟨e, failed⟩, left⟩ := activates
          rw [run_andThen_error (ext failed rfl)]
          exact ⟨⟨e, rfl⟩, left⟩
        | none =>
          rw [stops] at activates
          rw [run_andThen_ok (ext activates.1 rfl)]
          exact ⟨rfl, activates.2⟩

variable (rt plan change) in
theorem run_hashed (r : LockedPluginRecord) (s : PluginFiles) :
    (hashed change.desired r).run (exec rt plan) s =
      if (change.sourceOf r.name).any (fun source => fails plan (.hashInstallSource source)) then
        (.error .stepFailed, s)
      else (.ok (match change.sourceOf r.name with
        | none => r
        | some source => { r with wheelSha256 := rt.hashInstallSource source }), s) := by
  unfold hashed Change.sourceOf
  cases Dict.lookup r.name (byName (·.name) change.desired) with
  | none => rfl
  | some record =>
    dsimp only [Option.map_some, Option.any_some]
    by_cases failed : fails plan (.hashInstallSource record.source) = true
    · rw [run_andThen_error (run_fails rfl failed), if_pos failed]
      rfl
    · rw [run_andThen_ok (run_performs (by simpa using failed)), if_neg failed]
      rfl

variable (rt plan change s) in
theorem run_each_hashed (locked : List LockedPluginRecord) :
    (PluginCall.each (hashed change.desired) locked).run (exec rt plan) s =
      if locked.any (fun r => (change.sourceOf r.name).any (fun source =>
        fails plan (.hashInstallSource source))) then (.error .stepFailed, s)
      else (.ok (locked.map (fun r => match change.sourceOf r.name with
        | none => r
        | some source => { r with wheelSha256 := rt.hashInstallSource source })), s) := by
  induction locked with
  | nil => rfl
  | cons r rs ih =>
    have first := run_hashed rt plan change r s
    unfold PluginCall.each
    rw [List.any_cons]
    cases failed : (change.sourceOf r.name).any (fun source =>
        fails plan (.hashInstallSource source)) with
    | true =>
      rw [failed] at first
      rw [run_andThen_error first]
      rfl
    | false =>
      rw [failed] at first
      rw [run_andThen_ok first, Bool.false_or]
      split at ih
      next rest =>
        rw [run_andThen_error ih, if_pos rest]
      next rest =>
        rw [run_andThen_ok ih, if_neg rest]
        rfl

variable (rt plan change s) in
theorem run_reconcile : (reconcileDesiredAndLock change.desired
    (change.manifests.map (lockedRecord rt .apply))).run (exec rt plan) s =
      if change.hashFails plan || fails plan (.saveDesiredState change.desired) then
        (.error .stepFailed, s)
      else if fails plan (.saveLockState (change.locked rt)) then
        (.error .stepFailed, { s with desired := change.desiredState rt })
      else (.ok (), { s with desired := change.desiredState rt, lock := change.lockState rt }) := by
  unfold reconcileDesiredAndLock
  have hashes := run_each_hashed rt plan s change
    (change.manifests.map (lockedRecord rt .apply))
  rw [List.any_map] at hashes
  change _ = if change.hashFails plan then _ else (Except.ok (change.locked rt), s) at hashes
  cases failed : change.hashFails plan with
  | true =>
    rw [failed] at hashes
    rw [run_andThen_error hashes]
    rfl
  | false =>
    rw [failed] at hashes
    rw [run_andThen_ok hashes, Bool.false_or]
    cases desired : fails plan (.saveDesiredState change.desired) with
    | true =>
      rw [run_andThen_error (run_fails rfl desired)]
      rfl
    | false =>
      rw [run_andThen_ok (run_performs desired), if_neg (by decide)]
      cases lock : fails plan (.saveLockState (change.locked rt)) with
      | true => exact run_fails rfl lock
      | false => exact run_performs lock

def showResult (plan : FailurePlan) (s : PluginFiles) (name : String) : Except PluginError Unit :=
  if fails plan (.loadDesiredState .show) then .error .stepFailed
  else if fails plan (.loadLockState .show) then .error .stepFailed
  else if (Dict.lookup name (byName (·.name) (readDesired s))).isSome ∨
      (Dict.lookup name (byName (·.name) (readLock s))).isSome then .ok ()
  else .error (.notInstalled name)

variable (name : String)

theorem run_showPlugin : (showPlugin name).run (exec rt plan) s = (showResult plan s name, s) := by
  unfold showPlugin desiredByName lockByName showResult
  by_cases desired : fails plan (.loadDesiredState .show) = true
  · rw [run_andThen_error (run_andThen_error (run_fails rfl desired)), if_pos desired]
    rfl
  rw [run_andThen_ok ((run_andThen_ok (run_performs (by simpa using desired))).trans rfl),
    if_neg desired]
  by_cases lock : fails plan (.loadLockState .show) = true
  · rw [run_andThen_error (run_andThen_error (run_fails rfl lock)), if_pos lock]
    rfl
  rw [run_andThen_ok ((run_andThen_ok (run_performs (by simpa using lock))).trans rfl),
    if_neg lock]
  split
  next => rfl
  next => rfl

def Ends (rt : PluginRuntime) (s : PluginFiles) (change : Change) (point : FailurePoint)
    (ran : Except PluginError Unit × PluginFiles) : Prop :=
  (ran.1 = .ok () ∧ point = .nowhere ∨ (∃ e, ran.1 = .error e) ∧ point ≠ .nowhere) ∧
    ran.2.stored = point.leaves rt s.stored change

variable (rt plan change s₁) in
theorem showResult_eq (desired : s₁.desired = change.desiredState rt)
    (lock : s₁.lock = change.lockState rt) {name : String} (shown : change.shown = some name) :
    (change.showFails rt plan = true ∧ ∃ e, showResult plan s₁ name = .error e) ∨
      (change.showFails rt plan = false ∧ showResult plan s₁ name = .ok ()) := by
  have reads : readDesired s₁ =
      readDesired { desired := change.desiredState rt, lock := change.lockState rt } := by
    unfold readDesired
    rw [desired]
  have readsLock : readLock s₁ =
      readLock { desired := change.desiredState rt, lock := change.lockState rt } := by
    unfold readLock
    rw [lock]
  unfold Change.showFails showResult
  rw [shown, Option.any_some, reads, readsLock]
  cases fails plan (.loadDesiredState .show) with
  | true => exact inl ⟨rfl, _, rfl⟩
  | false =>
    cases fails plan (.loadLockState .show) with
    | true => exact inl ⟨rfl, _, rfl⟩
    | false =>
      cases Dict.lookup name (byName (·.name) (readDesired
          { desired := change.desiredState rt, lock := change.lockState rt })) with
      | some _ => exact inr ⟨rfl, by simp⟩
      | none =>
        cases Dict.lookup name (byName (·.name) (readLock
            { desired := change.desiredState rt, lock := change.lockState rt })) with
        | some _ => exact inr ⟨rfl, by simp⟩
        | none => exact inl ⟨rfl, by simp⟩

theorem run_finish (stored : s₁.stored = FailurePoint.writingDesired.leaves rt s.stored change) :
    Ends rt s change (statePoint rt plan change)
      (((reconcileDesiredAndLock change.desired
        (change.manifests.map (lockedRecord rt .apply))).andThen (fun _ =>
          change.shown.elim (.done (.ok ())) showPlugin)).run (exec rt plan) s₁) := by
  have reconciles := run_reconcile rt plan s₁ change
  have written : ({ s₁ with
      desired := change.desiredState rt, lock := change.lockState rt } : PluginFiles).stored =
      FailurePoint.nowhere.leaves rt s.stored change :=
    congrArg (fun x : Stored => { x with
      desired := change.desiredState rt, lock := change.lockState rt }) stored
  unfold statePoint
  by_cases desired : (change.hashFails plan || fails plan (.saveDesiredState change.desired)) = true
  · rw [if_pos desired] at reconciles ⊢
    rw [run_andThen_error reconciles]
    exact ⟨inr ⟨⟨_, rfl⟩, by simp⟩, stored⟩
  rw [if_neg desired] at reconciles ⊢
  by_cases lock : fails plan (.saveLockState (change.locked rt)) = true
  · rw [if_pos lock] at reconciles ⊢
    rw [run_andThen_error reconciles]
    exact ⟨inr ⟨⟨_, rfl⟩, by simp⟩,
      congrArg (fun x : Stored => { x with desired := change.desiredState rt }) stored⟩
  rw [if_neg lock] at reconciles ⊢
  rw [run_andThen_ok reconciles]
  cases shown : change.shown with
  | none =>
    have fine : change.showFails rt plan = false := by
      unfold Change.showFails
      rw [shown]
      rfl
    rw [if_neg (by simp [fine])]
    exact ⟨inl ⟨rfl, rfl⟩, written⟩
  | some name =>
    rw [Option.elim_some, run_showPlugin]
    obtain ⟨failed, e, result⟩ | ⟨fine, result⟩ := showResult_eq rt plan { s₁ with
        desired := change.desiredState rt, lock := change.lockState rt } change rfl rfl shown
    · rw [if_pos failed, result]
      exact ⟨inr ⟨⟨e, rfl⟩, by simp⟩, written⟩
    · rw [if_neg (by simp [fine]), result]
      exact ⟨inl ⟨rfl, rfl⟩, written⟩

def Concludes (rt : PluginRuntime) (plan : FailurePlan) (s : PluginFiles)
    (ran : Except PluginError Unit × PluginFiles) : Option Change → Prop
  | none => (∃ e, ran.1 = .error e) ∧ ran.2.stored = s.stored
  | some change => Ends rt s change (failurePoint rt plan s change) ran

theorem Kept.dir (kept : Kept s s₁)
    (own : d = .venv ∨ d = .backup ∨ d = .manifests ∨ d = .wheels) : s₁.dirs d = s.dirs d := by
  rcases own with rfl | rfl | rfl | rfl
  · exact congrArg venv kept.stored
  · exact congrArg backup kept.stored
  · exact congrArg manifests kept.stored
  · exact kept.wheels

theorem Concludes.kept {ran : Except PluginError Unit × PluginFiles} {planned : Option Change}
    (concludes : Concludes rt plan s₁ ran planned) (kept : Kept s s₁) :
    Concludes rt plan s ran planned := by
  cases planned with
  | none => exact ⟨concludes.1, concludes.2.trans kept.stored⟩
  | some change =>
    have same : failurePoint rt plan s₁ change = failurePoint rt plan s change := by
      unfold failurePoint activationPoint swapPoint
      rw [kept.dir (d := .venv) (by simp), kept.dir (d := .backup) (by simp),
        kept.dir (d := .manifests) (by simp), kept.dir (d := .wheels) (by simp)]
    unfold Concludes Ends at concludes ⊢
    dsimp only at concludes ⊢
    rw [same, kept.stored] at concludes
    exact concludes

theorem run_applyAndFinish
    (planned : plannedBuild rt plan change.desired built change.shown validate =
      some change) {rest : Built → PluginCall Unit}
    (goes : rest (change.manifests.map fst, change.manifests.map (lockedRecord rt .apply)) =
      (reconcileDesiredAndLock change.desired
        (change.manifests.map (lockedRecord rt .apply))).andThen (fun _ =>
          change.shown.elim (.done (.ok ())) showPlugin)) :
    Ends rt s change (failurePoint rt plan s change)
      (((activateBuild rt .apply built validate true).andThen rest).run (exec rt plan) s) := by
  have applies := run_apply rt plan s change.desired built change.shown validate
  rw [planned] at applies
  unfold failurePoint
  unfold Applies at applies
  dsimp only at applies
  cases stops : activationPoint plan s change with
  | some point =>
    rw [stops] at applies
    obtain ⟨⟨e, failed⟩, left⟩ := applies
    rw [run_andThen_error (ext failed rfl)]
    have stopped : point ≠ .nowhere := by
      intro nowhere
      rw [nowhere] at stops
      unfold activationPoint swapPoint at stops
      repeat (split at stops; cases stops)
      cases stops
    exact ⟨inr ⟨⟨e, rfl⟩, stopped⟩, left⟩
  | none =>
    rw [stops] at applies
    rw [run_andThen_ok (ext applies.1 rfl), goes]
    exact run_finish applies.2

variable (rt plan s) in
theorem run_desiredByName (stage : Stage) : (desiredByName stage).run (exec rt plan) s =
      (if fails plan (.loadDesiredState stage) then .error .stepFailed
        else .ok (byName (·.name) (readDesired s)), s) := by
  unfold desiredByName
  by_cases failed : fails plan (.loadDesiredState stage) = true
  · rw [run_andThen_error (run_fails rfl failed), if_pos failed]
    rfl
  · rw [run_andThen_ok (run_performs (by simpa using failed)), if_neg failed]
    rfl

variable (rt plan s) in
theorem run_lockByName (stage : Stage) : (lockByName stage).run (exec rt plan) s =
      (if fails plan (.loadLockState stage) then .error .stepFailed
        else .ok (byName (·.name) (readLock s)), s) := by
  unfold lockByName
  by_cases failed : fails plan (.loadLockState stage) = true
  · rw [run_andThen_error (run_fails rfl failed), if_pos failed]
    rfl
  · rw [run_andThen_ok (run_performs (by simpa using failed)), if_neg failed]
    rfl

theorem plannedBuild_eq :
    plannedBuild rt plan desired built shown validate =
      (plannedBuild rt plan [] built none validate).map (fun change =>
        { change with desired := desired, shown := shown }) := by
  unfold plannedBuild
  split
  next => rfl
  next =>
    split
    next => rfl
    next =>
      split
      next => rfl
      next => rfl

theorem plannedBuild_some
    (planned : plannedBuild rt plan desired built shown validate = some change) :
    change.desired = desired ∧ change.shown = shown := by
  rw [plannedBuild_eq] at planned
  obtain ⟨before, -, same⟩ := Option.map_eq_some_iff.mp planned
  rw [← same]
  exact ⟨rfl, rfl⟩

theorem plannedBuild_valid
    (planned : plannedBuild rt plan desired built shown validate = some change) :
    validate (change.manifests.map fst) = .ok () := by
  unfold plannedBuild at planned
  split at planned
  next => cases planned
  next =>
    split at planned
    next => cases planned
    next =>
      split at planned
      next => cases planned
      next valid =>
        cases planned
        exact valid

theorem run_install (ref : String) : Concludes rt plan s ((install rt ref).run (exec rt plan) s)
    (planned rt plan s (.install ref)) := by
  unfold install
  dsimp only [planned]
  by_cases loads : fails plan (.loadDesiredState .apply) = true
  · rw [run_andThen_error (run_fails rfl loads), if_pos loads]
    exact ⟨⟨_, rfl⟩, rfl⟩
  rw [run_andThen_ok (run_performs (by simpa using loads)), if_neg loads]
  cases planned : plannedBuild rt plan [] (readDesired s ++ [pending ref]) none
      (validateSingleNewPlugin (readDesired s)) with
  | none =>
    have applies := run_apply rt plan s [] (readDesired s ++ [pending ref]) none
      (validateSingleNewPlugin (readDesired s))
    rw [planned] at applies
    obtain ⟨⟨e, failed⟩, left⟩ := applies
    rw [run_andThen_error (ext failed rfl)]
    exact ⟨⟨e, rfl⟩, left⟩
  | some change =>
    dsimp only
    have valid := plannedBuild_valid planned
    cases found : newPlugins (readDesired s) (change.manifests.map fst) with
    | nil =>
      unfold validateSingleNewPlugin at valid
      rw [found] at valid
      cases valid
    | cons new _ =>
      refine run_applyAndFinish ?_ ?_
      case refine_1 =>
        dsimp only
        rw [plannedBuild_eq, planned]
        rfl
      case refine_2 =>
        dsimp only
        rw [found]
        rfl

theorem run_applyChange (f : List (String × DesiredPluginRecord) → List DesiredPluginRecord)
    (shown : Option String) : Concludes rt plan s
      (((applyChange rt f).andThen (fun _ => shown.elim (.done (.ok ())) showPlugin)).run
        (exec rt plan) s)
      (plannedChange rt plan (f (byName (·.name) (readDesired s))) shown) := by
  unfold applyChange plannedChange
  have loads := run_desiredByName rt plan s .apply
  by_cases failed : fails plan (.loadDesiredState .apply) = true
  · rw [if_pos failed] at loads ⊢
    rw [run_andThen_error (run_andThen_error loads)]
    exact ⟨⟨_, rfl⟩, rfl⟩
  rw [if_neg failed] at loads ⊢
  rw [andThen_assoc, run_andThen_ok loads, andThen_assoc]
  cases planned : plannedBuild rt plan (f (byName (·.name) (readDesired s)))
      (f (byName (·.name) (readDesired s))) shown validateNone with
  | none =>
    have applies := run_apply rt plan s (f (byName (·.name) (readDesired s)))
      (f (byName (·.name) (readDesired s))) shown validateNone
    rw [planned] at applies
    obtain ⟨⟨e, failed⟩, left⟩ := applies
    rw [run_andThen_error (ext failed rfl)]
    exact ⟨⟨e, rfl⟩, left⟩
  | some change =>
    obtain ⟨desired, shows⟩ := plannedBuild_some planned
    rw [← desired, ← shows] at planned
    rw [← desired, ← shows]
    exact run_applyAndFinish planned rfl

variable (rt plan s) in
theorem run_previewKnown :
    ∃ result, (previewKnown name).run (exec rt plan) s = (result, s) ∧
      (result = .ok () ↔ (knows plan s name &&
        (Dict.lookup name (byName (·.name) (readLock s))).isSome) = true) := by
  have loads := run_desiredByName rt plan s .preview
  have locks := run_lockByName rt plan s .preview
  unfold previewKnown knows
  cases desired : fails plan (.loadDesiredState .preview) with
  | true =>
    rw [desired] at loads
    exact ⟨_, run_andThen_error loads, by simp⟩
  | false =>
    rw [desired] at loads
    rw [run_andThen_ok loads]
    cases lock : fails plan (.loadLockState .preview) with
    | true =>
      rw [lock] at locks
      exact ⟨_, run_andThen_error locks, by simp⟩
    | false =>
      rw [lock] at locks
      rw [run_andThen_ok locks]
      cases Dict.lookup name (byName (·.name) (readDesired s)) with
      | none => exact ⟨_, rfl, by simp⟩
      | some _ =>
        cases Dict.lookup name (byName (·.name) (readLock s)) with
        | none => exact ⟨_, rfl, by simp⟩
        | some _ => exact ⟨_, rfl, by simp⟩

variable (rt plan s) in
theorem run_previewUpdate :
    ∃ result s', (previewUpdate rt name).run (exec rt plan) s = (result, s') ∧ Kept s s' ∧
      (result = .ok () ↔ (knows plan s name &&
        previews rt plan s name) = true) := by
  have loads := run_desiredByName rt plan s .preview
  have locks := run_lockByName rt plan s .preview
  unfold previewUpdate knows
  cases desired : fails plan (.loadDesiredState .preview) with
  | true =>
    rw [desired] at loads
    exact ⟨_, _, run_andThen_error loads, Kept.refl, by simp⟩
  | false =>
    rw [desired] at loads
    rw [run_andThen_ok loads]
    cases lock : fails plan (.loadLockState .preview) with
    | true =>
      rw [lock] at locks
      exact ⟨_, _, run_andThen_error locks, Kept.refl, by simp⟩
    | false =>
      rw [lock] at locks
      rw [run_andThen_ok locks]
      cases Dict.lookup name (byName (·.name) (readDesired s)) with
      | none => exact ⟨_, _, rfl, Kept.refl, by simp⟩
      | some _ =>
        rw [if_neg (by simp)]
        obtain ⟨s', ran, kept⟩ := run_preview rt plan s .preview
          ((byName (·.name) (readDesired s)).map snd)
        unfold previews
        unfold previewResult at ran
        cases makes : fails plan (.makeTemp .preview) with
        | true =>
          rw [makes] at ran
          exact ⟨_, _, run_andThen_error ran, kept, by simp⟩
        | false =>
          rw [makes] at ran
          cases result : buildResult rt plan .preview
              (((byName (·.name) (readDesired s)).map snd).map (·.source)) with
          | error e =>
            rw [result] at ran
            exact ⟨_, _, run_andThen_error ran, kept, by simp⟩
          | ok manifests =>
            rw [result] at ran
            rw [run_andThen_ok ran]
            dsimp only
            have same : (manifests.map fst).any (fun m => decide (m.name = name)) =
                manifests.any (fun m => decide (m.1.name = name)) := List.any_map
            rw [same]
            cases manifests.any (fun m => decide (m.1.name = name)) with
            | false => exact ⟨_, _, rfl, kept, by simp⟩
            | true => exact ⟨_, _, rfl, kept, by simp⟩

theorem Kept.readDesired (kept : Kept s s₁) : readDesired s₁ = readDesired s := by
  unfold Plugins.readDesired
  rw [show s₁.desired = s.desired from congrArg desired kept.stored]

variable (rt plan s) in
theorem run_request (request : PluginRequest) :
    Concludes rt plan s ((request.program rt).run (exec rt plan) s)
      (request.planned rt plan s) := by
  have known (name : String) (f : List (String × DesiredPluginRecord) → List DesiredPluginRecord) :
      Concludes rt plan s (((previewKnown name).andThen (fun _ => applyChange rt f)).run
        (exec rt plan) s)
        (if knows plan s name &&
            (Dict.lookup name (byName (·.name) (readLock s))).isSome then
          plannedChange rt plan (f (byName (·.name) (readDesired s))) none
        else none) := by
    obtain ⟨result, ran, succeeds⟩ := run_previewKnown rt plan s name
    cases result with
    | error e =>
      rw [run_andThen_error ran, if_neg (fun knows => by cases succeeds.mpr knows)]
      exact ⟨⟨e, rfl⟩, rfl⟩
    | ok _ =>
      rw [run_andThen_ok ran, if_pos (succeeds.mp rfl), ← andThen_done (applyChange rt f)]
      exact run_applyChange f none
  cases request with
  | install ref => exact run_install ref
  | uninstall name => exact known name _
  | setEnabled name enabled => exact known name _
  | update name =>
    change Concludes rt plan s ((update rt name).run (exec rt plan) s) (if _ then _ else none)
    unfold update
    obtain ⟨result, s', ran, kept, succeeds⟩ := run_previewUpdate rt plan s name
    cases result with
    | error e =>
      rw [run_andThen_error ran, if_neg (fun knows => by cases succeeds.mpr knows)]
      exact ⟨⟨e, rfl⟩, kept.stored⟩
    | ok _ =>
      rw [run_andThen_ok ran, if_pos (succeeds.mp rfl), ← kept.readDesired]
      exact (run_applyChange (List.map snd) (some name)).kept kept

end Orcheo.Plugins
