import Orcheo.Defs.Plugins.Manager

/-! Where a change of the plugins fails, and what is left there. -/

namespace Orcheo.Plugins

open Lib (Dict)

variable (rt : PluginRuntime) (plan : FailurePlan)

def fails (op : PluginOp) : Bool := (plan op).isSome

def leavesOf (op : PluginOp) : Option Directory := (plan op).join

def buildResult (stage : Stage) (refs : List String) :
    Except PluginError (List (PluginManifest × String)) :=
  if fails plan (.ensureVenv stage) then .error .stepFailed
  else if refs = [] then .ok []
  else if fails plan (.makeWheels stage) || fails plan (.installRefs stage refs) ||
      fails plan (.loadManifests stage) then .error .stepFailed
  else match rt.loadPluginManifests ⟨rt.installed stage refs, true⟩ with
    | .error e => .error e
    | .ok manifests =>
      if validateManifests rt (manifests.map Prod.fst) ≠ [] then
        .error (.incompatible (validateManifests rt (manifests.map Prod.fst)))
      else if fails plan (.writeManifestCache stage manifests) then .error .stepFailed
      else .ok manifests

/-- What a call is about to change once its build is valid. -/
structure Change where
  refs : List String
  manifests : List (PluginManifest × String)
  desired : List DesiredPluginRecord
  shown : Option String

namespace Change

variable (change : Change)

def venv : Directory :=
  ⟨if change.refs = [] then rt.emptyVenv else rt.installed .apply change.refs, true⟩

def cache : Option Directory :=
  if change.refs = [] then none else some (manifestCache rt change.manifests)

def sourceOf (name : String) : Option String :=
  (Dict.lookup name (byName (·.name) change.desired)).map (·.source)

def locked : List LockedPluginRecord :=
  (change.manifests.map (lockedRecord rt .apply)).map (fun r => match change.sourceOf r.name with
    | none => r
    | some source => { r with wheelSha256 := rt.hashInstallSource source })

def hashFails : Bool :=
  change.manifests.any (fun m => (change.sourceOf m.1.name).any (fun source =>
    fails plan (.hashInstallSource source)))

def desiredState : Option (List DesiredPluginRecord) :=
  some (sortedByName rt (·.name) change.desired)

def lockState : Option (List LockedPluginRecord) :=
  some (sortedByName rt (·.name) (change.locked rt))

def showFails : Bool :=
  change.shown.any (fun name => fails plan (.loadDesiredState .show) ||
    fails plan (.loadLockState .show) ||
    (Dict.lookup name (byName (·.name) (readDesired
      { desired := change.desiredState rt, lock := change.lockState rt }))).isNone &&
    (Dict.lookup name (byName (·.name) (readLock
      { desired := change.desiredState rt, lock := change.lockState rt }))).isNone)

end Change

namespace PluginRequest

variable (s : PluginFiles)

def plannedBuild (desired built : List DesiredPluginRecord) (shown : Option String)
    (validate : List PluginManifest → Except PluginError Unit) : Option Change :=
  if fails plan (.makeTemp .apply) then none
  else match buildResult rt plan .apply (built.map (·.source)) with
    | .error _ => none
    | .ok manifests => match validate (manifests.map Prod.fst) with
      | .error _ => none
      | .ok () => some ⟨built.map (·.source), manifests, desired, shown⟩

def previews (name : String) : Bool :=
  !fails plan (.makeTemp .preview) &&
    match buildResult rt plan .preview
        (((byName (·.name) (readDesired s)).map Prod.snd).map (·.source)) with
    | .error _ => false
    | .ok manifests => manifests.any (fun m => m.1.name = name)

def knows (name : String) : Bool :=
  !fails plan (.loadDesiredState .preview) && !fails plan (.loadLockState .preview) &&
    (Dict.lookup name (byName (·.name) (readDesired s))).isSome

def plannedChange (desired : List DesiredPluginRecord) (shown : Option String) : Option Change :=
  if fails plan (.loadDesiredState .apply) then none
  else plannedBuild rt plan desired desired shown validateNone

def planned : PluginRequest → Option Change
  | install ref =>
    if fails plan (.loadDesiredState .apply) then none
    else match plannedBuild rt plan [] (readDesired s ++ [pending ref]) none
        (validateSingleNewPlugin (readDesired s)) with
      | none => none
      | some change => match newPlugins (readDesired s) (change.manifests.map Prod.fst) with
        | [] => none
        | new :: _ => some { change with
          desired := (readDesired s).filter (fun r => !isPending r) ++
            [{ name := new.name, source := ref }]
          shown := some new.name }
  | update name =>
    if knows plan s name && previews rt plan s name then
      plannedChange rt plan ((byName (·.name) (readDesired s)).map Prod.snd) (some name)
    else none
  | uninstall name =>
    if knows plan s name && (Dict.lookup name (byName (·.name) (readLock s))).isSome then
      plannedChange rt plan (((byName (·.name) (readDesired s)).map Prod.snd).filter
        (fun r => r.name ≠ name)) none
    else none
  | setEnabled name enabled =>
    if knows plan s name && (Dict.lookup name (byName (·.name) (readLock s))).isSome then
      plannedChange rt plan ((byName (·.name) (readDesired s)).map (fun entry =>
        if entry.1 = name then { entry.2 with enabled := enabled } else entry.2)) none
    else none

end PluginRequest

inductive FailurePoint
  /-- the directory of the plugins, or the cache of wheels -/
  | early
  | removingManifests (left : Option Directory)
  | copyingManifests (left : Option Directory)
  | removingOldBackup (left : Option Directory)
  | renamingAway
  | renamingIn
  | removingBackup (left : Option Directory)
  | writingDesired
  | writingLock
  | showing
  | nowhere

variable (s : PluginFiles)

/-- From where the environment is replaced. -/
def swapPoint : Option FailurePoint :=
  if (s.dirs .backup).isSome && fails plan (.rmtree .backup false) then
    some (.removingOldBackup (leavesOf plan (.rmtree .backup false)))
  else if (s.dirs .venv).isSome && fails plan (.osReplace .venv .backup) then some .renamingAway
  else if fails plan (.osReplace .tempVenv .venv) then some .renamingIn
  else if (s.dirs .venv).isSome && fails plan (.rmtree .backup true) then
    some (.removingBackup (leavesOf plan (.rmtree .backup true)))
  else none

def activationPoint (change : Change) : Option FailurePoint :=
  if fails plan .makePluginDir then some .early
  else if (s.dirs .wheels).isSome && fails plan (.rmtree .wheels false) then some .early
  else if !change.refs.isEmpty && fails plan (.copytree .tempWheels .wheels) then some .early
  else if (s.dirs .manifests).isSome && fails plan (.rmtree .manifests false) then
    some (.removingManifests (leavesOf plan (.rmtree .manifests false)))
  else if !change.refs.isEmpty && fails plan (.copytree .tempManifests .manifests) then
    some (.copyingManifests (leavesOf plan (.copytree .tempManifests .manifests)))
  else swapPoint plan s

def statePoint (change : Change) : FailurePoint :=
  if change.hashFails plan || fails plan (.saveDesiredState change.desired) then
    .writingDesired
  else if fails plan (.saveLockState (change.locked rt)) then .writingLock
  else if change.showFails rt plan then .showing
  else .nowhere

def failurePoint (change : Change) : FailurePoint :=
  (activationPoint plan s change).getD (statePoint rt plan change)

/-- What the manager keeps between calls, but for the wheels. -/
structure Stored where
  venv : Option Directory
  backup : Option Directory
  manifests : Option Directory
  desired : Option (List DesiredPluginRecord)
  lock : Option (List LockedPluginRecord)

def PluginFiles.stored : Stored where
  venv := s.dirs .venv
  backup := s.dirs .backup
  manifests := s.dirs .manifests
  desired := s.desired
  lock := s.lock

def FailurePoint.leaves (s : Stored) (change : Change) : FailurePoint → Stored
  | early => s
  | removingManifests left | copyingManifests left => { s with manifests := left }
  | removingOldBackup left => { s with manifests := change.cache rt, backup := left }
  | renamingAway => { s with manifests := change.cache rt, backup := none }
  | renamingIn => { s with venv := none, backup := s.venv, manifests := change.cache rt }
  | removingBackup left =>
    { s with venv := some (change.venv rt), backup := left, manifests := change.cache rt }
  | writingDesired =>
    { s with venv := some (change.venv rt), backup := none, manifests := change.cache rt }
  | writingLock =>
    { s with
      venv := some (change.venv rt)
      backup := none
      manifests := change.cache rt
      desired := change.desiredState rt }
  | showing | nowhere =>
    { venv := some (change.venv rt)
      backup := none
      manifests := change.cache rt
      desired := change.desiredState rt
      lock := change.lockState rt }

end Orcheo.Plugins
