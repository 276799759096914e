import Orcheo.Lib.Calls
import Orcheo.Lib.Dict

/-! The directories and state files of the installed plugins, and the steps in which the plugin
manager changes them.  A step that fails may leave a part of its directory. -/

namespace Orcheo.Plugins

structure PluginManifest where
  name : String
  version : String
  description : String
  author : String
  pluginApiVersion : Int
  orcheoVersion : String
  exports : List String
  entryPoints : List String := []
  deriving DecidableEq

structure DesiredPluginRecord where
  name : String
  source : String
  enabled : Bool := true
  installSource : String := "cli"
  status : Option String := none
  lastError : Option String := none
  deriving DecidableEq

structure LockedPluginRecord where
  name : String
  version : String
  pluginApiVersion : Int
  orcheoVersion : String
  location : String
  wheelSha256 : String
  manifestSha256 : String
  exports : List String
  description : String := ""
  author : String := ""
  entryPoints : List String := []
  deriving DecidableEq

inductive PluginError
  | stepFailed
  | notInstalled (name : String)
  | notLocked (name : String)
  | noLongerProvides (name : String)
  | missingManifest (name : String)
  | incompatible (issues : List (String × List String))
  | notOneNewPlugin
  deriving DecidableEq

structure Directory where
  file : String → Option String
  whole : Bool := true

inductive PluginDir
  | venv | backup | wheels | manifests | tempVenv | tempWheels | tempManifests
  deriving DecidableEq, Repr

structure PluginFiles where
  dirs : PluginDir → Option Directory := fun _ => none
  /-- `plugins.toml` -/
  desired : Option (List DesiredPluginRecord) := none
  /-- `plugin-lock.toml` -/
  lock : Option (List LockedPluginRecord) := none

namespace PluginFiles

def put (s : PluginFiles) (d : PluginDir) (content : Option Directory) : PluginFiles :=
  { s with dirs := fun d' => if d' = d then content else s.dirs d' }

def withoutTemp (s : PluginFiles) : PluginFiles :=
  ((s.put .tempVenv none).put .tempWheels none).put .tempManifests none

end PluginFiles

inductive Stage
  | preview | apply | show
  deriving DecidableEq, Repr

/-- What `uv`, the installed packages and the digests are like during one call. -/
structure PluginRuntime where
  lower : String → String
  tempVenvPath : Stage → String
  emptyVenv : String → Option String
  installed : Stage → List String → String → Option String
  loadPluginManifests : Directory → Except PluginError (List (PluginManifest × String))
  /-- `SpecifierSet(specifier).contains(running)`, where the specifier is valid -/
  satisfies : String → Option Bool
  runningOrcheoVersion : String
  dumps : PluginManifest → String
  hashInstallSource : String → String

inductive PluginOp
  | loadDesiredState (stage : Stage)
  | loadLockState (stage : Stage)
  | makeTemp (stage : Stage)
  | removeTemp (stage : Stage)
  | ensureVenv (stage : Stage)
  | makeWheels (stage : Stage)
  | installRefs (stage : Stage) (refs : List String)
  | loadManifests (stage : Stage)
  | writeManifestCache (stage : Stage) (manifests : List (PluginManifest × String))
  | makePluginDir
  | pathExists (d : PluginDir)
  /-- the backup is removed twice: an old one first, and the new one last -/
  | rmtree (d : PluginDir) (last : Bool)
  | copytree (source destination : PluginDir)
  | osReplace (source destination : PluginDir)
  | hashInstallSource (source : String)
  | saveDesiredState (records : List DesiredPluginRecord)
  | saveLockState (records : List LockedPluginRecord)

namespace PluginOp

abbrev Value : PluginOp → Type
  | loadDesiredState _ => List DesiredPluginRecord
  | loadLockState _ => List LockedPluginRecord
  | loadManifests _ => List (PluginManifest × String)
  | pathExists _ => Bool
  | hashInstallSource _ => String
  | makeTemp _ | removeTemp _ | ensureVenv _ | makeWheels _ | installRefs _ _
  | writeManifestCache _ _ | makePluginDir | rmtree _ _ | copytree _ _ | osReplace _ _
  | saveDesiredState _ | saveLockState _ => Unit

abbrev Answer (op : PluginOp) : Type := Except PluginError op.Value

/-- The directory that is written bit by bit.  Renaming a directory, or replacing a file, is done
at once. -/
def writes : PluginOp → Option PluginDir
  | ensureVenv _ | installRefs _ _ => some .tempVenv
  | makeWheels _ => some .tempWheels
  | writeManifestCache _ _ => some .tempManifests
  | rmtree d _ => some d
  | copytree _ destination => some destination
  | _ => none

def ignoresErrors : PluginOp → Bool
  | pathExists _ | removeTemp _ => true
  | _ => false

end PluginOp

abbrev FailurePlan := PluginOp → Option (Option Directory)

def Directory.overlaid (destination : Option Directory) (source : Directory) : Directory where
  file name := (source.file name).or (destination.bind (fun d => d.file name))
  whole := source.whole

section

variable (rt : PluginRuntime)

def manifestCache (manifests : List (PluginManifest × String)) : Directory where
  file name := (manifests.reverse.find? (fun m => m.1.name ++ ".json" = name)).map
    (fun m => rt.dumps m.1)

/-- `sorted(records, key=lambda item: item.name.lower())` -/
def sortedByName {α : Type} (name : α → String) (records : List α) : List α :=
  records.mergeSort (fun r r' => decide (rt.lower (name r) ≤ rt.lower (name r')))

def readDesired (s : PluginFiles) : List DesiredPluginRecord :=
  (s.desired.getD []).filter (fun r => r.name ≠ "" && r.source ≠ "")

def readLock (s : PluginFiles) : List LockedPluginRecord :=
  (s.lock.getD []).filter (fun r => r.name ≠ "" && r.version ≠ "")

def perform : (op : PluginOp) → PluginFiles → op.Answer × PluginFiles
  | .loadDesiredState _, s => (.ok (readDesired s), s)
  | .loadLockState _, s => (.ok (readLock s), s)
  | .makeTemp _, s => (.ok (), s.withoutTemp)
  | .removeTemp _, s => (.ok (), s.withoutTemp)
  | .ensureVenv _, s => (.ok (), s.put .tempVenv (some ⟨rt.emptyVenv, true⟩))
  | .makeWheels _, s => (.ok (), s.put .tempWheels (some ⟨fun _ => none, true⟩))
  | .installRefs stage refs, s => (.ok (), s.put .tempVenv (some ⟨rt.installed stage refs, true⟩))
  | .loadManifests _, s => ((s.dirs .tempVenv).elim (.ok []) rt.loadPluginManifests, s)
  | .writeManifestCache _ manifests, s =>
    (.ok (), s.put .tempManifests (some (manifestCache rt manifests)))
  | .makePluginDir, s => (.ok (), s)
  | .pathExists d, s => (.ok (s.dirs d).isSome, s)
  | .rmtree d _, s => (.ok (), s.put d none)
  | .copytree source destination, s =>
    (.ok (), s.put destination ((s.dirs source).map (Directory.overlaid (s.dirs destination))))
  | .osReplace source destination, s =>
    if (s.dirs destination).isSome then (.error .stepFailed, s)
    else (.ok (), (s.put destination (s.dirs source)).put source none)
  | .hashInstallSource source, s => (.ok (rt.hashInstallSource source), s)
  | .saveDesiredState records, s =>
    (.ok (), { s with desired := some (sortedByName rt (·.name) records) })
  | .saveLockState records, s =>
    (.ok (), { s with lock := some (sortedByName rt (·.name) records) })

def exec (plan : FailurePlan) (op : PluginOp) (s : PluginFiles) : op.Answer × PluginFiles :=
  match if op.ignoresErrors then none else plan op with
  | none => perform rt op s
  | some left => (.error .stepFailed, op.writes.elim s (fun d => s.put d left))

end

end Orcheo.Plugins
