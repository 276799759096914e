import Orcheo.Defs.Plugins.Files

/-! The plugin manager: every change builds an environment for all desired plugins, puts it in the
place of the active one, and then writes the state files. -/

namespace Orcheo.Plugins

open Lib (Dict)

abbrev PluginCall (α : Type) := Lib.Call PluginOp.Answer (Except PluginError α)

def PluginOp.call (op : PluginOp) : PluginCall op.Value := .ask op .done

namespace PluginCall

def ofExcept {α : Type} (result : Except PluginError α) : PluginCall α := .done result

def each {α β : Type} (f : α → PluginCall β) : List α → PluginCall (List β)
  | [] => .done (.ok [])
  | a :: as => (f a).andThen (fun b => (each f as).andThen (fun bs => .done (.ok (b :: bs))))

/-- `finally: shutil.rmtree(temp_root, ignore_errors=True)` -/
def withTemp {α : Type} (stage : Stage) (body : PluginCall α) : PluginCall α :=
  (PluginOp.makeTemp stage).call.andThen (fun _ =>
    body.bind (fun result => (PluginOp.removeTemp stage).call.bind (fun _ => .done result)))

end PluginCall

section

variable (rt : PluginRuntime)

def checkManifestCompatibility (manifest : PluginManifest) : List String :=
  (if manifest.pluginApiVersion ≠ 1 then
    ["plugin API mismatch: plugin requires " ++ toString manifest.pluginApiVersion ++
      ", current is 1"] else []) ++
  match rt.satisfies manifest.orcheoVersion with
  | none => ["invalid Orcheo version specifier: " ++ manifest.orcheoVersion]
  | some true => []
  | some false => ["orcheo version " ++ rt.runningOrcheoVersion ++ " does not satisfy " ++
    manifest.orcheoVersion]

def validateManifests (manifests : List PluginManifest) : List (String × List String) :=
  manifests.foldl (fun issues manifest =>
    if checkManifestCompatibility rt manifest = [] then issues
    else Dict.insertEntry manifest.name (checkManifestCompatibility rt manifest) issues) []

variable (stage : Stage)

def lockedRecord (manifest : PluginManifest × String) : LockedPluginRecord where
  name := manifest.1.name
  version := manifest.1.version
  pluginApiVersion := manifest.1.pluginApiVersion
  orcheoVersion := manifest.1.orcheoVersion
  location := rt.tempVenvPath stage
  wheelSha256 := ""
  manifestSha256 := manifest.2
  exports := manifest.1.exports
  description := manifest.1.description
  author := manifest.1.author
  entryPoints := manifest.1.entryPoints

def removeIfThere (d : PluginDir) (last : Bool := false) : PluginCall Unit :=
  (PluginOp.pathExists d).call.andThen (fun (there : Bool) =>
    if there then (PluginOp.rmtree d last).call else .done (.ok ()))

def copyIfThere (source destination : PluginDir) : PluginCall Unit :=
  (PluginOp.pathExists source).call.andThen (fun (there : Bool) =>
    if there then (PluginOp.copytree source destination).call else .done (.ok ()))

def installRefsIntoVenv (refs : List String) : PluginCall Unit :=
  if refs = [] then .done (.ok ()) else (PluginOp.installRefs stage refs).call

abbrev Built := List PluginManifest × List LockedPluginRecord

def rebuildEnvironment (refs : List String) : PluginCall Built :=
  (removeIfThere .tempVenv).andThen (fun _ =>
  (removeIfThere .tempWheels).andThen (fun _ =>
  (PluginOp.ensureVenv stage).call.andThen (fun _ =>
  (PluginOp.makeWheels stage).call.andThen (fun _ =>
  (installRefsIntoVenv stage refs).andThen (fun _ =>
  (PluginOp.loadManifests stage).call.andThen
    (fun (manifestsWithHashes : List (PluginManifest × String)) =>
  let manifests := manifestsWithHashes.map Prod.fst
  if validateManifests rt manifests ≠ [] then
    .done (.error (.incompatible (validateManifests rt manifests)))
  else
    (PluginOp.writeManifestCache stage manifestsWithHashes).call.andThen (fun _ =>
    .done (.ok (manifests, manifestsWithHashes.map (lockedRecord rt stage))))))))))

def replaceDirectory : PluginCall Unit :=
  (removeIfThere .backup).andThen (fun _ =>
  (PluginOp.pathExists .venv).call.andThen (fun (there : Bool) =>
  (if there then (PluginOp.osReplace .venv .backup).call else .done (.ok ())).andThen (fun _ =>
  (PluginOp.osReplace .tempVenv .venv).call.andThen (fun _ =>
  removeIfThere .backup true))))

/-- The rest of `_activate_build`, where the build is to be activated. -/
def activate : PluginCall Unit :=
  PluginOp.makePluginDir.call.andThen (fun _ =>
  (removeIfThere .wheels).andThen (fun _ =>
  (copyIfThere .tempWheels .wheels).andThen (fun _ =>
  (removeIfThere .manifests).andThen (fun _ =>
  (copyIfThere .tempManifests .manifests).andThen (fun _ =>
  replaceDirectory)))))

def buildEnvironment (refs : List String) : PluginCall Built :=
  if refs ≠ [] then rebuildEnvironment rt stage refs
  else (PluginOp.ensureVenv stage).call.andThen (fun _ => .done (.ok ([], [])))

def activateBuild (desired : List DesiredPluginRecord)
    (validate : List PluginManifest → Except PluginError Unit) (activates : Bool) :
    PluginCall Built :=
  PluginCall.withTemp stage
    ((buildEnvironment rt stage (desired.map (·.source))).andThen (fun built =>
    (PluginCall.ofExcept (validate built.1)).andThen (fun _ =>
    if activates then activate.andThen (fun _ => .done (.ok built)) else .done (.ok built))))

/-- `{record.name: record for record in …}` -/
def byName {α : Type} (name : α → String) (records : List α) : List (String × α) :=
  records.foldl (fun entries r => Dict.insertEntry (name r) r entries) []

def hashed (desired : List DesiredPluginRecord) (r : LockedPluginRecord) :
    PluginCall LockedPluginRecord :=
  match Dict.lookup r.name (byName (·.name) desired) with
  | none => .done (.ok r)
  | some record => (PluginOp.hashInstallSource record.source).call.andThen (fun (digest : String) =>
    .done (.ok { r with wheelSha256 := digest }))

def reconcileDesiredAndLock (desired : List DesiredPluginRecord)
    (locked : List LockedPluginRecord) : PluginCall Unit :=
  (PluginCall.each (hashed desired) locked).andThen (fun locked =>
  (PluginOp.saveDesiredState desired).call.andThen (fun _ =>
  (PluginOp.saveLockState locked).call))

def desiredByName : PluginCall (List (String × DesiredPluginRecord)) :=
  (PluginOp.loadDesiredState stage).call.andThen (fun (records : List DesiredPluginRecord) =>
    .done (.ok (byName (·.name) records)))

def lockByName : PluginCall (List (String × LockedPluginRecord)) :=
  (PluginOp.loadLockState stage).call.andThen (fun (records : List LockedPluginRecord) =>
    .done (.ok (byName (·.name) records)))

def showPlugin (name : String) : PluginCall Unit :=
  (desiredByName .show).andThen (fun desired =>
  (lockByName .show).andThen (fun locked =>
  if (Dict.lookup name desired).isSome ∨ (Dict.lookup name locked).isSome then .done (.ok ())
  else .done (.error (.notInstalled name))))

def newPlugins (existing : List DesiredPluginRecord) (manifests : List PluginManifest) :
    List PluginManifest :=
  manifests.filter (fun m => !existing.any (fun r => r.name = m.name))

def validateSingleNewPlugin (existing : List DesiredPluginRecord)
    (manifests : List PluginManifest) : Except PluginError Unit :=
  if (newPlugins existing manifests).length ≠ 1 then .error .notOneNewPlugin else .ok ()

def pending (ref : String) : DesiredPluginRecord where
  name := "pending:" ++ ref
  source := ref

def isPending (r : DesiredPluginRecord) : Bool := r.name.startsWith "pending:"

def validateNone (_ : List PluginManifest) : Except PluginError Unit := .ok ()

def install (ref : String) : PluginCall Unit :=
  (PluginOp.loadDesiredState .apply).call.andThen (fun (desired : List DesiredPluginRecord) =>
  (activateBuild rt .apply (desired ++ [pending ref]) (validateSingleNewPlugin desired)
    true).andThen (fun built =>
  match newPlugins desired built.1 with
  | [] => .done (.error .notOneNewPlugin)
  | new :: _ =>
    (reconcileDesiredAndLock
      (desired.filter (fun r => !isPending r) ++ [{ name := new.name, source := ref }])
      built.2).andThen (fun _ =>
    showPlugin new.name)))

def previewUpdate (name : String) : PluginCall Unit :=
  (desiredByName .preview).andThen (fun desired =>
  (lockByName .preview).andThen (fun _ =>
  if (Dict.lookup name desired).isNone then .done (.error (.notInstalled name))
  else
    (activateBuild rt .preview (desired.map Prod.snd) validateNone false).andThen (fun built =>
    if built.1.any (fun m => m.name = name) then .done (.ok ())
    else .done (.error (.noLongerProvides name)))))

def applyChange (change : List (String × DesiredPluginRecord) → List DesiredPluginRecord) :
    PluginCall Unit :=
  (desiredByName .apply).andThen (fun desired =>
  (activateBuild rt .apply (change desired) validateNone true).andThen (fun built =>
  reconcileDesiredAndLock (change desired) built.2))

def update (name : String) : PluginCall Unit :=
  (previewUpdate rt name).andThen (fun _ =>
  (applyChange rt (List.map Prod.snd)).andThen (fun _ =>
  showPlugin name))

/-- `preview_uninstall` and `preview_set_enabled`, which build nothing. -/
def previewKnown (name : String) : PluginCall Unit :=
  (desiredByName .preview).andThen (fun desired =>
  (lockByName .preview).andThen (fun locked =>
  if (Dict.lookup name desired).isNone then .done (.error (.notInstalled name))
  else if (Dict.lookup name locked).isNone then .done (.error (.notLocked name))
  else .done (.ok ())))

def uninstall (name : String) : PluginCall Unit :=
  (previewKnown name).andThen (fun _ =>
  applyChange rt (fun desired => (desired.map Prod.snd).filter (fun r => r.name ≠ name)))

def setEnabled (name : String) (enabled : Bool) : PluginCall Unit :=
  (previewKnown name).andThen (fun _ =>
  applyChange rt (List.map (fun entry =>
    if entry.1 = name then { entry.2 with enabled := enabled } else entry.2)))

inductive PluginRequest
  | install (ref : String)
  | update (name : String)
  | uninstall (name : String)
  | setEnabled (name : String) (enabled : Bool)
  deriving DecidableEq

def PluginRequest.program : PluginRequest → PluginCall Unit
  | install ref => Plugins.install rt ref
  | update name => Plugins.update rt name
  | uninstall name => Plugins.uninstall rt name
  | setEnabled name enabled => Plugins.setEnabled rt name enabled

end

end Orcheo.Plugins
