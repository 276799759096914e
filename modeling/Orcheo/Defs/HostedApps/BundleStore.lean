import Orcheo.Defs.HostedApps.Bundle

/-! The stores of bundles, and the service that turns a staged archive into a deployment. -/

namespace Orcheo.HostedApps

open Lib (Dict)

inductive BundleBackend
  | filesystem | postgres | s3
  deriving DecidableEq, Repr

/-- The objects of one deployment. A key is the segments that slashes join, below the prefix of
the deployment. -/
abbrev Objects := Dict (List Text) Bytes

structure BundleStore where
  backend : BundleBackend
  staged : Dict Uuid Bytes := ∅
  deployments : Dict Uuid Objects := ∅

inductive StagingKey
  | pending (deploymentId : Uuid)
  | staging (uploadId : Uuid)
  deriving DecidableEq, Repr

def manifestKey : List Text := ["__manifest__.json".toList]

def safeRelative (value : Text) : Except BundleError (List Text) :=
  if isAbsolute value = true ∨ parts value = [] ∨ (parts value).contains "..".toList then
    .error (.value "Bundle storage paths must be non-empty relative POSIX paths.")
  else .ok (parts value)

/-- Writes below files and over directories fail on a file system, and so do names that do not
fit the provider. Objects in Postgres are written once. -/
def writeObject (rt : BundleRuntime) (backend : BundleBackend) (objects : Objects)
    (key : List Text) (content : Bytes) : Except BundleError Objects :=
  if rt.keyFits key = false then .error (.storage "The key does not fit.")
  else match backend with
  | .filesystem =>
    if ∀ k ∈ objects.keys, Lib.Path.Apart k key then .ok (objects.set key content)
    else .error (.storage "A file is in the place of a directory, or a directory of the file.")
  | .postgres => match objects.get? key with
    | some existing =>
      if existing = content then .ok objects
      else .error (.value "Hosted Apps bundle objects are immutable.")
    | none => .ok (objects.set key content)
  | .s3 => .ok (objects.set key content)

namespace BundleStore

variable (store : BundleStore)

def objects (deploymentId : Uuid) : Objects := (store.deployments.get? deploymentId).getD ∅

def writeStaged (uploadId : Uuid) (source : Bytes) : Except BundleError BundleStore :=
  match store.backend, store.staged.get? uploadId with
  | .postgres, some existing =>
    if existing = source then .ok store
    else .error (.value "Hosted Apps bundle objects are immutable.")
  | _, _ => .ok { store with staged := store.staged.set uploadId source }

def openStaged : StagingKey → Except BundleError Bytes
  | .pending _ => match store.backend with
    | .filesystem => .error (.storage "The archive does not exist.")
    | .postgres => .error (.value "Bundle object key is outside the owned namespace.")
    | .s3 => .error (.value "Bundle object key is outside the configured store prefix.")
  | .staging uploadId => match store.staged.get? uploadId with
    | none => .error (.storage "The archive does not exist.")
    | some archive => .ok archive

def openDeploymentFile (deploymentId : Uuid) (path : Text) : Except BundleError Bytes := do
  let key ← safeRelative path
  match (store.objects deploymentId).get? key with
  | none => .error (.storage "The object does not exist.")
  | some content => .ok content

/-- `delete_prefix(f"deployments/{deployment_id}")`: the S3 store owns no such prefix. -/
def deleteDeployment (deploymentId : Uuid) : Except BundleError BundleStore :=
  match store.backend with
  | .s3 => .error (.value "Bundle object key is outside the configured store prefix.")
  | _ => .ok { store with deployments := store.deployments.erase deploymentId }

end BundleStore

/-- `NameToInfo`: of the members of one name the last. -/
def getInfo (infos : List ZipInfo) (name : Text) : Except BundleError ZipInfo :=
  match infos.reverse.find? (·.filename == name) with
  | none => .error (.key name)
  | some info => .ok info

def readChunks : List (Except BundleError Bytes) → Bytes → Except BundleError Bytes
  | [], read => .ok read
  | .error e :: _, _ => .error e
  | .ok chunk :: rest, read => if chunk = [] then .ok read else readChunks rest (read ++ chunk)

def ZipInfo.read (info : ZipInfo) : Except BundleError Bytes := readChunks info.source []

section

variable (rt : BundleRuntime) (backend : BundleBackend) (infos : List ZipInfo)

def writeAsset (objects : Objects) (path : Text) : Except BundleError Objects := do
  let info ← getInfo infos path
  let key ← safeRelative path
  let content ← info.read
  writeObject rt backend objects key content

def writeAssets : List Text → Objects → Objects × Except BundleError Unit
  | [], objects => (objects, .ok ())
  | path :: paths, objects => match writeAsset rt backend infos objects path with
    | .error e => (objects, .error e)
    | .ok objects => writeAssets paths objects

/-- The manifest comes last, and its digest is what the deployment keeps. -/
def writeManifest (manifest : BundleManifest) (objects : Objects) :
    Except BundleError (Objects × String) := do
  let manifestBytes ← rt.dumpManifest manifest
  let objects ← writeObject rt backend objects manifestKey manifestBytes
  return (objects, rt.sha256 manifestBytes)

def materialise (manifest : BundleManifest) (objects : Objects) :
    Objects × Except BundleError String :=
  match writeAssets rt backend infos manifest.files.keys objects with
  | (objects, .error e) => (objects, .error e)
  | (objects, .ok ()) => match writeManifest rt backend manifest objects with
    | .error e => (objects, .error e)
    | .ok (objects, digest) => (objects, .ok digest)

end

inductive UploadStatus
  | pending | completed | failed | expired
  deriving DecidableEq, Repr

structure AppUpload where
  id : Uuid
  deploymentId : Uuid
  workspaceId : Uuid
  appId : Uuid
  status : UploadStatus := .pending
  stagingKey : StagingKey
  expectedSizeBytes : Nat
  expectedSha256 : Option String := none
  actualSizeBytes : Option Nat := none
  actualSha256 : Option String := none
  expiresAt : Instant
  completedAt : Option Instant := none
  createdBy : String
  deriving DecidableEq

structure DeploymentCandidate extends AppDeployment where
  archiveSha256 : Option String := none
  manifestSha256 : Option String := none
  validationErrorCode : Option String := none
  validationErrorMessage : Option String := none
  validatedAt : Option Instant := none
  deriving DecidableEq

structure DeploymentService where
  store : BundleStore
  limits : BundleValidationLimits := {}
  uploads : Dict Uuid AppUpload := ∅
  deployments : Dict Uuid DeploymentCandidate := ∅

structure UploadRequest where
  uploadId : Uuid
  deploymentId : Uuid
  workspaceId : Uuid
  appId : Uuid
  createdBy : String
  expectedSizeBytes : Nat
  expectedSha256 : Option String := none

/-- `if upload.expected_sha256 and upload.expected_sha256 != archive_digest` -/
def checksumMatches (expected : Option String) (digest : String) : Bool :=
  match expected with
  | none => true
  | some expected => expected == "" || expected == digest

namespace AppUpload

def ensurePending (upload : AppUpload) (now : Instant) : Except BundleError Unit :=
  if upload.status ≠ .pending ∨ upload.completedAt.isSome = true then
    reject "hosted_apps.upload.already_completed" "Upload has already been completed."
  else if upload.expiresAt ≤ now then
    reject "hosted_apps.upload.expired" "Upload has expired."
  else .ok ()

/-- The state that `_ensure_pending` leaves: only an upload that expires is written. -/
def afterCheck (upload : AppUpload) (now : Instant) : AppUpload :=
  if upload.status ≠ .pending ∨ upload.completedAt.isSome = true then upload
  else if upload.expiresAt ≤ now then { upload with status := .expired }
  else upload

end AppUpload

namespace DeploymentService

variable (service : DeploymentService)

def deploymentOf (request : UploadRequest) : DeploymentCandidate where
  id := request.deploymentId
  appId := request.appId
  workspaceId := request.workspaceId
  createdBy := request.createdBy

def uploadOf (request : UploadRequest) (now : Instant) : AppUpload where
  id := request.uploadId
  deploymentId := request.deploymentId
  workspaceId := request.workspaceId
  appId := request.appId
  stagingKey := .pending request.deploymentId
  expectedSizeBytes := request.expectedSizeBytes
  expectedSha256 := request.expectedSha256
  expiresAt := now + seconds 3600
  createdBy := request.createdBy

def initiate (now : Instant) (request : UploadRequest) : Except BundleError DeploymentService :=
  if service.limits.maxArchiveBytes < request.expectedSizeBytes then
    .error (.validation "hosted_apps.bundle.archive_too_large"
      "Bundle archive exceeds the allowed size.")
  else if request.expectedSizeBytes = 0 then
    .error (.value "Input should be greater than 0")
  else
    let upload := uploadOf request now
    let deployment := deploymentOf request
    .ok { service with
      uploads := service.uploads.set upload.id upload
      deployments := service.deployments.set deployment.id deployment }

def getUpload (uploadId : Uuid) : Except BundleError AppUpload :=
  match service.uploads.get? uploadId with
  | none => .error (.key (idText uploadId).toList)
  | some upload => .ok upload

def setUpload (upload : AppUpload) : DeploymentService :=
  { service with uploads := service.uploads.set upload.id upload }

def setDeployment (deployment : DeploymentCandidate) : DeploymentService :=
  { service with deployments := service.deployments.set deployment.id deployment }

def stage (now : Instant) (uploadId : Uuid) (source : Bytes) :
    DeploymentService × Except BundleError AppUpload :=
  match service.getUpload uploadId with
  | .error e => (service, .error e)
  | .ok upload => match upload.ensurePending now with
    | .error e => (service.setUpload (upload.afterCheck now), .error e)
    | .ok () => match service.store.writeStaged upload.id source with
      | .error e => (service, .error e)
      | .ok store =>
        let upload := { upload with stagingKey := .staging upload.id }
        ({ service with store := store }.setUpload upload, .ok upload)

variable (rt : BundleRuntime)

def verify (upload : AppUpload) :
    Except BundleError (Bytes × List ZipInfo × BundleManifest) := do
  let archive ← service.store.openStaged upload.stagingKey
  rejectIf (archive.length ≠ upload.expectedSizeBytes) "hosted_apps.upload.size_mismatch"
    "Uploaded archive size does not match the declared size."
  rejectIf (checksumMatches upload.expectedSha256 (rt.sha256 archive) = false)
    "hosted_apps.upload.checksum_mismatch"
    "Uploaded archive checksum does not match the declared checksum."
  let manifest ← validateBundle rt service.limits archive
  let infos ← rt.openZip archive
  return (archive, infos, manifest)

def setObjects (deploymentId : Uuid) (objects : Objects) : DeploymentService :=
  { service with store :=
    { service.store with deployments := service.store.deployments.set deploymentId objects } }

def discardDeployment (deploymentId : Uuid) : Except BundleError DeploymentService := do
  let store ← service.store.deleteDeployment deploymentId
  return { service with store := store }

/-- The handlers of `complete`: what the handler raises takes the place of the error. -/
def fail (finished : Instant) (upload : AppUpload) (deployment : DeploymentCandidate)
    (error : BundleError) : DeploymentService × Except BundleError DeploymentCandidate :=
  match service.discardDeployment deployment.id with
  | .error e => (service, .error e)
  | .ok discarded => match error with
    | .validation code message =>
      let deployment := { deployment with
        status := .failed
        validationErrorCode := some code
        validationErrorMessage := some message
        validatedAt := some finished }
      ((discarded.setDeployment deployment).setUpload { upload with status := .failed },
        .error error)
    | _ => (discarded, .error error)

def finish (finished : Instant) (upload : AppUpload)
    (deployment : DeploymentCandidate) (archive : Bytes) (manifest : BundleManifest)
    (digest : String) : DeploymentService × Except BundleError DeploymentCandidate :=
  let deployment := { deployment with
    status := .ready
    archiveSha256 := some (rt.sha256 archive)
    manifestSha256 := some digest
    appManifest := manifest.appManifest
    validatedAt := some finished }
  let upload := { upload with
    actualSizeBytes := some archive.length
    actualSha256 := some (rt.sha256 archive)
    completedAt := some finished
    status := .completed }
  ((service.setDeployment deployment).setUpload upload, .ok deployment)

def completePending (finished : Instant) (upload : AppUpload) (deployment : DeploymentCandidate) :
    DeploymentService × Except BundleError DeploymentCandidate :=
  match service.verify rt upload with
  | .error e => service.fail finished upload deployment e
  | .ok (archive, infos, manifest) =>
    match materialise rt service.store.backend infos manifest
        (service.store.objects deployment.id) with
    | (objects, .error e) => (service.setObjects deployment.id objects).fail finished upload
        deployment e
    | (objects, .ok digest) => (service.setObjects deployment.id objects).finish rt finished
        upload deployment archive manifest digest

def complete (now finished : Instant) (uploadId : Uuid) :
    DeploymentService × Except BundleError DeploymentCandidate :=
  match service.getUpload uploadId with
  | .error e => (service, .error e)
  | .ok upload => match upload.ensurePending now with
    | .error e => (service.setUpload (upload.afterCheck now), .error e)
    | .ok () => match service.deployments.get? upload.deploymentId with
      | none => (service, .error (.key (idText upload.deploymentId).toList))
      | some deployment => service.completePending rt finished upload deployment

end DeploymentService

end Orcheo.HostedApps
