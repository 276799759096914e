import Orcheo.Defs.AppGateway.SignIn
import Orcheo.Defs.HostedApps.BundleStore
import Orcheo.Defs.HostedApps.Sessions

/-! What the gateway serves of an app: routes, descriptors, manifests and assets. -/

namespace Orcheo.AppGateway

open HostedApps (AppAuthService BundleRuntime BundleStore Text idText)
open HostedApps.HostedAppsRepository (Descriptor)
open Lib (Dict Percent.unquote)

structure AssetRuntime extends GatewayRuntime where
  bundles : BundleRuntime
  /-- `data.decode("utf-8", "replace")` -/
  decodeReplacing : Bytes → Text
  /-- `json.loads(data.decode())` -/
  loadsText : Bytes → Option Json

def visibilityText : HostedApps.AppVisibility → String
  | .publicApp => "public"
  | .privateApp => "private"

def descriptorPayload : Descriptor → Payload
  | .suspended alias_ generation =>
    [("alias", .str alias_), ("state", .str "suspended"), ("generation", .int generation)]
  | .published d =>
    [("alias", .str d.alias_), ("state", .str "published"), ("generation", .int d.generation),
      ("workspace_id", .str (idText d.workspaceId)), ("app_id", .str (idText d.appId)),
      ("release_id", .str (idText d.releaseId)), ("deployment_id", .str (idText d.deploymentId)),
      ("visibility", .str (visibilityText d.visibility)),
      ("snapshot_sha256", .str d.snapshotSha256), ("capability_snapshot", d.capabilitySnapshot)]

structure Backend where
  /-- the domain of the settings, where hosted apps are enabled -/
  appsDomain : Option String
  gatewaySecret : String
  kind : HostedApps.Store
  apps : HostedApps.HostedAppsRepository
  bundles : BundleStore
  auth : AppAuthService := {}
  members : List (Uuid × String) := []

section Backend

variable (rt : AssetRuntime) (backend : Backend)

/-- What a host resolves to, or a `LookupError`, or a disabled runtime. -/
def Backend.descriptor (host : String) : Except HttpError (String × Descriptor) :=
  match backend.appsDomain with
  | none => .error ⟨503, "Hosted Apps runtime is unavailable."⟩
  | some domain => match canonicalAppHost rt.toGatewayRuntime { baseDomain := domain } host with
    | none => .error ⟨404, "Hosted app was not found."⟩
    | some (canonical, label) =>
      match backend.apps.resolveDescriptor rt.toTextRuntime backend.kind label with
      | .error (.disabled _) => .error ⟨503, "Hosted Apps runtime is unavailable."⟩
      | .error _ => .error ⟨404, "Hosted app was not found."⟩
      | .ok descriptor => .ok (canonical, descriptor)

def Backend.admits (token : String) : Bool :=
  backend.gatewaySecret ≠ "" && token == backend.gatewaySecret

def Backend.resolveHost (host : String) : Except HttpError Payload :=
  if host.length = 0 ∨ 255 < host.length then .error ⟨422, ""⟩
  else match backend.descriptor rt host with
    | .error e => .error e
    | .ok (canonical, descriptor) => .ok (("host", .str canonical) :: descriptorPayload descriptor)

def Backend.inspectAppSession (host secret : String) (now : Instant) : Backend × Bool :=
  match backend.descriptor rt host with
  | .error _ => (backend, false)
  | .ok (_, descriptor) =>
    let resolved := backend.auth.resolveAppSession backend.members
      (some (rt.hexdigest (rt.sha256 secret))) host descriptor now
    ({ backend with auth := resolved.1 }, resolved.2.isSome)

end Backend

structure Gateway where
  backend : Option Backend := none
  descriptorFile : Payload := []
  root : BundleStore := { backend := .filesystem }
  descriptorCache : Dict String (Instant × Option Payload) := ∅

structure AssetRequest where
  method : String := "GET"
  hostHeader : String
  /-- as the server has decoded it -/
  path : Text
  session : Option String := none
  now : Instant
  monotonic : Instant

structure AssetHeaders where
  etag : Option String
  contentSecurityPolicy : String
  contentType : Json
  deriving DecidableEq

inductive Answer
  | asset (deploymentId : Uuid) (path : String) (content : Bytes) (headers : AssetHeaders)
  | config (authenticated : Bool) (visibility : Json)
  /-- the notice that the app is suspended -/
  | notice
  | signIn (returnTo : Text)
  deriving DecidableEq

def entryOf (descriptors : Payload) (label : String) : Option Payload :=
  match Json.field? descriptors label with
  | some (.obj descriptor) => some descriptor
  | _ => none

def cacheDuration (config : GatewayConfig) : Duration := seconds (config.cacheSeconds.val + 1)

def resolutionUnavailable : HttpError := ⟨503, "App resolution is unavailable."⟩

def assetUnavailable : HttpError := ⟨503, "Deployment asset is unavailable."⟩

section Gateway

variable (rt : AssetRuntime) (config : GatewayConfig)

namespace Gateway

variable (g : Gateway)

def resolveRemote (host : String) : Except HttpError (Option Payload) :=
  match g.backend with
  | none => .error resolutionUnavailable
  | some backend =>
    if backend.admits config.gatewaySecret then
      match backend.resolveHost rt host with
      | .ok descriptor => .ok (some descriptor)
      | .error e => if e.statusCode = 404 then .ok none else .error resolutionUnavailable
    else .error resolutionUnavailable

def resolveDescriptor (host label : String) (monotonic : Instant) :
    Gateway × Except HttpError (Option Payload) :=
  match (g.descriptorCache.get? label).filter (fun cached => decide (monotonic < cached.1)) with
  | some cached => (g, .ok cached.2)
  | none =>
    if config.backendUrl ≠ "" then
      if config.gatewaySecret = "" then (g, .error resolutionUnavailable)
      else (g, g.resolveRemote rt config host)
    else
      let descriptor := entryOf g.descriptorFile label
      ({ g with descriptorCache :=
          g.descriptorCache.set label (monotonic + cacheDuration config, descriptor) },
        .ok descriptor)

def sessionAuthenticated (secret : Option String) (host : String) (now : Instant) :
    Gateway × Bool :=
  match secret, g.backend with
  | some secret, some backend =>
    if secret ≠ "" ∧ config.backendUrl ≠ "" ∧ config.gatewaySecret ≠ "" ∧
        0 < host.length ∧ host.length ≤ 255 ∧ backend.admits config.gatewaySecret = true then
      let inspected := backend.inspectAppSession rt host secret now
      ({ g with backend := some inspected.1 }, inspected.2)
    else (g, false)
  | _, _ => (g, false)

def readDeploymentObject (deploymentId : Uuid) (path : String) :
    Except HttpError (Option Bytes) :=
  if config.backendUrl ≠ "" then match g.backend with
    | none => .error assetUnavailable
    | some backend =>
      if backend.admits config.gatewaySecret then
        match backend.bundles.openDeploymentFile deploymentId path.toList with
        | .ok content => .ok (some content)
        | .error (.value _) => .error assetUnavailable
        | .error _ => .ok none
      else .error assetUnavailable
  else .ok (g.root.openDeploymentFile deploymentId path.toList).toOption

end Gateway

/-- `name in files` -/
def contains? (files : Json) (name : String) : Option Bool :=
  match files with
  | .obj entries => some (Json.field? entries name).isSome
  | .arr xs => some (xs.contains (.str name))
  | .str s => some (decide (name.toList <:+: s.toList))
  | _ => none

def requestedAsset (files : Json) (requested : String) : Except HttpError String :=
  match contains? files requested with
  | none => .error .unhandled
  | some true => .ok requested
  | some false => match contains? files "index.html" with
    | none => .error .unhandled
    | some true => .ok "index.html"
    | some false => .error ⟨404, "Asset was not found."⟩

/-- `value.get(key, default)` -/
def getOr (value : Json) (key : String) (default : Json) : Except HttpError Json :=
  match value with
  | .obj entries => .ok ((Json.field? entries key).getD default)
  | _ => .error .unhandled

def iterate : Json → Except HttpError (List Json)
  | .arr xs => .ok xs
  | .obj entries => .ok (entries.map (fun entry => .str entry.1))
  | .str s => .ok (s.toList.map (fun c => .str (String.ofList [c])))
  | _ => .error .unhandled

def quotedHash : Json → Option String
  | .str value =>
    if "sha256-".toList <+: value.toList then some ("'" ++ value ++ "'") else none
  | _ => none

def assetHeaders (manifest entry : Payload) (path : String) : Except HttpError AssetHeaders := do
  let policies ← getOr (.obj manifest) "html_policy" (.obj [])
  let policy ← getOr policies path (.obj [])
  let hashes ← iterate (← getOr policy "inline_script_hashes" (.arr []))
  return {
    etag := match Json.field? entry "sha256" with
      | some (.str digest) => some ("\"" ++ digest ++ "\"")
      | _ => none
    contentSecurityPolicy := "default-src 'self'; base-uri 'none'; frame-ancestors 'none'; " ++
      "object-src 'none'; worker-src 'none'; connect-src 'self'; script-src " ++
      " ".intercalate ("'self'" :: hashes.filterMap quotedHash)
    contentType := (Json.field? entry "content_type").getD .null }

/-- The content type has to be there, as text or as `None`. -/
def checkContentType (entry : Payload) : Except HttpError Unit :=
  match Json.field? entry "content_type" with
  | some (.str _) | some .null => .ok ()
  | _ => .error .unhandled

def isSafeAppPath (path : Text) : Bool :=
  let decoded := Percent.unquote rt.decodeReplacing path
  decoded.head? == some '/' && !decoded.contains '\\' && !decoded.contains '\x00' &&
    ((decoded.splitOn '/').drop 1).all
      (fun segment => !(["".toList, ".".toList, "..".toList].contains segment)) &&
    !("/__orcheo/".toList <+: decoded)

/-- `asset_path or "index.html"` -/
def lookedUp (assetPath : Text) : Text :=
  if assetPath = [] then "index.html".toList else assetPath

def isReserved (assetPath : Text) : Bool :=
  assetPath == "__orcheo".toList || decide ("__orcheo/".toList <+: assetPath)

namespace Gateway

variable (g : Gateway)

/-- `UUID(str(descriptor["deployment_id"]))` -/
def deploymentOf (descriptor : Payload) : Option Uuid :=
  (Json.field? descriptor "deployment_id").bind (fun value =>
    rt.uuid (pyStr rt.toGatewayRuntime value))

def readManifest (deploymentId : Uuid) : Except HttpError Payload := do
  match ← g.readDeploymentObject config deploymentId "__manifest__.json" with
  | none => .error ⟨503, "Deployment manifest is unavailable."⟩
  | some bytes => match rt.loadsText bytes with
    | some (.obj manifest) => return manifest
    | some _ => .error .unhandled
    | none => .error ⟨503, "Deployment manifest is unavailable."⟩

def deliver (descriptor : Payload) (assetPath : Text) : Except HttpError Answer :=
  match deploymentOf rt descriptor with
  | none => .error ⟨503, "Invalid app descriptor."⟩
  | some deploymentId => do
    let manifest ← g.readManifest rt config deploymentId
    match Json.field? manifest "files" with
    | none => .error ⟨503, "Deployment manifest is unavailable."⟩
    | some files =>
      if !isSafeAppPath rt ('/' :: lookedUp assetPath) then
        .error ⟨400, "Unsafe app asset path."⟩
      else
        let path ← requestedAsset files (String.ofList (lookedUp assetPath))
        match files with
        | .obj entries => match Json.field? entries path with
          | some (.obj entry) => do
            let headers ← assetHeaders manifest entry path
            match ← g.readDeploymentObject config deploymentId path with
            | none => .error assetUnavailable
            | some content => do
              checkContentType entry
              return .asset deploymentId path content headers
          | _ => .error .unhandled
        | _ => .error .unhandled

def appUnavailable : HttpError := ⟨404, "Hosted app is unavailable."⟩

def serveResolved (r : AssetRequest) (host : String) (descriptor : Option Payload)
    (assetPath : Text) : Gateway × Except HttpError Answer :=
  match descriptor with
  | none =>
    if isReserved assetPath ∧ assetPath ≠ "__orcheo/config".toList then
      (g, .error ⟨404, "Reserved runtime path."⟩)
    else (g, .error appUnavailable)
  | some descriptor =>
    let inspected := g.sessionAuthenticated rt config r.session host r.now
    if assetPath = "__orcheo/config".toList then
      (inspected.1, .ok (.config inspected.2
        ((Json.field? descriptor "visibility").getD (.str "public"))))
    else if isReserved assetPath then (g, .error ⟨404, "Reserved runtime path."⟩)
    else if isSuspended descriptor then (g, .ok .notice)
    else if Json.field? descriptor "visibility" = some (.str "private") then
      if inspected.2 then (inspected.1, inspected.1.deliver rt config descriptor assetPath)
      else (inspected.1, .ok (.signIn r.path))
    else (g, g.deliver rt config descriptor assetPath)

def serveAsset (r : AssetRequest) (assetPath : Text) : Gateway × Except HttpError Answer :=
  match canonicalAppHost rt.toGatewayRuntime config r.hostHeader with
  | none => (g, .error .unknownApp)
  | some (host, label) =>
    let resolved := g.resolveDescriptor rt config host label r.monotonic
    match resolved.2 with
    | .error e => (resolved.1, .error e)
    | .ok descriptor => resolved.1.serveResolved rt config r host descriptor assetPath

end Gateway

inductive Route
  | asset (assetPath : Text)
  | elsewhere
  | refused (error : HttpError)
  deriving DecidableEq

def withoutLastBreak (text : Text) : Text :=
  if text.getLast? = some '\n' then text.dropLast else text

def catchAll : Text → Option Text
  | '/' :: rest =>
    if '\n' ∈ withoutLastBreak rest then none else some (withoutLastBreak rest)
  | _ => none

def fixedPaths : List String :=
  ["/openapi.json", "/healthz", "/readyz", "/__orcheo/auth/start", "/__orcheo/auth/callback"]

def matchesSegment (before after : String) (path : Text) : Bool :=
  let segment := (path.drop before.length).take (path.length - before.length - after.length)
  decide (path = before.toList ++ segment ++ after.toList) && !segment.isEmpty &&
    !segment.contains '/'

def isFixed (path : Text) : Bool :=
  fixedPaths.any (fun fixed => fixed.toList == withoutLastBreak path) ||
    matchesSegment "/__orcheo/runs/" "" path

def route (method : String) (path : Text) : Route :=
  if method = "GET" then
    if isFixed path then .elsewhere
    else match catchAll path with
      | some assetPath => .asset assetPath
      | none => .refused ⟨404, "Not Found"⟩
  else if method = "POST" ∧ matchesSegment "/__orcheo/workflows/" "/runs" (withoutLastBreak path) ∨
      method = "HEAD" ∧ withoutLastBreak path = "/openapi.json".toList then .elsewhere
  else if isFixed path ∨ (catchAll path).isSome then .refused ⟨405, "Method Not Allowed"⟩
  else .refused ⟨404, "Not Found"⟩

def Gateway.answer (g : Gateway) (r : AssetRequest) :
    Gateway × Option (Except HttpError Answer) :=
  match route r.method r.path with
  | .elsewhere => (g, none)
  | .refused e => (g, some (.error e))
  | .asset assetPath =>
    let served := g.serveAsset rt config r assetPath
    (served.1, some served.2)

end Gateway

end Orcheo.AppGateway
