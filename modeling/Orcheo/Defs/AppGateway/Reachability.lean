import Orcheo.Defs.AppGateway.Serving
import Orcheo.Defs.AppGateway.SignInSafety
import Orcheo.Defs.HostedApps.BundleMaterialisation

/-! The assets of accepted bundles are reached under their own paths. -/

namespace Orcheo.AppGateway

open HostedApps (BundleManifest BundleStore BundleValidationLimits Text ZipInfo Accepted assetPath manifestKey materialise parts reservedRoot validateZip)
open Lib (Always Dict)

variable {rt : AssetRuntime} {config : GatewayConfig} {limits : BundleValidationLimits}
  {infos : List ZipInfo} {manifest : BundleManifest}

def filePayload (file : HostedApps.BundleFile) : Payload :=
  [("size_bytes", .int file.sizeBytes), ("sha256", .str file.sha256),
    ("content_type", .str file.contentType)]

def policyPayload (hashes : List String) : Payload :=
  [("inline_script_hashes", .arr (hashes.map .str))]

/-- `manifest.model_dump(exclude_none=True)` -/
def manifestPayload (manifest : BundleManifest) : Payload :=
  [("version", .int manifest.version), ("index", .str manifest.index),
    ("files", .obj (manifest.files.entries.map (fun e => (String.ofList e.1, .obj (filePayload e.2))))),
    ("html_policy", .obj (manifest.htmlPolicy.entries.map (fun e =>
      (String.ofList e.1, .obj (policyPayload e.2)))))] ++
    manifest.appManifest.toList.map (fun app => ("app_manifest", app))

variable {path : Text} {g : Gateway}

theorem field?_map {V : Type} (value : V → Json) {entries : List (Text × V)} :
    Json.field? (entries.map (fun e => (String.ofList e.1, value e.2))) (String.ofList path) =
      (Dict.lookup path entries).map value := by
  unfold Json.field?
  induction entries with
  | nil => rfl
  | cons e entries ih =>
    rw [List.map_cons, Dict.lookup, Dict.lookup]
    by_cases same : e.1 = path
    · rw [if_pos same, if_pos (congrArg String.ofList same)]
      rfl
    · rw [if_neg same, if_neg (fun h => same (String.ofList_injective h)), ih]

theorem files_manifestPayload :
    Json.field? (manifestPayload manifest) "files" = some (.obj (manifest.files.entries.map
      (fun e => (String.ofList e.1, .obj (filePayload e.2))))) := rfl

theorem htmlPolicy_manifestPayload :
    Json.field? (manifestPayload manifest) "html_policy" = some (.obj
      (manifest.htmlPolicy.entries.map (fun e => (String.ofList e.1, .obj (policyPayload e.2))))) :=
  rfl

theorem assetHeaders_manifestPayload (manifest : BundleManifest) (path : Text) (entry : Payload) :
    ∃ headers, assetHeaders (manifestPayload manifest) entry (String.ofList path) = .ok headers := by
  have policies : getOr (.obj (manifestPayload manifest)) "html_policy" (.obj []) =
      .ok (.obj (manifest.htmlPolicy.entries.map
        (fun e => (String.ofList e.1, .obj (policyPayload e.2))))) := by
    unfold getOr
    dsimp only
    rw [htmlPolicy_manifestPayload]
    rfl
  have hashes : ∃ hashes policy, getOr (.obj (manifest.htmlPolicy.entries.map
      (fun e => (String.ofList e.1, Json.obj (policyPayload e.2))))) (String.ofList path) (.obj []) =
        .ok policy ∧ getOr policy "inline_script_hashes" (.arr []) = .ok (.arr hashes) := by
    unfold getOr
    dsimp only
    rw [field?_map (fun hashes => .obj (policyPayload hashes))]
    cases Dict.lookup path manifest.htmlPolicy.entries with
    | none => exact ⟨[], .obj [], rfl, rfl⟩
    | some hashes => exact ⟨hashes.map .str, .obj (policyPayload hashes), rfl, rfl⟩
  obtain ⟨hashes, policy, found, listed⟩ := hashes
  unfold assetHeaders
  rw [policies]
  simp only [bind, Except.bind, found, listed]
  exact ⟨_, rfl⟩

theorem normal_splitOn (normal : HostedApps.Normal path) (nonempty : path ≠ []) :
    path.splitOn '/' = parts path := by
  have segments : ∀ p ∈ parts path, '/' ∉ p := fun p mem => (Lib.Path.segment_of_mem mem).2.2
  have some_ : parts path ≠ [] := fun none => nonempty (normal.parts_eq_nil.mp none)
  have joined := List.splitOn_intercalate '/' segments some_
  have same : ['/'].intercalate (parts path) = path := normal
  rw [same] at joined
  exact joined

theorem safe_of_plain (normal : HostedApps.Normal path) (nonempty : path ≠ [])
    (climbs : "..".toList ∉ parts path) (plain : '%' ∉ path) (slashes : '\\' ∉ path)
    (nul : '\x00' ∉ path) (unreserved : ¬reservedRoot ++ ['/'] <+: path) :
    isSafeAppPath rt ('/' :: path) = true := by
  have unquoted : Lib.Percent.unquote rt.decodeReplacing ('/' :: path) = '/' :: path :=
    Lib.Percent.unquote_of_not_mem _ (by simp [plain])
  have segments : (('/' :: path).splitOn '/').drop 1 = parts path := by
    rw [List.splitOn_cons_eq_if_modifyHead, if_pos (by simp), List.drop_succ_cons, List.drop_zero,
      normal_splitOn normal nonempty]
  unfold isSafeAppPath
  dsimp only
  rw [unquoted, segments]
  simp only [Bool.and_eq_true, Bool.not_eq_true', List.all_eq_true, List.head?_cons]
  refine ⟨⟨⟨⟨by simp, ?_⟩, ?_⟩, ?_⟩, ?_⟩
  · simpa using slashes
  · simpa using nul
  · intro segment mem
    obtain ⟨full, named, _⟩ := Lib.Path.segment_of_mem mem
    have apart : segment ≠ "..".toList := fun same => climbs (same ▸ mem)
    simpa [full] using ⟨named, apart⟩
  · rw [decide_eq_false_iff_not]
    rintro ⟨rest, same⟩
    exact unreserved ⟨rest, (List.cons.inj same).2⟩

/-- The name of an asset that is one line, is none of the gateway's own, and is safe where it is
unquoted once more. -/
structure Servable (rt : AssetRuntime) (path : Text) : Prop where
  line : '\n' ∉ path
  free : ∀ fixed ∈ fixedPaths, fixed.toList ≠ '/' :: path
  safe : '%' ∈ path → isSafeAppPath rt ('/' :: path) = true

theorem withoutLastBreak_of_line (line : '\n' ∉ path) :
    withoutLastBreak path = path := by
  unfold withoutLastBreak
  rw [if_neg]
  intro last
  exact line (List.mem_of_getLast? last)

theorem route_own (servable : Servable rt path) (unreserved : ¬reservedRoot ++ ['/'] <+: path) :
    route "GET" ('/' :: path) = .asset path := by
  have line : '\n' ∉ '/' :: path := by simp [servable.line]
  have apart : isFixed ('/' :: path) = false := by
    unfold isFixed
    rw [Bool.or_eq_false_iff, List.any_eq_false, withoutLastBreak_of_line line]
    constructor
    · intro fixed mem
      simpa using servable.free fixed mem
    · unfold matchesSegment
      dsimp only
      rw [Bool.and_eq_false_iff, Bool.and_eq_false_iff, decide_eq_false_iff_not]
      refine Or.inl (Or.inl ?_)
      intro same
      apply unreserved
      have under : '/' :: (reservedRoot ++ ['/']) <+: "/__orcheo/runs/".toList := by decide
      have on : "/__orcheo/runs/".toList <+: '/' :: path := by
        rw [same, List.append_assoc]
        exact List.prefix_append _ _
      exact (List.cons_prefix_cons.mp (under.trans on)).2
  unfold route
  rw [if_pos rfl, apart]
  simp only [Bool.false_eq_true, if_false]
  have whole : catchAll ('/' :: path) = some path := by
    show (if '\n' ∈ withoutLastBreak path then none else some (withoutLastBreak path)) = _
    rw [withoutLastBreak_of_line servable.line, if_neg servable.line]
  rw [whole]

def Gateway.bundleStore (config : GatewayConfig) (g : Gateway) : Option BundleStore :=
  if config.backendUrl ≠ "" then
    (g.backend.filter (·.admits config.gatewaySecret)).map (·.bundles)
  else some g.root

theorem readDeploymentObject_ok {store : BundleStore} {deploymentId : Uuid}
    {content : Bytes} (reads : g.bundleStore config = some store)
    (opened : store.openDeploymentFile deploymentId path = .ok content) :
    g.readDeploymentObject config deploymentId (String.ofList path) = .ok (some content) := by
  unfold Gateway.bundleStore at reads
  unfold Gateway.readDeploymentObject
  rw [String.toList_ofList]
  split at reads
  next remote =>
    obtain ⟨backend, found, same⟩ := Option.map_eq_some_iff.mp reads
    obtain ⟨reachable, admitted⟩ := Option.filter_eq_some_iff.mp found
    rw [if_pos remote, reachable]
    dsimp only
    rw [if_pos admitted, same, opened]
  next isFile =>
    cases reads
    rw [if_neg isFile, opened]
    rfl

/-- The bundle was accepted, has no asset under the manifest's name, and was written out; JSON is
read back as it was written. -/
structure Deployed (rt : AssetRuntime) (limits : BundleValidationLimits) (infos : List ZipInfo)
    (manifest : BundleManifest) (store : BundleStore) (deploymentId : Uuid) : Prop where
  accepted : validateZip rt.bundles limits infos = .ok manifest
  apart : "__manifest__.json".toList ∉ manifest.files.keys
  written : ∃ digest, materialise rt.bundles store.backend infos manifest ∅ =
    (store.objects deploymentId, .ok digest)
  readBack : ∀ content, rt.bundles.dumpManifest manifest = .ok content →
    rt.loadsText content = some (.obj (manifestPayload manifest))

/-- The host resolves to an app that is not suspended and delivers the deployment, and whoever asks
for a private app has a session. -/
structure Selects (rt : AssetRuntime) (config : GatewayConfig) (g : Gateway) (r : AssetRequest)
    (deploymentId : Uuid) : Prop where
  resolved : ∃ host label descriptor,
    canonicalAppHost rt.toGatewayRuntime config r.hostHeader = some (host, label) ∧
    (g.resolveDescriptor rt config host label r.monotonic).2 = .ok (some descriptor) ∧
    isSuspended descriptor = false ∧ Gateway.deploymentOf rt descriptor = some deploymentId ∧
    (Json.field? descriptor "visibility" = some (.str "private") →
      (g.sessionAuthenticated rt config r.session host r.now).2 = true)

variable {store : BundleStore} {deploymentId : Uuid}

namespace Deployed

variable (deployed : Deployed rt limits infos manifest store deploymentId)

include deployed

theorem accepts : Accepted rt.bundles limits infos manifest :=
  HostedApps.validateZip_ok deployed.accepted

theorem free : manifestKey ∉ manifest.files.keys.map parts := by
  intro taken
  obtain ⟨path, stored, same⟩ := List.mem_map.mp taken
  have named := (deployed.accepts.normal stored).inj HostedApps.normal_manifest
    (same.trans HostedApps.parts_manifest.symm)
  exact deployed.apart (named ▸ stored)

theorem opens_manifest : ∃ content, store.openDeploymentFile deploymentId
    "__manifest__.json".toList = .ok content ∧
      rt.loadsText content = some (.obj (manifestPayload manifest)) := by
  obtain ⟨digest, written⟩ := deployed.written
  obtain ⟨extracted, assets, last⟩ := HostedApps.materialise_ok.mp written
  have nodup : ((∅ : HostedApps.Objects).keys ++ manifest.files.keys.map parts).Nodup :=
    deployed.accepts.keys_nodup
  have absent : manifestKey ∉ extracted.keys :=
    (HostedApps.writeAssets_extracted nodup assets).keys ▸ deployed.free
  obtain ⟨content, dumped, _, _, same, _⟩ := (HostedApps.writeManifest_ok_iff absent).mp last
  refine ⟨content, ?_, deployed.readBack content dumped⟩
  have safe : HostedApps.safeRelative "__manifest__.json".toList = .ok manifestKey := by decide
  simp only [BundleStore.openDeploymentFile, safe, same, Lib.bind_ok_iff]
  exact ⟨manifestKey, rfl, by rw [Dict.get?_set, if_pos rfl]⟩

theorem opens_asset {path : Text} (listed : path ∈ manifest.files.keys) :
    path ≠ [] ∧ ∃ info ∈ infos, ∃ content, assetPath limits info = some path ∧
      info.read = .ok content ∧ store.openDeploymentFile deploymentId path = .ok content := by
  obtain ⟨digest, written⟩ := deployed.written
  obtain ⟨extractable, _⟩ := (HostedApps.materialise_ok_iff deployed.accepts deployed.free).mp
    ⟨_, digest, written⟩
  obtain ⟨_, ⟨_, safe, _⟩⟩ := extractable path listed
  obtain ⟨info, content, found, read, kept⟩ :=
    HostedApps.materialise_stored deployed.accepts deployed.free written path listed
  obtain ⟨member, _, asset⟩ := deployed.accepts.found listed found
  refine ⟨?_, info, member, content, asset, read, ?_⟩
  · rintro rfl
    cases safe
  · simp only [BundleStore.openDeploymentFile, safe, Lib.bind_ok_iff]
    exact ⟨parts path, rfl, by rw [kept]⟩

end Deployed

theorem Deployed.delivers {descriptor : Payload}
    (deployed : Deployed rt limits infos manifest store deploymentId)
    (reads : g.bundleStore config = some store)
    (deployment : Gateway.deploymentOf rt descriptor = some deploymentId)
    (listed : path ∈ manifest.files.keys) (safe : isSafeAppPath rt ('/' :: path) = true) :
    ∃ info ∈ infos, ∃ content headers, assetPath limits info = some path ∧
      info.read = .ok content ∧ g.deliver rt config descriptor path =
        .ok (.asset deploymentId (String.ofList path) content headers) := by
  obtain ⟨nonempty, info, member, content, asset, read, opened⟩ := deployed.opens_asset listed
  obtain ⟨bytes, stored, loaded⟩ := deployed.opens_manifest
  obtain ⟨file, filed⟩ := (Dict.mem_keys_iff _ _).mp listed
  obtain ⟨headers, header⟩ := assetHeaders_manifestPayload manifest path (filePayload file)
  have manifestRead : g.readManifest rt config deploymentId = .ok (manifestPayload manifest) := by
    unfold Gateway.readManifest
    have name : "__manifest__.json" = String.ofList "__manifest__.json".toList := by
      rw [String.ofList_toList]
    rw [name, readDeploymentObject_ok reads stored]
    simp only [bind, Except.bind, loaded]
    rfl
  have found : Json.field? (manifest.files.entries.map
      (fun e => (String.ofList e.1, Json.obj (filePayload e.2)))) (String.ofList path) =
        some (.obj (filePayload file)) := by
    rw [field?_map (fun file => .obj (filePayload file))]
    exact congrArg (Option.map _) filed
  have requested : requestedAsset (.obj (manifest.files.entries.map
      (fun e => (String.ofList e.1, Json.obj (filePayload e.2))))) (String.ofList path) =
        .ok (String.ofList path) := by
    unfold requestedAsset contains?
    dsimp only
    rw [found]
    rfl
  refine ⟨info, member, content, headers, asset, read, ?_⟩
  unfold Gateway.deliver lookedUp
  rw [deployment, if_neg nonempty, safe]
  simp only [bind, Except.bind, manifestRead, files_manifestPayload, requested, found, header,
    readDeploymentObject_ok reads opened]
  rfl

theorem asset_reached {r : AssetRequest}
    (deployed : Deployed rt limits infos manifest store deploymentId)
    (reads : g.bundleStore config = some store) (selects : Selects rt config g r deploymentId)
    (listed : path ∈ manifest.files.keys) (servable : Servable rt path) (get : r.method = "GET")
    (own : r.path = '/' :: path) :
    ∃ info ∈ infos, ∃ content headers, assetPath limits info = some path ∧
      info.read = .ok content ∧ (g.answer rt config r).2 =
        some (.ok (.asset deploymentId (String.ofList path) content headers)) := by
  obtain ⟨info, member, asset⟩ := deployed.accepts.mem_keys_iff.mp listed
  have normalized := HostedApps.normalized_of_assetPath asset
  obtain ⟨nul, slashes, root, beneath⟩ :=
    HostedApps.normalizeMemberPath_plain (HostedApps.assetPath_eq_some.mp asset).1
  have safe : isSafeAppPath rt ('/' :: path) = true := by
    by_cases quoted : '%' ∈ path
    · exact servable.safe quoted
    · exact safe_of_plain normalized.normal (deployed.opens_asset listed).1
        (normalized.parts_eq ▸ normalized.climbs) quoted slashes nul beneath
  have unreserved : isReserved path = false := by
    unfold isReserved
    rw [Bool.or_eq_false_iff, beq_eq_false_iff_ne, decide_eq_false_iff_not]
    exact ⟨root, beneath⟩
  have notConfig : path ≠ "__orcheo/config".toList := by
    rintro rfl
    exact beneath (by decide)
  obtain ⟨host, label, descriptor, canonical, resolved, active, deployment, permitted⟩ :=
    selects.resolved
  obtain ⟨noted, backend⟩ := resolveDescriptor_noted rt config g host label r.monotonic
  obtain ⟨info, member, content, headers, asset, read, delivered⟩ :=
    deployed.delivers reads deployment listed safe
  refine ⟨info, member, content, headers, asset, read, ?_⟩
  unfold Gateway.answer
  rw [get, own, route_own servable beneath]
  dsimp only
  unfold Gateway.serveAsset
  rw [canonical]
  dsimp only
  rw [resolved]
  dsimp only
  unfold Gateway.serveResolved
  dsimp only
  rw [if_neg notConfig, unreserved, active]
  simp only [Bool.false_eq_true, if_false]
  split
  next isPrivate =>
    have authenticated := permitted isPrivate
    rw [← sessionAuthenticated_congr backend] at authenticated
    rw [if_pos authenticated]
    dsimp only
    rw [sessionAuthenticated_noted.deliver, noted.deliver, delivered]
  next => rw [noted.deliver, delivered]

/-- Only what is selected is served, in every run, and all of it is reached. -/
theorem gateway_serves (rt : AssetRuntime) (config : GatewayConfig) :
    (∀ turns, Always (Serving.step rt config) (Serving.Safe rt config) {} turns) ∧
    ∀ (limits : BundleValidationLimits) (infos : List ZipInfo) (manifest : BundleManifest)
      (g : Gateway) (store : BundleStore) (deploymentId : Uuid) (r : AssetRequest) (path : Text),
      Deployed rt limits infos manifest store deploymentId →
      g.bundleStore config = some store → Selects rt config g r deploymentId →
      path ∈ manifest.files.keys → Servable rt path → r.method = "GET" → r.path = '/' :: path →
      ∃ info ∈ infos, ∃ content headers, assetPath limits info = some path ∧
        info.read = .ok content ∧ (g.answer rt config r).2 =
          some (.ok (.asset deploymentId (String.ofList path) content headers)) :=
  ⟨fun turns => serving_safe turns, fun _ _ _ _ _ _ _ _ deployed reads selects listed servable get
    own => asset_reached deployed reads selects listed servable get own⟩

def quotedMembers : List ZipInfo :=
  [HostedApps.emptyMember "index.html", HostedApps.emptyMember "%5C"]

def quotedManifest : BundleManifest where
  files := Dict.ofList
    [("index.html".toList, ⟨0, HostedApps.emptySha256, "text/html; charset=utf-8"⟩),
      ("%5C".toList, ⟨0, HostedApps.emptySha256, "application/octet-stream"⟩)]
  htmlPolicy := Dict.ofList [("index.html".toList, [])]

def quotedRuntime : AssetRuntime where
  toGatewayRuntime := notesRuntime
  bundles := HostedApps.plainRuntime [] quotedMembers HostedApps.emptySha256
    "89ac6a2612f69e5d7287d3871a6cc0b3fe2bbcd70d23c043e10c25d51eb37d7f"
  decodeReplacing bytes := bytes.map fun b =>
    if b.toNat < 128 then Char.ofNat b.toNat else '\ufffd'
  loadsText _ := some (.obj (manifestPayload quotedManifest))

def quotedGateway : Gateway where
  descriptorFile :=
    [("notes", .obj [("state", .str "published"), ("deployment_id", .str "2")]),
      ("plans", .obj [("state", .str "suspended")])]
  root :=
    { backend := .filesystem
      deployments := Dict.ofList
        [(2, (materialise quotedRuntime.bundles .filesystem quotedMembers quotedManifest ∅).1)] }

def quotedRequest (host path : String) : AssetRequest :=
  { hostHeader := host, path := path.toList, now := 0, monotonic := 0 }

theorem quoted_unreached :
    (validateZip quotedRuntime.bundles {} quotedMembers).map (·.files) = .ok quotedManifest.files ∧
    (materialise quotedRuntime.bundles .filesystem quotedMembers quotedManifest ∅).2.isOk = true ∧
    "%5C".toList ∈ quotedManifest.files.keys ∧
    (quotedGateway.answer quotedRuntime {} (quotedRequest "notes.apps.localhost" "/%5C")).2 =
      some (.error ⟨400, "Unsafe app asset path."⟩) ∧
    (quotedGateway.answer quotedRuntime {}
      (quotedRequest "plans.apps.localhost" "/__orcheo/config")).2 =
        some (.ok (.config false (.str "public"))) := by
  refine ⟨by decide +kernel, by decide +kernel, by decide +kernel, by decide +kernel,
    by decide +kernel⟩

end Orcheo.AppGateway
