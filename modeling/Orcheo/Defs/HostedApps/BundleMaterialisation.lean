import Orcheo.Defs.HostedApps.BundleLaws

/-! When an accepted bundle can be stored: extraction asset by asset, the manifest after it, and
the deployment that is completed. -/

namespace Orcheo.HostedApps

open Lib (Dict bind_ok_iff pure_ok_iff)
open Lib.Path (Apart)

variable {rt : BundleRuntime} {limits : BundleValidationLimits} {backend : BundleBackend}
  {infos : List ZipInfo} {manifest : BundleManifest}

variable {objects objects' : Objects} {path : Text} {paths : List Text} {info : ZipInfo}
  {digest : String}

theorem writeObject_new {key : List Text} {content : Bytes} (absent : key ∉ objects.keys) :
    writeObject rt backend objects key content = .ok objects' ↔
      rt.keyFits key = true ∧ (backend = .filesystem → ∀ k ∈ objects.keys, Apart k key) ∧
        objects' = objects.set key content := by
  unfold writeObject
  by_cases fits : rt.keyFits key = true
  · rw [if_neg (by simp [fits])]
    cases backend with
    | filesystem =>
      dsimp only
      by_cases apart : ∀ k ∈ objects.keys, Apart k key
      · rw [if_pos apart, Except.ok.injEq]
        exact ⟨fun same => ⟨fits, fun _ => apart, same.symm⟩, fun h => h.2.2.symm⟩
      · rw [if_neg apart]
        simp [apart]
    | postgres =>
      dsimp only
      rw [(Dict.get?_eq_none_iff _ _).mpr absent]
      simp [fits, eq_comm]
    | s3 => simp [fits, eq_comm]
  · rw [if_pos (by simpa using fits)]
    simp [fits]

structure Extractable (rt : BundleRuntime) (infos : List ZipInfo) (path : Text)
    (content : Bytes) : Prop where
  found : ∃ info, getInfo infos path = .ok info ∧ info.read = .ok content
  key : safeRelative path = .ok (parts path)
  fits : rt.keyFits (parts path) = true

theorem safeRelative_ok {key : List Text} (h : safeRelative path = .ok key) :
    key = parts path := by
  rw [safeRelative] at h
  split at h
  · cases h
  · exact (Except.ok.inj h).symm

theorem writeAsset_new (absent : parts path ∉ objects.keys) :
    writeAsset rt backend infos objects path = .ok objects' ↔
      ∃ content, Extractable rt infos path content ∧
        (backend = .filesystem → ∀ k ∈ objects.keys, Apart k (parts path)) ∧
          objects' = objects.set (parts path) content := by
  simp only [writeAsset, bind_ok_iff]
  constructor
  · rintro ⟨info, found, key, safe, content, read, written⟩
    cases safeRelative_ok safe
    obtain ⟨fits, apart, written⟩ := (writeObject_new absent).mp written
    exact ⟨content, ⟨⟨info, found, read⟩, safe, fits⟩, apart, written⟩
  · rintro ⟨content, ⟨⟨info, found, read⟩, safe, fits⟩, apart, written⟩
    exact ⟨info, found, parts path, safe, content, read,
      (writeObject_new absent).mpr ⟨fits, apart, written⟩⟩

structure Extracted (infos : List ZipInfo) (paths : List Text) (objects objects' : Objects) :
    Prop where
  keys : objects'.keys = objects.keys ++ paths.map parts
  stored : ∀ path ∈ paths, ∃ info content, getInfo infos path = .ok info ∧
    info.read = .ok content ∧ objects'.get? (parts path) = some content
  kept : ∀ key ∈ objects.keys, objects'.get? key = objects.get? key

theorem Extracted.nil (objects : Objects) : Extracted infos [] objects objects :=
  ⟨by simp, nofun, fun _ _ => rfl⟩

theorem Extracted.cons {content : Bytes} (absent : parts path ∉ objects.keys)
    (asset : Extractable rt infos path content)
    (rest : Extracted infos paths (objects.set (parts path) content) objects') :
    Extracted infos (path :: paths) objects objects' := by
  have keys : (objects.set (parts path) content).keys = objects.keys ++ [parts path] :=
    Dict.keys_set_of_not_mem absent
  refine ⟨?_, ?_, ?_⟩
  · rw [rest.keys, keys, List.append_assoc]
    rfl
  · intro path' member
    cases List.mem_cons.mp member with
    | inl first =>
      obtain ⟨info, found, read⟩ := asset.found
      have kept := rest.kept (parts path) (by rw [keys]; simp)
      exact ⟨info, content, first ▸ found, read, by rw [first, kept]; simp⟩
    | inr later => exact rest.stored path' later
  · intro key old
    rw [rest.kept key (by rw [keys]; exact List.mem_append_left _ old), Dict.get?_set,
      if_neg fun same : key = parts path => absent (same ▸ old)]

theorem writeAssets_ok_iff (nodup : (objects.keys ++ paths.map parts).Nodup)
    (tree : backend = .filesystem → objects.keys.Pairwise Apart) :
    (∃ objects', writeAssets rt backend infos paths objects = (objects', .ok ())) ↔
      (∀ path ∈ paths, ∃ content, Extractable rt infos path content) ∧
        (backend = .filesystem → (objects.keys ++ paths.map parts).Pairwise Apart) := by
  induction paths generalizing objects with
  | nil => simpa [writeAssets] using tree
  | cons path paths ih =>
    have absent : parts path ∉ objects.keys := fun old =>
      (List.nodup_append.mp nodup).2.2 _ old _ (List.mem_map_of_mem List.mem_cons_self) rfl
    have regroup : ∀ content, (objects.set (parts path) content).keys ++ paths.map parts =
        objects.keys ++ (path :: paths).map parts := by
      intro content
      rw [Dict.keys_set_of_not_mem absent, List.append_assoc]
      rfl
    simp only [writeAssets]
    cases written : writeAsset rt backend infos objects path with
    | error e =>
      have refused : ¬∃ objects', writeAsset rt backend infos objects path = .ok objects' := by
        simp [written]
      constructor
      · rintro ⟨_, failed⟩
        cases failed
      · rintro ⟨assets, apart⟩
        obtain ⟨content, asset⟩ := assets path List.mem_cons_self
        refine absurd ⟨_, (writeAsset_new absent).mpr ⟨content, asset, ?_, rfl⟩⟩ refused
        intro fs k old
        exact (List.pairwise_append.mp (apart fs)).2.2 k old _
          (List.mem_map_of_mem List.mem_cons_self)
    | ok objects₁ =>
      obtain ⟨content, asset, apart, rfl⟩ := (writeAsset_new absent).mp written
      dsimp only
      rw [ih (by rwa [regroup])]
      · rw [regroup]
        simp only [List.forall_mem_cons]
        exact ⟨fun h => ⟨⟨⟨content, asset⟩, h.1⟩, h.2⟩, fun h => ⟨h.1.2, h.2⟩⟩
      · intro fs
        rw [Dict.keys_set_of_not_mem absent, List.pairwise_append]
        refine ⟨tree fs, List.pairwise_singleton _ _, ?_⟩
        intro k old l last
        rw [List.mem_singleton.mp last]
        exact apart fs k old

theorem writeAssets_extracted (nodup : (objects.keys ++ paths.map parts).Nodup)
    (h : writeAssets rt backend infos paths objects = (objects', .ok ())) :
    Extracted infos paths objects objects' := by
  induction paths generalizing objects with
  | nil =>
    cases h
    exact .nil _
  | cons path paths ih =>
    have absent : parts path ∉ objects.keys := fun old =>
      (List.nodup_append.mp nodup).2.2 _ old _ (List.mem_map_of_mem List.mem_cons_self) rfl
    rw [writeAssets] at h
    split at h
    · cases h
    · rename_i written
      obtain ⟨content, asset, _, rfl⟩ := (writeAsset_new absent).mp written
      refine .cons absent asset (ih ?_ h)
      rw [Dict.keys_set_of_not_mem absent, List.append_assoc]
      exact nodup

theorem getInfo_ok {name : Text} (h : getInfo infos name = .ok info) :
    info ∈ infos ∧ info.filename = name := by
  rw [getInfo] at h
  split at h
  · cases h
  · rename_i found
    cases h
    exact ⟨List.mem_reverse.mp (List.mem_of_find?_eq_some found),
      by simpa using List.find?_some found⟩

theorem getInfo_of_mem (h : info ∈ infos) :
    ∃ info', getInfo infos info.filename = .ok info' := by
  rw [getInfo]
  split
  · rename_i missing
    exact absurd (List.find?_eq_none.mp missing info (List.mem_reverse.mpr h)) (by simp)
  · exact ⟨_, rfl⟩

namespace Accepted

variable (accepted : Accepted rt limits infos manifest)

include accepted

variable {path : Text} {info : ZipInfo}

theorem mem_keys_iff :
    path ∈ manifest.files.keys ↔ ∃ info ∈ infos, assetPath limits info = some path := by
  rw [accepted.keys, List.mem_filterMap]

theorem normalized (stored : path ∈ manifest.files.keys) :
    ∃ filename, Normalized filename path := by
  obtain ⟨info, _, asset⟩ := accepted.mem_keys_iff.mp stored
  exact ⟨info.filename, normalized_of_assetPath asset⟩

theorem normal (stored : path ∈ manifest.files.keys) : Normal path := by
  obtain ⟨_, normalized⟩ := accepted.normalized stored
  exact normalized.normal

theorem keys_nodup : (manifest.files.keys.map parts).Nodup :=
  List.Nodup.map_on (fun _ h _ h' => (accepted.normal h).inj (accepted.normal h'))
    manifest.files.nodup

theorem unique {info' : ZipInfo} (member : info ∈ infos) (member' : info' ∈ infos)
    (asset : assetPath limits info = some path) (asset' : assetPath limits info' = some path) :
    info = info' := by
  have nodup : (infos.filterMap (assetPath limits)).Nodup := accepted.keys ▸ manifest.files.nodup
  rw [List.Nodup, List.pairwise_filterMap] at nodup
  have forward : infos.Pairwise fun x y => ∀ p, assetPath limits x = some p →
      assetPath limits y = some p → x = y :=
    nodup.imp fun differ p hx hy => absurd rfl (differ p hx p hy)
  have backward : infos.Pairwise fun x y => ∀ p, assetPath limits y = some p →
      assetPath limits x = some p → y = x :=
    nodup.imp fun differ p hy hx => absurd rfl (differ p hx p hy)
  exact forward.forall_of_forall_of_flip (fun _ _ _ _ _ => rfl) backward member member' path
    asset asset'

theorem found (stored : path ∈ manifest.files.keys) (h : getInfo infos path = .ok info) :
    info ∈ infos ∧ info.filename = path ∧ assetPath limits info = some path := by
  obtain ⟨member, name⟩ := getInfo_ok h
  obtain ⟨filename, normalized⟩ := accepted.normalized stored
  refine ⟨member, name, ?_⟩
  obtain ⟨_, _, asset⟩ := accepted.mem_keys_iff.mp stored
  obtain ⟨read, normalizes⟩ := accepted.named info member
  cases read with
  | none =>
    exact absurd (name ▸ normalizeMemberPath_none normalizes) normalized.not_directory
  | some again =>
    have same : again = path := by
      rw [(normalizeMemberPath_ok normalizes).eq, name]
      exact normalized.normal
    exact assetPath_eq_some.mpr ⟨same ▸ normalizes, (assetPath_eq_some.mp asset).2⟩

theorem extractable_iff (member : info ∈ infos) (asset : assetPath limits info = some path) :
    (∃ content, Extractable rt infos path content) ↔
      info.filename = path ∧ path ≠ [] ∧ rt.keyFits (parts path) = true := by
  have stored := accepted.mem_keys_iff.mpr ⟨info, member, asset⟩
  have normalized := normalized_of_assetPath asset
  constructor
  · rintro ⟨content, ⟨info', found, _⟩, key, fits⟩
    obtain ⟨member', name, asset'⟩ := accepted.found stored found
    exact ⟨accepted.unique member' member asset' asset ▸ name,
      (normalized.safeRelative_iff.mp key).1, fits⟩
  · rintro ⟨name, nonempty, fits⟩
    obtain ⟨info', found⟩ := getInfo_of_mem member
    rw [name] at found
    obtain ⟨member', _, asset'⟩ := accepted.found stored found
    obtain ⟨content, read, _⟩ := accepted.entry info' member' path asset'
    exact ⟨content, ⟨info', found, read⟩, normalized.safeRelative_iff.mpr ⟨nonempty, rfl⟩, fits⟩

end Accepted

theorem writeManifest_ok_iff (absent : manifestKey ∉ objects.keys) :
    writeManifest rt backend manifest objects = .ok (objects', digest) ↔
      ∃ content, rt.dumpManifest manifest = .ok content ∧ rt.keyFits manifestKey = true ∧
        (backend = .filesystem → ∀ k ∈ objects.keys, Apart k manifestKey) ∧
          objects' = objects.set manifestKey content ∧ digest = rt.sha256 content := by
  simp only [writeManifest, bind_ok_iff, writeObject_new absent, pure_ok_iff, Prod.mk.injEq]
  constructor
  · rintro ⟨content, dumped, written, ⟨fits, apart, rfl⟩, rfl, rfl⟩
    exact ⟨content, dumped, fits, apart, rfl, rfl⟩
  · rintro ⟨content, dumped, fits, apart, rfl, rfl⟩
    exact ⟨content, dumped, _, ⟨fits, apart, rfl⟩, rfl, rfl⟩

theorem materialise_ok :
    materialise rt backend infos manifest objects = (objects', .ok digest) ↔
      ∃ extracted, writeAssets rt backend infos manifest.files.keys objects =
        (extracted, .ok ()) ∧
          writeManifest rt backend manifest extracted = .ok (objects', digest) := by
  unfold materialise
  rcases writeAssets rt backend infos manifest.files.keys objects with ⟨extracted, _ | ⟨⟨⟩⟩⟩
  · simp
  · dsimp only
    cases written : writeManifest rt backend manifest extracted with
    | error e => simp [written]
    | ok result =>
      obtain ⟨objects₁, digest₁⟩ := result
      simp [written]

theorem materialise_ok_iff (accepted : Accepted rt limits infos manifest)
    (free : manifestKey ∉ manifest.files.keys.map parts) :
    (∃ objects digest, materialise rt backend infos manifest ∅ = (objects, .ok digest)) ↔
      (∀ path ∈ manifest.files.keys, ∃ content, Extractable rt infos path content) ∧
        (backend = .filesystem →
          (manifest.files.keys.map parts ++ [manifestKey]).Pairwise Apart) ∧
        rt.keyFits manifestKey = true ∧ ∃ content, rt.dumpManifest manifest = .ok content := by
  have nodup : ((∅ : Objects).keys ++ manifest.files.keys.map parts).Nodup := accepted.keys_nodup
  have written :
      (∃ objects, writeAssets rt backend infos manifest.files.keys ∅ = (objects, .ok ())) ↔ _ :=
    writeAssets_ok_iff nodup fun _ => List.Pairwise.nil
  have keys : ∀ {extracted : Objects},
      writeAssets rt backend infos manifest.files.keys ∅ = (extracted, .ok ()) →
        extracted.keys = manifest.files.keys.map parts := fun h =>
    (writeAssets_extracted nodup h).keys
  simp only [materialise_ok]
  constructor
  · rintro ⟨objects, digest, extracted, assets, last⟩
    obtain ⟨extractable, apart⟩ := written.mp ⟨_, assets⟩
    rw [← keys assets] at free
    obtain ⟨content, dumped, fits, below, _, _⟩ := (writeManifest_ok_iff free).mp last
    refine ⟨extractable, fun fs => ?_, fits, content, dumped⟩
    rw [List.pairwise_append]
    refine ⟨apart fs, List.pairwise_singleton _ _, fun k old l last => ?_⟩
    rw [List.mem_singleton.mp last]
    exact below fs k (keys assets ▸ old)
  · rintro ⟨extractable, apart, fits, content, dumped⟩
    obtain ⟨extracted, assets⟩ := written.mpr
      ⟨extractable, fun fs => (List.pairwise_append.mp (apart fs)).1⟩
    rw [← keys assets] at free
    refine ⟨_, _, extracted, assets, (writeManifest_ok_iff free).mpr
      ⟨content, dumped, fits, fun fs k old => ?_, rfl, rfl⟩⟩
    exact (List.pairwise_append.mp (apart fs)).2.2 k (keys assets ▸ old) _
      (List.mem_singleton.mpr rfl)

theorem materialise_stored (accepted : Accepted rt limits infos manifest)
    (free : manifestKey ∉ manifest.files.keys.map parts)
    (h : materialise rt backend infos manifest ∅ = (objects, .ok digest)) :
    ∀ path ∈ manifest.files.keys, ∃ info content, getInfo infos path = .ok info ∧
      info.read = .ok content ∧ objects.get? (parts path) = some content := by
  have nodup : ((∅ : Objects).keys ++ manifest.files.keys.map parts).Nodup := accepted.keys_nodup
  obtain ⟨extracted, assets, last⟩ := materialise_ok.mp h
  have all := writeAssets_extracted nodup assets
  have absent : manifestKey ∉ extracted.keys := all.keys ▸ free
  obtain ⟨_, _, _, _, rfl, _⟩ := (writeManifest_ok_iff absent).mp last
  intro path stored
  obtain ⟨info, content, found, read, kept⟩ := all.stored path stored
  have other : parts path ≠ manifestKey := fun same =>
    free (same ▸ List.mem_map_of_mem stored)
  exact ⟨info, content, found, read, by rw [Dict.get?_set, if_neg other, kept]⟩

namespace DeploymentService

variable {service : DeploymentService} {upload : AppUpload} {deployment : DeploymentCandidate}
  {now finished : Instant}

theorem fail_ne_ok {error : BundleError} (candidate : DeploymentCandidate) :
    (service.fail finished upload deployment error).2 ≠ .ok candidate := by
  rw [fail]
  repeat' split
  all_goals simp

theorem openDeploymentFile_setObjects {deploymentId : Uuid} {objects : Objects} {path : Text}
    {content : Bytes} (safe : safeRelative path = .ok (parts path))
    (stored : objects.get? (parts path) = some content) :
    (service.setObjects deploymentId objects).store.openDeploymentFile deploymentId path =
      .ok content := by
  have kept : (service.setObjects deploymentId objects).store.objects deploymentId = objects := by
    simp [BundleStore.objects, setObjects]
  simp only [BundleStore.openDeploymentFile, safe, kept, bind_ok_iff]
  exact ⟨parts path, rfl, by rw [stored]⟩

/-- What `complete` relies on before it writes: the archive is the announced one, it has been
accepted, and nothing is stored for the deployment yet. -/
structure Verified (rt : BundleRuntime) (service : DeploymentService) (upload : AppUpload)
    (deployment : DeploymentCandidate) (archive : Bytes) (infos : List ZipInfo)
    (manifest : BundleManifest) : Prop where
  verified : service.verify rt upload = .ok (archive, infos, manifest)
  fresh : service.store.objects deployment.id = ∅

variable {archive : Bytes}
  (verified : Verified rt service upload deployment archive infos manifest)

include verified

theorem Verified.completePending_of_ok {objects : Objects} {digest : String}
    (h : materialise rt service.store.backend infos manifest ∅ = (objects, .ok digest)) :
    service.completePending rt finished upload deployment =
      (service.setObjects deployment.id objects).finish rt finished upload deployment archive
        manifest digest := by
  rw [completePending, verified.verified]
  dsimp only
  rw [verified.fresh, h]

theorem Verified.completePending_ok_iff :
    (∃ candidate, (service.completePending rt finished upload deployment).2 = .ok candidate) ↔
      ∃ objects digest, materialise rt service.store.backend infos manifest ∅ =
        (objects, .ok digest) := by
  constructor
  · rintro ⟨candidate, completed⟩
    rw [completePending, verified.verified] at completed
    dsimp only at completed
    rw [verified.fresh] at completed
    rcases result : materialise rt service.store.backend infos manifest ∅ with
      ⟨objects, e | digest⟩
    · rw [result] at completed
      exact absurd completed (fail_ne_ok candidate)
    · exact ⟨objects, digest, rfl⟩
  · rintro ⟨objects, digest, h⟩
    rw [verified.completePending_of_ok h]
    exact ⟨_, rfl⟩

end DeploymentService

/-- The deployment is completed, every asset is stored with the bytes that the manifest records
of its member, and no key is another's or leads to another's. -/
structure Materialised (rt : BundleRuntime) (limits : BundleValidationLimits)
    (infos : List ZipInfo) (manifest : BundleManifest) (deploymentId : Uuid)
    (outcome : DeploymentService × Except BundleError DeploymentCandidate) : Prop where
  completes : ∃ deployment, outcome.2 = .ok deployment ∧ deployment.id = deploymentId ∧
    deployment.status = .ready
  stored : ∀ path file, manifest.files.get? path = some file → ∃ info ∈ infos, ∃ content,
    assetPath limits info = some path ∧ info.read = .ok content ∧
      file.sha256 = rt.sha256 content ∧ file.sizeBytes = content.length ∧
        outcome.1.store.openDeploymentFile deploymentId path = .ok content
  assetKeys : ∀ path ∈ manifest.files.keys, ∀ path' ∈ manifest.files.keys,
    parts path = parts path' → path = path'
  manifestApart : ∀ path ∈ manifest.files.keys, parts path ≠ manifestKey
  prefixFree : ∀ path ∈ manifest.files.keys, ∀ path' ∈ manifest.files.keys,
    parts path <+: parts path' → path = path'

/-- The members that become assets have normal names, apart from each other and from the
manifest, which fit the store; and the manifest can be written out. -/
structure Storable (rt : BundleRuntime) (limits : BundleValidationLimits)
    (backend : BundleBackend) (infos : List ZipInfo) (manifest : BundleManifest) : Prop where
  named : ∀ info ∈ infos, ∀ path, assetPath limits info = some path →
    info.filename = path ∧ path ≠ [] ∧ rt.keyFits (parts path) = true
  reserved : ∀ info ∈ infos, ∀ path, assetPath limits info = some path →
    path ≠ "__manifest__.json".toList
  prefixFree : ∀ info ∈ infos, ∀ info' ∈ infos, ∀ path path',
    assetPath limits info = some path → assetPath limits info' = some path' →
      parts path <+: parts path' → path = path'
  beneath : backend = .filesystem → ∀ info ∈ infos, ∀ path, assetPath limits info = some path →
    ¬manifestKey <+: parts path
  manifestFits : rt.keyFits manifestKey = true
  encodes : ∃ content, rt.dumpManifest manifest = .ok content

theorem parts_manifest : parts "__manifest__.json".toList = manifestKey := by decide

theorem normal_manifest : Normal "__manifest__.json".toList := by
  unfold Normal
  rw [parts_manifest]
  decide

section

variable {service : DeploymentService} {upload : AppUpload} {deployment : DeploymentCandidate}
  {archive : Bytes} {finished : Instant}

theorem prefix_manifestKey {key : List Text} (h : key <+: manifestKey) :
    key = [] ∨ key = manifestKey := by
  cases key with
  | nil => exact .inl rfl
  | cons first rest =>
    obtain ⟨same, none⟩ := List.cons_prefix_cons.mp h
    rw [List.prefix_nil.mp none, same]
    exact .inr rfl

theorem pairwise_apart (prefixFree : ∀ path ∈ manifest.files.keys, ∀ path' ∈ manifest.files.keys,
      parts path <+: parts path' → path = path') :
    (manifest.files.keys.map parts).Pairwise Apart := by
  rw [List.pairwise_map]
  refine List.Pairwise.imp_of_mem ?_ manifest.files.nodup
  intro path path' stored stored' _ on
  cases on with
  | inl down => rw [prefixFree path stored path' stored' down]
  | inr up => rw [prefixFree path' stored' path stored up]

theorem Storable.materialised (accepted : Accepted rt limits infos manifest)
    (verified : service.Verified rt upload deployment archive infos manifest)
    (h : Storable rt limits service.store.backend infos manifest) :
    Materialised rt limits infos manifest deployment.id
      (service.completePending rt finished upload deployment) := by
  have named : ∀ path ∈ manifest.files.keys, ∃ info ∈ infos, assetPath limits info = some path :=
    fun path stored => accepted.mem_keys_iff.mp stored
  have reserved : ∀ path ∈ manifest.files.keys, parts path ≠ manifestKey := by
    intro path stored same
    obtain ⟨info, member, asset⟩ := named path stored
    exact h.reserved info member path asset
      ((accepted.normal stored).inj normal_manifest (same.trans parts_manifest.symm))
  have free : manifestKey ∉ manifest.files.keys.map parts := by
    intro taken
    obtain ⟨path, stored, same⟩ := List.mem_map.mp taken
    exact reserved path stored same
  have prefixFree : ∀ path ∈ manifest.files.keys, ∀ path' ∈ manifest.files.keys,
      parts path <+: parts path' → path = path' := by
    intro path stored path' stored' down
    obtain ⟨info, member, asset⟩ := named path stored
    obtain ⟨info', member', asset'⟩ := named path' stored'
    exact h.prefixFree info member info' member' path path' asset asset' down
  have apart : service.store.backend = .filesystem →
      (manifest.files.keys.map parts ++ [manifestKey]).Pairwise Apart := by
    intro fs
    rw [List.pairwise_append]
    refine ⟨pairwise_apart prefixFree, List.pairwise_singleton _ _, ?_⟩
    intro key old last same on
    cases List.mem_singleton.mp same
    obtain ⟨path, stored, rfl⟩ := List.mem_map.mp old
    obtain ⟨info, member, asset⟩ := named path stored
    cases on with
    | inl down =>
      cases prefix_manifestKey down with
      | inl empty =>
        exact absurd ((accepted.normal stored).parts_eq_nil.mp empty)
          (h.named info member path asset).2.1
      | inr same => exact same
    | inr up => exact absurd up (h.beneath fs info member path asset)
  obtain ⟨objects, digest, written⟩ := (materialise_ok_iff accepted free).mpr
    ⟨fun path stored => by
      obtain ⟨info, member, asset⟩ := named path stored
      exact (accepted.extractable_iff member asset).mpr (h.named info member path asset),
    apart, h.manifestFits, h.encodes⟩
  rw [verified.completePending_of_ok written]
  refine ⟨⟨_, rfl, rfl, rfl⟩, ?_, ?_, reserved, prefixFree⟩
  · intro path file filed
    have stored : path ∈ manifest.files.keys := (Dict.mem_keys_iff _ _).mpr ⟨file, filed⟩
    obtain ⟨info, content, found, read, kept⟩ :=
      materialise_stored accepted free written path stored
    obtain ⟨member, name, asset⟩ := accepted.found stored found
    obtain ⟨content', read', filed'⟩ := accepted.entry info member path asset
    cases Except.ok.inj (read.symm.trans read')
    cases Option.some.inj (filed.symm.trans filed')
    refine ⟨info, member, content, asset, read, rfl, rfl, ?_⟩
    have safe : safeRelative path = .ok (parts path) :=
      (normalized_of_assetPath asset).safeRelative_iff.mpr
        ⟨(h.named info member path asset).2.1, rfl⟩
    exact DeploymentService.openDeploymentFile_setObjects safe kept
  · exact fun path stored path' stored' same =>
      (accepted.normal stored).inj (accepted.normal stored') same

theorem Materialised.storable (accepted : Accepted rt limits infos manifest)
    (verified : service.Verified rt upload deployment archive infos manifest)
    (h : Materialised rt limits infos manifest deployment.id
      (service.completePending rt finished upload deployment)) :
    Storable rt limits service.store.backend infos manifest := by
  have stored : ∀ info ∈ infos, ∀ path, assetPath limits info = some path →
      path ∈ manifest.files.keys := fun info member path asset =>
    accepted.mem_keys_iff.mpr ⟨info, member, asset⟩
  have free : manifestKey ∉ manifest.files.keys.map parts := by
    intro taken
    obtain ⟨path, taken, same⟩ := List.mem_map.mp taken
    exact h.manifestApart path taken same
  obtain ⟨candidate, completed, _⟩ := h.completes
  obtain ⟨extractable, apart, fits, encodes⟩ := (materialise_ok_iff accepted free).mp
    (verified.completePending_ok_iff.mp ⟨candidate, completed⟩)
  refine ⟨?_, ?_, ?_, ?_, fits, encodes⟩
  · intro info member path asset
    exact (accepted.extractable_iff member asset).mp
      (extractable path (stored info member path asset))
  · rintro info member path asset rfl
    exact h.manifestApart _ (stored info member _ asset) parts_manifest
  · intro info member info' member' path path' asset asset' down
    exact h.prefixFree path (stored info member path asset) path'
      (stored info' member' path' asset') down
  · intro fs info member path asset up
    have taken := stored info member path asset
    exact h.manifestApart path taken ((List.pairwise_append.mp (apart fs)).2.2 _
      (List.mem_map_of_mem taken) _ (List.mem_singleton.mpr rfl) (.inr up))

end

namespace DeploymentService

variable {service service₁ service₂ : DeploymentService} {request : UploadRequest}
  {started staged now finished : Instant} {archive : Bytes} {upload : AppUpload}

theorem ensurePending_ok (pending : upload.status = .pending)
    (uncompleted : upload.completedAt = none) (inTime : now < upload.expiresAt) :
    upload.ensurePending now = .ok () := by
  rw [AppUpload.ensurePending, if_neg (by simp [pending, uncompleted]), if_neg (not_le.mpr inTime)]

theorem writeStaged_ok {store store' : BundleStore} {uploadId : Uuid}
    (h : store.writeStaged uploadId archive = .ok store') :
    store'.staged.get? uploadId = some archive ∧ store'.deployments = store.deployments ∧
      store'.backend = store.backend := by
  rw [BundleStore.writeStaged] at h
  split at h
  · rename_i kept
    split at h
    · rename_i same
      cases h
      exact ⟨same ▸ kept, rfl, rfl⟩
    · cases h
  · cases h
    exact ⟨by simp, rfl, rfl⟩

theorem initiate_ok (h : service.initiate started request = .ok service₁) :
    service₁ = { service with
      uploads := service.uploads.set request.uploadId (uploadOf request started)
      deployments := service.deployments.set request.deploymentId (deploymentOf request) } := by
  rw [initiate] at h
  split at h
  · cases h
  · split at h
    · cases h
    · exact (Except.ok.inj h).symm

theorem stage_ok {uploadId : Uuid} (h : service.stage staged uploadId archive =
    (service₁, .ok upload)) :
    ∃ pending store, service.uploads.get? uploadId = some pending ∧
      service.store.writeStaged pending.id archive = .ok store ∧
        upload = { pending with stagingKey := .staging pending.id } ∧
          service₁ = { service with store := store }.setUpload upload := by
  rw [stage, getUpload] at h
  cases known : service.uploads.get? uploadId with
  | none =>
    rw [known] at h
    cases h
  | some pending =>
    rw [known] at h
    dsimp only at h
    split at h
    · cases h
    · split at h
      · cases h
      · rename_i store written
        cases h
        exact ⟨pending, store, rfl, written, rfl, rfl⟩

section

variable (initiated : service.initiate started request = .ok service₁)
  (staging : service₁.stage staged request.uploadId archive = (service₂, .ok upload))
include initiated staging

theorem complete_staged (inTime : now < started + seconds 3600) :
    service₂.complete rt now finished request.uploadId =
      service₂.completePending rt finished upload (deploymentOf request) := by
  cases initiate_ok initiated
  obtain ⟨pending, store, known, written, rfl, rfl⟩ := stage_ok staging
  have same : pending = uploadOf request started := by simpa using known.symm
  subst same
  have pending : AppUpload.ensurePending { uploadOf request started with
      stagingKey := .staging (uploadOf request started).id } now = .ok () :=
    ensurePending_ok rfl rfl inTime
  rw [complete, getUpload]
  simp only [setUpload, uploadOf, Dict.get?_set, if_true]
  simp only [uploadOf] at pending
  rw [pending]

theorem verified_staged (fresh : service.store.deployments.get? request.deploymentId = none)
    (size : request.expectedSizeBytes = archive.length)
    (digest : checksumMatches request.expectedSha256 (rt.sha256 archive) = true)
    (opened : rt.openZip archive = .ok infos)
    (accepted : validateBundle rt service.limits archive = .ok manifest) :
    Verified rt service₂ upload (deploymentOf request) archive infos manifest := by
  cases initiate_ok initiated
  obtain ⟨pending, store, known, written, rfl, rfl⟩ := stage_ok staging
  have same : pending = uploadOf request started := by simpa using known.symm
  subst same
  obtain ⟨kept, others, _⟩ := writeStaged_ok written
  constructor
  · have read : store.openStaged (.staging (uploadOf request started).id) = .ok archive := by
      rw [BundleStore.openStaged, kept]
    have sized : ¬archive.length ≠ request.expectedSizeBytes := fun other => other size.symm
    simp only [verify, setUpload, read, bind_ok_iff, rejectIf_ok, pure_ok_iff]
    exact ⟨archive, rfl, (), sized, (), by simpa [uploadOf] using digest, manifest, accepted,
      infos, opened, rfl⟩
  · show (store.deployments.get? request.deploymentId).getD ∅ = ∅
    rw [others]
    exact (congrArg (·.getD ∅) fresh).trans rfl

theorem backend_staged :
    service₂.store.backend = service.store.backend := by
  cases initiate_ok initiated
  obtain ⟨_, _, _, written, rfl, rfl⟩ := stage_ok staging
  exact (writeStaged_ok written).2.2

end

end DeploymentService

/-- An upload that is initiated under a new identifier, staged and completed in time, with an
archive that the validation accepts: the deployment is completed and its store holds every asset
under a key of its own exactly if the bundle is storable. -/
theorem bundle_materialised {service service₁ service₂ : DeploymentService}
    {request : UploadRequest} {started staged now finished : Instant} {archive : Bytes}
    {upload : AppUpload} (initiated : service.initiate started request = .ok service₁)
    (staging : service₁.stage staged request.uploadId archive = (service₂, .ok upload))
    (inTime : now < started + seconds 3600)
    (fresh : service.store.deployments.get? request.deploymentId = none)
    (size : request.expectedSizeBytes = archive.length)
    (digest : checksumMatches request.expectedSha256 (rt.sha256 archive) = true)
    (opened : rt.openZip archive = .ok infos)
    (accepted : validateBundle rt service.limits archive = .ok manifest) :
    Materialised rt service.limits infos manifest request.deploymentId
        (service₂.complete rt now finished request.uploadId) ↔
      Storable rt service.limits service.store.backend infos manifest := by
  have verified := DeploymentService.verified_staged initiated staging fresh size digest opened
    accepted
  have bundle := validateBundle_ok opened accepted
  rw [DeploymentService.complete_staged initiated staging inTime,
    ← DeploymentService.backend_staged initiated staging]
  constructor
  · exact Materialised.storable bundle verified
  · exact Storable.materialised bundle verified

def emptySha256 : String := "e3b0c44298fc1c149afbf4c8996fb92427ae41e4649b934ca495991b7852b855"

def plainJson (manifest : BundleManifest) : String :=
  let file (entry : Text × BundleFile) : String :=
    "\"" ++ String.ofList entry.1 ++ "\":\x7b\"size_bytes\":" ++ toString entry.2.sizeBytes ++
      ",\"sha256\":\"" ++ entry.2.sha256 ++ "\",\"content_type\":\"" ++
      entry.2.contentType ++ "\"\x7d"
  let policy (entry : Text × List String) : String :=
    "\"" ++ String.ofList entry.1 ++ "\":\x7b\"inline_script_hashes\":[]\x7d"
  "\x7b\"version\":1,\"index\":\"index.html\",\"files\":\x7b" ++
    ",".intercalate (manifest.files.entries.map file) ++ "\x7d,\"html_policy\":\x7b" ++
    ",".intercalate (manifest.htmlPolicy.entries.map policy) ++ "\x7d\x7d"

def plainRuntime (archive : Bytes) (infos : List ZipInfo) (archiveSha256 jsonSha256 : String) :
    BundleRuntime where
  lower := id
  casefold := id
  normalizeNfc := id
  strip := id
  repr path := "'" ++ String.ofList path ++ "'"
  encode text := text.map fun c => UInt8.ofNat c.toNat
  decodeUtf8 content := some (content.map fun b => Char.ofNat b.toNat)
  sha256 content := if content = [] then emptySha256
    else if content = archive then archiveSha256 else jsonSha256
  sha256Base64 _ := "47DEQpj8HBSa+/TImW+5JCeuQeRkm5NMpJWZG3hSuFU="
  guessType _ := none
  openZip content := if content = archive then .ok infos else .error .badZipFile
  htmlEvents _ := []
  loadAppManifest _ := none
  dumpManifest manifest := .ok ((plainJson manifest).toList.map fun c => UInt8.ofNat c.toNat)
  keyFits key := key.all fun segment => decide (segment.length ≤ 255)

def emptyMember (name : String) : ZipInfo where
  filename := name.toList
  externalAttr := 0o100644 <<< 16
  source := []

def filesystemService : DeploymentService := { store := { backend := .filesystem } }

def requestFor (archive : Bytes) : UploadRequest where
  uploadId := 1
  deploymentId := 2
  workspaceId := 3
  appId := 4
  createdBy := "author"
  expectedSizeBytes := archive.length

def portalMembers : List ZipInfo := [emptyMember "index.html", emptyMember "a.js"]

def portalArchive : Bytes :=
  [
    80, 75, 3, 4, 20, 0, 0, 0, 0, 0, 0, 0, 33, 0, 0, 0, 0, 0, 0, 0, 0, 0, 0, 0, 0, 0, 10, 0, 0, 0,
    105, 110, 100, 101, 120, 46, 104, 116, 109, 108, 80, 75, 3, 4, 20, 0, 0, 0, 0, 0, 0, 0, 33, 0,
    0, 0, 0, 0, 0, 0, 0, 0, 0, 0, 0, 0, 4, 0, 0, 0, 97, 46, 106, 115, 80, 75, 1, 2, 20, 3, 20, 0,
    0, 0, 0, 0, 0, 0, 33, 0, 0, 0, 0, 0, 0, 0, 0, 0, 0, 0, 0, 0, 10, 0, 0, 0, 0, 0, 0, 0, 0, 0, 0,
    0, 164, 129, 0, 0, 0, 0, 105, 110, 100, 101, 120, 46, 104, 116, 109, 108, 80, 75, 1, 2, 20, 3,
    20, 0, 0, 0, 0, 0, 0, 0, 33, 0, 0, 0, 0, 0, 0, 0, 0, 0, 0, 0, 0, 0, 4, 0, 0, 0, 0, 0, 0, 0, 0,
    0, 0, 0, 164, 129, 40, 0, 0, 0, 97, 46, 106, 115, 80, 75, 5, 6, 0, 0, 0, 0, 2, 0, 2, 0, 106,
    0, 0, 0, 74, 0, 0, 0, 0, 0]

def portalRuntime : BundleRuntime :=
  plainRuntime portalArchive portalMembers
    "cb0501ec6bef15a11c40772f7a00c5fe5d9f5baf4e79fbddb277f1fc890a03bf"
    "60ef29de3d7fc993eddb37f798058e4e0390e4d535099b80699501be05936295"

def portalManifest : BundleManifest where
  files := Dict.ofList
    [("index.html".toList, ⟨0, emptySha256, "text/html; charset=utf-8"⟩),
      ("a.js".toList, ⟨0, emptySha256, "text/javascript; charset=utf-8"⟩)]
  htmlPolicy := Dict.ofList [("index.html".toList, [])]

theorem portal_assets (member : info ∈ portalMembers) (asset : assetPath {} info = some path) :
    info.filename = path ∧ (path = "index.html".toList ∨ path = "a.js".toList) := by
  cases List.mem_cons.mp member with
  | inl first =>
    subst first
    cases (show assetPath {} (emptyMember "index.html") = some "index.html".toList by
      decide).symm.trans asset
    exact ⟨rfl, .inl rfl⟩
  | inr later =>
    cases List.mem_singleton.mp later
    cases (show assetPath {} (emptyMember "a.js") = some "a.js".toList by
      decide).symm.trans asset
    exact ⟨rfl, .inr rfl⟩

theorem portal_storable : Storable portalRuntime {} .filesystem portalMembers portalManifest where
  named := by
    intro info member path asset
    obtain ⟨name, rfl | rfl⟩ := portal_assets member asset
    · exact ⟨name, by decide, by decide⟩
    · exact ⟨name, by decide, by decide⟩
  reserved := by
    intro info member path asset
    obtain ⟨_, rfl | rfl⟩ := portal_assets member asset
    · decide
    · decide
  prefixFree := by
    intro info member info' member' path path' asset asset'
    obtain ⟨_, rfl | rfl⟩ := portal_assets member asset
    · obtain ⟨_, rfl | rfl⟩ := portal_assets member' asset'
      · decide
      · decide
    · obtain ⟨_, rfl | rfl⟩ := portal_assets member' asset'
      · decide
      · decide
  beneath := by
    intro _ info member path asset
    obtain ⟨_, rfl | rfl⟩ := portal_assets member asset
    · decide
    · decide
  manifestFits := by decide
  encodes := ⟨_, rfl⟩

set_option maxRecDepth 4000 in
theorem portal_materialised : ∃ service₁ service₂ upload,
    filesystemService.initiate 0 (requestFor portalArchive) = .ok service₁ ∧
      service₁.stage (seconds 1) 1 portalArchive = (service₂, .ok upload) ∧
        Materialised portalRuntime {} portalMembers portalManifest 2
          (service₂.complete portalRuntime (seconds 2) (seconds 3) 1) := by
  have inTime : seconds 2 < 0 + seconds 3600 := by decide
  have stored : ∀ {service₁ service₂ : DeploymentService} {upload : AppUpload},
      filesystemService.initiate 0 (requestFor portalArchive) = .ok service₁ →
        service₁.stage (seconds 1) 1 portalArchive = (service₂, .ok upload) →
          Materialised portalRuntime {} portalMembers portalManifest 2
            (service₂.complete portalRuntime (seconds 2) (seconds 3) 1) :=
    fun initiated staging =>
      (bundle_materialised initiated staging inTime rfl rfl rfl rfl rfl).mpr portal_storable
  exact ⟨_, _, _, rfl, rfl, stored rfl rfl⟩

def dottedArchive : Bytes :=
  [
    80, 75, 3, 4, 20, 0, 0, 0, 0, 0, 0, 0, 33, 0, 0, 0, 0, 0, 0, 0, 0, 0, 0, 0, 0, 0, 12, 0, 0, 0,
    46, 47, 105, 110, 100, 101, 120, 46, 104, 116, 109, 108, 80, 75, 1, 2, 20, 3, 20, 0, 0, 0, 0,
    0, 0, 0, 33, 0, 0, 0, 0, 0, 0, 0, 0, 0, 0, 0, 0, 0, 12, 0, 0, 0, 0, 0, 0, 0, 0, 0, 0, 0, 164,
    129, 0, 0, 0, 0, 46, 47, 105, 110, 100, 101, 120, 46, 104, 116, 109, 108, 80, 75, 5, 6, 0, 0,
    0, 0, 1, 0, 1, 0, 58, 0, 0, 0, 42, 0, 0, 0, 0, 0]

def dottedRuntime : BundleRuntime :=
  plainRuntime dottedArchive [emptyMember "./index.html"]
    "eb16b6881f05b4b84968f576943c88eb082ba147399c052b2e9f4bc6e0270a1a"
    "cf9c82e039c4b8f1187b3809aeecb5ccfdd09f9342b44d20e003960e63a5f487"

def dottedManifest : BundleManifest where
  files := Dict.ofList [("index.html".toList, ⟨0, emptySha256, "text/html; charset=utf-8"⟩)]
  htmlPolicy := Dict.ofList [("index.html".toList, [])]

set_option maxRecDepth 4000 in
theorem dotted_not_materialised : ∃ service₁ service₂ upload,
    filesystemService.initiate 0 (requestFor dottedArchive) = .ok service₁ ∧
      service₁.stage (seconds 1) 1 dottedArchive = (service₂, .ok upload) ∧
        validateBundle dottedRuntime {} dottedArchive = .ok dottedManifest ∧
          ¬Materialised dottedRuntime {} [emptyMember "./index.html"] dottedManifest 2
            (service₂.complete dottedRuntime (seconds 2) (seconds 3) 1) := by
  refine ⟨_, _, _, rfl, rfl, rfl, ?_⟩
  rintro ⟨⟨_, completed, _⟩, _, _, _, _⟩
  cases completed

end Orcheo.HostedApps
