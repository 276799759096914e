import Orcheo.Defs.HostedApps.BundleStore

/-! What an accepted bundle is, member by member. -/

namespace Orcheo.HostedApps

open Lib (bind_ok_iff pure_ok_iff foldlM_ok_prefix)
open Lib.Path (segment_of_mem segments_join_segments)

variable {rt : BundleRuntime} {limits : BundleValidationLimits}

def assetPath (limits : BundleValidationLimits) (info : ZipInfo) : Option Text :=
  match normalizeMemberPath limits info.filename with
  | .ok (some path) => if path = appManifestPath then none else some path
  | _ => none

@[simp] theorem rejectIf_ok {p : Prop} [Decidable p] {code message : String} {u : Unit} :
    rejectIf p code message = .ok u ↔ ¬p := by
  by_cases h : p
  · simp [rejectIf, reject, h]
  · simp [rejectIf, h]

theorem parts_joinParts (filename : Text) : parts (joinParts (parts filename)) = parts filename :=
  segments_join_segments

def Normal (path : Text) : Prop := joinParts (parts path) = path

theorem Normal.inj {path path' : Text} (h : Normal path) (h' : Normal path')
    (same : parts path = parts path') : path = path' := by
  rw [← h, ← h', same]

variable {path : Text}

theorem Normal.parts_eq_nil (h : Normal path) : parts path = [] ↔ path = [] := by
  constructor
  · intro none
    rw [← h, none]
    rfl
  · intro empty
    rw [empty]
    rfl

structure Normalized (filename path : Text) : Prop where
  eq : path = joinParts (parts filename)
  climbs : "..".toList ∉ parts filename

theorem normalizeMemberPath_ok {filename path : Text}
    (h : normalizeMemberPath limits filename = .ok (some path)) : Normalized filename path := by
  simp only [normalizeMemberPath] at h
  repeat' split at h
  all_goals try cases h
  rename_i unsafe_ _ _ _
  exact ⟨rfl, fun climbs => unsafe_ (.inr climbs)⟩

theorem normalizeMemberPath_plain {filename path : Text}
    (h : normalizeMemberPath limits filename = .ok (some path)) :
    '\x00' ∉ path ∧ '\\' ∉ path ∧ path ≠ reservedRoot ∧ ¬reservedRoot ++ ['/'] <+: path := by
  simp only [normalizeMemberPath] at h
  repeat' split at h
  all_goals try cases h
  rename_i odd _ _ _ reserved
  rw [not_or] at odd reserved
  refine ⟨fun mem => ?_, fun mem => ?_, reserved.1, reserved.2⟩
  · cases Lib.Path.mem_join_segments mem with
    | inl slash => cases slash
    | inr mem => exact odd.1 mem
  · cases Lib.Path.mem_join_segments mem with
    | inl slash => cases slash
    | inr mem => exact odd.2 mem

theorem normalizeMemberPath_none {filename : Text}
    (h : normalizeMemberPath limits filename = .ok none) : filename.getLast? = some '/' := by
  simp only [normalizeMemberPath] at h
  repeat' split at h
  all_goals try cases h
  assumption

namespace Normalized

variable {filename path : Text} (h : Normalized filename path)

include h

theorem parts_eq : parts path = parts filename := by
  rw [h.eq, parts_joinParts]

theorem normal : Normal path := by
  rw [Normal, h.parts_eq, h.eq]

theorem not_directory : path.getLast? ≠ some '/' := by
  rw [h.eq]
  exact Lib.Path.getLast?_join_ne fun _ => segment_of_mem

theorem relative : isAbsolute path = false := by
  have first : path.head? ≠ some '/' := by
    rw [h.eq]
    exact Lib.Path.head?_join_ne fun _ => segment_of_mem
  simpa [isAbsolute] using first

theorem safeRelative_iff {key : List Text} :
    safeRelative path = .ok key ↔ path ≠ [] ∧ key = parts path := by
  have climbs : ¬(parts path).contains "..".toList = true := by
    rw [List.contains_iff_mem]
    exact h.parts_eq ▸ h.climbs
  rw [safeRelative, h.relative]
  by_cases none : parts path = []
  · rw [if_pos (.inr (.inl none))]
    simp [h.normal.parts_eq_nil.mp none]
  · have nonempty : path ≠ [] := fun empty => none (h.normal.parts_eq_nil.mpr empty)
    rw [if_neg (not_or.mpr ⟨Bool.false_ne_true, not_or.mpr ⟨none, climbs⟩⟩)]
    simp [nonempty, eq_comm]

end Normalized

variable {info : ZipInfo} {v v' : Validation}

theorem assetPath_eq_some :
    assetPath limits info = some path ↔
      normalizeMemberPath limits info.filename = .ok (some path) ∧ path ≠ appManifestPath := by
  rw [assetPath]
  split
  · rename_i normal
    rw [normal]
    split
    · rename_i manifest
      constructor
      · intro none
        cases none
      · rintro ⟨same, asset⟩
        cases same
        exact absurd manifest asset
    · rename_i asset
      constructor
      · intro same
        cases same
        exact ⟨rfl, asset⟩
      · rintro ⟨same, _⟩
        cases same
        rfl
  · rename_i other
    constructor
    · intro none
      cases none
    · rintro ⟨same, _⟩
      exact absurd same (other path)

theorem normalized_of_assetPath (h : assetPath limits info = some path) :
    Normalized info.filename path :=
  normalizeMemberPath_ok (assetPath_eq_some.mp h).1

theorem readChunks_of_hashChunks {maxFile maxExpanded : Nat}
    {source : List (Except BundleError Bytes)} {read content : Bytes}
    (h : hashChunks maxFile maxExpanded source read = .ok content) :
    readChunks source read = .ok content := by
  induction source generalizing read with
  | nil => exact h
  | cons chunk rest ih =>
    cases chunk with
    | error e => cases h
    | ok chunk =>
      rw [hashChunks] at h
      rw [readChunks]
      split at h
      · rename_i ended
        rw [if_pos ended]
        exact h
      · rename_i more
        rw [if_neg more]
        split at h
        · cases h
        · split at h
          · cases h
          · exact ih h

theorem hashMember_ok {keep : Bool} {maxFile maxExpanded : Nat}
    {member : HashedMember} (h : hashMember rt info.source keep maxFile maxExpanded = .ok member) :
    ∃ content, info.read = .ok content ∧ member.digest = rt.sha256 content ∧
      member.actualSize = content.length := by
  obtain ⟨content, hashed, h⟩ := bind_ok_iff.mp h
  cases pure_ok_iff.mp h
  exact ⟨content, readChunks_of_hashChunks hashed, rfl, rfl⟩

def fileOf (rt : BundleRuntime) (path : Text) (content : Bytes) : BundleFile :=
  ⟨content.length, rt.sha256 content, contentType rt path⟩

inductive Validates (rt : BundleRuntime) (limits : BundleValidationLimits) (info : ZipInfo)
    (v v' : Validation) : Prop
  | other (asset : assetPath limits info = none) (files : v'.files = v.files)
      (seen : v.collisionKeys ⊆ v'.collisionKeys)
  | asset (path : Text) (content : Bytes) (asset : assetPath limits info = some path)
      (read : info.read = .ok content) (free : collisionKey rt path ∉ v.collisionKeys)
      (files : v'.files = v.files.set path (fileOf rt path content))
      (seen : v'.collisionKeys = v.collisionKeys ++ [collisionKey rt path])

theorem record_ok {member : HashedMember} (h : v.record rt path member = .ok v') :
    v'.collisionKeys = v.collisionKeys ∧
      v'.files = if path = appManifestPath then v.files
        else v.files.set path ⟨member.actualSize, member.digest, contentType rt path⟩ := by
  rw [Validation.record] at h
  dsimp only at h
  split at h
  · rename_i manifest
    rw [if_pos manifest]
    split at h
    · cases h
    · obtain ⟨_, _, h⟩ := bind_ok_iff.mp h
      cases pure_ok_iff.mp h
      exact ⟨rfl, rfl⟩
  · rename_i asset
    rw [if_neg asset]
    split at h
    · cases h
      exact ⟨rfl, rfl⟩
    · obtain ⟨_, _, h⟩ := bind_ok_iff.mp h
      cases pure_ok_iff.mp h
      exact ⟨rfl, rfl⟩

theorem validateAsset_ok (h : validateAsset rt limits v info path = .ok v') :
    ∃ content, info.read = .ok content ∧ collisionKey rt path ∉ v.collisionKeys ∧
      v'.collisionKeys = v.collisionKeys ++ [collisionKey rt path] ∧
      v'.files = if path = appManifestPath then v.files
        else v.files.set path (fileOf rt path content) := by
  obtain ⟨_, _, h⟩ := bind_ok_iff.mp h
  obtain ⟨_, free, h⟩ := bind_ok_iff.mp h
  obtain ⟨_, _, h⟩ := bind_ok_iff.mp h
  obtain ⟨member, hashed, h⟩ := bind_ok_iff.mp h
  obtain ⟨_, _, h⟩ := bind_ok_iff.mp h
  obtain ⟨content, read, digest, size⟩ := hashMember_ok hashed
  obtain ⟨keys, files⟩ := record_ok h
  rw [digest, size] at files
  exact ⟨content, read, rejectIf_ok.mp free, keys, files⟩

theorem validateMember_ok (h : validateMember rt limits v info = .ok v') :
    Validates rt limits info v v' := by
  rw [validateMember] at h
  split at h
  · cases h
  · rename_i ignored
    cases h
    exact .other (by simp [assetPath, ignored]) rfl fun _ => id
  · rename_i path normal
    obtain ⟨content, read, free, seen, files⟩ := validateAsset_ok h
    by_cases manifest : path = appManifestPath
    · rw [if_pos manifest] at files
      refine .other (by simp [assetPath, normal, manifest]) files ?_
      rw [seen]
      exact List.subset_append_left _ _
    · rw [if_neg manifest] at files
      exact .asset path content (by simp [assetPath, normal, manifest]) read free files seen

structure Validated (rt : BundleRuntime) (limits : BundleValidationLimits) (done : List ZipInfo)
    (v : Validation) : Prop where
  keys : v.files.keys = done.filterMap (assetPath limits)
  seen : ∀ path ∈ v.files.keys, collisionKey rt path ∈ v.collisionKeys
  entry : ∀ info ∈ done, ∀ path, assetPath limits info = some path →
    ∃ content, info.read = .ok content ∧ v.files.get? path = some (fileOf rt path content)

theorem Validated.member {done : List ZipInfo}
    (inv : Validated rt limits done v) (h : Validates rt limits info v v') :
    Validated rt limits (done ++ [info]) v' := by
  cases h with
  | other asset files seen =>
    refine ⟨?_, ?_, ?_⟩
    · rw [files, inv.keys, List.filterMap_append]
      simp [asset]
    · rw [files]
      exact fun path stored => seen (inv.seen path stored)
    · intro info' member path asset'
      rw [files]
      cases List.mem_append.mp member with
      | inl earlier => exact inv.entry info' earlier path asset'
      | inr last =>
        cases List.mem_singleton.mp last
        rw [asset] at asset'
        cases asset'
  | asset path content asset read free files seen =>
    have absent : path ∉ v.files.keys := fun stored => free (inv.seen path stored)
    refine ⟨?_, ?_, ?_⟩
    · rw [files, Lib.Dict.keys_set_of_not_mem absent, inv.keys, List.filterMap_append]
      simp [asset]
    · rw [files, Lib.Dict.keys_set_of_not_mem absent, seen]
      intro path' stored
      cases List.mem_append.mp stored with
      | inl earlier => exact List.mem_append_left _ (inv.seen path' earlier)
      | inr last =>
        rw [List.mem_singleton.mp last]
        exact List.mem_append_right _ (List.mem_singleton.mpr rfl)
    · intro info' member path' asset'
      rw [files, Lib.Dict.get?_set]
      cases List.mem_append.mp member with
      | inl earlier =>
        obtain ⟨content', read', stored⟩ := inv.entry info' earlier path' asset'
        have other : path' ≠ path := by
          rintro rfl
          exact absent ((Lib.Dict.mem_keys_iff _ _).mpr ⟨_, stored⟩)
        exact ⟨content', read', by rw [if_neg other, stored]⟩
      | inr last =>
        cases List.mem_singleton.mp last
        rw [asset] at asset'
        cases asset'
        exact ⟨content, read, by simp⟩

/-- An accepted bundle: its manifest lists the assets in the order of the members, each with
what was read from its member. -/
structure Accepted (rt : BundleRuntime) (limits : BundleValidationLimits) (infos : List ZipInfo)
    (manifest : BundleManifest) : Prop where
  keys : manifest.files.keys = infos.filterMap (assetPath limits)
  entry : ∀ info ∈ infos, ∀ path, assetPath limits info = some path →
    ∃ content, info.read = .ok content ∧
      manifest.files.get? path = some (fileOf rt path content)
  named : ∀ info ∈ infos, ∃ path, normalizeMemberPath limits info.filename = .ok path

theorem validateMember_named (h : validateMember rt limits v info = .ok v') :
    ∃ path, normalizeMemberPath limits info.filename = .ok path := by
  rw [validateMember] at h
  split at h
  · cases h
  · exact ⟨_, by assumption⟩
  · exact ⟨_, by assumption⟩

theorem validateZip_ok {infos : List ZipInfo} {manifest : BundleManifest}
    (h : validateZip rt limits infos = .ok manifest) : Accepted rt limits infos manifest := by
  rw [validateZip] at h
  obtain ⟨_, _, h⟩ := bind_ok_iff.mp h
  obtain ⟨v, looped, h⟩ := bind_ok_iff.mp h
  obtain ⟨_, _, h⟩ := bind_ok_iff.mp h
  cases pure_ok_iff.mp h
  have inv : Validated rt limits infos v :=
    foldlM_ok_prefix (P := Validated rt limits)
      (fun _ _ _ _ inv checked => inv.member (validateMember_ok checked))
      ⟨rfl, fun _ stored => (List.not_mem_nil stored).elim, nofun⟩ looped
  have named : ∀ info ∈ infos, ∃ path, normalizeMemberPath limits info.filename = .ok path :=
    foldlM_ok_prefix
      (P := fun done _ => ∀ info ∈ done, ∃ path, normalizeMemberPath limits info.filename = .ok path)
      (fun done _ _ _ earlier checked info member => by
        cases List.mem_append.mp member with
        | inl member => exact earlier info member
        | inr last =>
          rw [List.mem_singleton.mp last]
          exact validateMember_named checked)
      nofun looped
  exact ⟨inv.keys, inv.entry, named⟩

theorem validateBundle_ok {archive : Bytes} {infos : List ZipInfo} {manifest : BundleManifest}
    (opened : rt.openZip archive = .ok infos)
    (h : validateBundle rt limits archive = .ok manifest) :
    Accepted rt limits infos manifest := by
  rw [validateBundle] at h
  obtain ⟨_, _, h⟩ := bind_ok_iff.mp h
  rw [opened, show (Except.ok infos >>= validateZip rt limits) = validateZip rt limits infos
    from rfl] at h
  cases checked : validateZip rt limits infos with
  | error e =>
    rw [checked] at h
    cases h
  | ok found =>
    rw [checked] at h
    cases h
    exact validateZip_ok checked

end Orcheo.HostedApps
