import Mathlib.Data.List.Sort
import Orcheo.Lib.Except
import Orcheo.Lib.Path
import Orcheo.Defs.HostedApps.Repository

/-! Validation of ZIP bundles: paths, members, HTML policy and the manifest that comes of them. -/

namespace Orcheo.HostedApps

open Lib (Dict)

abbrev Text := List Char

abbrev Bytes := List UInt8

inductive BundleError
  | validation (code message : String)
  | badZipFile
  /-- a `KeyError` -/
  | key (name : Text)
  /-- a `ValueError` -/
  | value (message : String)
  /-- an `OSError`, or what the provider of the storage raises -/
  | storage (message : String)
  /-- what else a library raises -/
  | raised (message : String)
  deriving DecidableEq, Repr

structure BundleValidationLimits where
  maxArchiveBytes : Nat := 50 * 1024 * 1024
  maxExpandedBytes : Nat := 250 * 1024 * 1024
  maxFileCount : Nat := 5000
  maxFileBytes : Nat := 25 * 1024 * 1024
  maxPathDepth : Nat := 16
  maxAppManifestBytes : Nat := 256 * 1024

/-- A `ZipInfo`, with what `source.read(1024 * 1024)` gives call after call once it is open. -/
structure ZipInfo where
  filename : Text
  externalAttr : Nat := 0
  fileSize : Nat := 0
  source : List (Except BundleError Bytes)

structure BundleFile where
  sizeBytes : Nat
  sha256 : String
  contentType : String
  deriving DecidableEq, Repr

structure BundleManifest where
  version : Nat := 1
  index : String := "index.html"
  files : Dict Text BundleFile
  htmlPolicy : Dict Text (List String) := ∅
  appManifest : Option Json := none

inductive HtmlEvent
  | startTag (tag : Text) (attrs : List (Text × Option Text))
  | startEndTag (tag : Text) (attrs : List (Text × Option Text))
  | endTag (tag : Text)
  | data (data : Text)
  | entityRef (name : Text)
  | charRef (name : Text)

/-- The text functions, digests and parsers of the language and its libraries, and the keys
that fit the provider of the storage. -/
structure BundleRuntime where
  lower : Text → Text
  casefold : Text → Text
  normalizeNfc : Text → Text
  strip : Text → Text
  repr : Text → String
  encode : Text → Bytes
  decodeUtf8 : Bytes → Option Text
  sha256 : Bytes → String
  sha256Base64 : Bytes → String
  guessType : Text → Option String
  openZip : Bytes → Except BundleError (List ZipInfo)
  /-- what `HTMLParser` calls while it is fed the text and closed -/
  htmlEvents : Text → List HtmlEvent
  /-- `json.loads` without duplicate keys, then the schema of app manifests -/
  loadAppManifest : Text → Option Json
  dumpManifest : BundleManifest → Except BundleError Bytes
  keyFits : List Text → Bool

def reject (code message : String) : Except BundleError Unit := .error (.validation code message)

def rejectIf (p : Prop) [Decidable p] (code message : String) : Except BundleError Unit :=
  if p then reject code message else .ok ()

/-- `PurePosixPath(path).parts`, without the root. -/
abbrev parts (path : Text) : List Text := Lib.Path.segments '/' '.' path

abbrev joinParts (ps : List Text) : Text := Lib.Path.join '/' ps

def isAbsolute (path : Text) : Bool := path.head? == some '/'

/-- `PurePosixPath(path).suffix` -/
def pathSuffix (path : Text) : Text :=
  let name := (parts path).getLast?.getD []
  let tail := name.reverse.takeWhile (· ≠ '.')
  if tail ≠ [] ∧ tail.length + 1 < name.length then '.' :: tail.reverse else []

def nestedArchiveSuffixes : List String :=
  [".7z", ".bz2", ".gz", ".rar", ".tar", ".tgz", ".xz", ".zip"]

def executableSuffixes : List String := [".exe", ".dll", ".dylib", ".so", ".com", ".msi"]

def mimeOverrides : List (String × String) :=
  [(".css", "text/css; charset=utf-8"),
    (".html", "text/html; charset=utf-8"),
    (".htm", "text/html; charset=utf-8"),
    (".js", "text/javascript; charset=utf-8"),
    (".json", "application/json"),
    (".mjs", "text/javascript; charset=utf-8"),
    (".svg", "image/svg+xml"),
    (".wasm", "application/wasm")]

def appManifestPath : Text := "orcheo.app.json".toList

def reservedRoot : Text := "__orcheo".toList

/-- Nothing for a directory entry. -/
def normalizeMemberPath (limits : BundleValidationLimits) (filename : Text) :
    Except BundleError (Option Text) :=
  if '\x00' ∈ filename ∨ '\\' ∈ filename then
    .error (.validation "hosted_apps.bundle.unsafe_path" "Bundle contains an unsafe asset path.")
  else if isAbsolute filename = true ∨ "..".toList ∈ parts filename then
    .error (.validation "hosted_apps.bundle.unsafe_path" "Bundle contains an unsafe asset path.")
  else if filename.getLast? = some '/' then .ok none
  else if limits.maxPathDepth < (parts filename).length then
    .error (.validation "hosted_apps.bundle.path_too_deep"
      "Bundle contains an asset path that is too deep.")
  else if joinParts (parts filename) = reservedRoot ∨
      reservedRoot ++ ['/'] <+: joinParts (parts filename) then
    .error (.validation "hosted_apps.bundle.reserved_path"
      "Bundle uses the reserved __orcheo namespace.")
  else .ok (some (joinParts (parts filename)))

section

variable (rt : BundleRuntime) (limits : BundleValidationLimits)

/-- `S_IFMT` keeps the kind of the file, and `S_IFREG` is the kind of a regular one. -/
def validateMemberKind (info : ZipInfo) (path : Text) : Except BundleError Unit :=
  let fileType := (info.externalAttr >>> 16) &&& 0o170000
  if fileType ≠ 0 ∧ fileType ≠ 0o100000 then
    reject "hosted_apps.bundle.special_file"
      ("Bundle asset " ++ rt.repr path ++ " is not a regular file.")
  else .ok ()

def collisionKey (path : Text) : Text := rt.casefold (rt.normalizeNfc path)

def validateMemberConstraints (path : Text) (info : ZipInfo) : Except BundleError Unit :=
  if nestedArchiveSuffixes.any (fun suffix => suffix.toList.isSuffixOf (rt.lower path)) then
    reject "hosted_apps.bundle.nested_archive" "Nested archives are not supported."
  else if limits.maxFileBytes < info.fileSize then
    reject "hosted_apps.bundle.file_too_large" "A bundle file exceeds the allowed size."
  else if rt.casefold path = appManifestPath ∧ path ≠ appManifestPath then
    reject "hosted_apps.bundle.app_manifest_path_invalid"
      "App manifest must use the exact root path 'orcheo.app.json'."
  else if path = appManifestPath ∧ limits.maxAppManifestBytes < info.fileSize then
    reject "hosted_apps.bundle.app_manifest_too_large" "App manifest exceeds the allowed size."
  else .ok ()

/-- The bytes of a member, while they stay within the bounds. -/
def hashChunks (maxFileBytes maxExpandedBytes : Nat) :
    List (Except BundleError Bytes) → Bytes → Except BundleError Bytes
  | [], read => .ok read
  | .error e :: _, _ => .error e
  | .ok chunk :: rest, read =>
    if chunk = [] then .ok read
    else if maxFileBytes < (read ++ chunk).length then
      .error (.validation "hosted_apps.bundle.file_too_large"
        "A bundle file exceeds the allowed size.")
    else if maxExpandedBytes < (read ++ chunk).length then
      .error (.validation "hosted_apps.bundle.expanded_too_large"
        "Bundle expands beyond the allowed size.")
    else hashChunks maxFileBytes maxExpandedBytes rest (read ++ chunk)

structure HashedMember where
  digest : String
  content : Option Bytes
  firstBytes : Bytes
  actualSize : Nat

def hashMember (source : List (Except BundleError Bytes)) (keepContent : Bool)
    (maxFileBytes maxExpandedBytes : Nat) : Except BundleError HashedMember := do
  let read ← hashChunks maxFileBytes maxExpandedBytes source []
  return ⟨rt.sha256 read, if keepContent then some read else none, read.take 8, read.length⟩

/-- The first bytes of native executables and scripts: `MZ`, `\x7fELF`, `#!` and Mach-O. -/
def executableMagic : List Bytes :=
  [[0x4d, 0x5a], [0x7f, 0x45, 0x4c, 0x46], [0x23, 0x21], [0xfe, 0xed, 0xfa],
    [0xcf, 0xfa, 0xed, 0xfe]]

def rejectExecutableBytes (path : Text) (firstBytes : Bytes) : Except BundleError Unit :=
  if executableSuffixes.any (fun suffix => suffix.toList == rt.lower (pathSuffix path)) ∨
      executableMagic.any (·.isPrefixOf firstBytes) then
    reject "hosted_apps.bundle.executable" "Bundle contains a server executable."
  else .ok ()

def isHtml (path : Text) : Bool :=
  [".html", ".htm"].any fun suffix => suffix.toList == rt.lower (pathSuffix path)

def contentType (path : Text) : String :=
  match mimeOverrides.find? (fun entry => entry.1.toList == rt.lower (pathSuffix path)) with
  | some entry => entry.2
  | none => (rt.guessType path).getD "application/octet-stream"

structure HtmlPolicyParser where
  inlineScriptParts : Option (List Text) := none
  inlineScriptHashes : List String := []

namespace HtmlPolicyParser

def rejectHtml (code : String) : Except BundleError Unit :=
  reject code "Bundle HTML uses an unsupported executable construct."

def inlineScriptTypes : List String :=
  ["application/javascript", "module", "text/ecmascript", "text/javascript"]

def checkAttr (attr : Text × Option Text) : Except BundleError Unit :=
  if "on".toList.isPrefixOf (rt.lower attr.1) then
    rejectHtml "hosted_apps.bundle.inline_event_handler"
  else if "javascript:".toList.isPrefixOf (rt.lower (rt.strip (attr.2.getD []))) then
    rejectHtml "hosted_apps.bundle.javascript_url"
  else .ok ()

/-- `attr_map.get(name)`: the last attribute of that name. -/
def attr? (attrs : List (Text × Option Text)) (name : String) : Option (Option Text) :=
  (attrs.reverse.find? fun attr => rt.lower attr.1 == name.toList).map Prod.snd

/-- `attr_map.get("type") or "text/javascript"` -/
def scriptType (attrs : List (Text × Option Text)) : Text :=
  match attr? rt attrs "type" with
  | some (some value) => if value = [] then "text/javascript".toList else value
  | _ => "text/javascript".toList

def isScript (tag : Text) : Bool := rt.lower tag == "script".toList

variable (parser : HtmlPolicyParser)

def handleStartTag (tag : Text) (attrs : List (Text × Option Text)) :
    Except BundleError HtmlPolicyParser := do
  attrs.forM (checkAttr rt)
  if !isScript rt tag then return parser
  if parser.inlineScriptParts.isSome then rejectHtml "hosted_apps.bundle.nested_script"
  if (attr? rt attrs "src").isSome then return parser
  if !inlineScriptTypes.any (·.toList == rt.lower (rt.strip (scriptType rt attrs))) then
    rejectHtml "hosted_apps.bundle.unsupported_inline_script"
  return { parser with inlineScriptParts := some [] }

def handleEndTag (tag : Text) : HtmlPolicyParser :=
  match isScript rt tag, parser.inlineScriptParts with
  | true, some collected =>
    { inlineScriptParts := none
      inlineScriptHashes := parser.inlineScriptHashes ++
        ["sha256-" ++ rt.sha256Base64 (rt.encode collected.flatten)] }
  | _, _ => parser

def collect (data : Text) : HtmlPolicyParser :=
  { parser with inlineScriptParts := parser.inlineScriptParts.map (· ++ [data]) }

def handle : HtmlEvent → Except BundleError HtmlPolicyParser
  | .startTag tag attrs => parser.handleStartTag rt tag attrs
  | .startEndTag tag attrs => do
    let parser ← parser.handleStartTag rt tag attrs
    if isScript rt tag then rejectHtml "hosted_apps.bundle.unsupported_inline_script"
    return parser
  | .endTag tag => .ok (parser.handleEndTag rt tag)
  | .data data => .ok (parser.collect data)
  | .entityRef name => .ok (parser.collect ('&' :: name ++ [';']))
  | .charRef name => .ok (parser.collect ('&' :: '#' :: name ++ [';']))

end HtmlPolicyParser

def parseHtmlPolicy (content : Bytes) : Except BundleError (List String) :=
  match rt.decodeUtf8 content with
  | none =>
    .error (.validation "hosted_apps.bundle.invalid_html_encoding"
      "HTML assets must be UTF-8 encoded.")
  | some text => do
    let parser ← (rt.htmlEvents text).foldlM (HtmlPolicyParser.handle rt) {}
    if parser.inlineScriptParts.isSome then
      HtmlPolicyParser.rejectHtml "hosted_apps.bundle.unterminated_inline_script"
    return parser.inlineScriptHashes.eraseDups.insertionSort (· ≤ ·)

def parseAppManifest (content : Bytes) : Except BundleError Json :=
  match rt.decodeUtf8 content with
  | none =>
    .error (.validation "hosted_apps.bundle.app_manifest_encoding_invalid"
      "App manifest must be UTF-8 encoded.")
  | some text => match rt.loadAppManifest text with
    | none =>
      .error (.validation "hosted_apps.bundle.app_manifest_invalid"
        "App manifest does not match the supported schema.")
    | some manifest => .ok manifest

structure Validation where
  files : Dict Text BundleFile := ∅
  htmlPolicy : Dict Text (List String) := ∅
  appManifest : Option Json := none
  collisionKeys : List Text := []
  expandedBytes : Nat := 0

/-- The member has been read: it becomes the app manifest, or an asset and perhaps its policy. -/
def Validation.record (v : Validation) (path : Text) (member : HashedMember) :
    Except BundleError Validation :=
  let v := { v with expandedBytes := v.expandedBytes + member.actualSize }
  let file : BundleFile := ⟨member.actualSize, member.digest, contentType rt path⟩
  if path = appManifestPath then
    match member.content with
    | none => .error (.raised "App manifest content was not retained.")
    | some content => do
      let manifest ← parseAppManifest rt content
      return { v with appManifest := some manifest }
  else match member.content with
    | none => .ok { v with files := v.files.set path file }
    | some content => do
      let hashes ← parseHtmlPolicy rt content
      return { v with
        htmlPolicy := v.htmlPolicy.set path hashes
        files := v.files.set path file }

def validateAsset (v : Validation) (info : ZipInfo) (path : Text) :
    Except BundleError Validation := do
  validateMemberKind rt info path
  rejectIf (collisionKey rt path ∈ v.collisionKeys) "hosted_apps.bundle.path_collision"
    "Bundle contains colliding asset paths."
  validateMemberConstraints rt limits path info
  let member ← hashMember rt info.source (isHtml rt path || path == appManifestPath)
    (if path = appManifestPath then min limits.maxFileBytes limits.maxAppManifestBytes
      else limits.maxFileBytes)
    (limits.maxExpandedBytes - v.expandedBytes)
  rejectExecutableBytes rt path member.firstBytes
  { v with collisionKeys := v.collisionKeys ++ [collisionKey rt path] }.record rt path member

def validateMember (v : Validation) (info : ZipInfo) : Except BundleError Validation :=
  match normalizeMemberPath limits info.filename with
  | .error e => .error e
  | .ok none => .ok v
  | .ok (some path) => validateAsset rt limits v info path

def validateZip (infos : List ZipInfo) : Except BundleError BundleManifest := do
  rejectIf (limits.maxFileCount < infos.length) "hosted_apps.bundle.too_many_files"
    "Bundle contains too many files."
  let v ← infos.foldlM (validateMember rt limits) {}
  rejectIf (v.files.contains "index.html".toList = false) "hosted_apps.bundle.index_missing"
    "Bundle must contain root index.html."
  return { files := v.files, htmlPolicy := v.htmlPolicy, appManifest := v.appManifest }

/-- What `zipfile` says of an archive that is none, while it is opened or read. -/
def invalidZip : BundleError → BundleError
  | .badZipFile =>
    .validation "hosted_apps.bundle.invalid_zip" "Bundle is not a valid ZIP archive."
  | e => e

def validateBundle (archive : Bytes) : Except BundleError BundleManifest := do
  rejectIf (limits.maxArchiveBytes < archive.length) "hosted_apps.bundle.archive_too_large"
    "Bundle archive exceeds the allowed size."
  (rt.openZip archive >>= validateZip rt limits).mapError invalidZip

end

end Orcheo.HostedApps
