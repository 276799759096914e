import Orcheo.Lib.Except
import Orcheo.Defs.Sandbox.CodeNode

/-! What the inputs of the sandbox say of the vault: they are independent of it where no injected
text asks for a credential, and where they are withheld anyway. -/

namespace Orcheo.Sandbox

open Lib (bind_ok_iff pure_ok_iff)
open Graph (Value CodeNodeSpec)

mutual
def texts : Value → List Text
  | .str s => [s.toList]
  | .list xs | .tuple xs => textsOfItems xs
  | .dict kvs => textsOfEntries kvs
  | _ => []

def textsOfItems : List Value → List Text
  | [] => []
  | x :: xs => texts x ++ textsOfItems xs

def textsOfEntries : List (String × Value) → List Text
  | [] => []
  | (_, x) :: kvs => texts x ++ textsOfEntries kvs
end

variable (rt : TextRuntime)

def pieceReference (state : State) : Piece → Option CredentialReference
  | .char _ => none
  | .template body => (resolveStateTemplatePath rt state (strip rt body)).bind (placeholder rt)

/-- The credentials that a text asks for: its own placeholder, or those that the state has where
its templates point. -/
def references (state : State) (value : Text) : List CredentialReference :=
  match parseCredentialReference rt value with
  | some reference => [reference]
  | none =>
    if containsTemplate value = false then []
    else match singleTemplate rt value with
      | some path => ((resolveStateTemplatePath rt state path).bind (placeholder rt)).toList
      | none => (pieces value).filterMap (pieceReference rt state)

def Unserialisable (state : State) (value : Text) : Prop :=
  parseCredentialReference rt value = none ∧ containsTemplate value = true ∧
    ∃ path resolved, singleTemplate rt value = some path ∧
      resolveStateTemplatePath rt state path = some resolved ∧ resolved.serialisable = false

variable {rt} {resolve resolve' : CredentialReference → Except InputError StateValue}
  {state : State}

variable {reference : CredentialReference} {body value : Text} {ps : List Piece}

theorem serialisable_of_placeholder {value : StateValue}
    (h : placeholder rt value = some reference) : value.serialisable = true := by
  cases value with
  | str s => rfl
  | _ => cases h

def Decodes (rt : TextRuntime) (resolve : CredentialReference → Except InputError StateValue)
    (state : State) (value : Text) : Prop :=
  ∃ decoded, decodeStringValue rt resolve state value = .ok decoded ∧
    decoded.serialisable = true

theorem replace_ok (granted : ∀ reference ∈ pieceReference rt state (.template body),
      ∃ value, resolve reference = .ok value) :
    ∃ text, replace rt resolve state body = .ok text := by
  rw [replace]
  cases resolved : resolveStateTemplatePath rt state (strip rt body) with
  | none => exact ⟨_, rfl⟩
  | some value =>
    rw [pieceReference, resolved] at granted
    dsimp only
    rw [resolveNestedCredentialString]
    cases asked : placeholder rt value with
    | none => exact ⟨_, rfl⟩
    | some reference =>
      obtain ⟨secret, given⟩ := granted reference asked
      dsimp only
      rw [given]
      exact ⟨_, rfl⟩

theorem granted_of_replace {text : Text} (h : replace rt resolve state body = .ok text)
    (asked : pieceReference rt state (.template body) = some reference) :
    ∃ value, resolve reference = .ok value := by
  obtain ⟨value, resolved, placed⟩ := Option.bind_eq_some_iff.mp asked
  rw [replace, resolved] at h
  obtain ⟨secret, given, _⟩ := bind_ok_iff.mp h
  rw [resolveNestedCredentialString, placed] at given
  exact ⟨secret, given⟩

theorem substitute_ok (granted : ∀ reference ∈ ps.filterMap (pieceReference rt state),
      ∃ value, resolve reference = .ok value) :
    ∃ text, substitute rt resolve state ps = .ok text := by
  induction ps with
  | nil => exact ⟨[], rfl⟩
  | cons p ps ih =>
    obtain ⟨rest, later⟩ := ih fun reference asked => granted reference (by
      obtain ⟨q, member, asked⟩ := List.mem_filterMap.mp asked
      exact List.mem_filterMap.mpr ⟨q, List.mem_cons_of_mem p member, asked⟩)
    cases p with
    | char c =>
      simp only [substitute, later]
      exact ⟨_, rfl⟩
    | template body =>
      obtain ⟨text, first⟩ := replace_ok fun reference asked => granted reference
        (List.mem_filterMap.mpr ⟨_, List.mem_cons_self, asked⟩)
      simp only [substitute, first, later]
      exact ⟨_, rfl⟩

theorem granted_of_substitute {text : Text} (h : substitute rt resolve state ps = .ok text)
    (asked : reference ∈ ps.filterMap (pieceReference rt state)) :
    ∃ value, resolve reference = .ok value := by
  induction ps generalizing text with
  | nil => cases asked
  | cons p ps ih =>
    obtain ⟨q, member, found⟩ := List.mem_filterMap.mp asked
    cases p with
    | char c =>
      obtain ⟨rest, later, _⟩ := bind_ok_iff.mp h
      cases List.mem_cons.mp member with
      | inl first =>
        subst first
        cases found
      | inr other => exact ih later (List.mem_filterMap.mpr ⟨q, other, found⟩)
    | template body =>
      obtain ⟨_, first, h⟩ := bind_ok_iff.mp h
      obtain ⟨rest, later, _⟩ := bind_ok_iff.mp h
      cases List.mem_cons.mp member with
      | inl same =>
        subst same
        exact granted_of_replace first found
      | inr other => exact ih later (List.mem_filterMap.mpr ⟨q, other, found⟩)

theorem decodes_of_granted (granted : ∀ reference ∈ references rt state value,
      ∃ secret, resolve reference = .ok secret ∧ secret.serialisable = true)
    (plain : ¬Unserialisable rt state value) : Decodes rt resolve state value := by
  rw [Decodes, decodeStringValue]
  rw [references] at granted
  cases parsed : parseCredentialReference rt value with
  | some reference =>
    rw [parsed] at granted
    exact granted reference (List.mem_singleton.mpr rfl)
  | none =>
    rw [parsed] at granted
    dsimp only at granted ⊢
    cases template : containsTemplate value with
    | false => exact ⟨_, rfl, rfl⟩
    | true =>
      rw [template] at granted
      cases single : singleTemplate rt value with
      | none =>
        rw [single] at granted
        obtain ⟨text, substituted⟩ := substitute_ok fun reference asked =>
          (granted reference asked).imp fun _ => And.left
        exact ⟨_, bind_ok_iff.mpr ⟨text, substituted, rfl⟩, rfl⟩
      | some path =>
        rw [single] at granted
        dsimp only at granted ⊢
        cases resolved : resolveStateTemplatePath rt state path with
        | none => exact ⟨_, rfl, rfl⟩
        | some found =>
          rw [resolved] at granted
          simp only [resolveNestedCredentialString]
          cases asked : placeholder rt found with
          | some reference => exact granted reference (by simp [asked])
          | none =>
            refine ⟨found, rfl, ?_⟩
            by_contra refused
            exact plain ⟨parsed, template, path, found, single, resolved, by simpa using refused⟩

theorem Decodes.granted (h : Decodes rt resolve state value)
    (asked : reference ∈ references rt state value) :
    ∃ secret, resolve reference = .ok secret := by
  obtain ⟨decoded, h, _⟩ := h
  rw [references] at asked
  rw [decodeStringValue] at h
  cases parsed : parseCredentialReference rt value with
  | some own =>
    rw [parsed] at asked h
    cases List.mem_singleton.mp asked
    exact ⟨decoded, h⟩
  | none =>
    rw [parsed] at asked h
    dsimp only at asked h
    cases template : containsTemplate value with
    | false =>
      rw [template, if_pos rfl] at asked
      cases asked
    | true =>
      rw [template, if_neg (by simp)] at asked h
      cases single : singleTemplate rt value with
      | none =>
        rw [single] at asked h
        obtain ⟨text, substituted, _⟩ := bind_ok_iff.mp h
        exact granted_of_substitute substituted asked
      | some path =>
        rw [single] at asked h
        dsimp only at asked h
        cases resolved : resolveStateTemplatePath rt state path with
        | none =>
          rw [resolved] at asked
          cases asked
        | some found =>
          rw [resolved] at asked h
          simp only [resolveNestedCredentialString, Option.bind_some] at asked h
          rw [Option.mem_toList.mp asked] at h
          exact ⟨decoded, h⟩

theorem Decodes.serialisable (h : Decodes rt resolve state value) :
    ¬Unserialisable rt state value := by
  rintro ⟨parsed, template, path, found, single, resolved, refused⟩
  obtain ⟨decoded, h, accepted⟩ := h
  rw [decodeStringValue, parsed] at h
  simp only [template, single, resolved, Bool.true_eq_false, if_false,
    resolveNestedCredentialString] at h
  cases asked : placeholder rt found with
  | some reference =>
    rw [serialisable_of_placeholder asked] at refused
    cases refused
  | none =>
    rw [asked] at h
    cases h
    rw [accepted] at refused
    cases refused

theorem replace_congr (agree : ∀ reference ∈ pieceReference rt state (.template body),
      resolve reference = resolve' reference) :
    replace rt resolve state body = replace rt resolve' state body := by
  rw [replace, replace]
  cases resolved : resolveStateTemplatePath rt state (strip rt body) with
  | none => rfl
  | some value =>
    rw [pieceReference, resolved] at agree
    simp only [resolveNestedCredentialString]
    cases asked : placeholder rt value with
    | none => rfl
    | some reference => simp only [agree reference asked]

theorem substitute_congr (agree : ∀ reference ∈ ps.filterMap (pieceReference rt state),
      resolve reference = resolve' reference) :
    substitute rt resolve state ps = substitute rt resolve' state ps := by
  induction ps with
  | nil => rfl
  | cons p ps ih =>
    have later := ih fun reference asked => agree reference (by
      obtain ⟨q, member, asked⟩ := List.mem_filterMap.mp asked
      exact List.mem_filterMap.mpr ⟨q, List.mem_cons_of_mem p member, asked⟩)
    cases p with
    | char c => simp only [substitute, later]
    | template body =>
      have first := replace_congr fun reference asked => agree reference
        (List.mem_filterMap.mpr ⟨_, List.mem_cons_self, asked⟩)
      simp only [substitute, first, later]

theorem decodeStringValue_congr
    (agree : ∀ reference ∈ references rt state value, resolve reference = resolve' reference) :
    decodeStringValue rt resolve state value = decodeStringValue rt resolve' state value := by
  rw [references] at agree
  rw [decodeStringValue, decodeStringValue]
  cases parsed : parseCredentialReference rt value with
  | some reference =>
    rw [parsed] at agree
    exact agree reference (List.mem_singleton.mpr rfl)
  | none =>
    rw [parsed] at agree
    dsimp only at agree ⊢
    cases template : containsTemplate value with
    | false => rfl
    | true =>
      rw [template, if_neg (by simp)] at agree
      cases single : singleTemplate rt value with
      | none =>
        rw [single] at agree
        simp only [substitute_congr agree]
      | some path =>
        rw [single] at agree
        dsimp only at agree ⊢
        cases resolved : resolveStateTemplatePath rt state path with
        | none => rfl
        | some found =>
          rw [resolved] at agree
          simp only [resolveNestedCredentialString]
          cases asked : placeholder rt found with
          | none => rfl
          | some reference =>
            have same := agree reference (by simp [asked])
            simp only [same]

mutual
theorem decodeValue_iff : ∀ v : Value,
    (∃ w, decodeValue rt resolve state v = .ok w ∧ w.serialisable = true) ↔
      ∀ text ∈ texts v, Decodes rt resolve state text
  | .none => ⟨nofun, fun _ => ⟨_, rfl, rfl⟩⟩
  | .bool _ => ⟨nofun, fun _ => ⟨_, rfl, rfl⟩⟩
  | .int _ => ⟨nofun, fun _ => ⟨_, rfl, rfl⟩⟩
  | .float _ => ⟨nofun, fun _ => ⟨_, rfl, rfl⟩⟩
  | .str s => by simp [texts, decodeValue, Decodes]
  | .list xs => by
    rw [texts, ← decodeItems_iff xs]
    simp only [decodeValue, bind_ok_iff, pure_ok_iff]
    constructor
    · rintro ⟨_, ⟨items, decoded, rfl⟩, accepted⟩
      exact ⟨items, decoded, accepted⟩
    · rintro ⟨items, decoded, accepted⟩
      exact ⟨_, ⟨items, decoded, rfl⟩, accepted⟩
  | .tuple xs => by
    rw [texts, ← decodeItems_iff xs]
    simp only [decodeValue, bind_ok_iff, pure_ok_iff]
    constructor
    · rintro ⟨_, ⟨items, decoded, rfl⟩, accepted⟩
      exact ⟨items, decoded, accepted⟩
    · rintro ⟨items, decoded, accepted⟩
      exact ⟨_, ⟨items, decoded, rfl⟩, accepted⟩
  | .dict kvs => by
    rw [texts, ← decodeEntries_iff kvs]
    simp only [decodeValue, bind_ok_iff, pure_ok_iff]
    constructor
    · rintro ⟨_, ⟨entries, decoded, rfl⟩, accepted⟩
      exact ⟨entries, decoded, accepted⟩
    · rintro ⟨entries, decoded, accepted⟩
      exact ⟨_, ⟨entries, decoded, rfl⟩, accepted⟩

theorem decodeItems_iff : ∀ xs : List Value,
    (∃ ws, decodeItems rt resolve state xs = .ok ws ∧ serialisableItems ws = true) ↔
      ∀ text ∈ textsOfItems xs, Decodes rt resolve state text
  | [] => ⟨nofun, fun _ => ⟨_, rfl, rfl⟩⟩
  | x :: xs => by
    rw [textsOfItems, List.forall_mem_append, ← decodeValue_iff x, ← decodeItems_iff xs]
    simp only [decodeItems, bind_ok_iff, pure_ok_iff]
    constructor
    · rintro ⟨_, ⟨w, first, ws, rest, rfl⟩, accepted⟩
      rw [serialisableItems, Bool.and_eq_true] at accepted
      exact ⟨⟨w, first, accepted.1⟩, ⟨ws, rest, accepted.2⟩⟩
    · rintro ⟨⟨w, first, accepted⟩, ⟨ws, rest, accepted'⟩⟩
      exact ⟨_, ⟨w, first, ws, rest, rfl⟩, by simp [serialisableItems, accepted, accepted']⟩

theorem decodeEntries_iff : ∀ kvs : List (String × Value),
    (∃ ws, decodeEntries rt resolve state kvs = .ok ws ∧ serialisableEntries ws = true) ↔
      ∀ text ∈ textsOfEntries kvs, Decodes rt resolve state text
  | [] => ⟨nofun, fun _ => ⟨_, rfl, rfl⟩⟩
  | (key, x) :: kvs => by
    rw [textsOfEntries, List.forall_mem_append, ← decodeValue_iff x, ← decodeEntries_iff kvs]
    simp only [decodeEntries, bind_ok_iff, pure_ok_iff]
    constructor
    · rintro ⟨_, ⟨w, first, ws, rest, rfl⟩, accepted⟩
      simp only [serialisableEntries, DictKey.serialisable, Bool.and_eq_true,
        true_and] at accepted
      exact ⟨⟨w, first, accepted.1⟩, ⟨ws, rest, accepted.2⟩⟩
    · rintro ⟨⟨w, first, accepted⟩, ⟨ws, rest, accepted'⟩⟩
      exact ⟨_, ⟨w, first, ws, rest, rfl⟩,
        by simp [serialisableEntries, DictKey.serialisable, accepted, accepted']⟩
end

mutual
theorem decodeValue_congr : ∀ v : Value, (∀ text ∈ texts v,
    decodeStringValue rt resolve state text = decodeStringValue rt resolve' state text) →
      decodeValue rt resolve state v = decodeValue rt resolve' state v
  | .none, _ => rfl
  | .bool _, _ => rfl
  | .int _, _ => rfl
  | .float _, _ => rfl
  | .str s, agree => agree s.toList (List.mem_singleton.mpr rfl)
  | .list xs, agree => by simp only [decodeValue, decodeItems_congr xs agree]
  | .tuple xs, agree => by simp only [decodeValue, decodeItems_congr xs agree]
  | .dict kvs, agree => by simp only [decodeValue, decodeEntries_congr kvs agree]

theorem decodeItems_congr : ∀ xs : List Value, (∀ text ∈ textsOfItems xs,
    decodeStringValue rt resolve state text = decodeStringValue rt resolve' state text) →
      decodeItems rt resolve state xs = decodeItems rt resolve' state xs
  | [], _ => rfl
  | x :: xs, agree => by
    obtain ⟨first, rest⟩ := List.forall_mem_append.mp agree
    simp only [decodeItems, decodeValue_congr x first, decodeItems_congr xs rest]

theorem decodeEntries_congr : ∀ kvs : List (String × Value), (∀ text ∈ textsOfEntries kvs,
    decodeStringValue rt resolve state text = decodeStringValue rt resolve' state text) →
      decodeEntries rt resolve state kvs = decodeEntries rt resolve' state kvs
  | [], _ => rfl
  | (_, x) :: kvs, agree => by
    obtain ⟨first, rest⟩ := List.forall_mem_append.mp agree
    simp only [decodeEntries, decodeValue_congr x first, decodeEntries_congr kvs rest]
end

variable (fields : List (String × Value))

def fieldTexts : List Text := fields.flatMap fun f => texts f.2

theorem decodeFields_iff : (∃ ws, decodeFields rt resolve state fields = .ok ws ∧
        ∀ e ∈ ws, e.2.serialisable = true) ↔
      ∀ text ∈ fieldTexts fields, Decodes rt resolve state text := by
  induction fields with
  | nil => exact ⟨nofun, fun _ => ⟨[], rfl, by simp⟩⟩
  | cons f fields ih =>
    obtain ⟨field, x⟩ := f
    rw [fieldTexts, List.flatMap_cons, List.forall_mem_append, ← decodeValue_iff x]
    rw [fieldTexts] at ih
    rw [← ih]
    simp only [decodeFields, bind_ok_iff, pure_ok_iff]
    constructor
    · rintro ⟨_, ⟨w, first, ws, rest, rfl⟩, accepted⟩
      obtain ⟨accepted, accepted'⟩ := List.forall_mem_cons.mp accepted
      exact ⟨⟨w, first, accepted⟩, ⟨ws, rest, accepted'⟩⟩
    · rintro ⟨⟨w, first, accepted⟩, ⟨ws, rest, accepted'⟩⟩
      exact ⟨_, ⟨w, first, ws, rest, rfl⟩, List.forall_mem_cons.mpr ⟨accepted, accepted'⟩⟩

theorem decodeFields_congr (agree : ∀ text ∈ fieldTexts fields,
      decodeStringValue rt resolve state text = decodeStringValue rt resolve' state text) :
    decodeFields rt resolve state fields = decodeFields rt resolve' state fields := by
  induction fields with
  | nil => rfl
  | cons f fields ih =>
    rw [fieldTexts, List.flatMap_cons, List.forall_mem_append] at agree
    simp only [decodeFields, decodeValue_congr f.2 agree.1, ih agree.2]

def Refused (policy : NonSerialisablePolicy) (entries : List (Text × StateValue)) : Prop :=
  policy = .raise ∧ ∃ e ∈ entries, e.2.serialisable = false

theorem projectMapping_ok_iff {policy : NonSerialisablePolicy} (label : String)
    (entries projected : List (Text × StateValue)) :
    (∃ out, projectMapping policy label entries projected = .ok out) ↔ ¬Refused policy entries := by
  induction entries generalizing projected with
  | nil => simp [projectMapping, Refused]
  | cons e entries ih =>
    obtain ⟨key, value⟩ := e
    unfold projectMapping
    cases accepted : value.serialisable with
    | true =>
      rw [if_pos rfl, ih]
      simp [Refused, accepted]
    | false =>
      rw [if_neg (by simp)]
      cases policy with
      | raise => simp [Refused, accepted]
      | drop =>
        dsimp only
        rw [ih]
        simp [Refused]

variable {policy : NonSerialisablePolicy} {config : Option (List (Text × StateValue))}
  {spec : CodeNodeSpec}

def injectedTexts (spec : CodeNodeSpec) : List Text := fieldTexts (injectedFields spec)

theorem marshalInputs_ok_iff {resolver : Option Vault} :
    (∃ envelope, marshalInputs rt resolver spec policy state config = .ok envelope) ↔
      (∀ text ∈ injectedTexts spec,
        Decodes rt (resolveCredentialReference rt resolver) state text) ∧
        ¬Refused policy state ∧ ¬Refused policy (runConfigurable rt config) := by
  have configured : ∀ configurable : List (Text × StateValue),
      (∃ out, projectMapping .raise "configurable" configurable [] = .ok out) ↔
        ∀ e ∈ configurable, e.2.serialisable = true := by
    intro configurable
    rw [projectMapping_ok_iff]
    simp [Refused]
  rw [injectedTexts, ← decodeFields_iff, ← projectMapping_ok_iff "state" state [],
    ← projectMapping_ok_iff "config" (runConfigurable rt config) []]
  simp only [marshalInputs, buildInputsEnvelope, bind_ok_iff, pure_ok_iff]
  constructor
  · rintro ⟨_, fields, decoded, out, projected, out', projected', out'', projected'', _⟩
    exact ⟨⟨fields, decoded, (configured fields).mp ⟨out'', projected''⟩⟩, ⟨out, projected⟩,
      ⟨out', projected'⟩⟩
  · rintro ⟨⟨fields, decoded, accepted⟩, ⟨out, projected⟩, ⟨out', projected'⟩⟩
    obtain ⟨out'', projected''⟩ := (configured fields).mpr accepted
    exact ⟨_, fields, decoded, out, projected, out', projected', out'', projected'', rfl⟩

def CredentialReference.Supported (rt : TextRuntime) (reference : CredentialReference) : Prop :=
  match reference.payloadPath with
  | [] => True
  | head :: tail => rt.lower head = "secret".toList ∧ tail = [] ∨
      rt.lower head ≠ "secret".toList ∧ rt.lower head = "oauth".toList

theorem resolve_empty (reference : CredentialReference) (value : StateValue) :
    Vault.resolve rt [] reference ≠ .ok value := by
  have missing : Vault.locateMetadata rt [] reference.identifier =
      .error (.referenceNotFound reference.identifier) := by
    rw [Vault.locateMetadata]
    cases rt.parseUuid reference.identifier <;> rfl
  rw [Vault.resolve, missing]
  simp [bind, Except.bind]

theorem supported_of_resolve {vault : Vault}
    {value : StateValue} (h : vault.resolve rt reference = .ok value) :
    reference.Supported rt := by
  obtain ⟨credential, _, extracted⟩ := bind_ok_iff.mp h
  rw [CredentialReference.Supported]
  cases path : reference.payloadPath with
  | nil => trivial
  | cons head tail =>
    rw [path, extractPayload] at extracted
    split at extracted
    · rename_i secret
      split at extracted
      · rename_i whole
        exact .inl ⟨secret, whole⟩
      · cases extracted
    · rename_i other
      split at extracted
      · rename_i oauth
        exact .inr ⟨other, oauth⟩
      · cases extracted

/-- An OAuth credential with an empty secret and no tokens. -/
def blank (name : Text) : Credential := ⟨0, name, .oauth, [], none⟩

theorem extract_blank (name : Text) (supported : reference.Supported rt) :
    ∃ value, extractPayload rt (blank name) reference.payloadPath = .ok value ∧
      value.serialisable = true := by
  rw [CredentialReference.Supported] at supported
  cases path : reference.payloadPath with
  | nil => exact ⟨_, rfl, rfl⟩
  | cons head tail =>
    rw [path] at supported
    rw [extractPayload]
    cases supported with
    | inl secret =>
      rw [if_pos secret.1, if_pos secret.2]
      exact ⟨_, rfl, rfl⟩
    | inr oauth =>
      rw [if_neg oauth.1, if_pos oauth.2]
      exact ⟨_, rfl, rfl⟩

def blanks (names : List Text) : Vault := names.dedup.map blank

theorem byName_blanks {names : List Text} {name : Text} (member : name ∈ names) :
    (blanks names).byName name = [blank name] := by
  have one : names.dedup.filter (· == name) = [name] := by
    rw [List.filter_beq, List.count_eq_one_of_mem (List.nodup_dedup names)
      (List.mem_dedup.mpr member)]
    rfl
  rw [Vault.byName, blanks, List.filter_map]
  show List.map blank (names.dedup.filter (· == name)) = _
  rw [one]
  rfl

theorem exists_granting (rt : TextRuntime) (asked : List CredentialReference) :
    ∃ vault : Vault, ∀ reference ∈ asked, reference.Supported rt →
      ∃ value, vault.resolve rt reference = .ok value ∧ value.serialisable = true := by
  refine ⟨blanks (asked.map fun reference => strip rt reference.identifier), ?_⟩
  intro reference member supported
  have found : ∃ name, Vault.locateMetadata rt
      (blanks (asked.map fun reference => strip rt reference.identifier)) reference.identifier =
        .ok (blank name) := by
    rw [Vault.locateMetadata]
    cases byId : (rt.parseUuid reference.identifier).bind
      (Vault.byId? (blanks (asked.map fun reference => strip rt reference.identifier))) with
    | some credential =>
      obtain ⟨id, _, indexed⟩ := Option.bind_eq_some_iff.mp byId
      obtain ⟨name, _, rfl⟩ := List.mem_map.mp
        (List.mem_reverse.mp (List.mem_of_find?_eq_some indexed))
      exact ⟨name, rfl⟩
    | none =>
      dsimp only
      rw [byName_blanks (List.mem_map_of_mem member)]
      exact ⟨_, rfl⟩
  obtain ⟨name, located⟩ := found
  obtain ⟨value, extracted, accepted⟩ := extract_blank name supported
  exact ⟨value, bind_ok_iff.mpr ⟨_, located, extracted⟩, accepted⟩

def Isolated (rt : TextRuntime) (spec : CodeNodeSpec) (policy : NonSerialisablePolicy)
    (state : State) (config : Option (List (Text × StateValue))) : Prop :=
  ∀ (vault vault' : Vault) (envelope : InputsEnvelope),
    marshalInputs rt (some vault) spec policy state config = .ok envelope →
      marshalInputs rt (some vault') spec policy state config = .ok envelope

def injectedReferences (rt : TextRuntime) (spec : CodeNodeSpec) (state : State) :
    List CredentialReference :=
  (injectedTexts spec).flatMap (references rt state)

/-- No inputs are marshalled, whatever a vault holds. -/
inductive Withheld (rt : TextRuntime) (spec : CodeNodeSpec) (policy : NonSerialisablePolicy)
    (state : State) (config : Option (List (Text × StateValue))) : Prop
  | state (refused : Refused policy state)
  | config (refused : Refused policy (runConfigurable rt config))
  | payload (reference : CredentialReference)
      (asked : reference ∈ injectedReferences rt spec state)
      (unsupported : ¬reference.Supported rt)
  | value (text : Text) (injected : text ∈ injectedTexts spec)
      (unfit : Unserialisable rt state text)

theorem not_marshalled_of_withheld (h : Withheld rt spec policy state config) (vault : Vault)
    (envelope : InputsEnvelope) :
    marshalInputs rt (some vault) spec policy state config ≠ .ok envelope := by
  intro marshalled
  obtain ⟨decodes, stated, configured⟩ := marshalInputs_ok_iff.mp ⟨envelope, marshalled⟩
  cases h with
  | state refused => exact stated refused
  | config refused => exact configured refused
  | payload reference asked unsupported =>
    obtain ⟨text, member, asked⟩ := List.mem_flatMap.mp asked
    obtain ⟨value, given⟩ := (decodes text member).granted asked
    exact unsupported (supported_of_resolve given)
  | value text injected unfit => exact (decodes text injected).serialisable unfit

theorem marshalled_of_granted {vault : Vault}
    (granted : ∀ reference ∈ injectedReferences rt spec state,
      ∃ value, vault.resolve rt reference = .ok value ∧ value.serialisable = true)
    (h : ¬Withheld rt spec policy state config) :
    ∃ envelope, marshalInputs rt (some vault) spec policy state config = .ok envelope := by
  rw [marshalInputs_ok_iff]
  refine ⟨fun text member => decodes_of_granted
    (fun reference asked => granted reference (List.mem_flatMap.mpr ⟨text, member, asked⟩))
    fun unfit => h (.value text member unfit), ?_, ?_⟩
  · exact fun refused => h (.state refused)
  · exact fun refused => h (.config refused)

end Orcheo.Sandbox
