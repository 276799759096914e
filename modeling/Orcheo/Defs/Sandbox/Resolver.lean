import Mathlib.Logic.Equiv.List
import Orcheo.Defs.Sandbox.Credentials
import Orcheo.Lib.Except
import Orcheo.Lib.Run

/-! The credential resolver of a run with its caches, and the refreshes written behind them. -/

namespace Orcheo.Sandbox

open Lib (Dict AllSteps)

structure OAuthTokenSecrets where
  accessToken : Option Text := none
  refreshToken : Option Text := none
  expiresAt : Option Instant := none
  deriving DecidableEq

structure TokenInstances where
  make : OAuthTokenSecrets → Nat
  secrets : Nat → OAuthTokenSecrets
  secrets_make : ∀ tokens, secrets (make tokens) = tokens

inductive ResolverError
  | reference (error : InputError)
  | credentialNotFound
  | emptySecret
  | oauthOnly
  deriving DecidableEq

structure CredentialResolver where
  vault : Vault
  metadata : Option Vault := none
  secretCache : Dict Uuid Text := .empty
  oauthCache : Dict Uuid (Option Nat) := .empty

/-- The arguments of `persist_refreshed_tokens`. -/
structure Refresh where
  identifier : Text
  newAccessToken : Text
  newRefreshToken : Option Text := none
  fallbackRefreshToken : Option Text := none

def given (token : Option Text) : Option Text := token.filter (· ≠ [])

def Refresh.tokens (r : Refresh) : OAuthTokenSecrets where
  accessToken := given (some r.newAccessToken)
  refreshToken := (given r.newRefreshToken).or (given r.fallbackRefreshToken)

variable (ti : TokenInstances) (rt : TextRuntime)

/-- The payload that `update_oauth_tokens` stores. -/
def Refresh.payload (r : Refresh) : Option Nat :=
  if r.tokens = {} then none else some (ti.make r.tokens)

def Vault.update (vault : Vault) (id : Uuid) (f : Credential → Credential) : Vault :=
  vault.map fun c => if c.id = id then f c else c

namespace CredentialResolver

variable (s : CredentialResolver)

def index : Vault := s.metadata.getD s.vault

def loadMetadataIndex : CredentialResolver :=
  { s with metadata := some s.index }

variable (metadata : Credential)

def resolveSecret :
    CredentialResolver × Except ResolverError StateValue :=
  match s.secretCache.get? metadata.id with
  | some secret => (s, .ok (.str secret))
  | none => match s.vault.byId? metadata.id with
    | none => (s, .error .credentialNotFound)
    | some stored =>
      ({ s with secretCache := s.secretCache.set metadata.id stored.secret },
        .ok (.str stored.secret))

/-- The tokens come from the metadata as it was listed. -/
def resolveOauthTokens :
    CredentialResolver × Option Nat :=
  match metadata.kind with
  | .secret => (s, none)
  | .oauth => match s.oauthCache.get? metadata.id with
    | some (some tokens) => (s, some tokens)
    | _ => ({ s with oauthCache := s.oauthCache.set metadata.id metadata.tokens },
        metadata.tokens)

def extractPayload :
    List Text → CredentialResolver × Except ResolverError StateValue
  | [] => s.resolveSecret metadata
  | head :: tail =>
    if rt.lower head = "secret".toList ∧ tail = [] then s.resolveSecret metadata
    else if rt.lower head ≠ "secret".toList ∧ rt.lower head = "oauth".toList then
      ((s.resolveOauthTokens metadata).1,
        (extractOauth rt { metadata with tokens := (s.resolveOauthTokens metadata).2 }
          tail).mapError .reference)
    else (s, (Sandbox.extractPayload rt metadata (head :: tail)).mapError .reference)

def resolve (reference : CredentialReference) :
    CredentialResolver × Except ResolverError StateValue :=
  match s.index.locateMetadata rt reference.identifier with
  | .error error => (s.loadMetadataIndex, .error (.reference error))
  | .ok metadata => s.loadMetadataIndex.extractPayload rt metadata reference.payloadPath

def persistRefreshedTokens (r : Refresh) :
    CredentialResolver × Except ResolverError Bool :=
  match s.index.locateMetadata rt r.identifier with
  | .error _ => (s.loadMetadataIndex, .ok false)
  | .ok metadata => match s.vault.byId? metadata.id, metadata.kind with
    | none, _ => (s.loadMetadataIndex, .error .credentialNotFound)
    | some stored, .oauth =>
      if stored.kind = .secret then (s.loadMetadataIndex, .error .oauthOnly)
      else ({ s.loadMetadataIndex with
        vault := s.vault.update metadata.id fun c => { c with tokens := r.payload ti } },
        .ok true)
    | some _, .secret =>
      if strip rt r.newAccessToken = [] then (s.loadMetadataIndex, .error .emptySecret)
      else ({ s.loadMetadataIndex with
        vault := s.vault.update metadata.id fun c =>
          { c with secret := strip rt r.newAccessToken } }, .ok true)

end CredentialResolver

inductive ResolverCall
  | resolve (reference : CredentialReference)
  | persist (refresh : Refresh)

def CredentialResolver.step (s : CredentialResolver) : ResolverCall → CredentialResolver
  | .resolve reference => (s.resolve rt reference).1
  | .persist refresh => (s.persistRefreshedTokens ti rt refresh).1

def TokenInstances.fields (tokens : Option Nat) : OAuthTokenSecrets :=
  (tokens.map ti.secrets).getD {}

namespace CredentialResolver

variable (s : CredentialResolver)

/-- Every reference resolves to what a resolver without caches reads from the vault. -/
def ReadsWrites : Prop :=
  ∀ reference, (s.resolve rt reference).2 =
    (s.vault.resolve rt reference).mapError .reference

/-- A refresh that returned `True` stored what it was given and no other token field. -/
def Writes : ResolverCall → Prop
  | .resolve _ => True
  | .persist r => (s.persistRefreshedTokens ti rt r).2 = .ok true →
    ∃ stored stored', s.vault.locateMetadata rt r.identifier = .ok stored ∧
      (s.step ti rt (.persist r)).vault.locateMetadata rt r.identifier = .ok stored' ∧
      match stored.kind with
      | .secret => stored' = { stored with secret := strip rt r.newAccessToken }
      | .oauth => stored' = { stored with tokens := r.payload ti } ∧
        (ti.fields stored'.tokens).expiresAt = (ti.fields stored.tokens).expiresAt ∧
        (r.tokens.refreshToken = none →
          (ti.fields stored'.tokens).refreshToken = (ti.fields stored.tokens).refreshToken)

/-- A refresh finds no other secret in the cache, and changes no tokens. -/
def Fresh : ResolverCall → Prop
  | .resolve _ => True
  | .persist r => ∀ metadata, s.index.locateMetadata rt r.identifier = .ok metadata →
    match metadata.kind with
    | .secret => strip rt r.newAccessToken ≠ [] →
      ∀ cached, s.secretCache.get? metadata.id = some cached → cached = strip rt r.newAccessToken
    | .oauth => ∀ stored, s.vault.byId? metadata.id = some stored →
      stored.tokens = r.payload ti

end CredentialResolver

def Credential.listed (c : Credential) : Credential := { c with secret := [] }

theorem Credential.eq_of_listed {m c : Credential} (h : m.listed = c.listed) :
    m = { c with secret := m.secret } := by
  cases m
  cases c
  cases h
  rfl

namespace Vault

variable {rt} {vault : Vault}

theorem locateMetadata_map (f : Credential → Credential) (hid : ∀ c, (f c).id = c.id)
    (hname : ∀ c, (f c).name = c.name) (identifier : Text) :
    Vault.locateMetadata rt (vault.map f) identifier =
      (vault.locateMetadata rt identifier).map f := by
  have byId (id : Uuid) : Vault.byId? (vault.map f) id = (vault.byId? id).map f := by
    simp [Vault.byId?, ← List.map_reverse, List.find?_map, Function.comp_def, hid]
  have byName (name : Text) : Vault.byName (vault.map f) name = (vault.byName name).map f := by
    simp [Vault.byName, List.filter_map, Function.comp_def, hname]
  simp only [Vault.locateMetadata, byName]
  rw [show Vault.byId? (vault.map f) = fun id => (vault.byId? id).map f from funext byId]
  cases rt.parseUuid identifier with
  | none => cases vault.byName (strip rt identifier) with
    | nil => rfl
    | cons c rest => cases rest <;> rfl
  | some id => cases found : vault.byId? id with
    | some c => simp [found, Except.map]
    | none => cases vault.byName (strip rt identifier) with
      | nil => simp [found, Except.map]
      | cons c rest => cases rest <;> simp [found, Except.map]

theorem mem_of_locateMetadata {identifier : Text} {c : Credential}
    (h : vault.locateMetadata rt identifier = .ok c) : c ∈ vault := by
  rw [Vault.locateMetadata] at h
  split at h
  case h_1 found =>
    cases h
    obtain ⟨id, _, found⟩ := Option.bind_eq_some_iff.mp found
    exact List.mem_reverse.mp (List.mem_of_find?_eq_some found)
  case h_2 =>
    split at h
    · cases h
    · rename_i named
      cases h
      exact (List.mem_filter.mp (named ▸ List.mem_singleton_self c)).1
    · cases h

theorem eq_of_id (distinct : (vault.map (·.id)).Nodup) {c d : Credential} (hc : c ∈ vault)
    (hd : d ∈ vault) (h : c.id = d.id) : c = d := List.inj_on_of_nodup_map distinct hc hd h

theorem byId?_of_mem (distinct : (vault.map (·.id)).Nodup) {c : Credential} (hc : c ∈ vault) :
    vault.byId? c.id = some c := by
  cases found : vault.byId? c.id with
  | none =>
    have missing := List.find?_eq_none.mp found c (List.mem_reverse.mpr hc)
    simp at missing
  | some d =>
    have same : d.id = c.id := by simpa using List.find?_some found
    rw [eq_of_id distinct (List.mem_reverse.mp (List.mem_of_find?_eq_some found)) hc same]

theorem update_eq_self {id : Uuid} {f : Credential → Credential}
    (h : ∀ c ∈ vault, c.id = id → f c = c) : vault.update id f = vault := by
  refine (List.map_congr_left fun c hc => ?_).trans (List.map_id vault)
  split
  · exact h c hc ‹_›
  · rfl

end Vault

namespace CredentialResolver

/-- The index and the caches hold what the vault holds; the index shows no secrets. -/
structure Agrees (s : CredentialResolver) : Prop where
  distinct : (s.vault.map (·.id)).Nodup
  listed : s.index.map Credential.listed = s.vault.map Credential.listed
  secret : ∀ {id secret}, s.secretCache.get? id = some secret →
    ∀ c ∈ s.vault, c.id = id → c.secret = secret
  tokens : ∀ {id tokens}, s.oauthCache.get? id = some (some tokens) →
    ∀ c ∈ s.vault, c.id = id → c.tokens = some tokens

variable {ti rt} {s : CredentialResolver}

section

variable (h : s.Agrees)
include h

variable (rt) in
theorem Agrees.locate (identifier : Text) :
    (s.index.locateMetadata rt identifier).map Credential.listed =
      (s.vault.locateMetadata rt identifier).map Credential.listed := by
  rw [← Vault.locateMetadata_map Credential.listed (fun _ => rfl) (fun _ => rfl), h.listed,
    Vault.locateMetadata_map Credential.listed (fun _ => rfl) (fun _ => rfl)]

theorem Agrees.located {identifier : Text} {m : Credential}
    (hm : s.index.locateMetadata rt identifier = .ok m) :
    ∃ c ∈ s.vault, s.vault.locateMetadata rt identifier = .ok c ∧
      ∃ secret, m = { c with secret } := by
  have same := h.locate rt identifier
  rw [hm] at same
  cases hc : s.vault.locateMetadata rt identifier with
  | error e => rw [hc] at same; cases same
  | ok c =>
    rw [hc] at same
    exact ⟨c, Vault.mem_of_locateMetadata hc, rfl, _, Credential.eq_of_listed (Except.ok.inj same)⟩

theorem Agrees.load : s.loadMetadataIndex.Agrees := ⟨h.1, h.2, h.3, h.4⟩

variable {c : Credential}

theorem Agrees.resolveSecret (hc : c ∈ s.vault) (secret : Text) :
    s.resolveSecret { c with secret } =
        ((s.resolveSecret { c with secret }).1, .ok (.str c.secret)) ∧
      (s.resolveSecret { c with secret }).1.Agrees := by
  rw [CredentialResolver.resolveSecret]
  cases cached : s.secretCache.get? c.id with
  | some known => exact ⟨by rw [h.secret cached c hc rfl], h⟩
  | none =>
    simp only [Vault.byId?_of_mem h.distinct hc]
    refine ⟨trivial, h.distinct, h.listed, ?_, h.tokens⟩
    intro id secret hit d hd hid
    obtain ⟨same, rfl⟩ | ⟨-, hit⟩ := Dict.of_get?_set hit
    · rw [Vault.eq_of_id h.distinct hd hc (hid.trans same)]
    · exact h.secret hit d hd hid

theorem Agrees.resolveOauthTokens (hc : c ∈ s.vault) (secret : Text) : (c.kind = .secret ∨
        (s.resolveOauthTokens { c with secret }).2 = c.tokens) ∧
      (s.resolveOauthTokens { c with secret }).1.Agrees := by
  rw [CredentialResolver.resolveOauthTokens]
  cases kind : c.kind with
  | secret => exact ⟨.inl rfl, h⟩
  | oauth =>
    dsimp only
    split
    case h_1 tokens cached => exact ⟨.inr (h.tokens cached c hc rfl).symm, h⟩
    case h_2 =>
      refine ⟨.inr rfl, h.distinct, h.listed, h.secret, ?_⟩
      intro id tokens hit d hd hid
      rw [Dict.get?_set] at hit
      split at hit
      case isTrue same =>
        rw [Vault.eq_of_id h.distinct hd hc (hid.trans same)]
        exact Option.some.inj hit
      case isFalse => exact h.tokens hit d hd hid

theorem Agrees.extractPayload (hc : c ∈ s.vault) (secret : Text)
    (path : List Text) : (s.extractPayload rt { c with secret } path).2 =
        (Sandbox.extractPayload rt c path).mapError .reference ∧
      (s.extractPayload rt { c with secret } path).1.Agrees := by
  obtain ⟨value, kept⟩ := h.resolveSecret hc secret
  cases path with
  | nil => exact ⟨by rw [CredentialResolver.extractPayload, value]; rfl, kept⟩
  | cons head tail =>
    rw [CredentialResolver.extractPayload]
    split
    case isTrue whole =>
      refine ⟨?_, kept⟩
      rw [value, Sandbox.extractPayload, if_pos whole.1, if_pos whole.2]
      rfl
    case isFalse part =>
      split
      case isTrue oauth =>
        obtain ⟨tokens, kept⟩ := h.resolveOauthTokens hc secret
        refine ⟨?_, kept⟩
        rw [Sandbox.extractPayload, if_neg oauth.1, if_pos oauth.2]
        rcases tokens with kind | same
        · simp only [extractOauth, kind]
        · rw [same]
          rfl
      case isFalse other =>
        refine ⟨?_, h⟩
        simp only [Sandbox.extractPayload]
        split
        case isTrue named => rw [if_neg (part ⟨named, ·⟩), if_neg (part ⟨named, ·⟩)]
        case isFalse named => rw [if_neg (other ⟨named, ·⟩), if_neg (other ⟨named, ·⟩)]

theorem Agrees.resolve (reference : CredentialReference) :
    (s.resolve rt reference).2 = (s.vault.resolve rt reference).mapError .reference ∧
      (s.resolve rt reference).1.Agrees := by
  rw [CredentialResolver.resolve, Vault.resolve]
  cases hm : s.index.locateMetadata rt reference.identifier with
  | error e =>
    have same := h.locate rt reference.identifier
    rw [hm] at same
    refine ⟨?_, h.load⟩
    cases hc : s.vault.locateMetadata rt reference.identifier with
    | error e' => rw [hc] at same; cases same; rfl
    | ok c => rw [hc] at same; cases same
  | ok m =>
    obtain ⟨c, hc, located, secret, rfl⟩ := h.located hm
    rw [located]
    exact h.load.extractPayload hc secret reference.payloadPath

theorem Agrees.updateSecret {id : Uuid} {secret : Text}
    (fresh : ∀ cached, s.secretCache.get? id = some cached → cached = secret) :
    { s.loadMetadataIndex with
      vault := s.vault.update id fun c => { c with secret } }.Agrees where
  distinct := by
    show ((s.vault.update id _).map _).Nodup
    rw [Vault.update, List.map_map]
    convert h.distinct using 2
    funext c
    simp only [Function.comp_apply]
    split <;> rfl
  listed := by
    show s.index.map _ = (s.vault.update id _).map _
    rw [h.listed, Vault.update, List.map_map]
    congr 1
    funext c
    simp only [Function.comp_apply]
    split <;> rfl
  secret := by
    intro id' cached hit c' hc' hid
    obtain ⟨c, hc, rfl⟩ := List.mem_map.mp hc'
    split at hid
    case isTrue same =>
      rw [if_pos same]
      exact (fresh cached (by rw [← same]; exact hid ▸ hit)).symm
    case isFalse other => rw [if_neg other]; exact h.secret hit c hc hid
  tokens := by
    intro id' tokens hit c' hc' hid
    obtain ⟨c, hc, rfl⟩ := List.mem_map.mp hc'
    have kept := h.tokens hit c hc
    split at hid
    case isTrue same => rw [if_pos same]; exact kept hid
    case isFalse other => rw [if_neg other]; exact kept hid

theorem Agrees.step {call : ResolverCall} (fresh : s.Fresh ti rt call) :
    (s.step ti rt call).Agrees ∧ s.Writes ti rt call := by
  cases call with
  | resolve reference => exact ⟨(h.resolve reference).2, trivial⟩
  | persist r =>
    simp only [CredentialResolver.step, Writes, persistRefreshedTokens]
    cases hm : s.index.locateMetadata rt r.identifier with
    | error e => exact ⟨h.load, nofun⟩
    | ok m =>
      obtain ⟨c, hc, located, secret, rfl⟩ := h.located hm
      specialize fresh _ hm
      have stored := Vault.byId?_of_mem h.distinct hc
      simp only [stored]
      cases kind : c.kind with
      | oauth =>
        simp only [kind] at fresh
        have same : s.vault.update c.id (fun d => { d with tokens := r.payload ti }) = s.vault := by
          apply Vault.update_eq_self
          intro d hd hid
          rw [Vault.eq_of_id h.distinct hd hc hid, ← fresh c stored]
        have oauth : ¬c.kind = .secret := by rw [kind]; decide
        simp only [if_neg oauth, same]
        refine ⟨h.load, fun _ => ⟨c, c, located, located, ?_⟩⟩
        rw [← fresh c stored]
        split
        case h_1 secret => exact absurd secret oauth
        case h_2 => exact ⟨rfl, rfl, fun _ => rfl⟩
      | secret =>
        simp only [kind] at fresh
        dsimp only
        split
        case isTrue => exact ⟨h.load, nofun⟩
        case isFalse blank =>
          refine ⟨h.updateSecret (fresh blank), fun _ =>
            ⟨c, { c with secret := strip rt r.newAccessToken }, located, ?_, by rw [kind]⟩⟩
          show Vault.locateMetadata rt (s.vault.update c.id _) r.identifier = _
          rw [Vault.update, Vault.locateMetadata_map _ (fun d => by split <;> rfl)
            (fun d => by split <;> rfl), located]
          simp [Except.map]

end

/-- While every refresh is fresh, whatever the calls and their order, each refresh that
returned `True` wrote what it was given and nothing else, and everything resolves to it. -/
theorem reads_own_writes (store : Vault) (distinct : (store.map (·.id)).Nodup)
    (calls : List ResolverCall)
    (fresh : AllSteps (step ti rt) (Fresh ti rt) { vault := store } calls) :
    AllSteps (step ti rt)
      (fun s call => s.Writes ti rt call ∧ (s.step ti rt call).ReadsWrites rt)
      { vault := store } calls := by
  have opened : Agrees { vault := store } := by
    refine ⟨distinct, rfl, ?_, ?_⟩
    · intro id secret hit
      cases hit
    · intro id tokens hit
      cases hit
  refine AllSteps.of_invariant ?_ opened fresh
  intro s call agrees fresh
  obtain ⟨kept, wrote⟩ := agrees.step fresh
  exact ⟨kept, wrote, fun reference => (kept.resolve reference).1⟩

def textTokens : TokenInstances :=
  let _ : Encodable Char := .ofLeftInverse Char.toNat Char.ofNat Char.ofNat_toNat
  { make t := Encodable.encode (t.accessToken, t.refreshToken, t.expiresAt)
    secrets n := match Encodable.decode n with
      | some (access, refresh, expires) => ⟨access, refresh, expires⟩
      | none => {}
    secrets_make := by simp }

def textRuntime : TextRuntime where
  isspace := Char.isWhitespace
  lower text := text.map Char.toLower
  showInt n := (toString n).toList
  showFloat _ := []
  showKey _ := []
  parseUuid _ := none
  attr _ _ := none

def apiVault : Vault := [⟨1, "api".toList, .secret, "old".toList, none⟩]

theorem reads_own_writes_first : AllSteps (step textTokens textRuntime)
    (fun s call => s.Writes textTokens textRuntime call ∧
      (s.step textTokens textRuntime call).ReadsWrites textRuntime) { vault := apiVault }
    [.persist { identifier := "api".toList, newAccessToken := "new".toList },
      .resolve { identifier := "api".toList }] := by
  refine reads_own_writes apiVault (by decide) _ ⟨?_, trivial, trivial⟩
  intro metadata located
  cases located
  intro _ cached hit
  cases hit

theorem refresh_unread : ((step textTokens textRuntime { vault := apiVault }
        (.resolve { identifier := "api".toList })).persistRefreshedTokens textTokens textRuntime
      { identifier := "api".toList, newAccessToken := "new".toList }).2 = .ok true ∧
    ¬AllSteps (step textTokens textRuntime)
      (fun s call => s.Writes textTokens textRuntime call ∧
        (s.step textTokens textRuntime call).ReadsWrites textRuntime) { vault := apiVault }
      [.resolve { identifier := "api".toList },
        .persist { identifier := "api".toList, newAccessToken := "new".toList }] := by
  refine ⟨by decide +kernel, ?_⟩
  intro every
  have same := every.2.1.2 { identifier := "api".toList }
  have texts : "old".toList = "new".toList := StateValue.str.inj (Except.ok.inj same)
  exact absurd texts (by decide)

end CredentialResolver

end Orcheo.Sandbox
