import Orcheo.Lib.Run
import Orcheo.Defs.AppGateway.Assets

/-! Only assets of the selected deployment are served, to those who may see them. -/

namespace Orcheo.AppGateway

open HostedApps (BundleStore Text)
open Lib (Always)

variable (rt : AssetRuntime) (config : GatewayConfig)

/-- The descriptor is what the backend resolves the host to. Without a backend it stood in the file
when that was read, no longer ago than descriptors are kept. -/
def InForce (g : Gateway) (seen : List (Instant × Payload)) (host label : String)
    (monotonic : Instant) (descriptor : Payload) : Prop :=
  if config.backendUrl ≠ "" then g.resolveRemote rt config host = .ok (some descriptor)
  else ∃ read file, (read, file) ∈ seen ∧ monotonic < read + cacheDuration config ∧
    entryOf file label = some descriptor

/-- The request has the secret of a live session for the host, which belongs to the app that the
host resolves to, and to a member of its workspace. -/
def HasSession (g : Gateway) (r : AssetRequest) (host : String) : Prop :=
  ∃ backend secret canonical d session, g.backend = some backend ∧ r.session = some secret ∧
    backend.descriptor rt host = .ok (canonical, .published d) ∧
    backend.auth.sessions.get? (rt.hexdigest (rt.sha256 secret)) = some session ∧
    session.Live host d.generation r.now ∧ session.workspaceId = d.workspaceId ∧
    session.appId = d.appId ∧ (session.workspaceId, session.userId) ∈ backend.members

/-- The descriptor delivers an asset that the manifest of its deployment lists: the one that is
requested, or the index where the manifest does not list that. -/
structure Delivers (g : Gateway) (descriptor : Payload) (assetPath : Text) (deploymentId : Uuid)
    (path : String) (content : Bytes) : Prop where
  deployment : Gateway.deploymentOf rt descriptor = some deploymentId
  safe : isSafeAppPath rt ('/' :: lookedUp assetPath) = true
  listed : ∃ manifest files entry, g.readManifest rt config deploymentId = .ok manifest ∧
    Json.field? manifest "files" = some (.obj files) ∧
    Json.field? files path = some (.obj entry) ∧ (path = String.ofList (lookedUp assetPath) ∨
      Json.field? files (String.ofList (lookedUp assetPath)) = none ∧ path = "index.html")
  stored : g.readDeploymentObject config deploymentId path = .ok (some content)

structure ServesAsset (g : Gateway) (seen : List (Instant × Payload)) (r : AssetRequest)
    (deploymentId : Uuid) (path : String) (content : Bytes) : Prop where
  allowed : ∃ host label descriptor assetPath, route r.method r.path = .asset assetPath ∧
    isReserved assetPath = false ∧
    canonicalAppHost rt.toGatewayRuntime config r.hostHeader = some (host, label) ∧
    InForce rt config g seen host label r.monotonic descriptor ∧
    isSuspended descriptor = false ∧
    (Json.field? descriptor "visibility" = some (.str "private") → HasSession rt g r host) ∧
    Delivers rt config g descriptor assetPath deploymentId path content

variable {rt config}

variable {path host : String} {answer : Answer} {assetPath : Text} {descriptor : Payload}
  {g g' : Gateway} {r : AssetRequest} {now : Instant} {secret : Option String}
  {seen : List (Instant × Payload)} {content : Bytes} {deploymentId : Uuid}

theorem requestedAsset_ok {files : Payload} {requested : String}
    (found : requestedAsset (.obj files) requested = .ok path) :
    path = requested ∨ Json.field? files requested = none ∧ path = "index.html" := by
  unfold requestedAsset contains? at found
  dsimp only at found
  cases here : Json.field? files requested with
  | some entry =>
    rw [here] at found
    cases found
    exact Or.inl rfl
  | none =>
    rw [here] at found
    refine Or.inr ⟨rfl, ?_⟩
    cases index : Json.field? files "index.html" with
    | some entry =>
      rw [index] at found
      cases found
      rfl
    | none =>
      rw [index] at found
      cases found

theorem deliver_ok (delivered : g.deliver rt config descriptor assetPath = .ok answer) :
    ∃ deploymentId path content headers, answer = .asset deploymentId path content headers ∧
      Delivers rt config g descriptor assetPath deploymentId path content := by
  unfold Gateway.deliver at delivered
  split at delivered
  next => cases delivered
  next deploymentId deployment =>
    obtain ⟨manifest, read, delivered⟩ := Lib.bind_ok_iff.mp delivered
    split at delivered
    next => cases delivered
    next files stands =>
      split at delivered
      next => cases delivered
      next safe =>
        rw [Bool.not_eq_true, Bool.not_eq_false'] at safe
        obtain ⟨path, found, delivered⟩ := Lib.bind_ok_iff.mp delivered
        split at delivered
        next entries _ =>
          split at delivered
          next entry listed =>
            obtain ⟨headers, _, delivered⟩ := Lib.bind_ok_iff.mp delivered
            obtain ⟨object, stored, delivered⟩ := Lib.bind_ok_iff.mp delivered
            cases object with
            | none => cases delivered
            | some content =>
              obtain ⟨_, _, delivered⟩ := Lib.bind_ok_iff.mp delivered
              cases Lib.pure_ok_iff.mp delivered
              exact ⟨deploymentId, path, content, headers, rfl, deployment, safe,
                ⟨manifest, entries, entry, read, stands, listed, requestedAsset_ok found⟩, stored⟩
          next => cases delivered
        next => cases delivered

theorem sessionAuthenticated_true
    (found : g.sessionAuthenticated rt config r.session host r.now = (g', true)) :
    HasSession rt g r host := by
  unfold Gateway.sessionAuthenticated at found
  split at found
  next secret backend session reachable =>
    split at found
    next =>
      dsimp only at found
      obtain ⟨_, found⟩ := Prod.mk.inj found
      unfold Backend.inspectAppSession at found
      split at found
      next => cases found
      next canonical descriptor resolved =>
        dsimp only at found
        obtain ⟨held, same⟩ := Option.isSome_iff_exists.mp found
        obtain ⟨hash, session', d, hashed, published, stored, live, workspace, app, member⟩ :=
          HostedApps.AppAuthService.resolveAppSession_some (Prod.ext rfl same)
        cases hashed
        rw [published] at resolved
        exact ⟨backend, secret, canonical, d, session', reachable, session, resolved, stored, live,
          workspace, app, member⟩
    next => cases found
  next => cases found

structure Gateway.Noted (g g' : Gateway) : Prop where
  file : g'.descriptorFile = g.descriptorFile
  root : g'.root = g.root
  backend : g'.backend = g.backend ∨ ∃ backend auth, g.backend = some backend ∧
    g'.backend = some { backend with auth := auth }

theorem Gateway.Noted.reads (noted : g.Noted g') (deploymentId : Uuid) (path : String) :
    g'.readDeploymentObject config deploymentId path =
      g.readDeploymentObject config deploymentId path := by
  unfold Gateway.readDeploymentObject
  rw [noted.root]
  obtain same | ⟨backend, auth, before, after⟩ := noted.backend
  · rw [same]
  · rw [before, after]
    rfl

theorem Gateway.Noted.readManifest (noted : g.Noted g') (deploymentId : Uuid) :
    g'.readManifest rt config deploymentId = g.readManifest rt config deploymentId := by
  unfold Gateway.readManifest
  rw [noted.reads]

theorem Gateway.Noted.deliver (noted : g.Noted g') (descriptor : Payload) (assetPath : Text) :
    g'.deliver rt config descriptor assetPath = g.deliver rt config descriptor assetPath := by
  unfold Gateway.deliver
  simp only [noted.readManifest, noted.reads]

theorem sessionAuthenticated_noted
    : g.Noted (g.sessionAuthenticated rt config secret host now).1 := by
  unfold Gateway.sessionAuthenticated
  split
  next secret backend reachable =>
    split
    next =>
      refine ⟨rfl, rfl, Or.inr ?_⟩
      unfold Backend.inspectAppSession
      split
      · exact ⟨backend, backend.auth, reachable, rfl⟩
      · exact ⟨backend, _, reachable, rfl⟩
    next => exact ⟨rfl, rfl, Or.inl rfl⟩
  next => exact ⟨rfl, rfl, Or.inl rfl⟩

theorem sessionAuthenticated_cache
    : (g.sessionAuthenticated rt config secret host now).1.descriptorCache =
      g.descriptorCache := by
  unfold Gateway.sessionAuthenticated
  split
  · split <;> rfl
  · rfl

theorem sessionAuthenticated_congr (same : g'.backend = g.backend) :
    (g'.sessionAuthenticated rt config secret host now).2 =
      (g.sessionAuthenticated rt config secret host now).2 := by
  unfold Gateway.sessionAuthenticated
  rw [same]
  split
  · split <;> rfl
  · rfl

theorem HasSession.congr (same : g'.backend = g.backend) (has : HasSession rt g' r host) :
    HasSession rt g r host := by
  unfold HasSession at has ⊢
  rw [same] at has
  exact has

variable (config) in
def Kept (seen : List (Instant × Payload)) (cache : Lib.Dict String (Instant × Option Payload)) :
    Prop :=
  ∀ label expiry descriptor, cache.get? label = some (expiry, descriptor) →
    config.backendUrl = "" ∧ ∃ read file, (read, file) ∈ seen ∧
      expiry = read + cacheDuration config ∧ entryOf file label = descriptor

variable {entry : Instant × Payload}

theorem Kept.later
    {cache : Lib.Dict String (Instant × Option Payload)} (kept : Kept config seen cache) :
    Kept config (entry :: seen) cache := by
  intro label expiry descriptor found
  obtain ⟨apart, read, file, mem, holds⟩ := kept label expiry descriptor found
  exact ⟨apart, read, file, List.mem_cons_of_mem _ mem, holds⟩

theorem cacheDuration_pos : 0 < cacheDuration config := by
  have positive : (0 : Int) < (config.cacheSeconds.val + 1) * 1000000 := by omega
  exact positive

theorem lt_add_cacheDuration (t : Instant) : t < t + cacheDuration config :=
  Int.lt_add_of_pos_right t cacheDuration_pos

variable (rt config) in
theorem resolveDescriptor_noted (g : Gateway) (host label : String) (t : Instant) :
    g.Noted (g.resolveDescriptor rt config host label t).1 ∧
      (g.resolveDescriptor rt config host label t).1.backend = g.backend := by
  unfold Gateway.resolveDescriptor
  split
  next => exact ⟨⟨rfl, rfl, Or.inl rfl⟩, rfl⟩
  next =>
    split
    · split
      · exact ⟨⟨rfl, rfl, Or.inl rfl⟩, rfl⟩
      · exact ⟨⟨rfl, rfl, Or.inl rfl⟩, rfl⟩
    · exact ⟨⟨rfl, rfl, Or.inl rfl⟩, rfl⟩

variable (rt) in
theorem resolveDescriptor_kept
    (host label : String) (t : Instant) (kept : Kept config seen g.descriptorCache) :
    Kept config ((t, g.descriptorFile) :: seen)
      (g.resolveDescriptor rt config host label t).1.descriptorCache := by
  unfold Gateway.resolveDescriptor
  split
  next => exact kept.later
  next =>
    split
    next => split <;> exact kept.later
    next isFile =>
      intro label' expiry descriptor found
      dsimp only at found
      rw [Lib.Dict.get?_set] at found
      split at found
      next same =>
        cases found
        rw [same]
        exact ⟨Decidable.not_not.mp isFile, t, g.descriptorFile, List.mem_cons_self, rfl, rfl⟩
      next => exact kept.later label' expiry descriptor found

theorem resolveDescriptor_inForce {label : String} {t : Instant}
    (kept : Kept config seen g.descriptorCache)
    (resolved : (g.resolveDescriptor rt config host label t).2 = .ok (some descriptor)) :
    InForce rt config g ((t, g.descriptorFile) :: seen) host label t descriptor := by
  unfold Gateway.resolveDescriptor at resolved
  unfold InForce
  split at resolved
  next cached fresh =>
    obtain ⟨found, live⟩ := Option.filter_eq_some_iff.mp fresh
    obtain ⟨isFile, read, file, mem, expiry, entry⟩ := kept label cached.1 cached.2 found
    rw [if_neg (not_not_intro isFile)]
    have live := of_decide_eq_true live
    rw [expiry] at live
    exact ⟨read, file, List.mem_cons_of_mem _ mem, live, entry.trans (Except.ok.inj resolved)⟩
  next =>
    split at resolved
    next remote =>
      rw [if_pos remote]
      split at resolved
      next => cases resolved
      next => exact resolved
    next isFile =>
      rw [if_neg isFile]
      exact ⟨t, g.descriptorFile, List.mem_cons_self, lt_add_cacheDuration t,
        Except.ok.inj resolved⟩

theorem Delivers.congr (noted : g.Noted g')
    (delivers : Delivers rt config g' descriptor assetPath deploymentId path content) :
    Delivers rt config g descriptor assetPath deploymentId path content := by
  obtain ⟨deployment, safe, listed, stored⟩ := delivers
  rw [noted.reads] at stored
  rw [noted.readManifest] at listed
  exact ⟨deployment, safe, listed, stored⟩

theorem serveResolved_cache {descriptor : Option Payload} :
    (g.serveResolved rt config r host descriptor assetPath).1.descriptorCache =
      g.descriptorCache := by
  unfold Gateway.serveResolved
  cases descriptor with
  | none =>
    dsimp only
    split <;> rfl
  | some descriptor =>
    dsimp only
    repeat' split
    all_goals first
      | rfl
      | exact sessionAuthenticated_cache

theorem serveAsset_kept (kept : Kept config seen g.descriptorCache) :
    Kept config ((r.monotonic, g.descriptorFile) :: seen)
      (g.serveAsset rt config r assetPath).1.descriptorCache := by
  unfold Gateway.serveAsset
  split
  next => exact kept.later
  next host label _ =>
    have after := resolveDescriptor_kept rt host label r.monotonic kept
    dsimp only
    split
    next => exact after
    next =>
      rw [serveResolved_cache]
      exact after

theorem serveResolved_asset {descriptor : Option Payload} {headers : AssetHeaders}
    (answered : (g.serveResolved rt config r host descriptor assetPath).2 =
      .ok (.asset deploymentId path content headers)) :
    ∃ held, descriptor = some held ∧ isReserved assetPath = false ∧ isSuspended held = false ∧
      (Json.field? held "visibility" = some (.str "private") → HasSession rt g r host) ∧
      Delivers rt config g held assetPath deploymentId path content := by
  unfold Gateway.serveResolved at answered
  cases descriptor with
  | none =>
    dsimp only at answered
    split at answered <;> cases answered
  | some held =>
    dsimp only at answered
    split at answered
    next => cases answered
    next =>
      split at answered
      next => cases answered
      next unreserved =>
        split at answered
        next => cases answered
        next active =>
          refine ⟨held, rfl, Bool.eq_false_iff.mpr unreserved, Bool.eq_false_iff.mpr active, ?_⟩
          split at answered
          next isPrivate =>
            split at answered
            next authenticated =>
              obtain ⟨_, _, _, _, same, delivers⟩ := deliver_ok answered
              cases same
              exact ⟨fun _ => sessionAuthenticated_true (Prod.ext rfl authenticated),
                delivers.congr sessionAuthenticated_noted⟩
            next => cases answered
          next isPublic =>
            obtain ⟨_, _, _, _, same, delivers⟩ := deliver_ok answered
            cases same
            exact ⟨fun isPrivate => absurd isPrivate isPublic, delivers⟩

theorem serveAsset_asset {headers : AssetHeaders}
    (routed : route r.method r.path = .asset assetPath) (kept : Kept config seen g.descriptorCache)
    (answered : (g.serveAsset rt config r assetPath).2 =
      .ok (.asset deploymentId path content headers)) :
    ServesAsset rt config g ((r.monotonic, g.descriptorFile) :: seen) r deploymentId path
      content := by
  unfold Gateway.serveAsset at answered
  split at answered
  next => cases answered
  next host label canonical =>
    dsimp only at answered
    split at answered
    next => cases answered
    next descriptor resolved =>
      obtain ⟨held, rfl, unreserved, active, permitted, delivers⟩ := serveResolved_asset answered
      obtain ⟨noted, backend⟩ := resolveDescriptor_noted rt config g host label r.monotonic
      exact ⟨host, label, held, assetPath, routed, unreserved, canonical,
        resolveDescriptor_inForce kept resolved, active,
        fun isPrivate => (permitted isPrivate).congr backend, delivers.congr noted⟩

theorem serveAsset_reserved (reserved : isReserved assetPath = true)
    (answered : (g.serveAsset rt config r assetPath).2 = .ok answer) :
    assetPath = "__orcheo/config".toList ∧
      ∃ authenticated visibility, answer = .config authenticated visibility := by
  unfold Gateway.serveAsset at answered
  split at answered
  next => cases answered
  next =>
    dsimp only at answered
    split at answered
    next => cases answered
    next =>
      unfold Gateway.serveResolved at answered
      split at answered
      next => split at answered <;> cases answered
      next =>
        dsimp only at answered
        split at answered
        next isConfig =>
          cases answered
          exact ⟨isConfig, _, _, rfl⟩
        next => cases answered

structure Served where
  gateway : Gateway
  request : AssetRequest
  answer : Answer

structure Serving where
  gateway : Gateway := {}
  seen : List (Instant × Payload) := []
  served : List Served := []

/-- Everything but the gateway's own notes changes at any time. -/
inductive ServingTurn
  | change (backend : Option Backend) (descriptorFile : Payload) (root : BundleStore)
  | request (r : AssetRequest)

variable (rt config)

def Serving.step (s : Serving) : ServingTurn → Serving
  | .change backend descriptorFile root =>
    { s with gateway := { s.gateway with
        backend := backend, descriptorFile := descriptorFile, root := root } }
  | .request r =>
    let answered := s.gateway.answer rt config r
    { gateway := answered.1
      seen := (r.monotonic, s.gateway.descriptorFile) :: s.seen
      served := match answered.2 with
        | some (.ok answer) => ⟨s.gateway, r, answer⟩ :: s.served
        | _ => s.served }

structure Serving.Safe (s : Serving) : Prop where
  asset : ∀ v ∈ s.served, ∀ deploymentId path content headers,
    v.answer = .asset deploymentId path content headers →
      ServesAsset rt config v.gateway s.seen v.request deploymentId path content
  reserved : ∀ v ∈ s.served, ∀ assetPath, route v.request.method v.request.path = .asset assetPath →
    isReserved assetPath = true → assetPath = "__orcheo/config".toList ∧
      ∃ authenticated visibility, v.answer = .config authenticated visibility

structure Serving.Inv (s : Serving) : Prop where
  kept : Kept config s.seen s.gateway.descriptorCache
  safe : s.Safe rt config

variable {rt config}

theorem ServesAsset.later (serves : ServesAsset rt config g seen r deploymentId path content) :
    ServesAsset rt config g (entry :: seen) r deploymentId path content := by
  obtain ⟨host, label, descriptor, assetPath, routed, unreserved, canonical, inForce, rest⟩ :=
    serves.allowed
  refine ⟨host, label, descriptor, assetPath, routed, unreserved, canonical, ?_, rest⟩
  unfold InForce at inForce ⊢
  split
  next remote =>
    rw [if_pos remote] at inForce
    exact inForce
  next isFile =>
    rw [if_neg isFile] at inForce
    obtain ⟨read, file, mem, holds⟩ := inForce
    exact ⟨read, file, List.mem_cons_of_mem _ mem, holds⟩

theorem answer_ok (answered : (g.answer rt config r).2 = some (.ok answer)) : ∃ assetPath,
      route r.method r.path = .asset assetPath ∧
        (g.serveAsset rt config r assetPath).2 = .ok answer := by
  unfold Gateway.answer at answered
  split at answered
  next => cases answered
  next => cases answered
  next assetPath routed => exact ⟨assetPath, routed, Option.some.inj answered⟩

theorem answer_kept (kept : Kept config seen g.descriptorCache) :
    Kept config ((r.monotonic, g.descriptorFile) :: seen)
      (g.answer rt config r).1.descriptorCache := by
  unfold Gateway.answer
  split
  next => exact kept.later
  next => exact kept.later
  next => exact serveAsset_kept kept

theorem Serving.inv_step {s : Serving} (turn : ServingTurn) (inv : s.Inv rt config) :
    (s.step rt config turn).Inv rt config := by
  cases turn with
  | change backend descriptorFile root => exact ⟨inv.kept, inv.safe.asset, inv.safe.reserved⟩
  | request r =>
    refine ⟨answer_kept inv.kept, ?_, ?_⟩
    · intro v mem deploymentId path content headers isAsset
      unfold Serving.step at mem
      dsimp only at mem
      split at mem
      next answer answered =>
        obtain rfl | mem := List.mem_cons.mp mem
        · obtain ⟨assetPath, routed, served⟩ := answer_ok answered
          cases isAsset
          exact serveAsset_asset routed inv.kept served
        · exact (inv.safe.asset v mem _ _ _ _ isAsset).later
      next => exact (inv.safe.asset v mem _ _ _ _ isAsset).later
    · intro v mem assetPath routed reserved
      unfold Serving.step at mem
      dsimp only at mem
      split at mem
      next answer answered =>
        obtain rfl | mem := List.mem_cons.mp mem
        · obtain ⟨assetPath', routed', served⟩ := answer_ok answered
          cases routed.symm.trans routed'
          exact serveAsset_reserved reserved served
        · exact inv.safe.reserved v mem assetPath routed reserved
      next => exact inv.safe.reserved v mem assetPath routed reserved

theorem serving_safe (turns : List ServingTurn) :
    Always (Serving.step rt config) (Serving.Safe rt config) {} turns := by
  refine Lib.always_of_invariant (I := Serving.Inv rt config) (fun _ inv => inv.safe)
    (fun _ turn inv => Serving.inv_step turn inv) ⟨?_, ?_, ?_⟩ turns
  · intro label expiry descriptor found
    cases found
  · intro v mem
    cases mem
  · intro v mem
    cases mem

end Orcheo.AppGateway
