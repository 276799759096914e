import Orcheo.Defs.HostedApps.RepositoryLaws

/-! Aliases of hosted apps: every app holds one, no two apps hold one alias, and an alias that an
app gives up is held by no app until its tombstone has run out. -/

namespace Orcheo.HostedApps

open Lib (Dict)
open Repository (TextRuntime)

def AppAlias.isOf (held : AppAlias) (workspaceId appId : Uuid) : Bool :=
  decide (held.workspaceId = some workspaceId ∧ held.appId = some appId ∧ held.reservedKind = .app)

def AppAlias.isTombstone (held : AppAlias) (until_ : Instant) : Prop :=
  held.reservedKind = .tombstone ∧ held.appId = none ∧ held.tombstonedUntil = some until_

namespace HostedAppsRepository

def getAlias (r : HostedAppsRepository) (workspaceId appId : Uuid) :
    Except HostedAppsError AppAlias := do
  let _ ← r.ensureAppScope workspaceId appId
  match r.aliases.values.find? (fun held => held.isOf workspaceId appId) with
  | some held => return held
  | none => .error (.notFound "Hosted app alias was not found.")

def Owns (r : HostedAppsRepository) (x : Uuid) (k : String) : Prop :=
  ∃ held, r.aliases.get? k = some held ∧ held.reservedKind = .app ∧ held.appId = some x

variable {r r' : HostedAppsRepository} {rt : TextRuntime} {env : Env} {store : Store}
  {c : Env × RepositoryOp}

theorem step_aliasing (rt : TextRuntime) (store : Store) (keyed : r.Keyed)
    (c : Env × RepositoryOp) : Aliasing r c.1 (r.step rt store c) :=
  (step_effect keyed c).aliasing

structure AliasSound (r : HostedAppsRepository) : Prop where
  keyed : r.Keyed
  aliasKeyed : r.AliasKeyed
  owned : ∀ k held x, r.aliases.get? k = some held → held.appId = some x →
    held.reservedKind = .app ∧ ∃ app, r.apps.get? x = some app ∧
      held.workspaceId = some app.workspaceId
  live : ∀ k held, r.aliases.get? k = some held → held.reservedKind = .app → held.appId ≠ none
  allowed : ∀ k held, r.aliases.get? k = some held → k ∉ defaultReservedAliases
  one : ∀ x app, r.apps.get? x = some app → ∃! k, r.Owns x k

variable {app persisted : HostedApp} {reservation held : AppAlias} {x : Uuid} {k : String}
  {now : Instant}

theorem AliasSound.fresh (tombstone : Duration) :
    AliasSound { aliasTombstone := tombstone } := by
  constructor
  case keyed => intro x app stored; cases stored
  case aliasKeyed => intro k held stored; cases stored
  case owned => intro k held x stored; cases stored
  case live => intro k held stored; cases stored
  case allowed => intro k held stored; cases stored
  case one => intro x app stored; cases stored

theorem AliasSound.stored_of_owns (sound : r.AliasSound) (owns : r.Owns x k) :
    ∃ app, r.apps.get? x = some app := by
  obtain ⟨held, stored, -, owner⟩ := owns
  obtain ⟨-, app, found, -⟩ := sound.owned k held x stored owner
  exact ⟨app, found⟩

theorem unowned_of_claimable (free : r.Claimable now k) (x : Uuid) :
    ¬ r.Owns x k := by
  rintro ⟨held, stored, kind, -⟩
  cases free with
  | inl absent =>
    rw [absent] at stored
    cases stored
  | inr tombstone =>
    obtain ⟨held', _, stored', kind', -⟩ := tombstone
    rw [stored, Option.some.injEq] at stored'
    rw [← stored', kind] at kind'
    cases kind'

structure Reserves (r : HostedAppsRepository) (app : HostedApp) (reservation : AppAlias) :
    Prop where
  owner : reservation.appId = some app.id
  kind : reservation.reservedKind = .app
  allowed : reservation.alias_ ∉ defaultReservedAliases
  others : ∀ x, r.Owns x reservation.alias_ → x = app.id

theorem Prepared.reserves (sound : r.AliasSound) (prepared : r.Prepared now app reservation) :
    r.Reserves app reservation := by
  cases prepared with
  | @own k _ stored owner =>
    have here : reservation.alias_ = k := sound.aliasKeyed k reservation stored
    constructor
    case owner => exact owner
    case kind => exact (sound.owned k reservation app.id stored owner).1
    case allowed => rw [here]; exact sound.allowed k reservation stored
    case others =>
      rintro x ⟨held', stored', -, owner'⟩
      rw [here, stored, Option.some.injEq] at stored'
      rw [← stored', owner, Option.some.injEq] at owner'
      exact owner'.symm
  | fresh allowed free =>
    constructor
    case owner => rfl
    case kind => rfl
    case allowed => exact allowed
    case others => exact fun x owns => absurd owns (unowned_of_claimable free x)

theorem Prepared.workspace (sound : r.AliasSound)
    (prepared : r.Prepared now app reservation) (stored : r.apps.get? app.id = some persisted)
    (same : persisted.workspaceId = app.workspaceId) :
    reservation.workspaceId = some persisted.workspaceId := by
  cases prepared with
  | @own k _ there owner =>
    obtain ⟨-, app', found, workspace⟩ := sound.owned k reservation app.id there owner
    rw [stored, Option.some.injEq] at found
    rw [workspace, found]
  | fresh => rw [same]

def Writes (r : HostedAppsRepository) (env : Env) (app : HostedApp) (reservation : AppAlias)
    (r' : HostedAppsRepository) : Prop :=
  ∀ j, r'.aliases.get? j = if j = reservation.alias_ then some reservation
    else (r.aliases.get? j).map (fun current =>
      if current.appId = some app.id then r.tombstoned env current else current)

theorem writes_of_renamed (keyed : r.AliasKeyed)
    (aliases : r'.aliases = r.renamed env app reservation) : r.Writes env app reservation r' := by
  intro j
  rw [aliases, renamed, Dict.get?_mapValues, Dict.get?_set]
  by_cases here : j = reservation.alias_
  · simp [here]
  · rw [if_neg here, if_neg here]
    cases stored : r.aliases.get? j with
    | none => rfl
    | some current =>
      have text : current.alias_ ≠ reservation.alias_ := by
        rw [keyed j current stored]
        exact here
      simp [text]

theorem writes_of_created (sound : r.AliasSound) (absent : r.apps.get? app.id = none)
    (aliases : r'.aliases = r.aliases.set reservation.alias_ reservation) :
    r.Writes env app reservation r' := by
  intro j
  rw [aliases, Dict.get?_set]
  by_cases here : j = reservation.alias_
  · rw [if_pos here, if_pos here]
  · rw [if_neg here, if_neg here]
    cases stored : r.aliases.get? j with
    | none => rfl
    | some current =>
      have foreign : current.appId ≠ some app.id := by
        intro owner
        obtain ⟨-, app', found, -⟩ := sound.owned j current app.id stored owner
        rw [absent] at found
        cases found
      simp [foreign]

theorem Writes.owns_iff (writes : r.Writes env app reservation r')
    (reserves : r.Reserves app reservation) (x : Uuid) (k : String) :
    r'.Owns x k ↔ x = app.id ∧ k = reservation.alias_ ∨ x ≠ app.id ∧ r.Owns x k := by
  rw [Owns, writes]
  by_cases here : k = reservation.alias_
  · rw [if_pos here]
    constructor
    · rintro ⟨held, is, -, owner⟩
      cases is
      rw [reserves.owner, Option.some.injEq] at owner
      exact Or.inl ⟨owner.symm, here⟩
    · rintro (same | other)
      · exact ⟨reservation, rfl, reserves.kind, by rw [reserves.owner, same.1]⟩
      · rw [here] at other
        exact absurd (reserves.others x other.2) other.1
  · rw [if_neg here]
    constructor
    · rintro ⟨held, mapped, kind, owner⟩
      obtain ⟨current, stored, rfl⟩ := Option.map_eq_some_iff.mp mapped
      by_cases old : current.appId = some app.id
      · rw [if_pos old] at kind
        cases kind
      · rw [if_neg old] at kind owner
        refine Or.inr ⟨?_, current, stored, kind, owner⟩
        rintro rfl
        exact old owner
    · rintro (same | other)
      · exact absurd same.2 here
      · obtain ⟨other, held, stored, kind, owner⟩ := other
        refine ⟨held, ?_, kind, owner⟩
        rw [stored, Option.map_some, if_neg]
        rw [owner, Option.some.injEq]
        exact other

theorem Writes.sound (sound : r.AliasSound) (writes : r.Writes env app reservation r')
    (reserves : r.Reserves app reservation) (keyed : r'.Keyed)
    (workspaces : ∀ x app', r.apps.get? x = some app' → ∃ app'', r'.apps.get? x = some app'' ∧
      app''.workspaceId = app'.workspaceId)
    (mine : ∃ app', r'.apps.get? app.id = some app' ∧
      reservation.workspaceId = some app'.workspaceId)
    (added : ∀ x app', r'.apps.get? x = some app' → x = app.id ∨
      ∃ app'', r.apps.get? x = some app'') : r'.AliasSound := by
  -- an alias is the reservation, or a tombstone, or as it was
  have cases_ {j : String} {held : AppAlias} (stored : r'.aliases.get? j = some held) :
      j = reservation.alias_ ∧ held = reservation ∨ j ≠ reservation.alias_ ∧ ∃ current,
        r.aliases.get? j = some current ∧ (held = r.tombstoned env current ∨ held = current) := by
    rw [writes] at stored
    by_cases here : j = reservation.alias_
    · rw [if_pos here, Option.some.injEq] at stored
      exact Or.inl ⟨here, stored.symm⟩
    · rw [if_neg here] at stored
      obtain ⟨current, there, is⟩ := Option.map_eq_some_iff.mp stored
      refine Or.inr ⟨here, current, there, ?_⟩
      by_cases old : current.appId = some app.id
      · rw [if_pos old] at is
        exact Or.inl is.symm
      · rw [if_neg old] at is
        exact Or.inr is.symm
  constructor
  case keyed => exact keyed
  case aliasKeyed =>
    intro j held stored
    rcases cases_ stored with ⟨here, rfl⟩ | ⟨-, current, there, rfl | rfl⟩
    · exact here.symm
    · exact sound.aliasKeyed j current there
    · exact sound.aliasKeyed j held there
  case owned =>
    intro j held x stored owner
    rcases cases_ stored with ⟨here, rfl⟩ | ⟨-, current, there, rfl | rfl⟩
    · rw [reserves.owner, Option.some.injEq] at owner
      rw [← owner]
      exact ⟨reserves.kind, mine⟩
    · cases owner
    · obtain ⟨kind, app', found, workspace⟩ := sound.owned j held x there owner
      obtain ⟨app'', found', same⟩ := workspaces x app' found
      exact ⟨kind, app'', found', by rw [workspace, same]⟩
  case live =>
    intro j held stored kind
    rcases cases_ stored with ⟨here, rfl⟩ | ⟨-, current, there, rfl | rfl⟩
    · rw [reserves.owner]
      exact Option.some_ne_none _
    · cases kind
    · exact sound.live j held there kind
  case allowed =>
    intro j held stored
    rcases cases_ stored with ⟨here, rfl⟩ | ⟨-, current, there, -⟩
    · rw [here]
      exact reserves.allowed
    · exact sound.allowed j current there
  case one =>
    intro x app' stored
    by_cases here : x = app.id
    · refine ⟨reservation.alias_, (writes.owns_iff reserves x _).mpr (Or.inl ⟨here, rfl⟩), ?_⟩
      intro k owns
      have only := (writes.owns_iff reserves x k).mp owns
      exact (only.resolve_right (fun other => other.1 here)).2
    · obtain ⟨app'', found⟩ := (added x app' stored).resolve_left here
      obtain ⟨k, owns, unique⟩ := sound.one x app'' found
      refine ⟨k, (writes.owns_iff reserves x k).mpr (Or.inr ⟨here, owns⟩), ?_⟩
      intro k' owns'
      have old := (writes.owns_iff reserves x k').mp owns'
      exact unique k' (old.resolve_left (fun mine => here mine.1)).2

theorem AliasSound.kept (sound : r.AliasSound) (aliases : r'.aliases = r.aliases) (keyed : r'.Keyed)
    (workspaces : ∀ x app, r.apps.get? x = some app → ∃ app', r'.apps.get? x = some app' ∧
      app'.workspaceId = app.workspaceId)
    (apps : ∀ x, r.apps.get? x = none → r'.apps.get? x = none) : r'.AliasSound := by
  constructor
  case keyed => exact keyed
  case aliasKeyed => rw [AliasKeyed, aliases]; exact sound.aliasKeyed
  case owned =>
    intro k held x stored owner
    rw [aliases] at stored
    obtain ⟨kind, app, found, workspace⟩ := sound.owned k held x stored owner
    obtain ⟨app', found', same⟩ := workspaces x app found
    exact ⟨kind, app', found', by rw [workspace, same]⟩
  case live => rw [aliases]; exact sound.live
  case allowed => rw [aliases]; exact sound.allowed
  case one =>
    intro x app' stored
    have owns : r'.Owns x = r.Owns x := by
      funext k
      rw [Owns, Owns, aliases]
    rw [owns]
    cases found : r.apps.get? x with
    | some app => exact sound.one x app found
    | none =>
      rw [apps x found] at stored
      cases stored

theorem AliasSound.reserved (sound : r.AliasSound) (free : r.aliases.get? k = none)
    (allowed : k ∉ defaultReservedAliases) (text : held.alias_ = k)
    (kind : held.reservedKind = .platform) (nobody : held.appId = none)
    (apps : r'.apps = r.apps) (aliases : r'.aliases = r.aliases.set k held) : r'.AliasSound := by
  have cases_ {j : String} {held' : AppAlias} (stored : r'.aliases.get? j = some held') :
      j = k ∧ held' = held ∨ r.aliases.get? j = some held' := by
    rw [aliases, Dict.get?_set] at stored
    by_cases here : j = k
    · rw [if_pos here, Option.some.injEq] at stored
      exact Or.inl ⟨here, stored.symm⟩
    · rw [if_neg here] at stored
      exact Or.inr stored
  constructor
  case keyed => rw [Keyed, apps]; exact sound.keyed
  case aliasKeyed =>
    intro j held' stored
    rcases cases_ stored with ⟨rfl, rfl⟩ | there
    · exact text
    · exact sound.aliasKeyed j held' there
  case owned =>
    intro j held' x stored owner
    rcases cases_ stored with ⟨-, rfl⟩ | there
    · rw [nobody] at owner
      cases owner
    · rw [apps]
      exact sound.owned j held' x there owner
  case live =>
    intro j held' stored app
    rcases cases_ stored with ⟨-, rfl⟩ | there
    · rw [kind] at app
      cases app
    · exact sound.live j held' there app
  case allowed =>
    intro j held' stored
    rcases cases_ stored with ⟨here, -⟩ | there
    · rw [here]
      exact allowed
    · exact sound.allowed j held' there
  case one =>
    intro x app stored
    have owns : r'.Owns x = r.Owns x := by
      funext j
      apply propext
      rw [Owns, Owns, aliases, Dict.get?_set]
      by_cases here : j = k
      · simp [here, free, nobody]
      · rw [if_neg here]
    rw [owns]
    rw [apps] at stored
    exact sound.one x app stored

theorem AliasSound.step (rt : TextRuntime) (store : Store) (sound : r.AliasSound)
    (c : Env × RepositoryOp) : (r.step rt store c).AliasSound := by
  have spec : StepSpec r c (r.step rt store c) := step_spec sound.keyed c
  have keyed := spec.keyed sound.keyed
  have workspaces (x : Uuid) (app : HostedApp) (stored : r.apps.get? x = some app) :
      ∃ app', (r.step rt store c).apps.get? x = some app' ∧
        app'.workspaceId = app.workspaceId := by
    obtain ⟨app', found, change⟩ := spec.apps.changed x app stored
    exact ⟨app', found, change.workspaceId_eq⟩
  cases step_aliasing rt store sound.keyed c with
  | kept span aliases apps => exact sound.kept aliases keyed workspaces apps
  | created span app reservation absent prepared apps aliases =>
    have writes : r.Writes c.1 app reservation (r.step rt store c) :=
      writes_of_created sound absent aliases
    apply writes.sound sound (prepared.reserves sound) keyed workspaces
    case mine =>
      refine ⟨app, by rw [apps, Dict.get?_set, if_pos rfl], ?_⟩
      cases prepared with
      | own stored owner =>
        obtain ⟨-, app', found, -⟩ := sound.owned _ _ _ stored owner
        rw [absent] at found
        cases found
      | fresh => rfl
    case added =>
      intro x app' stored
      rw [apps, Dict.get?_set] at stored
      by_cases here : x = app.id
      · exact Or.inl here
      · rw [if_neg here] at stored
        exact Or.inr ⟨app', stored⟩
  | renamed span app persisted reservation stored workspace prepared apps aliases =>
    have writes : r.Writes c.1 app reservation (r.step rt store c) :=
      writes_of_renamed sound.aliasKeyed aliases
    apply writes.sound sound (prepared.reserves sound) keyed workspaces
    case mine =>
      exact ⟨persisted, by rw [apps, stored], prepared.workspace sound stored workspace⟩
    case added =>
      intro x app' found
      rw [apps] at found
      exact Or.inr ⟨app', found⟩
  | reserved span k allowed free apps aliases =>
    exact sound.reserved free allowed rfl rfl rfl apps aliases

theorem step_unowned (rt : TextRuntime) (store : Store) (sound : r.AliasSound)
    (c : Env × RepositoryOp) (stored : r.aliases.get? k = some held)
    (nobody : held.appId = none) (taken : ¬ r.Claimable c.1.now k) :
    (r.step rt store c).aliases.get? k = some held := by
  have written {app : HostedApp} {reservation : AppAlias} {r' : HostedAppsRepository}
      (prepared : r.Prepared c.1.now app reservation)
      (writes : r.Writes c.1 app reservation r') : r'.aliases.get? k = some held := by
    have other : k ≠ reservation.alias_ := by
      rintro rfl
      cases prepared with
      | @own j _ there owner =>
        rw [sound.aliasKeyed j reservation there, there, Option.some.injEq] at stored
        rw [← stored, owner] at nobody
        cases nobody
      | fresh allowed free => exact taken free
    rw [writes, if_neg other, stored, Option.map_some, nobody, if_neg (Option.some_ne_none _).symm]
  cases step_aliasing rt store sound.keyed c with
  | kept span aliases => rw [aliases, stored]
  | created span app reservation absent prepared apps aliases =>
    exact written prepared (writes_of_created sound absent aliases)
  | renamed span app persisted reservation _ _ prepared apps aliases =>
    exact written prepared (writes_of_renamed sound.aliasKeyed aliases)
  | reserved span j allowed free apps aliases =>
    have other : k ≠ j := by
      rintro rfl
      rw [free] at stored
      cases stored
    rw [aliases, Dict.get?_set, if_neg other, stored]

theorem step_released (rt : TextRuntime) (store : Store) (sound : r.AliasSound)
    (c : Env × RepositoryOp) (owns : r.Owns x k) (lost : ¬ (r.step rt store c).Owns x k) :
    ∃ held, (r.step rt store c).aliases.get? k = some held ∧
      held.isTombstone (c.1.now + r.aliasTombstone) := by
  have same (aliases : (r.step rt store c).aliases.get? k = r.aliases.get? k) : False := by
    apply lost
    rw [Owns, aliases]
    exact owns
  obtain ⟨app₀, stored₀⟩ := sound.stored_of_owns owns
  cases step_aliasing rt store sound.keyed c with
  | kept span aliases => exact (same (by rw [aliases])).elim
  | created span app reservation absent prepared apps aliases =>
    have writes : r.Writes c.1 app reservation (r.step rt store c) :=
      writes_of_created sound absent aliases
    have other : x ≠ app.id := by
      rintro rfl
      rw [absent] at stored₀
      cases stored₀
    exact absurd ((writes.owns_iff (prepared.reserves sound) x k).mpr (Or.inr ⟨other, owns⟩)) lost
  | renamed span app persisted reservation _ _ prepared apps aliases =>
    have writes : r.Writes c.1 app reservation (r.step rt store c) :=
      writes_of_renamed sound.aliasKeyed aliases
    rw [writes.owns_iff (prepared.reserves sound), not_or, not_and, not_and] at lost
    have mine : x = app.id := by
      by_contra other
      exact lost.2 other owns
    obtain ⟨held, stored, kind, owner⟩ := owns
    refine ⟨r.tombstoned c.1 held, ?_, rfl, rfl, rfl⟩
    rw [writes, if_neg (lost.1 mine), stored, Option.map_some, if_pos (by rw [owner, mine])]
  | reserved span j allowed free apps aliases =>
    obtain ⟨held, stored, -, -⟩ := owns
    have other : k ≠ j := by
      rintro rfl
      rw [free] at stored
      cases stored
    exact (same (by rw [aliases, Dict.get?_set, if_neg other])).elim

theorem step_span (rt : TextRuntime) (store : Store) (keyed : r.Keyed) (c : Env × RepositoryOp) :
    (r.step rt store c).aliasTombstone = r.aliasTombstone := by
  cases step_aliasing rt store keyed c with
  | kept span => exact span
  | created span => exact span
  | renamed span => exact span
  | reserved span => exact span

theorem run_span (rt : TextRuntime) (store : Store) (keyed : r.Keyed)
    (ops : List (Env × RepositoryOp)) :
    (ops.foldl (HostedAppsRepository.step rt store) r).aliasTombstone = r.aliasTombstone := by
  induction ops generalizing r with
  | nil => rfl
  | cons c ops ih =>
    have spec : StepSpec r c (r.step rt store c) := step_spec keyed c
    rw [List.foldl_cons, ih (spec.keyed keyed), step_span rt store keyed c]

theorem run_unowned (rt : TextRuntime) (store : Store) (nobody : held.appId = none)
    (later : List (Env × RepositoryOp))
    (early : held.reservedKind = .tombstone → ∀ until_, held.tombstonedUntil = some until_ →
      ∀ c ∈ later, c.1.now < until_) (sound : r.AliasSound)
    (stored : r.aliases.get? k = some held) :
    (later.foldl (HostedAppsRepository.step rt store) r).aliases.get? k = some held := by
  induction later generalizing r with
  | nil => exact stored
  | cons c later ih =>
    rw [List.foldl_cons]
    apply ih
    case early =>
      exact fun kind until_ time c' mem => early kind until_ time c' (List.mem_cons_of_mem _ mem)
    case sound => exact sound.step rt store c
    case stored =>
      apply step_unowned rt store sound c stored nobody
      rintro (absent | tombstone)
      · rw [stored] at absent
        cases absent
      · obtain ⟨held', until_, there, kind, time, past⟩ := tombstone
        rw [stored, Option.some.injEq] at there
        rw [← there] at kind time
        exact absurd past (not_le.mpr (early kind until_ time c List.mem_cons_self))

theorem isOf_iff_owns (sound : r.AliasSound) (stored : r.apps.get? x = some app)
    (there : r.aliases.get? k = some held) :
    held.isOf app.workspaceId x = true ↔ r.Owns x k := by
  rw [AppAlias.isOf, decide_eq_true_iff]
  constructor
  · rintro ⟨-, owner, kind⟩
    exact ⟨held, there, kind, owner⟩
  · rintro ⟨held', there', kind, owner⟩
    rw [there, Option.some.injEq] at there'
    rw [← there'] at kind owner
    obtain ⟨-, app', found, workspace⟩ := sound.owned k held x there owner
    rw [stored, Option.some.injEq] at found
    exact ⟨by rw [workspace, found], owner, kind⟩

theorem getAlias_ok (sound : r.AliasSound) (stored : r.apps.get? x = some app) :
    ∃ held, r.getAlias app.workspaceId x = .ok held ∧ ∀ k, r.Owns x k ↔ k = held.alias_ := by
  have scope : r.ensureAppScope app.workspaceId x = .ok app := ensureAppScope_ok.mpr ⟨stored, rfl⟩
  obtain ⟨k, owns, unique⟩ := sound.one x app stored
  cases found : r.aliases.values.find? (fun held => held.isOf app.workspaceId x) with
  | none =>
    obtain ⟨held, there, -⟩ := id owns
    have no := List.find?_eq_none.mp found held ((Dict.mem_values_iff _ held).mpr ⟨k, there⟩)
    exact absurd ((isOf_iff_owns sound stored there).mpr owns) no
  | some held =>
    refine ⟨held, ?_, ?_⟩
    · rw [getAlias, scope]
      change (match r.aliases.values.find? _ with | some held => _ | none => _) = _
      rw [found]
      rfl
    · obtain ⟨k', there⟩ := (Dict.mem_values_iff _ held).mp (List.mem_of_find?_eq_some found)
      have is : held.isOf app.workspaceId x = true := by simpa using List.find?_some found
      have same : k' = k := unique k' ((isOf_iff_owns sound stored there).mp is)
      rw [sound.aliasKeyed k' held there, same]
      intro j
      constructor
      · exact unique j
      · rintro rfl
        exact owns

end HostedAppsRepository

open HostedAppsRepository (step getAlias_ok run_unowned step_released run_span)

/-- Through every run of the repository: each app holds exactly one alias, the one that
`get_alias` finds, no alias is held by two apps, platform aliases stay platform aliases and belong
to no app, and an alias that an app gives up belongs to no app until its tombstone has run out. -/
theorem aliases_owned (rt : TextRuntime) (store : Store) (tombstone : Duration)
    (ops : List (Env × RepositoryOp)) :
    let step := step rt store
    let r := ops.foldl step { aliasTombstone := tombstone }
    (∀ x app, r.apps.get? x = some app →
      ∃ held, r.getAlias app.workspaceId x = .ok held ∧ ∀ k, r.Owns x k ↔ k = held.alias_) ∧
    (∀ k x y, r.Owns x k → r.Owns y k → x = y) ∧
    (∀ k x, r.Owns x k → k ∉ defaultReservedAliases) ∧
    (∀ k held later, r.aliases.get? k = some held → held.reservedKind = .platform →
      ∀ x, ¬ (List.foldl step r later).Owns x k) ∧
    ∀ c k x later, r.Owns x k → ¬ (step r c).Owns x k →
      (∀ c' ∈ later, c'.1.now < c.1.now + tombstone) →
      ∀ y, ¬ (List.foldl step (step r c) later).Owns y k := by
  intro step r
  have sound : r.AliasSound :=
    Lib.foldl_invariant (P := HostedAppsRepository.AliasSound)
      (fun s c sound => HostedAppsRepository.AliasSound.step rt store sound c)
      (HostedAppsRepository.AliasSound.fresh tombstone) ops
  have stays {r : HostedAppsRepository} {held : AppAlias} {later : List (Env × RepositoryOp)}
      {k : String} (kept : (List.foldl step r later).aliases.get? k = some held)
      (nobody : held.appId = none) (x : Uuid) : ¬ (List.foldl step r later).Owns x k := by
    rintro ⟨held', there, -, owner⟩
    rw [kept, Option.some.injEq] at there
    rw [← there, nobody] at owner
    cases owner
  refine ⟨fun x app stored => getAlias_ok sound stored, ?_, ?_, ?_, ?_⟩
  · rintro k x y ⟨held, there, -, owner⟩ ⟨held', there', -, owner'⟩
    rw [there, Option.some.injEq] at there'
    rw [← there', owner, Option.some.injEq] at owner'
    exact owner'
  · rintro k x ⟨held, there, -⟩
    exact sound.allowed k held there
  · intro k held later there platform
    have nobody : held.appId = none := by
      cases owner : held.appId with
      | none => rfl
      | some x =>
        have kind := (sound.owned k held x there owner).1
        rw [platform] at kind
        cases kind
    apply stays (run_unowned rt store nobody later _ sound there) nobody
    intro kind
    rw [platform] at kind
    cases kind
  · intro c k x later owns lost early
    obtain ⟨held, there, kind, nobody, time⟩ :=
      step_released rt store sound c owns lost
    have span : r.aliasTombstone = tombstone :=
      run_span rt store (HostedAppsRepository.AliasSound.fresh tombstone).keyed
        ops
    apply stays (run_unowned rt store nobody later _
      (sound.step rt store c) there) nobody
    intro _ until_ is c' mem
    rw [time, Option.some.injEq] at is
    rw [← is, span]
    exact early c' mem

end Orcheo.HostedApps
