import Mathlib.Algebra.Group.Nat.Defs
import Mathlib.Data.List.Nodup
import Orcheo.Lib.Paging
import Orcheo.Defs.HostedApps.Aliases

/-! Pages of a workspace's apps, newest first, in both stores. -/

namespace Orcheo.HostedApps

open Lib (Dict Paging.follow Paging.Left bind_ok_iff)
open Repository (TextRuntime)
open HostedAppsRepository (step)

def hexDigit (n : Nat) : Char := "0123456789abcdef".toList.getD n '0'

def hexFrom : Nat → Nat → List Char
  | 0, _ => []
  | k + 1, n =>
    hexDigit (n / 16 ^ k % 16) ::
      if k = 24 ∨ k = 20 ∨ k = 16 ∨ k = 12 then '-' :: hexFrom k n else hexFrom k n

def uuidText (x : Uuid) : String := String.ofList (hexFrom 32 x)

example : uuidText 0x1b4e28ba2fa111d2883f0016d3cca427 = "1b4e28ba-2fa1-11d2-883f-0016d3cca427" := by
  decide +kernel

theorem hexDigit_lt_iff {a b : Nat} (smallA : a < 16) (smallB : b < 16) :
    hexDigit a < hexDigit b ↔ a < b := by
  have all : ∀ a b : Fin 16, hexDigit a.val < hexDigit b.val ↔ a.val < b.val := by decide +kernel
  exact all ⟨a, smallA⟩ ⟨b, smallB⟩

theorem hexDigit_inj {a b : Nat} (smallA : a < 16) (smallB : b < 16) :
    hexDigit a = hexDigit b ↔ a = b := by
  have all : ∀ a b : Fin 16, hexDigit a.val = hexDigit b.val ↔ a.val = b.val := by decide +kernel
  exact all ⟨a, smallA⟩ ⟨b, smallB⟩

theorem digit_lt_iff {m d e p q : Nat} (smallP : p < m) (smallQ : q < m) :
    p + m * d < q + m * e ↔ d < e ∨ d = e ∧ p < q := by
  rcases Nat.lt_trichotomy d e with below | rfl | above
  · have := Nat.mul_le_mul_left m (Nat.succ_le_of_lt below)
    rw [Nat.mul_succ] at this
    omega
  · omega
  · have := Nat.mul_le_mul_left m (Nat.succ_le_of_lt above)
    rw [Nat.mul_succ] at this
    omega

theorem hexFrom_lt_iff (k a b : Nat) : hexFrom k a < hexFrom k b ↔ a % 16 ^ k < b % 16 ^ k := by
  induction k with
  | zero => simp [hexFrom, Nat.mod_one]
  | succ k ih =>
    have digit (n : Nat) : n / 16 ^ k % 16 < 16 := Nat.mod_lt _ (by decide)
    have positive : 0 < 16 ^ k := Nat.pow_pos (by decide)
    have behind : ((if k = 24 ∨ k = 20 ∨ k = 16 ∨ k = 12 then '-' :: hexFrom k a
        else hexFrom k a) < if k = 24 ∨ k = 20 ∨ k = 16 ∨ k = 12 then '-' :: hexFrom k b
        else hexFrom k b) ↔ a % 16 ^ k < b % 16 ^ k := by
      by_cases group : k = 24 ∨ k = 20 ∨ k = 16 ∨ k = 12
      · rw [if_pos group, if_pos group, List.cons_lt_cons_iff]
        simpa using ih
      · rw [if_neg group, if_neg group, ih]
    rw [hexFrom, hexFrom, List.cons_lt_cons_iff, hexDigit_lt_iff (digit a) (digit b),
      hexDigit_inj (digit a) (digit b), behind, Nat.mod_pow_succ, Nat.mod_pow_succ,
      digit_lt_iff (Nat.mod_lt _ positive) (Nat.mod_lt _ positive)]

theorem uuidText_le_iff {a b : Uuid} (shortA : a < 2 ^ 128) (shortB : b < 2 ^ 128) :
    uuidText a ≤ uuidText b ↔ a ≤ b := by
  have width : 2 ^ 128 = 16 ^ 32 := by decide
  rw [← String.not_lt, ← Nat.not_lt, not_iff_not]
  change (uuidText b).toList < (uuidText a).toList ↔ _
  unfold uuidText
  rw [String.toList_ofList, String.toList_ofList, hexFrom_lt_iff,
    Nat.mod_eq_of_lt (width ▸ shortB), Nat.mod_eq_of_lt (width ▸ shortA)]

/-- `(updated_at, id) < cursor` -/
def HostedApp.isBefore (app : HostedApp) (cursor : Instant × Uuid) : Bool :=
  decide (app.updatedAt < cursor.1 ∨ app.updatedAt = cursor.1 ∧ app.id < cursor.2)

namespace HostedAppsRepository

variable (r : HostedAppsRepository)

def listApps (workspaceId : Uuid) : List HostedApp :=
  (r.apps.values.filter fun app => decide (app.workspaceId = workspaceId)).mergeSort fun a b =>
    decide (b.updatedAt < a.updatedAt ∨ b.updatedAt = a.updatedAt ∧ uuidText b.id ≤ uuidText a.id)

def joined : List (HostedApp × AppAlias) :=
  r.apps.values.flatMap fun app =>
    (r.aliases.values.filter fun held => held.isOf app.workspaceId app.id).map fun held =>
      (app, held)

def listAppsPage (store : Store) (workspaceId : Uuid) (cursor : Option (Instant × Uuid))
    (limit : Nat) : Except HostedAppsError (List (HostedApp × AppAlias) × Bool) :=
  match store with
  | .inMemory => do
    let apps := (r.listApps workspaceId).filter fun app => !app.isArchived
    let apps := apps.filter fun app => cursor.all app.isBefore
    let selected := apps.take (limit + 1)
    let page ← (selected.take limit).mapM fun app => do
      let held ← r.getAlias workspaceId app.id
      return (app, held)
    return (page, decide (limit < selected.length))
  | .postgres =>
    let rows := ((r.joined.filter fun row => decide (row.1.workspaceId = workspaceId) &&
      !row.1.isArchived && cursor.all row.1.isBefore).mergeSort fun a b =>
        decide (b.1.updatedAt < a.1.updatedAt ∨ b.1.updatedAt = a.1.updatedAt ∧
          b.1.id ≤ a.1.id)).take (limit + 1)
    let pairs := (rows.take limit).map fun row =>
      (row.1, { row.2 with appId := some row.1.id, workspaceId := some row.1.workspaceId })
    .ok (pairs, decide (limit < rows.length))

def fetchApps (store : Store) (workspaceId : Uuid) (limit : Nat)
    (cursor : Option (Instant × Uuid)) :
    Except HostedAppsError (List (HostedApp × AppAlias) × Option (Instant × Uuid)) := do
  let (page, hasMore) ← r.listAppsPage store workspaceId cursor limit
  return (page, if hasMore then page.getLast?.map fun row => (row.1.updatedAt, row.1.id) else none)

end HostedAppsRepository

def newest (a b : HostedApp) : Bool :=
  decide (b.updatedAt < a.updatedAt ∨ b.updatedAt = a.updatedAt ∧ b.id ≤ a.id)

theorem newest_trans (a b c : HostedApp) (ab : newest a b = true) (bc : newest b c = true) :
    newest a c = true := by
  unfold newest at *
  rw [decide_eq_true_iff] at *
  unfold Instant Uuid at *
  omega

theorem newest_total (a b : HostedApp) : (newest a b || newest b a) = true := by
  unfold newest
  rw [Bool.or_eq_true, decide_eq_true_iff, decide_eq_true_iff]
  unfold Instant Uuid at *
  omega

theorem isBefore_eq (a b : HostedApp) :
    a.isBefore (b.updatedAt, b.id) = !newest a b := by
  unfold HostedApp.isBefore newest
  rw [Bool.eq_iff_iff, Bool.not_eq_true', decide_eq_true_iff, decide_eq_false_iff_not]
  unfold Instant Uuid at *
  omega

namespace HostedAppsRepository

variable {r : HostedAppsRepository} {x : Uuid} {workspaceId : Uuid}

def listed (r : HostedAppsRepository) (workspaceId : Uuid) : List HostedApp :=
  r.apps.values.filter fun app => decide (app.workspaceId = workspaceId) && !app.isArchived

variable {app : HostedApp}

section

variable (keyed : r.Keyed)
include keyed

theorem get?_of_mem_listed (mem : app ∈ r.listed workspaceId) :
    r.apps.get? app.id = some app ∧ app.workspaceId = workspaceId := by
  obtain ⟨there, here⟩ := List.mem_filter.mp mem
  obtain ⟨x, stored⟩ := (Dict.mem_values_iff _ _).mp there
  rw [keyed x app stored]
  exact ⟨stored, of_decide_eq_true (Bool.and_eq_true_iff.mp here).1⟩

theorem nodup_ids : (r.apps.values.map HostedApp.id).Nodup :=
  Dict.KeyedBy.nodup_values keyed

theorem nodup_listed : (r.listed workspaceId).Nodup :=
  ((nodup_ids keyed).of_map _).filter _

theorem newest_antisymm (a : HostedApp) (memA : a ∈ r.apps.values)
    (b : HostedApp) (memB : b ∈ r.apps.values) (ab : newest a b = true) (ba : newest b a = true) :
    a = b := by
  have same : a.id = b.id := by
    unfold newest at ab ba
    rw [decide_eq_true_iff] at ab ba
    unfold Instant Uuid at *
    omega
  exact List.inj_on_of_nodup_map (nodup_ids keyed) memA memB same

theorem filter_listApps (short : ∀ x app, r.apps.get? x = some app → x < 2 ^ 128) :
    (r.listApps workspaceId).filter (fun app => !app.isArchived) =
      (r.listed workspaceId).mergeSort newest := by
  have bits (app : HostedApp) (mem : app ∈ r.apps.values) : app.id < 2 ^ 128 := by
    obtain ⟨x, stored⟩ := (Dict.mem_values_iff _ _).mp mem
    exact keyed x app stored ▸ short x app stored
  have sorted : r.listApps workspaceId =
      (r.apps.values.filter fun app => decide (app.workspaceId = workspaceId)).mergeSort newest := by
    unfold listApps
    refine (List.map_id _).symm.trans ((List.map_mergeSort ?_).trans (by rw [List.map_id]))
    intro a memA b memB
    have text := uuidText_le_iff (bits b (List.mem_of_mem_filter memB))
      (bits a (List.mem_of_mem_filter memA))
    simp only [id_eq, newest, text]
  rw [sorted, Lib.Paging.filter_mergeSort newest_trans newest_total, List.filter_filter, listed]
  · congr 2
    funext app
    exact Bool.and_comm _ _
  · intro a memA b memB
    exact newest_antisymm keyed a (List.mem_of_mem_filter memA) b (List.mem_of_mem_filter memB)

theorem filter_of_left {cursor : Option (Instant × Uuid)} {left : List HostedApp}
    (stands : Paging.Left ((r.listed workspaceId).mergeSort newest)
      (fun app => (app.updatedAt, app.id)) cursor left) :
    ((r.listed workspaceId).mergeSort newest).filter (fun app => cursor.all app.isBefore) =
      left := by
  rcases stands with ⟨first, all⟩ | ⟨before, last, split, next⟩
  · rw [first, all]
    exact List.filter_eq_self.mpr fun _ _ => rfl
  · rw [← Lib.Paging.filter_after newest_trans newest_total (nodup_listed keyed)
      (fun a memA b memB => newest_antisymm keyed a (List.mem_of_mem_filter memA) b
        (List.mem_of_mem_filter memB)) split, next]
    congr 1
    funext app
    exact isBefore_eq app last

end

/-- The alias that `get_alias` finds, which is there for every app. -/
def aliasOf (r : HostedAppsRepository) (app : HostedApp) : AppAlias :=
  (r.getAlias app.workspaceId app.id).toOption.getD { alias_ := "" }

def withAlias (r : HostedAppsRepository) (app : HostedApp) : HostedApp × AppAlias :=
  (app, r.aliasOf app)

theorem getAlias_aliasOf (sound : r.AliasSound) (stored : r.apps.get? app.id = some app) :
    r.getAlias app.workspaceId app.id = .ok (r.aliasOf app) := by
  obtain ⟨held, found, _⟩ := getAlias_ok sound stored
  rw [aliasOf, found]
  rfl

theorem find?_of_getAlias {held : AppAlias} (found : r.getAlias workspaceId x = .ok held) :
    r.aliases.values.find? (fun held => held.isOf workspaceId x) = some held := by
  obtain ⟨_, _, found⟩ := bind_ok_iff.mp found
  cases first : r.aliases.values.find? (fun held => held.isOf workspaceId x) with
  | none =>
    rw [first] at found
    cases found
  | some other =>
    rw [first] at found
    cases found
    rfl

section

variable (sound : r.AliasSound)
include sound

theorem filter_isOf (stored : r.apps.get? app.id = some app) :
    r.aliases.values.filter (fun held => held.isOf app.workspaceId app.id) = [r.aliasOf app] := by
  obtain ⟨held, found, only⟩ := getAlias_ok sound stored
  have first := find?_of_getAlias found
  rw [aliasOf, found]
  have names : (r.aliases.values.map AppAlias.alias_).Nodup :=
    Dict.KeyedBy.nodup_values sound.aliasKeyed
  have nodup := names.of_map _
  refine List.perm_singleton.mp ((List.perm_ext_iff_of_nodup (nodup.filter _)
    (List.nodup_singleton held)).mpr fun other => ?_)
  rw [List.mem_singleton, List.mem_filter, Dict.mem_values_iff]
  constructor
  · rintro ⟨⟨k, there⟩, is⟩
    have same := (only k).mp ((isOf_iff_owns sound stored there).mp is)
    obtain ⟨k', there'⟩ := (Dict.mem_values_iff _ _).mp (List.mem_of_find?_eq_some first)
    rw [same, sound.aliasKeyed k' held there', there', Option.some.injEq] at there
    exact there.symm
  · rintro rfl
    exact ⟨(Dict.mem_values_iff _ _).mp (List.mem_of_find?_eq_some first),
      by simpa using List.find?_some first⟩

theorem joined_eq : r.joined = r.apps.values.map r.withAlias := by
  unfold joined
  rw [List.map_eq_flatMap]
  apply List.flatMap_congr
  intro app mem
  obtain ⟨x, stored⟩ := (Dict.mem_values_iff _ _).mp mem
  rw [← sound.keyed x app stored] at stored
  rw [filter_isOf sound stored]
  rfl

theorem withAlias_eq (stored : r.apps.get? app.id = some app) :
    (app, { r.aliasOf app with appId := some app.id, workspaceId := some app.workspaceId }) =
      r.withAlias app := by
  have is : (r.aliasOf app).isOf app.workspaceId app.id = true := by
    have mem : r.aliasOf app ∈ r.aliases.values.filter
        (fun held => held.isOf app.workspaceId app.id) := by
      rw [filter_isOf sound stored]
      exact List.mem_singleton_self _
    exact (List.mem_filter.mp mem).2
  obtain ⟨workspace, owner, _⟩ := of_decide_eq_true is
  unfold withAlias
  rw [← workspace, ← owner]

theorem listAppsPage_eq
    (short : ∀ x app, r.apps.get? x = some app → x < 2 ^ 128) (store : Store) (limit : Nat)
    {cursor : Option (Instant × Uuid)} {left : List HostedApp}
    (stands : Paging.Left ((r.listed workspaceId).mergeSort newest)
      (fun app => (app.updatedAt, app.id)) cursor left) :
    r.listAppsPage store workspaceId cursor limit =
      .ok ((left.take limit).map r.withAlias, decide (limit < left.length)) := by
  have picked := filter_of_left sound.keyed stands
  have stored (app : HostedApp) (mem : app ∈ left.take limit) :
      r.apps.get? app.id = some app ∧ app.workspaceId = workspaceId := by
    have mem := List.mem_of_mem_take mem
    rw [← picked] at mem
    exact get?_of_mem_listed sound.keyed (List.mem_mergeSort.mp (List.mem_of_mem_filter mem))
  have taken : (left.take (limit + 1)).take limit = left.take limit := by
    rw [List.take_take, Nat.min_eq_left (Nat.le_succ limit)]
  have more : decide (limit < (left.take (limit + 1)).length) = decide (limit < left.length) := by
    rw [List.length_take, decide_eq_decide]
    omega
  cases store with
  | inMemory =>
    have all : ((left.take limit).mapM fun app => do
        let held ← r.getAlias workspaceId app.id
        return (app, held)) = .ok ((left.take limit).map r.withAlias) := by
      rw [Lib.mapM_ok_iff, List.forall₂_map_right_iff, List.forall₂_same]
      intro app mem
      obtain ⟨there, workspace⟩ := stored app mem
      rw [← workspace, getAlias_aliasOf sound there]
      rfl
    unfold listAppsPage
    simp only
    rw [filter_listApps sound.keyed short, picked, taken, all, more]
    rfl
  | postgres =>
    have rows : ((r.joined.filter fun row => decide (row.1.workspaceId = workspaceId) &&
        !row.1.isArchived && cursor.all row.1.isBefore).mergeSort fun a b =>
          decide (b.1.updatedAt < a.1.updatedAt ∨ b.1.updatedAt = a.1.updatedAt ∧
            b.1.id ≤ a.1.id)) = left.map r.withAlias := by
      rw [joined_eq sound, List.filter_map]
      refine (List.map_mergeSort (r := newest) (f := r.withAlias) fun _ _ _ _ => rfl).symm.trans
        (congrArg (List.map r.withAlias) ?_)
      rw [← picked, Lib.Paging.filter_mergeSort newest_trans newest_total, listed,
        List.filter_filter]
      · congr 2
        funext app
        exact Bool.and_comm _ _
      · intro a memA b memB
        exact newest_antisymm sound.keyed a (List.mem_of_mem_filter memA) b
          (List.mem_of_mem_filter memB)
    have same : ((left.take limit).map r.withAlias).map (fun row => (row.1,
        { row.2 with appId := some row.1.id, workspaceId := some row.1.workspaceId })) =
          (left.take limit).map r.withAlias := by
      rw [List.map_map]
      exact List.map_congr_left fun app mem => withAlias_eq sound (stored app mem).1
    unfold listAppsPage
    simp only
    rw [rows, ← List.map_take, ← List.map_take, taken, same, List.length_map, more]

theorem fetchApps_of_left
    (short : ∀ x app, r.apps.get? x = some app → x < 2 ^ 128) (store : Store) (limit : Nat)
    (cursor : Option (Instant × Uuid)) (left : List (HostedApp × AppAlias))
    (stands : Paging.Left (((r.listed workspaceId).mergeSort newest).map r.withAlias)
      (fun row => (row.1.updatedAt, row.1.id)) cursor left) :
    r.fetchApps store workspaceId limit cursor = .ok (left.take limit,
      if limit < left.length then
        (left.take limit).getLast?.map fun row => (row.1.updatedAt, row.1.id)
      else none) := by
  obtain ⟨apps, rfl, before⟩ := stands.of_map
  unfold fetchApps
  rw [listAppsPage_eq sound short store limit before, Lib.ok_bind, List.length_map, List.map_take]
  simp only [decide_eq_true_eq]
  rfl

end

end HostedAppsRepository

open HostedAppsRepository in
/-- In both stores, following the cursors from the first page on gives the apps of a workspace that
are not archived, each once with its alias and the newest first, whatever has been done before. -/
theorem app_pages_exhaustive (rt : TextRuntime) (store : Store) (tombstone : Duration)
    (ops : List (Env × RepositoryOp)) (workspaceId : Uuid) (limit : Nat) :
    let r := ops.foldl (step rt store) { aliasTombstone := tombstone }
    (∀ x app, r.apps.get? x = some app → x < 2 ^ 128) → 1 ≤ limit →
    ∃ pairs : List (HostedApp × AppAlias),
      (pairs.map Prod.fst).Perm (r.apps.values.filter fun app =>
        decide (app.workspaceId = workspaceId) && !app.isArchived) ∧
      (pairs.map Prod.fst).Pairwise (fun a b => b.updatedAt < a.updatedAt ∨
        b.updatedAt = a.updatedAt ∧ b.id < a.id) ∧
      (∀ row ∈ pairs, r.getAlias workspaceId row.1.id = .ok row.2) ∧
      ∀ fuel, pairs.length < fuel →
        Paging.follow (r.fetchApps store workspaceId limit) fuel none = .ok (some pairs) := by
  intro r short positive
  have sound : r.AliasSound := Lib.foldl_invariant (P := AliasSound)
    (fun _ c sound => AliasSound.step rt store sound c) (AliasSound.fresh tombstone) ops
  have apps : ((((r.listed workspaceId).mergeSort newest).map r.withAlias).map Prod.fst) =
      (r.listed workspaceId).mergeSort newest := by
    rw [List.map_map]
    exact List.map_id _
  refine ⟨((r.listed workspaceId).mergeSort newest).map r.withAlias, ?_, ?_, ?_, ?_⟩
  · rw [apps]
    exact List.mergeSort_perm _ _
  · rw [apps]
    refine (Lib.Paging.pairwise_mergeSort_lt newest_trans newest_total (nodup_listed sound.keyed)
      (fun a memA b memB => newest_antisymm sound.keyed a (List.mem_of_mem_filter memA) b
        (List.mem_of_mem_filter memB))).imp fun {a b} both => ?_
    have before := isBefore_eq b a
    rw [both.2, Bool.not_false, HostedApp.isBefore, decide_eq_true_iff] at before
    exact before
  · intro row mem
    obtain ⟨app, there, rfl⟩ := List.mem_map.mp mem
    obtain ⟨stored, workspace⟩ := get?_of_mem_listed sound.keyed (List.mem_mergeSort.mp there)
    rw [← workspace]
    exact getAlias_aliasOf sound stored
  · intro fuel enough
    exact (Lib.Paging.serves_of_left positive
      (fetchApps_of_left sound short store limit)).follow_eq positive (.inl ⟨rfl, rfl⟩) enough

def tiedApps : List (Env × RepositoryOp) :=
  [(⟨5, fun _ => true⟩, .createAppWithAlias
      { id := 7, workspaceId := 1, name := "Ada", createdBy := "ada", updatedAt := 5 } "alpha"),
    (⟨5, fun _ => true⟩, .createAppWithAlias
      { id := 8, workspaceId := 1, name := "Bob", createdBy := "ada", updatedAt := 5 } "beta"),
    (⟨6, fun _ => true⟩, .createAppWithAlias
      { id := 9, workspaceId := 1, name := "Cid", createdBy := "ada", updatedAt := 6,
        isArchived := true } "gamma")]

open HostedAppsRepository in
theorem app_pages_exhaustive_tied :
    let r := tiedApps.foldl (step TextRuntime.ascii .postgres)
      { aliasTombstone := 0 }
    ∃ pairs : List (HostedApp × AppAlias),
      (pairs.map Prod.fst).Perm (r.apps.values.filter fun app =>
        decide (app.workspaceId = 1) && !app.isArchived) ∧
      (pairs.map Prod.fst).Pairwise (fun a b => b.updatedAt < a.updatedAt ∨
        b.updatedAt = a.updatedAt ∧ b.id < a.id) ∧
      (∀ row ∈ pairs, r.getAlias 1 row.1.id = .ok row.2) ∧
      ∀ fuel, pairs.length < fuel →
        Paging.follow (r.fetchApps .postgres 1 1) fuel none = .ok (some pairs) := by
  apply app_pages_exhaustive TextRuntime.ascii .postgres 0 tiedApps 1 1
  · intro x app stored
    have keys : ∀ x ∈ (tiedApps.foldl (step TextRuntime.ascii .postgres)
        { aliasTombstone := 0 }).apps.keys, x < 2 ^ 128 := by decide +kernel
    exact keys x ((Dict.mem_keys_iff _ _).mpr ⟨app, stored⟩)
  · decide

end Orcheo.HostedApps
