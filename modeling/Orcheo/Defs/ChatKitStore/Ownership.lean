import Orcheo.Defs.ChatKitStore.InMemory
import Orcheo.Defs.ChatKitStore.Postgres

/-! Which calls leave the threads of other owners alone. -/

namespace Orcheo.ChatKitStore

open Lib (AllSteps Dict)

structure OwnedStore (S V : Type) where
  exec : ChatRequest → S → S × ChatAnswer
  owner : S → String → Option String
  view : S → String → V

def ChatAnswer.Shows (threadId : String) : ChatAnswer → Prop
  | .thread metadata => metadata.id = threadId
  | .threads page => ∃ metadata ∈ page.data, metadata.id = threadId
  | .items source page => source = threadId ∧ page.data ≠ []
  | .item source _ => source = threadId
  | _ => False

namespace OwnedStore

variable {S V : Type} (store : OwnedStore S V)

def Foreign (context : ChatKitRequestContext) (s : S) (threadId : String) : Prop :=
  ∃ owner caller, store.owner s threadId = some owner ∧ context.ownerKey = some caller ∧
    owner ≠ caller

def Respects (s : S) (request : ChatRequest) : Prop :=
  ∀ threadId, store.Foreign request.context s threadId →
    store.view (store.exec request s).1 threadId = store.view s threadId ∧
      ¬ (store.exec request s).2.Shows threadId

variable {store} {s : S} {request : ChatRequest}

theorem respects_iff_at (threadId : String) (others : ∀ other ≠ threadId,
    store.view (store.exec request s).1 other = store.view s other ∧
      ¬ (store.exec request s).2.Shows other) :
    store.Respects s request ↔ (store.Foreign request.context s threadId →
      store.view (store.exec request s).1 threadId = store.view s threadId ∧
        ¬ (store.exec request s).2.Shows threadId) := by
  constructor
  · exact fun respects => respects threadId
  · intro here other foreign
    by_cases same : other = threadId
    · rw [same] at foreign ⊢
      exact here foreign
    · exact others other same

theorem Foreign.not_matches {context : ChatKitRequestContext} {threadId : String}
    (foreign : store.Foreign context s threadId) {ownerKey : Option String}
    (owned : store.owner s threadId = ownerKey) : ownerMatches ownerKey context = false := by
  obtain ⟨owner, caller, here, asks, other⟩ := foreign
  rw [← owned, here]
  unfold ownerMatches
  rw [asks]
  simpa using other

end OwnedStore

open OwnedStore (respects_iff_at)

variable {α : Type} {items : List α}

theorem mem_of_mem_slice {start stop : Int} {item : α}
    (mem : item ∈ slice items start stop) : item ∈ items :=
  List.mem_of_mem_take (List.mem_of_mem_drop mem)

variable {id : α → String}

theorem mem_of_mem_page {after : Option String}
    {limit : Int} {item : α} (mem : item ∈ (pageOf id items after limit).data) : item ∈ items :=
  mem_of_mem_slice (mem_of_mem_slice mem)

theorem mem_byCreation {createdAt : α → Instant} {order : String}
    {item : α} : item ∈ byCreation createdAt order items ↔ item ∈ items := by
  unfold byCreation
  split <;> exact List.mem_mergeSort

theorem mem_of_mem_limited {rows : List α} {limit : Int} {row : α}
    (mem : row ∈ (limited id rows limit).data) : row ∈ rows :=
  List.mem_of_mem_take (List.mem_of_mem_take mem)

theorem limited_eq_nil {rows : List α} {limit : Int} :
    (limited id rows limit).data = [] ↔ rows = [] := by
  have positive : (max limit 1).toNat ≠ 0 := by omega
  show (rows.take ((max limit 1).toNat + 1)).take (max limit 1).toNat = [] ↔ _
  rw [List.take_eq_nil_iff, List.take_eq_nil_iff]
  simp [positive]

theorem mem_of_mem_selected {rt : StoreRuntime} {α : Type} {key : α → Int × String}
    {order : String} {marker : Option (Int × String)} {rows : List α} {row : α}
    (mem : row ∈ selected rt key order marker rows) : row ∈ rows :=
  List.mem_of_mem_filter (List.mem_mergeSort.mp mem)

section InMemory

variable (rt : StoreRuntime)

def inMemory : OwnedStore InMemoryStore (Option ThreadState) where
  exec := InMemoryStore.exec rt
  owner store threadId := (store.threads.get? threadId).bind ThreadState.ownerKey
  view store threadId := store.threads.get? threadId

/-- A save writes what is there, and a call about items of another owner's thread finds nothing to
show or to change. -/
def InMemoryStore.Spares (store : InMemoryStore) (request : ChatRequest) : Prop :=
  let foreign := (inMemory rt).Foreign request.context store
  let itemsOf (threadId : String) := (store.stateFor request.now threadId).items
  match request.call with
  | .loadThread _ | .loadThreads _ _ _ | .deleteThread _ => True
  | .saveThread thread => foreign thread.id →
    let state := store.stateFor request.now thread.id
    saved rt request.context thread = state.thread ∧
      request.context.workspaceId = state.workspaceId
  | .loadThreadItems threadId after limit order => foreign threadId →
    (pageOf ThreadItem.id (byCreation ThreadItem.createdAt order (itemsOf threadId)) after
      limit).data = []
  | .addThreadItem threadId _ => ¬ foreign threadId
  | .saveItem threadId item => foreign threadId →
    (itemsOf threadId).find? (fun existing => existing.id = item.id) = some item
  | .loadItem threadId itemId | .deleteThreadItem threadId itemId => foreign threadId →
    ∀ item ∈ itemsOf threadId, item.id ≠ itemId

variable {rt} {store : InMemoryStore} {request : ChatRequest} {now : Instant} {threadId : String}

namespace InMemoryStore

variable (now) in
theorem stateFor_of_foreign (foreign : (inMemory rt).Foreign request.context store threadId) :
    store.threads.get? threadId = some (store.stateFor now threadId) := by
  obtain ⟨owner, caller, here, _⟩ := foreign
  unfold stateFor
  cases there : store.threads.get? threadId with
  | none =>
    have none_of : (inMemory rt).owner store threadId = none := by
      show (store.threads.get? threadId).bind _ = none
      rw [there]
      rfl
    rw [none_of] at here
    cases here
  | some state => rfl

theorem replaced_eq_self {item : ThreadItem} {items : List ThreadItem} :
    replaced item items = items ↔
      items.find? (fun existing => existing.id = item.id) = some item := by
  induction items with
  | nil => simp [replaced]
  | cons existing items ih =>
    rw [replaced, List.find?_cons]
    by_cases same : existing.id = item.id
    · simp only [same, if_true, decide_true, List.cons.injEq, and_true, Option.some.injEq]
      exact eq_comm
    · simp only [same, if_false, decide_false, List.cons.injEq, true_and]
      exact ih

theorem respects_withItems (items : List ThreadItem) (answer : ChatAnswer)
    (left : (inMemory rt).exec request store = (store.withItems request.now threadId items, answer))
    (only : ∀ other, answer.Shows other → other = threadId) :
    (inMemory rt).Respects store request ↔ ((inMemory rt).Foreign request.context store threadId →
      items = (store.stateFor request.now threadId).items ∧ ¬ answer.Shows threadId) := by
  have view_eq (other : String) :
      (inMemory rt).view (store.withItems request.now threadId items) other =
        if other = threadId then some { store.stateFor request.now threadId with items := items }
        else store.threads.get? other := Dict.get?_set _ _ _ _
  rw [respects_iff_at threadId, left]
  · refine imp_congr_right (fun foreign => and_congr_left (fun _ => ?_))
    rw [view_eq, if_pos rfl]
    show some _ = store.threads.get? threadId ↔ _
    rw [stateFor_of_foreign request.now foreign, Option.some.injEq]
    constructor
    · intro same
      exact congrArg ThreadState.items same
    · intro same
      rw [same]
  · intro other distinct
    rw [left, view_eq, if_neg distinct]
    exact ⟨rfl, fun shown => distinct (only other shown)⟩

variable {context : ChatKitRequestContext}

theorem respects_loadThread :
    (inMemory rt).Respects store ⟨context, now, .loadThread threadId⟩ := by
  intro other foreign
  refine ⟨rfl, fun shown => ?_⟩
  change (store.loadThread context threadId).Shows other at shown
  unfold loadThread at shown
  cases there : store.threads.get? threadId with
  | none =>
    rw [there] at shown
    exact shown
  | some state =>
    rw [there] at shown
    dsimp only at shown
    by_cases allowed : ownerMatches state.ownerKey context = true
    · rw [if_pos allowed] at shown
      have same : other = threadId := shown.symm.trans (store.keyed threadId state there)
      rw [same] at foreign
      have owned : (inMemory rt).owner store threadId = state.ownerKey := by
        show (store.threads.get? threadId).bind _ = _
        rw [there]
        rfl
      rw [foreign.not_matches owned] at allowed
      cases allowed
    · rw [if_neg allowed] at shown
      exact shown

theorem respects_loadThreads {limit : Int} {after : Option String} {order : String} :
    (inMemory rt).Respects store ⟨context, now, .loadThreads limit after order⟩ := by
  intro other foreign
  refine ⟨rfl, ?_⟩
  rintro ⟨thread, mem, same⟩
  obtain ⟨state, among, rfl⟩ := List.mem_map.mp (mem_byCreation.mp (mem_of_mem_page mem))
  obtain ⟨value, allowed⟩ := List.mem_filter.mp among
  obtain ⟨key, there⟩ := (store.threads.mem_values_iff state).mp value
  have at_other : store.threads.get? other = some state := by
    have key_eq : state.thread.id = key := store.keyed key state there
    rw [← same, key_eq, there]
  obtain ⟨owner, caller, owned, asks, distinct⟩ := foreign
  have key_of : state.ownerKey = some owner := by
    change (store.threads.get? other).bind _ = _ at owned
    rwa [at_other] at owned
  unfold listed at allowed
  rw [Bool.and_eq_true, Bool.and_eq_true, key_of] at allowed
  have own := allowed.2
  dsimp only at own
  rw [asks] at own
  exact distinct (by simpa using own)

theorem respects_deleteThread :
    (inMemory rt).Respects store ⟨context, now, .deleteThread threadId⟩ := by
  intro other foreign
  refine ⟨?_, fun shown => shown⟩
  show (store.deleteThread context threadId).threads.get? other = store.threads.get? other
  unfold deleteThread
  cases there : store.threads.get? threadId with
  | none => rfl
  | some state =>
    dsimp only
    split
    next allowed =>
      rw [Dict.get?_erase]
      split
      next same =>
        have owned : (inMemory rt).owner store threadId = state.ownerKey := by
          show (store.threads.get? threadId).bind _ = _
          rw [there]
          rfl
        rw [same] at foreign
        rw [foreign.not_matches owned] at allowed
        cases allowed
      next => rfl
    next => rfl

theorem respects_saveThread_iff {thread : ThreadMetadata} :
    (inMemory rt).Respects store ⟨context, now, .saveThread thread⟩ ↔
      store.Spares rt ⟨context, now, .saveThread thread⟩ := by
  rw [respects_iff_at thread.id]
  · refine imp_congr_right (fun foreign => ?_)
    have there := stateFor_of_foreign now foreign
    show (store.saveThread rt context thread).threads.get? thread.id = store.threads.get? thread.id ∧
      ¬ False ↔ _
    unfold saveThread
    dsimp only
    rw [Dict.get?_set, if_pos rfl, there]
    generalize store.stateFor now thread.id = state at there
    obtain ⟨metadata, items, workspaceId, ownerKey⟩ := state
    obtain ⟨owner, caller, owned, _⟩ := foreign
    have established : ownerKey = some owner := by
      change (store.threads.get? thread.id).bind _ = _ at owned
      rwa [there] at owned
    subst established
    simp
  · intro other distinct
    refine ⟨?_, fun shown => shown⟩
    show (store.saveThread rt context thread).threads.get? other = _
    unfold saveThread
    dsimp only
    rw [Dict.get?_set, if_neg distinct]
    rfl

theorem respects_iff_spares : (inMemory rt).Respects store request ↔ store.Spares rt request := by
  obtain ⟨context, now, call⟩ := request
  cases call with
  | loadThread threadId => exact iff_of_true respects_loadThread trivial
  | loadThreads limit after order => exact iff_of_true respects_loadThreads trivial
  | deleteThread threadId => exact iff_of_true respects_deleteThread trivial
  | saveThread thread => exact respects_saveThread_iff
  | loadThreadItems threadId after limit order =>
    rw [respects_withItems _ (.items threadId _) rfl (fun other shown => shown.1.symm)]
    refine imp_congr_right (fun foreign => ?_)
    constructor
    · rintro ⟨_, hidden⟩
      by_contra shown
      exact hidden ⟨rfl, shown⟩
    · exact fun empty => ⟨rfl, fun shown => shown.2 empty⟩
  | addThreadItem threadId item =>
    rw [respects_withItems _ .done rfl nofun]
    refine ⟨fun same foreign => ?_, fun no foreign => absurd foreign no⟩
    exact absurd (same foreign).1 (by simp)
  | saveItem threadId item =>
    rw [respects_withItems _ .done rfl nofun]
    refine imp_congr_right (fun foreign => ?_)
    rw [replaced_eq_self]
    exact and_iff_left (fun shown => shown)
  | loadItem threadId itemId =>
    have spares : store.Spares rt ⟨context, now, .loadItem threadId itemId⟩ ↔
        ((inMemory rt).Foreign context store threadId →
          (store.stateFor now threadId).items.find? (fun item => item.id = itemId) = none) := by
      refine imp_congr_right (fun _ => ?_)
      simp [List.find?_eq_none]
    have left : (inMemory rt).exec ⟨context, now, .loadItem threadId itemId⟩ store =
        (store.withItems now threadId (store.stateFor now threadId).items,
          ((store.stateFor now threadId).items.find? (fun item => item.id = itemId)).elim
            (.notFound s!"Item {itemId} not found") (.item threadId)) := by
      refine Prod.ext rfl ?_
      dsimp only [inMemory, InMemoryStore.exec]
      cases (store.stateFor now threadId).items.find? (fun item => item.id = itemId) with
      | none => rfl
      | some item => rfl
    cases found : (store.stateFor now threadId).items.find? (fun item => item.id = itemId) with
    | none =>
      rw [found] at left
      rw [spares, respects_withItems _ _ left nofun, found]
      exact imp_congr_right (fun foreign => iff_of_true ⟨rfl, fun shown => shown⟩ rfl)
    | some item =>
      rw [found] at left
      rw [spares, respects_withItems _ _ left (fun other shown => shown.symm), found]
      exact imp_congr_right (fun foreign =>
        iff_of_false (fun both => both.2 rfl) (by simp))
  | deleteThreadItem threadId itemId =>
    rw [respects_withItems _ .done rfl nofun]
    refine imp_congr_right (fun foreign => ?_)
    rw [List.filter_eq_self]
    refine (and_iff_left (fun shown => shown)).trans ?_
    simp

end InMemoryStore

end InMemory

section Postgres

variable (rt : StoreRuntime)

def postgres : OwnedStore PostgresStore (Option ThreadRow × (String → Option MessageRow)) where
  exec := PostgresStore.exec rt
  owner store threadId := (store.threads.get? threadId).bind ThreadRow.ownerKey
  view store threadId := (store.threads.get? threadId, store.messageIn threadId)

/-- A message that is written is there already, where it comes to the thread of another owner, and
is not taken from one. -/
def PostgresStore.SparesWrite (store : PostgresStore) (context : ChatKitRequestContext)
    (threadId : String) (item : ThreadItem) : Prop :=
  (store.threads.get? threadId).isSome →
    ((postgres rt).Foreign context store threadId →
      store.messages.get? item.id = some (store.written threadId item)) ∧
    ∀ row, store.messages.get? item.id = some row →
      (postgres rt).Foreign context store row.threadId → row.threadId = threadId

/-- A save writes what is there, and a call about messages finds nothing to show or to change in
another owner's thread. -/
def PostgresStore.Spares (store : PostgresStore) (request : ChatRequest) : Prop :=
  let context := request.context
  let foreign := (postgres rt).Foreign context store
  rt.takes context request.call = true → match request.call with
  | .loadThread _ | .loadThreads _ _ _ | .deleteThread _ => True
  | .saveThread thread => foreign thread.id → store.threads.get? thread.id =
    some (upserted rt context (store.threads.get? thread.id) thread)
  | .loadThreadItems threadId after _ order => foreign threadId →
    store.messagesAfter rt threadId after order = []
  | .addThreadItem threadId item => item.threadId = threadId →
    store.SparesWrite rt context threadId item
  | .saveItem threadId item => store.SparesWrite rt context threadId item
  | .loadItem threadId itemId | .deleteThreadItem threadId itemId => foreign threadId →
    store.messageIn threadId itemId = none

variable {rt} {store : PostgresStore} {context : ChatKitRequestContext} {now : Instant}
  {threadId : String} {call : ChatCall}

namespace PostgresStore

variable {request : ChatRequest}

theorem respects_of_same (answer : ChatAnswer)
    (left : (postgres rt).exec request store = (store, answer))
    (hidden : ∀ other, (postgres rt).Foreign request.context store other → ¬ answer.Shows other) :
    (postgres rt).Respects store request := by
  intro other foreign
  rw [left]
  exact ⟨rfl, hidden other foreign⟩

theorem owner_of_there {row : ThreadRow} (there : store.threads.get? threadId = some row) :
    (postgres rt).owner store threadId = row.ownerKey := by
  show (store.threads.get? threadId).bind _ = _
  rw [there]
  rfl

variable {other : String}

theorem loadThread_hidden (foreign : (postgres rt).Foreign context store other) :
    ¬ (store.loadThread context threadId).Shows other := by
  intro shown
  unfold loadThread at shown
  cases there : store.threads.get? threadId with
  | none =>
    rw [there] at shown
    exact shown
  | some row =>
    rw [there] at shown
    dsimp only at shown
    by_cases allowed : ownerMatches row.ownerKey context = true
    · rw [if_pos allowed] at shown
      have same : other = threadId := shown.symm.trans (store.threadsKeyed threadId row there)
      rw [same] at foreign
      rw [foreign.not_matches (owner_of_there there)] at allowed
      cases allowed
    · rw [if_neg allowed] at shown
      exact shown

theorem loadThreads_hidden {limit : Int} {after : Option String} {order : String}
    (foreign : (postgres rt).Foreign context store other) :
    ¬ (ChatAnswer.threads (store.loadThreads rt context limit after order)).Shows other := by
  rintro ⟨thread, mem, same⟩
  obtain ⟨row, among, rfl⟩ := List.mem_map.mp (mem_of_mem_limited mem)
  obtain ⟨value, allowed⟩ := List.mem_filter.mp (mem_of_mem_selected among)
  obtain ⟨key, there⟩ := (store.threads.mem_values_iff row).mp value
  have key_eq : row.thread.id = key := store.threadsKeyed key row there
  have at_other : store.threads.get? other = some row := by
    rw [← same, key_eq, there]
  obtain ⟨owner, caller, owned, asks, distinct⟩ := foreign
  rw [owner_of_there at_other] at owned
  unfold inScope at allowed
  rw [Bool.and_eq_true, Bool.and_eq_true, owned] at allowed
  have own := allowed.2
  rw [asks] at own
  exact distinct (by simpa using own)

theorem deleteThread_kept (foreign : (postgres rt).Foreign context store other) :
    (postgres rt).view (store.deleteThread context threadId) other =
      (postgres rt).view store other := by
  unfold deleteThread
  cases there : store.threads.get? threadId with
  | none => rfl
  | some row =>
    dsimp only
    split
    next allowed =>
      have distinct : other ≠ threadId := by
        intro same
        rw [same] at foreign
        rw [foreign.not_matches (owner_of_there there)] at allowed
        cases allowed
      refine Prod.ext ?_ (funext fun id => ?_)
      · show (store.threads.erase threadId).get? other = _
        rw [Dict.get?_erase, if_neg distinct]
        rfl
      · show ((store.messages.filter _).get? id).filter _ = (store.messages.get? id).filter _
        rw [Dict.get?_filter]
        cases store.messages.get? id with
        | none => rfl
        | some message =>
          by_cases of_other : message.threadId = other
          · simp [Option.filter, of_other, distinct]
          · by_cases gone : message.threadId = threadId
            · simp [Option.filter, gone, Ne.symm distinct]
            · simp [Option.filter, of_other, gone]
    next => rfl

theorem respects_saveThread_iff {thread : ThreadMetadata}
    (performs : (postgres rt).exec ⟨context, now, .saveThread thread⟩ store =
      (store.saveThread rt context thread, .done)) :
    (postgres rt).Respects store ⟨context, now, .saveThread thread⟩ ↔
      ((postgres rt).Foreign context store thread.id → store.threads.get? thread.id =
        some (upserted rt context (store.threads.get? thread.id) thread)) := by
  have row (other : String) : (store.saveThread rt context thread).threads.get? other =
      if other = thread.id then some (upserted rt context (store.threads.get? thread.id) thread)
      else store.threads.get? other := Dict.get?_set _ _ _ _
  rw [respects_iff_at thread.id, performs]
  · refine imp_congr_right (fun _ => ?_)
    show ((store.saveThread rt context thread).threads.get? thread.id, _) = (_, _) ∧ ¬ False ↔ _
    rw [row, if_pos rfl, Prod.mk.injEq]
    constructor
    · exact fun same => same.1.1.symm
    · exact fun same => ⟨⟨same.symm, rfl⟩, fun no => no⟩
  · intro other distinct
    rw [performs]
    refine ⟨Prod.ext ?_ rfl, fun shown => shown⟩
    show (store.saveThread rt context thread).threads.get? other = _
    rw [row, if_neg distinct]
    rfl

theorem messageIn_written {item : ThreadItem} {row : ThreadRow}
    (there : store.threads.get? threadId = some row) (other : String) :
    (store.writeItem threadId item).1.messageIn other = store.messageIn other ↔
      ((some (store.written threadId item)).filter (fun row => row.threadId = other)) =
        (store.messages.get? item.id).filter (fun row => row.threadId = other) := by
  have at_id (id : String) : (store.writeItem threadId item).1.messageIn other id =
      if id = item.id then
        (some (store.written threadId item)).filter (fun row => row.threadId = other)
      else store.messageIn other id := by
    unfold writeItem messageIn
    rw [there]
    dsimp only
    rw [Dict.get?_set]
    split <;> rfl
  constructor
  · intro same
    have here := congrFun same item.id
    rwa [at_id, if_pos rfl] at here
  · intro same
    funext id
    rw [at_id]
    split
    next here =>
      rw [same, here]
      rfl
    next => rfl

theorem respects_write_iff {item : ThreadItem}
    (performs : (postgres rt).exec request store = store.writeItem threadId item) :
    (postgres rt).Respects store request ↔
      store.SparesWrite rt request.context threadId item := by
  unfold SparesWrite
  cases there : store.threads.get? threadId with
  | none =>
    refine iff_of_true (respects_of_same .foreignKeyViolation ?_ ?_) (by simp)
    · rw [performs]
      unfold writeItem
      rw [there]
    · exact fun _ _ shown => shown
  | some row =>
    have own : (store.written threadId item).threadId = threadId := by
      unfold written
      cases store.messages.get? item.id <;> rfl
    have threads : (store.writeItem threadId item).1.threads = store.threads := by
      unfold writeItem
      rw [there]
    have hidden (other : String) : ¬ (store.writeItem threadId item).2.Shows other := by
      unfold writeItem
      rw [there]
      exact fun shown => shown
    have view_iff (other : String) : (postgres rt).view (store.writeItem threadId item).1 other =
        (postgres rt).view store other ↔
          (some (store.written threadId item)).filter (fun row => row.threadId = other) =
            (store.messages.get? item.id).filter (fun row => row.threadId = other) := by
      rw [← messageIn_written there]
      show ((store.writeItem threadId item).1.threads.get? other, _) = (_, _) ↔ _
      rw [threads, Prod.mk.injEq]
      exact and_iff_right rfl
    simp only [Option.isSome_some, forall_const]
    unfold OwnedStore.Respects
    rw [performs]
    simp only [view_iff, hidden, not_false_eq_true, and_true]
    constructor
    · intro kept
      refine ⟨fun foreign => ?_, fun message found foreign => ?_⟩
      · have here := kept threadId foreign
        rw [Option.filter_some, if_pos (by simpa using own)] at here
        exact (Option.filter_eq_some_iff.mp here.symm).1
      · have here := kept message.threadId foreign
        rw [found, Option.filter_some, Option.filter_some] at here
        by_contra distinct
        rw [if_neg (by simpa [own] using Ne.symm distinct), if_pos (by simp)] at here
        cases here
    · rintro ⟨same, taken⟩ other foreign
      by_cases here : other = threadId
      · rw [here] at foreign ⊢
        rw [same foreign]
      · have out : decide ((store.written threadId item).threadId = other) = false := by
          rw [own]
          exact decide_eq_false (Ne.symm here)
        rw [Option.filter_some, out]
        cases found : store.messages.get? item.id with
        | none => rfl
        | some message =>
          have not_other : message.threadId ≠ other := by
            intro of_other
            rw [← of_other] at foreign here
            exact here (taken message found foreign)
          rw [Option.filter_some, if_neg (Bool.false_ne_true), if_neg (by simpa using not_other)]

theorem messageIn_deleteItem (itemId other : String) :
    (store.deleteItem threadId itemId).messageIn other = store.messageIn other ↔
      other = threadId → store.messageIn threadId itemId = none := by
  have at_id (id : String) : (store.deleteItem threadId itemId).messageIn other id =
      if id = itemId ∧ other = threadId then none else store.messageIn other id := by
    unfold deleteItem messageIn
    dsimp only
    rw [Dict.get?_filter]
    cases store.messages.get? id with
    | none => simp
    | some message =>
      by_cases here : id = itemId
      · by_cases gone : message.threadId = threadId
        · by_cases same : other = threadId
          · simp [Option.filter, here, gone, same]
          · simp [Option.filter, here, gone, same, Ne.symm same]
        · by_cases same : other = threadId
          · simp [Option.filter, here, gone, same]
          · simp [Option.filter, here, gone, same]
      · simp [Option.filter, here]
  constructor
  · intro same here
    have deleted := congrFun same itemId
    rw [at_id, if_pos ⟨rfl, here⟩] at deleted
    rw [← here]
    exact deleted.symm
  · intro absent
    funext id
    rw [at_id]
    split
    next here =>
      rw [here.1, here.2]
      exact (absent here.2).symm
    next => rfl

theorem respects_iff_spares : (postgres rt).Respects store request ↔ store.Spares rt request := by
  obtain ⟨context, now, call⟩ := request
  unfold Spares
  dsimp only
  by_cases takes : rt.takes context call = true
  · have performs : (postgres rt).exec ⟨context, now, call⟩ store =
        store.perform rt context call := if_pos takes
    refine Iff.trans ?_ (forall_prop_of_true takes).symm
    cases call with
    | loadThread threadId =>
      exact iff_of_true (respects_of_same _ performs fun _ => loadThread_hidden) trivial
    | loadThreads limit after order =>
      exact iff_of_true (respects_of_same _ performs fun _ => loadThreads_hidden) trivial
    | deleteThread threadId =>
      refine iff_of_true (fun other foreign => ?_) trivial
      rw [performs]
      exact ⟨deleteThread_kept foreign, fun shown => shown⟩
    | saveThread thread => exact respects_saveThread_iff performs
    | loadThreadItems threadId after limit order =>
      rw [respects_iff_at threadId, performs]
      · refine imp_congr_right (fun _ => ?_)
        have empty : (store.loadThreadItems rt threadId after limit order).data = [] ↔
            store.messagesAfter rt threadId after order = [] := by
          unfold loadThreadItems
          rw [limited_eq_nil, List.map_eq_nil_iff]
        rw [← empty]
        constructor
        · rintro ⟨_, hidden⟩
          by_contra shown
          exact hidden ⟨rfl, shown⟩
        · exact fun none_shown => ⟨rfl, fun shown => shown.2 none_shown⟩
      · intro other distinct
        rw [performs]
        exact ⟨rfl, fun shown => distinct shown.1.symm⟩
    | addThreadItem threadId item =>
      by_cases belongs : item.threadId = threadId
      · refine Iff.trans ?_ (forall_prop_of_true belongs).symm
        exact respects_write_iff (performs.trans (if_neg (not_not.mpr belongs)))
      · exact iff_of_true (respects_of_same _ (performs.trans (if_pos belongs))
          fun _ _ shown => shown) (fun here => absurd here belongs)
    | saveItem threadId item => exact respects_write_iff performs
    | loadItem threadId itemId =>
      cases found : store.messageIn threadId itemId with
      | none =>
        have missing : (postgres rt).exec ⟨context, now, .loadItem threadId itemId⟩ store =
            (store, .notFound s!"Item {itemId} not found in thread {threadId}") := by
          rw [performs]
          show (store, store.loadItem threadId itemId) = _
          unfold loadItem
          rw [found]
        exact iff_of_true (respects_of_same _ missing fun _ _ shown => shown) (fun _ => found)
      | some row =>
        have item : (postgres rt).exec ⟨context, now, .loadItem threadId itemId⟩ store =
            (store, .item threadId row.item) := by
          rw [performs]
          show (store, store.loadItem threadId itemId) = _
          unfold loadItem
          rw [found]
        rw [respects_iff_at threadId, item]
        · refine imp_congr_right (fun _ => iff_of_false (fun both => both.2 rfl) ?_)
          rw [found]
          simp
        · intro other distinct
          rw [item]
          exact ⟨rfl, fun shown => distinct shown.symm⟩
    | deleteThreadItem threadId itemId =>
      have view_iff (other : String) :
          (postgres rt).view (store.deleteItem threadId itemId) other =
            (postgres rt).view store other ↔
              (other = threadId → store.messageIn threadId itemId = none) := by
        rw [← messageIn_deleteItem]
        show (store.threads.get? other, _) = (_, _) ↔ _
        rw [Prod.mk.injEq]
        exact and_iff_right rfl
      rw [respects_iff_at threadId, performs]
      · refine imp_congr_right (fun _ => ?_)
        show (postgres rt).view (store.deleteItem threadId itemId) _ = _ ∧ ¬ False ↔ _
        rw [view_iff]
        simp
      · intro other distinct
        rw [performs]
        exact ⟨(view_iff other).mpr (fun same => absurd same distinct), fun shown => shown⟩
  · have refused : (postgres rt).exec ⟨context, now, call⟩ store = (store, .dataError) :=
      if_neg takes
    exact iff_of_true (respects_of_same _ refused fun _ _ shown => shown)
      (fun taken => absurd taken takes)

end PostgresStore

end Postgres

section Runs

variable (rt : StoreRuntime)

def RunRespects {S V : Type} (store : OwnedStore S V) (s : S) (requests : List ChatRequest) :
    Prop :=
  AllSteps (fun s request => (store.exec request s).1) store.Respects s requests

/-- The calls of a run, from any state and with any contexts, leave the threads of other owners
alone if and only if each of them writes what is there already, and finds no item to show, to change
or to move there. -/
theorem foreign_threads_respected_iff (requests : List ChatRequest) :
    (∀ s : InMemoryStore, RunRespects (inMemory rt) s requests ↔
      AllSteps (fun s request => ((inMemory rt).exec request s).1)
        (InMemoryStore.Spares rt) s requests) ∧
    (∀ s : PostgresStore, RunRespects (postgres rt) s requests ↔
      AllSteps (fun s request => ((postgres rt).exec request s).1)
        (PostgresStore.Spares rt) s requests) := by
  constructor
  · intro s
    exact Lib.allSteps_iff_of_invariant (P := fun _ => True)
      (fun _ _ _ => InMemoryStore.respects_iff_spares) (fun _ _ _ _ => trivial) trivial requests
  · intro s
    exact Lib.allSteps_iff_of_invariant (P := fun _ => True)
      (fun _ _ _ => PostgresStore.respects_iff_spares) (fun _ _ _ _ => trivial) trivial requests

def intrusion : List ChatRequest :=
  let alice : ChatKitRequestContext := { ownerKey := some "sub:alice" }
  [⟨alice, 0, .saveThread { id := "thr", createdAt := 0, status := .null }⟩,
    ⟨alice, 1, .addThreadItem "thr" {
      id := "msg", threadId := "thr", createdAt := 1, body := .str "private" }⟩,
    ⟨{ ownerKey := some "sub:mallory" }, 2, .loadItem "thr" "msg"⟩]

theorem foreign_item_shown : (¬ ∀ (rt : StoreRuntime) (requests : List ChatRequest),
      RunRespects (inMemory rt) InMemoryStore.empty requests) ∧
    ¬ ∀ (rt : StoreRuntime) (requests : List ChatRequest),
      RunRespects (postgres rt) PostgresStore.empty requests := by
  constructor
  · intro respected
    have last := (respected .ascii intrusion).2.2.1 "thr"
      ⟨"sub:alice", "sub:mallory", rfl, rfl, by decide⟩
    exact last.2 rfl
  · intro respected
    have last := (respected .ascii intrusion).2.2.1 "thr"
      ⟨"sub:alice", "sub:mallory", rfl, rfl, by decide⟩
    exact last.2 rfl

end Runs

end Orcheo.ChatKitStore
