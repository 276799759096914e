import Orcheo.Defs.ChatKitStore.Models

/-! `InMemoryChatKitStore` -/

namespace Orcheo.ChatKitStore

open Lib (Dict)

structure ThreadState where
  thread : ThreadMetadata
  items : List ThreadItem := []
  workspaceId : Option String := none
  ownerKey : Option String := none
  deriving DecidableEq

structure InMemoryStore where
  threads : Dict String ThreadState
  keyed : threads.KeyedBy (fun state => state.thread.id)

namespace InMemoryStore

def empty : InMemoryStore := ⟨∅, Dict.keyedBy_empty⟩

variable (rt : StoreRuntime) (context : ChatKitRequestContext) (now : Instant)
variable (store : InMemoryStore)

/-- `_state_for`: a thread that is not there is made. -/
def stateFor (threadId : String) : ThreadState :=
  (store.threads.get? threadId).getD
    { thread := { id := threadId, createdAt := now, status := .obj [("type", .str "active")] } }

def withItems (threadId : String) (items : List ThreadItem) :
    InMemoryStore where
  threads := store.threads.set threadId { store.stateFor now threadId with items := items }
  keyed := by
    refine store.keyed.set ?_
    unfold stateFor
    cases there : store.threads.get? threadId with
    | none => rfl
    | some state => exact store.keyed threadId state there

def loadThread (threadId : String) : ChatAnswer :=
  match store.threads.get? threadId with
  | some state =>
    if ownerMatches state.ownerKey context then .thread state.thread
    else .notFound s!"Thread {threadId} not found"
  | none => .notFound s!"Thread {threadId} not found"

/-- An owner that is there stays. -/
def saveThread (thread : ThreadMetadata) : InMemoryStore where
  threads := store.threads.set thread.id (match store.threads.get? thread.id with
    | some existing => { existing with
        thread := saved rt context thread
        workspaceId := context.workspaceId
        ownerKey := existing.ownerKey.or context.ownerKey }
    | none => {
        thread := saved rt context thread
        workspaceId := context.workspaceId
        ownerKey := context.ownerKey })
  keyed := by
    refine store.keyed.set ?_
    cases store.threads.get? thread.id <;> rfl

def listed (state : ThreadState) : Bool :=
  (match context.workflowId with
    | none => true
    | some workflowId =>
      workflowId = "" || state.thread.metadata.get? "workflow_id" = some (.str workflowId)) &&
  (match context.workspaceId with
    | none => true
    | some workspaceId => state.workspaceId = none || state.workspaceId = some workspaceId) &&
  (match context.ownerKey with
    | none => true
    | some ownerKey => state.ownerKey = some ownerKey)

def loadThreads (limit : Int) (after : Option String) (order : String) :
    Page ThreadMetadata :=
  pageOf ThreadMetadata.id (byCreation ThreadMetadata.createdAt order
    ((store.threads.values.filter (listed context)).map ThreadState.thread)) after limit

def deleteThread (threadId : String) : InMemoryStore :=
  match store.threads.get? threadId with
  | none => store
  | some state =>
    if ownerMatches state.ownerKey context then {
      threads := store.threads.erase threadId
      keyed := store.keyed.filter }
    else store

def replaced (item : ThreadItem) : List ThreadItem → List ThreadItem
  | [] => [item]
  | existing :: items =>
    if existing.id = item.id then item :: items else existing :: replaced item items

def exec (request : ChatRequest) (store : InMemoryStore) : InMemoryStore × ChatAnswer :=
  let context := request.context
  let stateFor (threadId : String) := store.stateFor request.now threadId
  let withItems := store.withItems request.now
  match request.call with
  | .loadThread threadId => (store, store.loadThread context threadId)
  | .saveThread thread => (store.saveThread rt context thread, .done)
  | .loadThreads limit after order => (store, .threads (store.loadThreads context limit after order))
  | .deleteThread threadId => (store.deleteThread context threadId, .done)
  | .loadThreadItems threadId after limit order =>
    (withItems threadId (stateFor threadId).items, .items threadId (pageOf ThreadItem.id
      (byCreation ThreadItem.createdAt order (stateFor threadId).items) after limit))
  | .addThreadItem threadId item =>
    (withItems threadId ((stateFor threadId).items ++ [item]), .done)
  | .saveItem threadId item =>
    (withItems threadId (replaced item (stateFor threadId).items), .done)
  | .loadItem threadId itemId =>
    (withItems threadId (stateFor threadId).items,
      match (stateFor threadId).items.find? (fun item => item.id = itemId) with
      | some item => .item threadId item
      | none => .notFound s!"Item {itemId} not found")
  | .deleteThreadItem threadId itemId =>
    (withItems threadId ((stateFor threadId).items.filter (fun item => item.id ≠ itemId)), .done)

end InMemoryStore

end Orcheo.ChatKitStore
