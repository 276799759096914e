import Orcheo.Defs.ChatKitStore.Models

/-! `PostgresChatKitStore`: the tables of threads and of messages. -/

namespace Orcheo.ChatKitStore

open Lib (Dict)

structure ThreadRow where
  thread : ThreadMetadata
  workflowId : Option String := none
  workspaceId : Option String := none
  ownerKey : Option String := none
  deriving DecidableEq

structure MessageRow where
  threadId : String
  ordinal : Int
  item : ThreadItem
  deriving DecidableEq

structure PostgresStore where
  threads : Dict String ThreadRow
  messages : Dict String MessageRow
  threadsKeyed : threads.KeyedBy (fun row => row.thread.id)
  messagesKeyed : messages.KeyedBy (fun row => row.item.id)

section Rows

variable (rt : StoreRuntime) {α : Type} (key : α → Int × String)

def rowLe (a b : Int × String) : Bool := a.1 < b.1 || (a.1 = b.1 && rt.textLe a.2 b.2)

def ascending (order : String) : Bool := rt.lower order = "asc"

def selected (order : String) (marker : Option (Int × String)) (rows : List α) : List α :=
  let before (a b : Int × String) : Bool :=
    if ascending rt order then rowLe rt a b else rowLe rt b a
  (rows.filter (fun row => match marker with
    | none => true
    | some marker => before marker (key row) && marker ≠ key row)).mergeSort
    (fun a b => before (key a) (key b))

end Rows

/-- Text that is not empty. -/
def cursor (after : Option String) : Option String := after.filter (· ≠ "")

namespace PostgresStore

def empty : PostgresStore := ⟨∅, ∅, Dict.keyedBy_empty, Dict.keyedBy_empty⟩

variable (rt : StoreRuntime) (context : ChatKitRequestContext) (store : PostgresStore)

def loadThread (threadId : String) : ChatAnswer :=
  match store.threads.get? threadId with
  | some row =>
    if ownerMatches row.ownerKey context then .thread row.thread
    else .notFound s!"Thread {threadId} not found"
  | none => .notFound s!"Thread {threadId} not found"

/-- What is written over a row: the owner that is there, and the time of the creation stay. -/
def upserted (existing : Option ThreadRow) (thread : ThreadMetadata) : ThreadRow :=
  let thread := saved rt context thread
  let workflowId := (thread.metadata.get? "workflow_id").filter rt.truthy
  let row : ThreadRow := {
    thread := thread
    workflowId := workflowId.map rt.showJson
    workspaceId := context.workspaceId
    ownerKey := context.ownerKey }
  match existing with
  | none => row
  | some existing => { row with
      thread := { thread with createdAt := existing.thread.createdAt }
      ownerKey := existing.ownerKey.or context.ownerKey }

def saveThread (thread : ThreadMetadata) : PostgresStore := { store with
  threads := store.threads.set thread.id
    (upserted rt context (store.threads.get? thread.id) thread)
  threadsKeyed := by
    refine store.threadsKeyed.set ?_
    cases store.threads.get? thread.id <;> rfl }

def inScope (row : ThreadRow) : Bool :=
  (match context.workflowId with
    | none => true
    | some workflowId => workflowId = "" || row.workflowId = some workflowId) &&
  (match context.workspaceId with
    | none => true
    | some workspaceId => row.workspaceId = some workspaceId) &&
  (match context.ownerKey with
    | none => true
    | some ownerKey => row.ownerKey = some ownerKey)

def threadKey (row : ThreadRow) : Int × String := (row.thread.createdAt, row.thread.id)

def loadThreads (limit : Int) (after : Option String) (order : String) : Page ThreadMetadata :=
  let marker := ((cursor after).bind store.threads.get?).filter (inScope context)
  limited ThreadMetadata.id ((selected rt threadKey order (marker.map threadKey)
    (store.threads.values.filter (inScope context))).map ThreadRow.thread) limit

def deleteThread (threadId : String) : PostgresStore :=
  match store.threads.get? threadId with
  | none => store
  | some row =>
    if ownerMatches row.ownerKey context then {
      threads := store.threads.erase threadId
      messages := store.messages.filter (fun _ message => message.threadId ≠ threadId)
      threadsKeyed := store.threadsKeyed.filter
      messagesKeyed := store.messagesKeyed.filter }
    else store

def messageKey (row : MessageRow) : Int × String := (row.ordinal, row.item.id)

def messageIn (threadId itemId : String) : Option MessageRow :=
  (store.messages.get? itemId).filter (fun row => row.threadId = threadId)

def messagesAfter (threadId : String) (after : Option String) (order : String) : List MessageRow :=
  let marker := (cursor after).bind (store.messageIn threadId)
  selected rt messageKey order (marker.map messageKey)
    (store.messages.values.filter (fun row => row.threadId = threadId))

def loadThreadItems (threadId : String) (after : Option String) (limit : Int) (order : String) :
    Page ThreadItem :=
  limited ThreadItem.id ((store.messagesAfter rt threadId after order).map MessageRow.item) limit

def nextItemOrdinal (threadId : String) : Int :=
  ((store.messages.values.filter (fun row => row.threadId = threadId)).map MessageRow.ordinal).foldl
    max (-1) + 1

def written (threadId : String) (item : ThreadItem) : MessageRow :=
  match store.messages.get? item.id with
  | none => ⟨threadId, store.nextItemOrdinal threadId, item⟩
  | some row => { row with threadId := threadId, item := item }

def writeItem (threadId : String) (item : ThreadItem) : PostgresStore × ChatAnswer :=
  match store.threads.get? threadId with
  | none => (store, .foreignKeyViolation)
  | some _ => ({ store with
      messages := store.messages.set item.id (store.written threadId item)
      messagesKeyed := by
        refine store.messagesKeyed.set ?_
        unfold written
        cases store.messages.get? item.id <;> rfl }, .done)

def loadItem (threadId itemId : String) : ChatAnswer :=
  match store.messageIn threadId itemId with
  | some row => .item threadId row.item
  | none => .notFound s!"Item {itemId} not found in thread {threadId}"

def deleteItem (threadId itemId : String) : PostgresStore := { store with
  messages := store.messages.filter (fun id row => !(id = itemId && row.threadId = threadId))
  messagesKeyed := store.messagesKeyed.filter }

/-- Items are read and written without a look at the owner. -/
def perform : ChatCall → PostgresStore × ChatAnswer
  | .loadThread threadId => (store, store.loadThread context threadId)
  | .saveThread thread => (store.saveThread rt context thread, .done)
  | .loadThreads limit after order =>
    (store, .threads (store.loadThreads rt context limit after order))
  | .deleteThread threadId => (store.deleteThread context threadId, .done)
  | .loadThreadItems threadId after limit order =>
    (store, .items threadId (store.loadThreadItems rt threadId after limit order))
  | .addThreadItem threadId item =>
    if item.threadId ≠ threadId then
      (store, .valueError "Thread item does not belong to the provided thread")
    else store.writeItem threadId item
  | .saveItem threadId item => store.writeItem threadId item
  | .loadItem threadId itemId =>
    (store, store.loadItem threadId itemId)
  | .deleteThreadItem threadId itemId => (store.deleteItem threadId itemId, .done)

def exec (request : ChatRequest) (store : PostgresStore) : PostgresStore × ChatAnswer :=
  if rt.takes request.context request.call then store.perform rt request.context request.call
  else (store, .dataError)

end PostgresStore

end Orcheo.ChatKitStore
