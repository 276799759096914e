import Orcheo.Defs.Base
import Orcheo.Lib.Run

/-! What ChatKit stores of conversations, and the calls of its store. -/

namespace Orcheo.ChatKitStore

open Lib (Dict)

structure ChatKitRequestContext where
  requestTexts : List String := []
  requestMetadata : Dict String Json := ∅
  workflowId : Option String := none
  workspaceId : Option String := none
  ownerKey : Option String := none

structure ThreadMetadata where
  id : String
  title : Option String := none
  createdAt : Instant
  status : Json
  metadata : Dict String Json := ∅
  deriving DecidableEq

structure ThreadItem where
  id : String
  threadId : String
  type : Option String := none
  createdAt : Instant
  body : Json
  deriving DecidableEq

structure Page (α : Type) where
  data : List α
  hasMore : Bool
  after : Option String
  deriving DecidableEq

inductive ChatCall
  | loadThread (threadId : String)
  | saveThread (thread : ThreadMetadata)
  | loadThreads (limit : Int) (after : Option String) (order : String)
  | deleteThread (threadId : String)
  | loadThreadItems (threadId : String) (after : Option String) (limit : Int) (order : String)
  | addThreadItem (threadId : String) (item : ThreadItem)
  | saveItem (threadId : String) (item : ThreadItem)
  | loadItem (threadId itemId : String)
  | deleteThreadItem (threadId itemId : String)

inductive ChatAnswer
  | done
  | notFound (message : String)
  | valueError (message : String)
  | foreignKeyViolation
  | dataError
  | thread (thread : ThreadMetadata)
  | threads (page : Page ThreadMetadata)
  | items (threadId : String) (page : Page ThreadItem)
  | item (threadId : String) (item : ThreadItem)

structure ChatRequest where
  context : ChatKitRequestContext
  now : Instant
  call : ChatCall

structure StoreRuntime where
  strip : String → String
  lower : String → String
  /-- `str` of a JSON value -/
  showJson : Json → String
  truthy : Json → Bool
  /-- the order of identifiers in the database -/
  textLe : String → String → Bool
  /-- whether the database takes the text of a call -/
  takes : ChatKitRequestContext → ChatCall → Bool

def StoreRuntime.ascii : StoreRuntime where
  strip s := String.ofList
    ((s.toList.dropWhile Char.isWhitespace).reverse.dropWhile Char.isWhitespace).reverse
  lower s := String.ofList (s.toList.map Char.toLower)
  showJson
    | .str s => s
    | _ => "None"
  truthy v := v ≠ .null && v ≠ .str ""
  textLe a b := decide (a ≤ b)
  takes _ _ := true

def ownerMatches (storedOwnerKey : Option String) (context : ChatKitRequestContext) : Bool :=
  match context.ownerKey, storedOwnerKey with
  | some ownerKey, some storedOwnerKey => storedOwnerKey = ownerKey
  | _, _ => true

section

variable (rt : StoreRuntime)

def extractTitleFromRequest (context : ChatKitRequestContext) : Option String :=
  (context.requestTexts.find? (· ≠ "")).bind (fun text =>
    if rt.strip text ≠ "" then some (rt.strip text) else none)

/-- A thread as it is saved: with a title of the request, where it has none, and with the metadata
of the request. -/
def saved (context : ChatKitRequestContext) (thread : ThreadMetadata) : ThreadMetadata :=
  { thread with
    title := if thread.title.getD "" = "" then extractTitleFromRequest rt context else thread.title
    metadata := context.requestMetadata.entries.foldl (fun metadata entry =>
      metadata.set entry.1 entry.2) thread.metadata }

end

def byCreation {α : Type} (createdAt : α → Instant) (order : String) (items : List α) : List α :=
  if order = "desc" then items.mergeSort (fun a b => createdAt b ≤ createdAt a)
  else items.mergeSort (fun a b => createdAt a ≤ createdAt b)

def sliceBound (length : Nat) (bound : Int) : Nat :=
  if bound < 0 then (length + bound).toNat else min bound.toNat length

/-- `items[start:stop]` -/
def slice {α : Type} (items : List α) (start stop : Int) : List α :=
  (items.take (sliceBound items.length stop)).drop (sliceBound items.length start)

def pageOf {α : Type} (id : α → String) (items : List α) (after : Option String) (limit : Int) :
    Page α :=
  let start : Nat := match after with
    | none => 0
    | some after =>
      if after = "" then 0
      else items.length - (items.reverse.takeWhile (fun item => id item ≠ after)).length
  let sliced := slice items start (start + limit + 1)
  let hasMore := limit < sliced.length
  let data := slice sliced 0 limit
  { data := data
    hasMore := hasMore
    after := if hasMore then data.getLast?.map id else none }

def limited {α : Type} (id : α → String) (rows : List α) (limit : Int) : Page α :=
  let limit := (max limit 1).toNat
  let found := rows.take (limit + 1)
  let data := found.take limit
  { data := data
    hasMore := limit < found.length
    after := if limit < found.length then data.getLast?.map id else none }

end Orcheo.ChatKitStore
