import Orcheo.Defs.Base

/-! Run histories and the spans that are shown of them. -/

namespace Orcheo.Traces

open Lib (Dict)

abbrev Entries := List (String × Json)

/-- What Python does with text and numbers, the digest of identifiers, and the preview of a text,
where patterns of secrets are masked and the end is cut off. -/
structure TraceRuntime where
  strip : String → String
  lower : String → String
  /-- `str` of what is not a string -/
  showJson : Json → String
  parseInt : String → Option Int
  truncate : BitVec 64 → Option Int
  digest : String → String
  preview : String → String

/-- ASCII text whose digest is the text itself. -/
def TraceRuntime.plain : TraceRuntime where
  strip s := String.ofList
    ((s.toList.dropWhile Char.isWhitespace).reverse.dropWhile Char.isWhitespace).reverse
  lower s := String.ofList (s.toList.map Char.toLower)
  showJson
    | .int n => toString n
    | .obj [(k, .str v)] => "\x7b'" ++ k ++ "': '" ++ v ++ "'\x7d"
    | _ => "None"
  parseInt _ := none
  truncate _ := none
  digest s := s
  preview s := s

def truthy : Json → Bool
  | .null => false
  | .bool b => b
  | .int n => n ≠ 0
  | .float bits => bits ≠ 0 && bits ≠ 0x8000000000000000#64
  | .str s => s ≠ ""
  | .arr xs => !xs.isEmpty
  | .obj kvs => !kvs.isEmpty

/-- `a or b` -/
def either (a b : Json) : Json := if truthy a then a else b

def get (payload : Entries) (key : String) : Json := (Json.field? payload key).getD .null

def put (payload : Entries) (key : String) (value : Json) : Entries :=
  Dict.insertEntry key value payload

section

variable (rt : TraceRuntime)

/-- `str(value)` -/
def text : Json → String
  | .str s => s
  | value => rt.showJson value

/-- `int(value)`, where it gives a number -/
def toInt : Json → Option Int
  | .bool b => some (if b then 1 else 0)
  | .int n => some n
  | .float bits => rt.truncate bits
  | .str s => rt.parseInt s
  | _ => none

end

def foldCase (c : Char) : Char :=
  if c = Char.ofNat 0x130 ∨ c = Char.ofNat 0x131 then 'i'
  else if c = Char.ofNat 0x17F then 's'
  else if c = Char.ofNat 0x212A then 'k'
  else c.toLower

/-- The alternatives of `_SENSITIVE_STATE_KEY_PATTERN`. -/
def sensitiveStateKeyPattern : List String :=
  ["password", "secret", "token", "apikey", "api_key", "api-key", "authorization", "cookie",
    "credential", "privatekey", "private_key", "private-key"]

def nonSensitiveStateKeys : List String :=
  ["token_usage", "usage", "usage_metadata", "prompt_tokens_details", "completion_tokens_details",
    "input_token_details", "output_token_details", "input_tokens", "output_tokens",
    "prompt_tokens", "completion_tokens", "total_tokens", "cached_tokens", "audio_tokens",
    "reasoning_tokens", "accepted_prediction_tokens", "rejected_prediction_tokens", "cache_read",
    "cache_write", "audio", "text", "reasoning"]

def isSpace (c : Char) : Bool :=
  (0x09 ≤ c.toNat && c.toNat ≤ 0x0D) || (0x1C ≤ c.toNat && c.toNat ≤ 0x20) || c.toNat == 0x85 ||
  c.toNat == 0xA0 || c.toNat == 0x1680 || (0x2000 ≤ c.toNat && c.toNat ≤ 0x200A) ||
  c.toNat == 0x2028 || c.toNat == 0x2029 || c.toNat == 0x202F || c.toNat == 0x205F ||
  c.toNat == 0x3000

/-- `key.strip().lower()`, as far as it may be one of the ASCII keys -/
def normalizedKey (key : String) : List Char :=
  ((key.toList.dropWhile isSpace).reverse.dropWhile isSpace).reverse.map
    (fun c => if c = Char.ofNat 0x212A then 'k' else c.toLower)

/-- `re.search` of plain text -/
def searches (pattern : List Char) : List Char → Bool
  | [] => pattern.isEmpty
  | c :: cs => pattern.isPrefixOf (c :: cs) || searches pattern cs

def isSensitiveStateKey (key : String) : Bool :=
  !nonSensitiveStateKeys.any (fun k => k.toList = normalizedKey key) &&
  sensitiveStateKeyPattern.any (fun alternative =>
    searches alternative.toList (key.toList.map foldCase))

structure RunHistoryStep where
  index : Int
  happenedAt : Instant
  payload : Entries
  deriving DecidableEq

structure RunHistoryRecord where
  workflowId : String
  executionId : String
  workspaceId : Option String := none
  inputs : Entries := []
  runnableConfig : Entries := []
  tags : List String := []
  callbacks : List Json := []
  metadata : Entries := []
  runName : Option String := none
  status : String := "running"
  startedAt : Instant
  completedAt : Option Instant := none
  error : Option String := none
  steps : List RunHistoryStep := []
  traceId : Option String := none
  traceStartedAt : Option Instant := none
  traceCompletedAt : Option Instant := none
  deriving DecidableEq

inductive StatusCode
  | ok | error | unset
  deriving DecidableEq, Repr

structure TraceSpanStatus where
  code : StatusCode
  message : Option String := none
  deriving DecidableEq, Repr

structure TraceSpanEvent where
  name : String
  time : Instant
  attributes : List (String × String)
  deriving DecidableEq, Repr

abbrev Attributes := Dict String Json

structure TraceSpan where
  spanId : String
  parentSpanId : Option String
  name : String
  startTime : Instant
  endTime : Option Instant
  attributes : Attributes := ∅
  events : List TraceSpanEvent := []
  status : TraceSpanStatus
  deriving DecidableEq

structure TraceExecutionMetadata where
  id : String
  status : String
  threadId : Option String
  startedAt : Instant
  finishedAt : Option Instant
  traceId : String
  inputTokens : Int
  outputTokens : Int
  deriving DecidableEq

structure TraceResponse where
  execution : TraceExecutionMetadata
  spans : List TraceSpan
  deriving DecidableEq

structure TraceUpdate where
  executionId : String
  traceId : String
  spans : List TraceSpan
  complete : Bool
  deriving DecidableEq

structure TraceSpanState where
  spanId : String
  before : Entries
  after : Entries
  redacted : Bool
  truncated : Bool
  deriving DecidableEq

end Orcheo.Traces
