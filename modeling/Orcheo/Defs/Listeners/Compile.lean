import Orcheo.Defs.Listeners.Subscription

/-! Listener subscriptions from the listener items of a workflow graph. -/

namespace Orcheo.Listeners.Compile

/-- The library functions that compilation rests on, and the ids under which the platforms and
their aliases are registered. -/
structure ListenerRuntime where
  /-- `str(value)` of a value that is no string -/
  str : Json → String
  /-- `int(value)`, absent where it raises -/
  int : Json → Option Int
  strip : String → String
  lower : String → String
  uuidText : Uuid → String
  /-- `uuid5` in the namespace of the listeners -/
  uuid5 : String → Uuid
  resolve : String → Option String

def truthy : Json → Bool
  | .null => false
  | .bool b => b
  | .int n => n ≠ 0
  | .float bits => bits ≠ 0 && bits ≠ 0x8000000000000000#64
  | .str s => s ≠ ""
  | .arr xs => !xs.isEmpty
  | .obj kvs => !kvs.isEmpty

/-- `a or b` -/
def orElse (a b : Json) : Json := if truthy a then a else b

def get (item : List (String × Json)) (key : String) : Json := (Json.field? item key).getD .null

structure CompiledSubscription where
  workflowId : Uuid
  workflowVersionId : Uuid
  nodeName : String
  platform : String
  botIdentityKey : String
  config : List (String × Json)
  deriving DecidableEq

section Compile

variable (rt : ListenerRuntime)

def text : Json → String
  | .str s => s
  | value => rt.str value

def strippedStr (value : Json) : Option String :=
  match value with
  | .str s => if rt.strip s = "" then none else some (rt.strip s)
  | _ => none

def deriveBotIdentityKey (platformId : String) (item : List (String × Json)) : String :=
  match strippedStr rt (get item "bot_identity_key") with
  | some explicit => explicit
  | none =>
    match ["token", "app_id", "credential_ref"].findSome?
      (fun key => strippedStr rt (get item key)) with
    | some value => platformId ++ ":" ++ value
    | none => platformId ++ ":" ++ text rt (orElse (get item "node_name") (get item "name"))

def defaultListenerCompiler (workflowId workflowVersionId : Uuid) (item : List (String × Json))
    (platformId : String) : Option CompiledSubscription :=
  let nodeName := rt.strip
    (text rt (orElse (orElse (get item "node_name") (get item "name")) (.str "")))
  if nodeName = "" then none
  else some {
    workflowId := workflowId
    workflowVersionId := workflowVersionId
    nodeName := nodeName
    platform := platformId
    botIdentityKey := deriveBotIdentityKey rt platformId item
    config := item.filter (fun e => !(["name", "node_name", "type", "platform"].contains e.1)) }

variable (c : CompiledSubscription)

def CompiledSubscription.idText : String :=
  rt.uuidText c.workflowVersionId ++ ":" ++ c.platform ++ ":" ++ c.nodeName ++ ":" ++
    c.botIdentityKey

def CompiledSubscription.id : Uuid := rt.uuid5 (c.idText rt)

def CompiledSubscription.toSubscription : ListenerSubscription where
  workflowId := c.workflowId
  workflowVersionId := c.workflowVersionId
  dedupeWindowSeconds := match Json.field? c.config "dedupe_window_seconds" with
    | some value => rt.int value
    | none => some 300

/-- `listener_registry.compile_subscription`, for platforms with the default compiler -/
def compileSubscription (workflowId workflowVersionId : Uuid) (item : List (String × Json))
    (platformId : String) : Option CompiledSubscription :=
  match rt.resolve platformId with
  | none => none
  | some canonical => defaultListenerCompiler rt workflowId workflowVersionId item canonical

def compileItem (workflowId workflowVersionId : Uuid) (item : Json) : Option CompiledSubscription :=
  match item with
  | .obj item =>
    let platform := rt.lower (rt.strip (text rt (orElse (get item "platform") (.str ""))))
    if platform = "" then none
    else compileSubscription rt workflowId workflowVersionId item platform
  | _ => none

/-- Absent where `.get` is asked of an index that is no object. -/
def compileListenerSubscriptions (workflowId workflowVersionId : Uuid)
    (graph : List (String × Json)) : Option (List CompiledSubscription) :=
  match (Json.field? graph "index").getD (.obj []) with
  | .obj index => match (Json.field? index "listeners").getD (.arr []) with
    | .arr listeners => some (listeners.filterMap (compileItem rt workflowId workflowVersionId))
    | _ => some []
  | _ => none

variable {rt} {workflowId workflowVersionId : Uuid} {c : CompiledSubscription}

theorem compileItem_ids {item : Json}
    (compiled : compileItem rt workflowId workflowVersionId item = some c) :
    c.workflowId = workflowId ∧ c.workflowVersionId = workflowVersionId := by
  unfold compileItem at compiled
  split at compiled
  next item =>
    dsimp only at compiled
    split at compiled
    next => cases compiled
    next =>
      unfold compileSubscription at compiled
      split at compiled
      next => cases compiled
      next =>
        unfold defaultListenerCompiler at compiled
        dsimp only at compiled
        split at compiled
        next => cases compiled
        next =>
          cases compiled
          exact ⟨rfl, rfl⟩
  next => cases compiled

theorem compiled_ids {graph : List (String × Json)} {cs : List CompiledSubscription}
    (compiled : compileListenerSubscriptions rt workflowId workflowVersionId graph = some cs)
    (mem : c ∈ cs) : c.workflowId = workflowId ∧ c.workflowVersionId = workflowVersionId := by
  unfold compileListenerSubscriptions at compiled
  split at compiled
  next index _ =>
    split at compiled
    next listeners _ =>
      cases compiled
      obtain ⟨item, -, compiled⟩ := List.mem_filterMap.mp mem
      exact compileItem_ids compiled
    next =>
      cases compiled
      cases mem
  next => cases compiled

structure ListenerRuntime.RendersIds (rt : ListenerRuntime) : Prop where
  injective : Function.Injective rt.uuidText
  plain : ∀ v, ':' ∉ (rt.uuidText v).toList

theorem takeWhile_colon {a b : List Char} (plain : ':' ∉ a) :
    (a ++ ':' :: b).takeWhile (· ≠ ':') = a := by
  induction a with
  | nil => simp
  | cons x a ih =>
    rw [List.mem_cons, not_or] at plain
    rw [List.cons_append, List.takeWhile_cons, if_pos (by simpa using Ne.symm plain.1), ih plain.2]

theorem CompiledSubscription.version_of_idText (renders : rt.RendersIds)
    {c c' : CompiledSubscription} (same : c.idText rt = c'.idText rt) :
    c.workflowVersionId = c'.workflowVersionId := by
  apply renders.injective
  apply String.ext
  have chars := congrArg (fun s => s.toList.takeWhile (· ≠ ':')) same
  simp only [CompiledSubscription.idText, String.toList_append, List.append_assoc] at chars
  have colon : ":".toList = [':'] := rfl
  rw [colon] at chars
  simp only [List.singleton_append] at chars
  rw [takeWhile_colon (renders.plain _), takeWhile_colon (renders.plain _)] at chars
  exact chars

end Compile

end Orcheo.Listeners.Compile
