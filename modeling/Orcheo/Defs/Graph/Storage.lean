import Orcheo.Defs.Graph.Builder
import Orcheo.Defs.Graph.ModelsLaws

/-! The form in which a graph is stored: a JSON text, and what is read back from it. -/

namespace Orcheo.Graph

inductive Json
  | null
  | bool (b : Bool)
  | int (n : Int)
  | float (bits : BitVec 64)
  | str (s : String)
  | array (xs : List Json)
  | object (kvs : List (String × Json))

mutual
/-- `json.loads`, on the text of the value -/
def Json.loads : Json → Value
  | .null => .none
  | .bool b => .bool b
  | .int n => .int n
  | .float bits => .float bits
  | .str s => .str s
  | .array xs => .list (loadsItems xs)
  | .object kvs => .dict (loadsEntries kvs)

def loadsItems : List Json → List Value
  | [] => []
  | x :: xs => x.loads :: loadsItems xs

def loadsEntries : List (String × Json) → List (String × Value)
  | [] => []
  | (key, x) :: kvs => (key, x.loads) :: loadsEntries kvs
end

/-- The exponent is not the one of the infinities and of NaN. -/
def isFinite (bits : BitVec 64) : Bool := bits.extractLsb' 52 11 != 0x7ff#11

/-- What becomes of an infinity: the `json` module writes `Infinity` and reads that back, pydantic
writes `null`.  No literal is a NaN. -/
inductive NonFinite
  | kept | null
  deriving DecidableEq, Repr

structure JsonCodec where
  nonFinite : NonFinite
  /-- The digits of the longest integer that the interpreter converts, where there is a limit. -/
  maxDigits : Option Nat
  threshold : ∀ n ∈ maxDigits, 640 ≤ n

variable (codec : JsonCodec)

namespace JsonCodec

def converts (n : Int) : Bool :=
  match codec.maxDigits with
  | none => true
  | some digits => (Nat.toDigits 10 n.natAbs).length ≤ digits

def keeps (bits : BitVec 64) : Bool := isFinite bits || codec.nonFinite = .kept

mutual
/-- `json.dumps`; it raises where an integer is not converted. -/
def dumps : Value → Option Json
  | .none => some .null
  | .bool b => some (.bool b)
  | .int n => if codec.converts n then some (.int n) else none
  | .float bits => some (if codec.keeps bits then .float bits else .null)
  | .str s => some (.str s)
  | .list xs | .tuple xs => (dumpsItems xs).map .array
  | .dict kvs => (dumpsEntries kvs).map .object

def dumpsItems : List Value → Option (List Json)
  | [] => some []
  | x :: xs => do
    let j ← dumps x
    let js ← dumpsItems xs
    return j :: js

def dumpsEntries : List (String × Value) → Option (List (String × Json))
  | [] => some []
  | (key, x) :: kvs => do
    let j ← dumps x
    let js ← dumpsEntries kvs
    return (key, j) :: js
end

def reload (v : Value) : Option Value := (codec.dumps v).map Json.loads

end JsonCodec

/-- `coerce_ir` on what is read back from the stored graph. -/
def restore (host : Host) (ir : GraphIR) : Option GraphIR := do
  let stored ← codec.reload ir.modelDump
  (coerceIr host stored).toOption

namespace JsonCodec

mutual
def plain : Value → Bool
  | .int n => codec.converts n
  | .float bits => codec.keeps bits
  | .list xs => plainItems xs
  | .tuple _ => false
  | .dict kvs => plainEntries kvs
  | _ => true

def plainItems : List Value → Bool
  | [] => true
  | x :: xs => plain x && plainItems xs

def plainEntries : List (String × Value) → Bool
  | [] => true
  | (_, x) :: kvs => plain x && plainEntries kvs
end

mutual
def coerced : Value → Value
  | .float bits => if codec.keeps bits then .float bits else .none
  | .list xs | .tuple xs => .list (coercedItems xs)
  | .dict kvs => .dict (coercedEntries kvs)
  | v => v

def coercedItems : List Value → List Value
  | [] => []
  | x :: xs => coerced x :: coercedItems xs

def coercedEntries : List (String × Value) → List (String × Value)
  | [] => []
  | (key, x) :: kvs => (key, coerced x) :: coercedEntries kvs
end

variable {codec}

mutual
theorem loads_dumps : ∀ (v : Value) {j : Json}, codec.dumps v = some j → j.loads = codec.coerced v
  | .none, j, h => by
    cases h
    rfl
  | .bool b, j, h => by
    cases h
    rfl
  | .str s, j, h => by
    cases h
    rfl
  | .int n, j, h => by
    rw [dumps] at h
    split at h
    · cases h
      rfl
    · cases h
  | .float bits, j, h => by
    cases h
    rw [coerced]
    split <;> rfl
  | .list xs, j, h => by
    obtain ⟨js, dumped, rfl⟩ := Option.map_eq_some_iff.mp h
    rw [coerced, ← loadsItems_dumps xs dumped, Json.loads]
  | .tuple xs, j, h => by
    obtain ⟨js, dumped, rfl⟩ := Option.map_eq_some_iff.mp h
    rw [coerced, ← loadsItems_dumps xs dumped, Json.loads]
  | .dict kvs, j, h => by
    obtain ⟨js, dumped, rfl⟩ := Option.map_eq_some_iff.mp h
    rw [coerced, ← loadsEntries_dumps kvs dumped, Json.loads]

theorem loadsItems_dumps : ∀ (xs : List Value) {js : List Json},
    codec.dumpsItems xs = some js → loadsItems js = codec.coercedItems xs
  | [], js, h => by
    cases h
    rfl
  | x :: xs, js, h => by
    obtain ⟨j, first, h⟩ := Option.bind_eq_some_iff.mp h
    obtain ⟨js', rest, h⟩ := Option.bind_eq_some_iff.mp h
    cases h
    rw [loadsItems, coercedItems, loads_dumps x first, loadsItems_dumps xs rest]

theorem loadsEntries_dumps : ∀ (kvs : List (String × Value)) {js : List (String × Json)},
    codec.dumpsEntries kvs = some js → loadsEntries js = codec.coercedEntries kvs
  | [], js, h => by
    cases h
    rfl
  | (key, x) :: kvs, js, h => by
    obtain ⟨j, first, h⟩ := Option.bind_eq_some_iff.mp h
    obtain ⟨js', rest, h⟩ := Option.bind_eq_some_iff.mp h
    cases h
    rw [loadsEntries, coercedEntries, loads_dumps x first, loadsEntries_dumps kvs rest]
end

theorem coerced_of_reload {v w : Value} (h : codec.reload v = some w) : w = codec.coerced v := by
  obtain ⟨j, dumped, rfl⟩ := Option.map_eq_some_iff.mp h
  exact loads_dumps v dumped

mutual
theorem reload_plain_iff : ∀ v : Value, codec.reload v = some v ↔ codec.plain v = true
  | .none => by simp [reload, dumps, Json.loads, plain]
  | .bool b => by simp [reload, dumps, Json.loads, plain]
  | .str s => by simp [reload, dumps, Json.loads, plain]
  | .int n => by
    rw [reload, dumps, plain]
    split <;> simp_all [Json.loads]
  | .float bits => by
    rw [reload, dumps, plain]
    split <;> simp_all [Json.loads]
  | .tuple xs => by
    have listed : codec.reload (.tuple xs) ≠ some (.tuple xs) := by
      intro h
      cases coerced_of_reload h
    simp [plain, listed]
  | .list xs => by
    rw [plain, ← reload_plainItems_iff xs]
    simp only [reload, dumps, Option.map_map, Function.comp_def, Json.loads]
    simp
  | .dict kvs => by
    rw [plain, ← reload_plainEntries_iff kvs]
    simp only [reload, dumps, Option.map_map, Function.comp_def, Json.loads]
    simp

theorem reload_plainItems_iff : ∀ xs : List Value,
    (codec.dumpsItems xs).map loadsItems = some xs ↔ codec.plainItems xs = true
  | [] => by simp [dumpsItems, loadsItems, plainItems]
  | x :: xs => by
    rw [plainItems, Bool.and_eq_true, ← reload_plain_iff x, ← reload_plainItems_iff xs, dumpsItems,
      reload]
    cases codec.dumps x with
    | none => simp
    | some j => cases codec.dumpsItems xs <;> simp [loadsItems]

theorem reload_plainEntries_iff : ∀ kvs : List (String × Value),
    (codec.dumpsEntries kvs).map loadsEntries = some kvs ↔ codec.plainEntries kvs = true
  | [] => by simp [dumpsEntries, loadsEntries, plainEntries]
  | (key, x) :: kvs => by
    rw [plainEntries, Bool.and_eq_true, ← reload_plain_iff x, ← reload_plainEntries_iff kvs,
      dumpsEntries, reload]
    cases codec.dumps x with
    | none => simp
    | some j => cases codec.dumpsEntries kvs <;> simp [loadsEntries]
end

end JsonCodec

mutual
def GraphIR.coerced (codec : JsonCodec) : GraphIR → GraphIR
  | .mk schemaVersion stateRef entrypoint nodes edges conditionalEdges =>
    .mk schemaVersion stateRef entrypoint (coercedNodes codec nodes) edges conditionalEdges

def coercedNodes (codec : JsonCodec) : List (NodeSpecOf GraphIR) → List (NodeSpecOf GraphIR)
  | [] => []
  | node :: nodes => coercedNode codec node :: coercedNodes codec nodes

def coercedNode (codec : JsonCodec) : NodeSpecOf GraphIR → NodeSpecOf GraphIR
  | .builtin spec => .builtin { spec with config := codec.coercedEntries spec.config }
  | .code spec => .code { spec with config := codec.coercedEntries spec.config }
  | .subgraph id graph => .subgraph id (graph.coerced codec)
end

variable {codec}

open JsonCodec (coerced coercedEntries coercedItems loads_dumps reload reload_plain_iff)

theorem coercedItems_eq_self {xs : List Value} (h : ∀ x ∈ xs, codec.coerced x = x) :
    codec.coercedItems xs = xs := by
  induction xs with
  | nil => rfl
  | cons x xs ih =>
    rw [coercedItems, h x List.mem_cons_self,
      ih fun y hy => h y (List.mem_cons_of_mem _ hy)]

theorem coercedEntries_eq_self {kvs : Config} (h : ∀ e ∈ kvs, codec.coerced e.2 = e.2) :
    codec.coercedEntries kvs = kvs := by
  induction kvs with
  | nil => rfl
  | cons e kvs ih =>
    rw [coercedEntries, h e List.mem_cons_self,
      ih fun e' he' => h e' (List.mem_cons_of_mem _ he')]

@[simp] theorem coerced_edge (e : EdgeSpec) : codec.coerced e.modelDump = e.modelDump := rfl

@[simp] theorem coerced_optionalStr (s : Option String) :
    codec.coerced (optionalStr s) = optionalStr s := by
  cases s <;> rfl

@[simp] theorem coerced_conditionalEdge (c : ConditionalEdgeSpec) :
    codec.coerced c.modelDump = c.modelDump := by
  have mapping : codec.coercedEntries (c.mapping.map fun e => (e.1, .str e.2)) =
      c.mapping.map fun e => (e.1, .str e.2) := by
    apply coercedEntries_eq_self
    intro e member
    obtain ⟨x, _, rfl⟩ := List.mem_map.mp member
    rfl
  simp [ConditionalEdgeSpec.modelDump, coerced, coercedEntries, mapping]

mutual
theorem coerced_modelDump : ∀ ir : GraphIR,
    codec.coerced ir.modelDump = (ir.coerced codec).modelDump
  | .mk schemaVersion stateRef entrypoint nodes edges conditionalEdges => by
    have wired : codec.coercedItems (edges.map EdgeSpec.modelDump) =
        edges.map EdgeSpec.modelDump := coercedItems_eq_self (by simp)
    have branches : codec.coercedItems (conditionalEdges.map ConditionalEdgeSpec.modelDump) =
        conditionalEdges.map ConditionalEdgeSpec.modelDump := coercedItems_eq_self (by simp)
    simp only [GraphIR.modelDump, GraphIR.coerced, coerced, coercedEntries,
      coerced_dumpNodes nodes, wired, branches]

theorem coerced_dumpNodes : ∀ nodes : List (NodeSpecOf GraphIR),
    codec.coercedItems (dumpNodes nodes) = dumpNodes (coercedNodes codec nodes)
  | [] => rfl
  | node :: nodes => by
    rw [dumpNodes, coercedItems, coerced_dumpNode node, coerced_dumpNodes nodes,
      coercedNodes, dumpNodes]

theorem coerced_dumpNode : ∀ node : NodeSpecOf GraphIR,
    codec.coerced (dumpNode node) = dumpNode (coercedNode codec node)
  | .builtin spec => by
    simp [dumpNode, BuiltinNodeSpec.modelDump, coercedNode, coerced,
      coercedEntries]
  | .code spec => by
    have injected : codec.coercedItems (spec.injected.map .str) = spec.injected.map .str :=
      coercedItems_eq_self (by simp [coerced])
    simp [dumpNode, CodeNodeSpec.modelDump, coercedNode, coerced,
      coercedEntries, injected]
  | .subgraph id graph => by
    simp [dumpNode, coercedNode, coerced, coercedEntries,
      coerced_modelDump graph]
end

theorem restore_of_dumps {host : Host} {ir : GraphIR} {text : Json}
    (h : codec.dumps ir.modelDump = some text) :
    restore codec host ir = some (ir.coerced codec) := by
  have read : text.loads = (ir.coerced codec).modelDump := by
    rw [loads_dumps _ h, coerced_modelDump]
  simp [restore, reload, h, read, coerceIr, modelValidate_dump, Except.toOption]

theorem restore_eq_self_iff {host : Host} {ir : GraphIR} :
    restore codec host ir = some ir ↔ codec.plain ir.modelDump = true := by
  rw [← reload_plain_iff]
  cases dumped : codec.dumps ir.modelDump with
  | none => simp [restore, reload, dumped]
  | some text =>
    rw [restore_of_dumps dumped, reload, dumped, Option.map_some,
      loads_dumps _ dumped, coerced_modelDump, Option.some_inj, Option.some_inj]
    constructor
    · intro same
      rw [same]
    · intro same
      have back := modelValidate_dump host.numbers (ir.coerced codec)
      rw [same, modelValidate_dump] at back
      exact (Option.some.inj back).symm

end Orcheo.Graph
