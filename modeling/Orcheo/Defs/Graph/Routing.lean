import Orcheo.Defs.Base

/-! The two ways in which a conditional edge chooses its destination: by a value in the state, and
by what an edge instance answers. -/

namespace Orcheo.Graph

open Lib (Dict)

def langgraphStart : String := "__start__"

def langgraphEnd : String := "__end__"

def normaliseVertex (name : String) : String :=
  if name = "START" then langgraphStart
  else if name = "END" then langgraphEnd
  else name

/-- No key matches and there is no default. -/
structure RoutingError where
  path : Option String
  value : String
  known : List String
  deriving DecidableEq, Repr

inductive Routed
  | one (destination : String)
  | many (destinations : List String)
  deriving DecidableEq, Repr

section Routing

variable (render : Json → String)

/-- `str(value)`; `render` is for numbers and containers -/
def strOf : Json → String
  | .str s => s
  | .bool true => "True"
  | .bool false => "False"
  | .null => "None"
  | value => render value

def conditionKey : Json → String
  | .bool true => "true"
  | .bool false => "false"
  | .null => "null"
  | value => strOf render value

/-- `path.split(".")` -/
def pathKeys (path : String) : List String := (path.toList.splitOn '.').map String.ofList

def readPath : List String → Json → Json
  | [], value => value
  | key :: keys, .obj kvs => readPath keys ((Json.field? kvs key).getD .null)
  | _ :: _, _ => .null

variable (mapping : List (String × String))

def normalisedMapping : List (String × String) :=
  mapping.map (fun e => (e.1, normaliseVertex e.2))

def resolvedDefault (default : Option String) : Option String :=
  (default.filter (· ≠ "")).map normaliseVertex

def destination (default : Option String) (key : String) :
    Option String :=
  (Dict.lookup key mapping).or default

def makeCondition (path : String) (mapping : List (String × String)) (default : Option String)
    (state : Json) : Except RoutingError String :=
  let key := conditionKey render (readPath (pathKeys path) state)
  match destination mapping default key with
  | some target => .ok target
  | none => .error ⟨some path, key, mapping.map Prod.fst⟩

def coerceEdgeDestination (default : Option String) (value : Json) : Except RoutingError String :=
  match destination mapping default (strOf render value) with
  | some target => .ok target
  | none => .error ⟨none, strOf render value, mapping.map Prod.fst⟩

def buildEdgeRouter (edge : Json → Json) (mapping : List (String × String))
    (default : Option String) (state : Json) : Except RoutingError Routed :=
  let coerce := coerceEdgeDestination render (normalisedMapping mapping) (resolvedDefault default)
  match edge state with
  | .arr items => (items.mapM coerce).map .many
  | result => (coerce result).map .one

end Routing

/-- The routes of one conditional edge: by its state path, and by an edge instance that answers
the value at that path. -/
structure Branching where
  path : String
  mapping : List (String × String)
  default : Option String

namespace Branching

variable (render : Json → String) (b : Branching) (state : Json)

def value : Json := readPath (pathKeys b.path) state

def target (key : String) : Option String :=
  destination (normalisedMapping b.mapping) (resolvedDefault b.default) key

def byCondition : Except RoutingError String :=
  makeCondition render b.path (normalisedMapping b.mapping) (resolvedDefault b.default) state

def byRouter : Except RoutingError Routed :=
  buildEdgeRouter render b.value b.mapping b.default state

/-- Both take the same branch, or neither takes any. -/
def Agree : Prop :=
  (b.byRouter render state).toOption = (b.byCondition render state).toOption.map .one

theorem byCondition_eq : (b.byCondition render state).toOption =
    b.target (conditionKey render (b.value state)) := by
  unfold byCondition makeCondition
  change (match b.target (conditionKey render (b.value state)) with
    | some target => Except.ok target
    | none => Except.error _).toOption = _
  cases b.target (conditionKey render (b.value state)) with
  | none => rfl
  | some target => rfl

theorem coerce_eq (value : Json) :
    (coerceEdgeDestination render (normalisedMapping b.mapping) (resolvedDefault b.default)
      value).toOption = b.target (strOf render value) := by
  unfold coerceEdgeDestination
  change (match b.target (strOf render value) with
    | some target => Except.ok target
    | none => Except.error _).toOption = _
  cases b.target (strOf render value) with
  | none => rfl
  | some target => rfl

theorem toOption_map {ε α β : Type} (f : α → β) (x : Except ε α) :
    (x.map f).toOption = x.toOption.map f := by
  cases x with
  | error e => rfl
  | ok a => rfl

theorem byRouter_eq (single : ∀ items, b.value state ≠ .arr items) :
    (b.byRouter render state).toOption =
      (b.target (strOf render (b.value state))).map .one := by
  unfold byRouter buildEdgeRouter
  dsimp only
  split
  next items found => exact absurd found (single items)
  next => rw [toOption_map, coerce_eq]

theorem agree_iff (single : ∀ items, b.value state ≠ .arr items) : b.Agree render state ↔
    b.target (strOf render (b.value state)) = b.target (conditionKey render (b.value state)) := by
  unfold Agree
  rw [b.byRouter_eq render state single, b.byCondition_eq]
  constructor
  · intro same
    exact Option.map_injective (fun _ _ => Routed.one.inj) same
  · exact congrArg _

/-- The values that both render alike. -/
def Plain : Json → Prop
  | .null | .bool _ | .arr _ => False
  | _ => True

/-- Numbers, strings and objects take the same branch both ways; booleans and null where the
mapping treats the two spellings alike; a list goes to one destination for each item. -/
theorem routers_agree (render : Json → String) (b : Branching) (state : Json) :
    (Plain (b.value state) → b.Agree render state) ∧
    (∀ flag, b.value state = .bool flag → (b.Agree render state ↔
      b.target (if flag then "True" else "False") = b.target (if flag then "true" else "false"))) ∧
    (b.value state = .null → (b.Agree render state ↔ b.target "None" = b.target "null")) ∧
    ∀ items, b.value state = .arr items → b.byRouter render state =
      (items.mapM (coerceEdgeDestination render (normalisedMapping b.mapping)
        (resolvedDefault b.default))).map .many := by
  refine ⟨?_, ?_, ?_, ?_⟩
  · intro plain
    have single : ∀ items, b.value state ≠ .arr items := by
      intro items found
      rw [found] at plain
      exact plain
    rw [b.agree_iff render state single]
    cases found : b.value state with
    | null => exact (found ▸ plain : Plain .null).elim
    | bool flag => exact (found ▸ plain : Plain (.bool flag)).elim
    | arr items => exact absurd found (single items)
    | int | float | str | obj => rfl
  · intro flag found
    rw [b.agree_iff render state (by rw [found]; simp), found]
    cases flag with
    | true => exact Iff.rfl
    | false => exact Iff.rfl
  · intro found
    rw [b.agree_iff render state (by rw [found]; simp), found]
    exact Iff.rfl
  · intro items found
    unfold byRouter buildEdgeRouter
    rw [found]

theorem boolean_routed_apart : ¬ ∀ (render : Json → String) (b : Branching) (state : Json),
    b.Agree render state := by
  intro agree
  let b : Branching := ⟨"flag", [("true", "yes")], some "no"⟩
  let state : Json := .obj [("flag", .bool true)]
  have found : b.value state = .bool true := by decide +kernel
  have same := (b.agree_iff (fun _ => "") state (by rw [found]; simp)).mp (agree _ b state)
  rw [found] at same
  exact absurd same (by decide +kernel)

end Branching

end Orcheo.Graph
