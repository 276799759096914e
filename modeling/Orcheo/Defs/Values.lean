import Orcheo.Defs.Base
import Orcheo.Lib.Binary64

/-! JSON data as Python compares it. -/

namespace Orcheo.Json

open Lib.Binary64 (Number)

/-- What `isinstance(value, (int, float))` lets through, a boolean being an integer. -/
def number? : Json → Option Number
  | bool b => some (.ofInt (if b then 1 else 0))
  | int n => some (.ofInt n)
  | float bits => some (.ofBits bits)
  | _ => none

def numbersEq (x y : Json) : Bool :=
  match x.number?, y.number? with
  | some a, some b => a.eq b
  | _, _ => false

mutual
def pyEq : Json → Json → Bool
  | null, null => true
  | str a, str b => a == b
  | arr xs, arr ys => pyEqList xs ys
  | obj kvs, obj lvs => kvs.length == lvs.length && pyEqEntries kvs lvs
  | x, y => numbersEq x y

def pyEqList : List Json → List Json → Bool
  | [], [] => true
  | x :: xs, y :: ys => pyEq x y && pyEqList xs ys
  | _, _ => false

def pyEqEntries : List (String × Json) → List (String × Json) → Bool
  | [], _ => true
  | (k, x) :: kvs, lvs => (field? lvs k).any (pyEq x) && pyEqEntries kvs lvs
end

/-- What `int` raises: a `ValueError`, an `OverflowError` or a `TypeError`. -/
inductive IntError
  | value | overflow | type
  deriving DecidableEq, Repr

/-- `int(value)`, over how the language reads texts -/
def toInt (parse : String → Option Int) : Json → Except IntError Int
  | bool b => .ok (if b then 1 else 0)
  | int n => .ok n
  | float bits => match Number.ofBits bits with
    | .nan => .error .value
    | .infinite _ => .error .overflow
    | .finite units => .ok (units.tdiv (1 <<< 1074 : Nat))
  | str s => match parse s with
    | none => .error .value
    | some n => .ok n
  | _ => .error .type

end Orcheo.Json
