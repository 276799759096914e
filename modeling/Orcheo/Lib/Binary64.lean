import Mathlib.Data.Int.Order.Basic

/-! The numbers that doubles stand for, counted in units of the smallest positive one, and their
comparison with the integers. -/

namespace Orcheo.Lib.Binary64

/-- A finite number is so many units of `2 ^ -1074`. -/
inductive Number
  | nan
  | infinite (negative : Bool)
  | finite (units : Int)
  deriving DecidableEq, Repr

namespace Number

def ofInt (n : Int) : Number := .finite (n * (1 <<< 1074 : Nat))

/-- The number of a double: a sign, eleven bits of exponent and a fraction of fifty-two. -/
def ofBits (bits : BitVec 64) : Number :=
  let exponent := (bits.toNat >>> 52) % 2048
  let fraction := bits.toNat % (1 <<< 52)
  if exponent = 2047 then if fraction = 0 then .infinite bits.msb else .nan
  else
    let units : Int :=
      if exponent = 0 then fraction else ((1 <<< 52) + fraction) <<< (exponent - 1)
    .finite (if bits.msb then -units else units)

def eq : Number → Number → Bool
  | finite a, finite b => a == b
  | infinite a, infinite b => a == b
  | _, _ => false

def lt : Number → Number → Bool
  | finite a, finite b => decide (a < b)
  | infinite true, finite _ => true
  | finite _, infinite false => true
  | infinite true, infinite false => true
  | _, _ => false

def isNan : Number → Bool
  | nan => true
  | _ => false

end Number

end Orcheo.Lib.Binary64
