import Mathlib.Data.Finset.Basic
import Orcheo.Lib.Dict

/-! Identifiers, instants and JSON data shared by every part of the platform. -/

namespace Orcheo

abbrev Uuid := Nat

/-- An aware `datetime`, in microseconds since the epoch. -/
abbrev Instant := Int

/-- A `timedelta`, in microseconds. -/
abbrev Duration := Int

def seconds (n : Int) : Duration := n * 1000000

inductive Json
  | null
  | bool (b : Bool)
  | int (n : Int)
  | float (bits : BitVec 64)
  | str (s : String)
  | arr (xs : List Json)
  | obj (kvs : List (String × Json))

namespace Json

/-- `value.get(key)` on the entries of an object -/
def field? (kvs : List (String × Json)) (key : String) : Option Json := Lib.Dict.lookup key kvs

mutual
def beq : Json → Json → Bool
  | null, null => true
  | bool a, bool b => a == b
  | int a, int b => a == b
  | float a, float b => a == b
  | str a, str b => a == b
  | arr xs, arr ys => beqList xs ys
  | obj xs, obj ys => beqEntries xs ys
  | _, _ => false

def beqList : List Json → List Json → Bool
  | [], [] => true
  | x :: xs, y :: ys => beq x y && beqList xs ys
  | _, _ => false

def beqEntries : List (String × Json) → List (String × Json) → Bool
  | [], [] => true
  | (k, x) :: xs, (l, y) :: ys => k == l && beq x y && beqEntries xs ys
  | _, _ => false
end

mutual
theorem eq_of_beq : ∀ (x y : Json), beq x y = true → x = y
  | null, y, h => by cases y <;> simp_all [beq]
  | bool a, y, h => by cases y <;> simp_all [beq]
  | int a, y, h => by cases y <;> simp_all [beq]
  | float a, y, h => by cases y <;> simp_all [beq]
  | str a, y, h => by cases y <;> simp_all [beq]
  | arr xs, y, h => by
    cases y with
    | arr ys => exact congrArg arr (eq_of_beqList xs ys (by simpa [beq] using h))
    | _ => simp [beq] at h
  | obj xs, y, h => by
    cases y with
    | obj ys => exact congrArg obj (eq_of_beqEntries xs ys (by simpa [beq] using h))
    | _ => simp [beq] at h

theorem eq_of_beqList : ∀ (xs ys : List Json), beqList xs ys = true → xs = ys
  | [], ys, h => by cases ys <;> simp_all [beqList]
  | x :: xs, [], h => by simp [beqList] at h
  | x :: xs, y :: ys, h => by
    simp only [beqList, Bool.and_eq_true] at h
    rw [eq_of_beq x y h.1, eq_of_beqList xs ys h.2]

theorem eq_of_beqEntries : ∀ (xs ys : List (String × Json)),
    beqEntries xs ys = true → xs = ys
  | [], ys, h => by cases ys <;> simp_all [beqEntries]
  | (k, x) :: xs, [], h => by simp [beqEntries] at h
  | (k, x) :: xs, (l, y) :: ys, h => by
    simp only [beqEntries, Bool.and_eq_true, beq_iff_eq] at h
    rw [h.1.1, eq_of_beq x y h.1.2, eq_of_beqEntries xs ys h.2]
end

mutual
theorem beq_self : ∀ x : Json, beq x x = true
  | null => rfl
  | bool _ => by simp [beq]
  | int _ => by simp [beq]
  | float _ => by simp [beq]
  | str _ => by simp [beq]
  | arr xs => by simpa [beq] using beqList_self xs
  | obj xs => by simpa [beq] using beqEntries_self xs

theorem beqList_self : ∀ xs : List Json, beqList xs xs = true
  | [] => rfl
  | x :: xs => by simp [beqList, beq_self x, beqList_self xs]

theorem beqEntries_self : ∀ xs : List (String × Json), beqEntries xs xs = true
  | [] => rfl
  | (_, x) :: xs => by simp [beqEntries, beq_self x, beqEntries_self xs]
end

instance : DecidableEq Json := fun x y =>
  decidable_of_iff (beq x y = true) ⟨eq_of_beq x y, fun h => h ▸ beq_self x⟩

end Json

end Orcheo
