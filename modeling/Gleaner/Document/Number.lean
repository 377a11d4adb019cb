import Gleaner.Document.Basic
import Gleaner.Decimal.Nearest

/-! # Numbers in documents

    Whole numbers and doubles are compared by their exact values: neither is
    rounded to the other's type. Arithmetic on two whole numbers is exact;
    as soon as one operand is a double, the other is rounded to a double first,
    which fails for a whole number beyond the range of doubles.
-/

namespace Gleaner

/-- A whole number or a double. -/
inductive Number
  | int (n : Int)
  | float (x : Float)

namespace Number

/-- The exact value of a number. -/
def parts : Number → Decimal.Parts
  | int n => .finite (n < 0) n.natAbs 0
  | float x => .of x

/-- `mantissa * 2 ^ exponent` in units of `2 ^ unit`, for a `unit` not above the exponent. -/
def inUnits (unit : Int) (negative : Bool) (mantissa : Nat) (exponent : Int) : Int :=
  let size := mantissa * Decimal.twoTo (exponent - unit).toNat
  if negative then -(size : Int) else size

/-- The order of two numbers, unless one of them is not a number at all. -/
def compare? (a b : Number) : Option Ordering :=
  match a.parts, b.parts with
  | .nan, _ => none
  | _, .nan => none
  | .infinity m, .infinity n => some (if m = n then .eq else if m then .lt else .gt)
  | .infinity m, _ => some (if m then .lt else .gt)
  | _, .infinity n => some (if n then .gt else .lt)
  | .finite m a e, .finite n b f =>
    let unit := min e f
    some (Ord.compare (inUnits unit m a e) (inUnits unit n b f))

/-- Whether two numbers have the same value. -/
def same (a b : Number) : Bool := a.compare? b == some .eq

/-- The double nearest to a number; `none` beyond the range of doubles. -/
def toFloat? : Number → Option Float
  | int n => Decimal.nearestInt? n
  | float x => some x

/-- The document of a number. -/
def toDocument : Number → Document
  | int n => .int n
  | float x => .float x

end Number

namespace Document

/-- A number proper: truth values are none. -/
def number? : Document → Option Number
  | int n => some (.int n)
  | float x => some (.float x)
  | _ => none

/-- A number, false and true counting as zero and one. -/
def count? : Document → Option Number
  | bool b => some (.int (if b then 1 else 0))
  | int n => some (.int n)
  | float x => some (.float x)
  | _ => none

end Document

end Gleaner
