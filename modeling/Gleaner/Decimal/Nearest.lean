import Gleaner.Decimal.Power

/-! # Doubles as exact numbers

    A finite double is `mantissa * 2 ^ exponent` with a mantissa below 2 ^ 53 and
    an exponent of at least -1074. The bits of a non-negative double, read as a
    number, count the doubles below it; so rounding a ratio to the nearest double
    is a division of naturals, and the carry into the exponent is the plain carry
    of that count.

    Main definitions: `Decimal.nearest`, the double nearest to a decimal literal,
    and `Decimal.Parts.of`, which takes a double apart again.
-/

namespace Gleaner.Decimal

/-- `num / den` rounded to a natural number, a tie going to the even one. -/
def roundHalfEven (num den : Nat) : Nat :=
  let floor := num / den
  let rest := num % den
  if 2 * rest < den then floor
  else if den < 2 * rest then floor + 1
  else floor + floor % 2

/-- The ratio `num / den / 2 ^ exponent`. -/
def scaleDown (num den : Nat) (exponent : Int) : Nat × Nat :=
  if 0 ≤ exponent then (num, den * twoTo exponent.toNat)
  else (num * twoTo (-exponent).toNat, den)

/-- The bits of positive infinity. -/
def infinityBits : Nat := 0x7ff0000000000000

/-- The bits of the double nearest to `num / den`, a tie going to the even
    mantissa; infinity if the ratio is too large.

    The exponent is first chosen so that the mantissa falls below 2 ^ 54, and is
    raised by one if the mantissa needs more than 53 bits. -/
def nearestBits (num den : Nat) : Nat :=
  if num = 0 then 0
  else
    let low : Int := max ((num.log2 : Int) - den.log2 - 53) (-1074)
    let (n, d) := scaleDown num den low
    let exponent := if n / d < twoTo 53 then low else low + 1
    let (n, d) := scaleDown num den exponent
    min (roundHalfEven n d + (exponent + 1074).toNat * twoTo 52) infinityBits

/-- The double with a sign and the bits of its absolute value. -/
def ofBits (negative : Bool) (bits : Nat) : Float :=
  let size := Float.ofBits (UInt64.ofNat bits)
  if negative then -size else size

/-- The double nearest to `digits * 10 ^ exponent` under a sign.

    A literal of `size` digits lies between `10 ^ (size - 1 + exponent)` and
    `10 ^ (size + exponent)`, so a far exponent decides the answer by itself. -/
def nearest (negative : Bool) (digits : Nat) (exponent : Int) : Float :=
  let size : Int := (Nat.toDigits 10 digits).length
  let bits :=
    if digits = 0 then 0
    else if 310 < size + exponent then infinityBits
    else if size + exponent < -326 then 0
    else if 0 ≤ exponent then nearestBits (digits * tenTo exponent.toNat) 1
    else nearestBits digits (tenTo (-exponent).toNat)
  ofBits negative bits

/-- The double nearest to an integer, or `none` if the integer is too large. -/
def nearestInt? (n : Int) : Option Float :=
  let bits := nearestBits n.natAbs 1
  if bits = infinityBits then none else some (ofBits (n < 0) bits)

/-- A double taken apart. -/
inductive Parts
  | nan
  | infinity (negative : Bool)
  | finite (negative : Bool) (mantissa : Nat) (exponent : Int)
  deriving DecidableEq, Repr

/-- The parts of a double. -/
def Parts.of (x : Float) : Parts :=
  let bits := x.toBits.toNat
  let negative := twoTo 63 ≤ bits
  let size := bits % twoTo 63
  let fraction := size % twoTo 52
  let field : Nat := size / twoTo 52
  if field = 2047 then (if fraction = 0 then .infinity negative else .nan)
  else if field = 0 then .finite negative fraction (-1074)
  else .finite negative (fraction + twoTo 52) ((field : Int) - 1075)

end Gleaner.Decimal
