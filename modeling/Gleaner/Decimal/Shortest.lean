import Gleaner.Decimal.Nearest
import Gleaner.Text.Basic

/-! # Shortest decimal text of a double

    The digits are the fewest that read back as the same double, and of those the
    nearest to its value. The reals that round to `m * 2 ^ e` form an interval;
    for one digit, two digits and so on, the two neighbours of the value on that
    decimal grid are tried against the interval in exact arithmetic, and the first
    grid with a hit wins.

    How the digits are laid out is a separate matter, fixed by a `Layout`.
-/

namespace Gleaner.Decimal

/-- The reals that round to one double, in units of `2 ^ unit`: from `low` to
    `high` around `value`, the ends included if `closed`. -/
structure Interval where
  low    : Nat
  value  : Nat
  high   : Nat
  unit   : Int
  closed : Bool

/-- The interval of `mantissa * 2 ^ exponent`. Below a power of two the doubles
    lie closer together. -/
def Interval.of (mantissa : Nat) (exponent : Int) : Interval where
  low    := if mantissa = twoTo 52 ∧ -1074 < exponent then 4 * mantissa - 1 else 4 * mantissa - 2
  value  := 4 * mantissa
  high   := 4 * mantissa + 2
  unit   := exponent - 2
  closed := mantissa % 2 = 0

/-- `n * 2 ^ unit` and `c * 10 ^ grid` over a common denominator. -/
def commonScale (unit grid : Int) (n c : Nat) : Nat × Nat :=
  (n * twoTo unit.toNat * tenTo (-grid).toNat, c * tenTo grid.toNat * twoTo (-unit).toNat)

/-- Whether `c * 10 ^ grid` lies in the interval. -/
def Interval.holds (i : Interval) (grid : Int) (c : Nat) : Bool :=
  let (low, here) := commonScale i.unit grid i.low c
  let (high, _) := commonScale i.unit grid i.high c
  if i.closed then low ≤ here && here ≤ high else low < here && here < high

/-- The exponent of ten of the first digit of a value: the value is scaled by
    `10 ^ 400`, which exceeds the reciprocal of every double. -/
def Interval.magnitude (i : Interval) : Int :=
  let scaled := i.value * twoTo i.unit.toNat * tenTo 400 / twoTo (-i.unit).toNat
  ((Nat.toDigits 10 scaled).length : Int) - 401

/-- The nearest point of a grid inside the interval, if there is one. -/
def Interval.onGrid? (i : Interval) (grid : Int) : Option Nat :=
  let (value, step) := commonScale i.unit grid i.value 1
  let below := value / step
  let above := below + 1
  match i.holds grid below, i.holds grid above with
  | true, true =>
    let rest := value % step
    if 2 * rest < step then some below
    else if step < 2 * rest then some above
    else some (below + below % 2)
  | true, false => some below
  | false, true => some above
  | false, false => none

/-- Tries grids of `count` digits and more, `fuel` of them. -/
def Interval.search (i : Interval) (magnitude : Int) : (fuel count : Nat) → Nat × Int
  | 0, _ => (i.value, 0)
  | fuel + 1, count =>
    let grid := magnitude + 1 - count
    match i.onGrid? grid with
    | some c => (c, grid)
    | none => search i magnitude fuel (count + 1)

/-- Seventeen digits are enough for every double. -/
def Interval.shortest (i : Interval) : Nat × Int :=
  i.search i.magnitude 17 1

/-- The digits of a positive finite double without closing zeros, and the exponent
    of ten of the first of them. -/
def shortestDigits (mantissa : Nat) (exponent : Int) : List Char × Int :=
  let (c, grid) := (Interval.of mantissa exponent).shortest
  let digits := Nat.toDigits 10 c
  let kept := (digits.reverse.dropWhile (· = '0')).reverse
  (kept, grid + digits.length - 1)

/-- How the digits of a double are laid out. -/
structure Layout where
  /-- The least exponent of ten that is written without an exponent. -/
  leastPositional : Int
  /-- The greatest exponent of ten that is written without an exponent. -/
  mostPositional  : Int
  /-- The least number of digits of a written exponent. -/
  exponentDigits  : Nat
  infinity        : String
  nan             : String

/-- A written exponent has a mark, a sign and its digits. -/
def Layout.exponent (layout : Layout) (e : Int) : List Char :=
  let digits := Nat.toDigits 10 e.natAbs
  'e' :: (if e < 0 then '-' else '+') ::
    (List.replicate (layout.exponentDigits - digits.length) '0' ++ digits)

/-- Digits with the first of them at exponent `e`. A positional number always has
    a point and a digit after it; a mantissa has a point only if it has two digits
    or more. -/
def Layout.place (layout : Layout) (digits : List Char) (e : Int) : List Char :=
  if e < layout.leastPositional ∨ layout.mostPositional < e then
    match digits with
    | first :: second :: more => first :: '.' :: second :: more ++ layout.exponent e
    | _ => digits ++ layout.exponent e
  else if e < 0 then
    '0' :: '.' :: List.replicate ((-e).toNat - 1) '0' ++ digits
  else
    let whole := e.toNat + 1
    let padded := digits ++ List.replicate (whole - digits.length) '0'
    let fraction := padded.drop whole
    padded.take whole ++ '.' :: (if fraction.isEmpty then ['0'] else fraction)

/-- The text of a double under a layout. -/
def Layout.write (layout : Layout) (x : Float) : Text :=
  let signed (negative : Bool) (cs : List Char) : Text :=
    ((if negative then ['-'] else []) ++ cs).map .scalar
  match Parts.of x with
  | .nan => layout.nan
  | .infinity negative => signed negative layout.infinity.toList
  | .finite negative 0 _ => signed negative (layout.place ['0'] 0)
  | .finite negative mantissa exponent =>
    let (digits, e) := shortestDigits mantissa exponent
    signed negative (layout.place digits e)

/-- Values write exponents from -4 to 15 positionally, and an exponent has at
    least two digits. -/
def Layout.plain : Layout := ⟨-4, 15, 2, "inf", "nan"⟩

end Gleaner.Decimal
