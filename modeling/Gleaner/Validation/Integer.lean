import Gleaner.Validation.Basic
import Gleaner.Decimal.Nearest
import Gleaner.Text.Blank
import Gleaner.Text.Digit

/-! # Integers from values

    A field for an integer takes integers of any size, truth values as one and zero,
    doubles without a fraction, and texts: a sign, zeros that do not count, digits that may
    be grouped by single underscores, and a fraction of zeros only.
-/

namespace Gleaner.Validation

/-! ## Texts -/

/-- What is left of a number behind its leading zeros, of which the last one passed was
    `last`. Underscores may stand among them in any number. If no other digit follows, the
    last one stays. -/
def behindZeros? (last : CodePoint) : Text → Option Text
  | [] => some [last]
  | p :: rest =>
    if p = .scalar '0' ∨ p = .scalar '_' then behindZeros? p rest
    else if p = .scalar '.' then some (last :: p :: rest)
    else if p.digit?.isSome then some (p :: rest)
    else none

/-- A number without its leading zeros, unless it does not even begin with a digit. -/
def withoutLeadingZeros? : Text → Option Text
  | [] => none
  | p :: rest =>
    if p = .scalar '0' then behindZeros? p rest
    else if p.digit?.isSome then some (p :: rest)
    else none

/-- A text without the point and zeros at its end; a point needs a zero behind it. -/
def withoutZeroFraction (s : Text) : Text :=
  match Text.cutAt? (.scalar '.') s with
  | some (whole, p :: zeros) =>
    if (p :: zeros).all (· == .scalar '0') then whole else s
  | _ => s

/-- Whether every underscore stands between two code points that are none. -/
def isGrouped (s : Text) : Bool :=
  s.head? != some (.scalar '_') && s.getLast? != some (.scalar '_') &&
    (s.zip s.tail).all fun (p, q) => p != .scalar '_' || q != .scalar '_'

/-- A text without its underscores, if they only group what stands in it. -/
def ungrouped (s : Text) : Text := if isGrouped s then s.filter (· ≠ .scalar '_') else s

/-- The sign of a number, and the number without it. Leading zeros of a number without a
    minus go with the sign. -/
def signed? (s : Text) : Option (Bool × Text) :=
  match s with
  | .scalar '-' :: rest => some (true, rest)
  | .scalar '+' :: rest => (withoutLeadingZeros? rest).map (false, ·)
  | s => (withoutLeadingZeros? s).map (false, ·)

/-- The integer that a text denotes. Its length counts only when nothing is left in it but a
    minus and digits. -/
def integerOfText (s : Text) : Except Problem Int := do
  let s ← encodable s
  match signed? s.trim with
  | none => .error .notIntegerText
  | some (negative, number) =>
    let digits := ungrouped (withoutZeroFraction number)
    if Text.digitLimit < digits.length + (if negative then 1 else 0) then .error .tooManyDigits
    else
      match digits, digits.mapM CodePoint.digit? with
      | _ :: _, some values =>
        let size : Int := Text.digitsValue values
        .ok (if negative then -size else size)
      | _, _ => .error .notIntegerText

/-! ## Values -/

/-- The integer that a double is, below 2 ^ 63 in size. -/
def integerOfFloat (x : Float) : Except Problem Int :=
  match Decimal.Parts.of x with
  | .nan => .error .notFinite
  | .infinity _ => .error .notFinite
  | .finite negative mantissa exponent =>
    let below := Decimal.twoTo (-exponent).toNat
    if mantissa % below ≠ 0 then .error .fraction
    else
      let size := mantissa * Decimal.twoTo exponent.toNat / below
      if Decimal.twoTo 63 ≤ size then .error .tooManyDigits
      else .ok (if negative then -(size : Int) else size)

/-- The integer that a value stands for. -/
def integer : Document → Except Problem Int
  | .bool b => .ok (if b then 1 else 0)
  | .int n => .ok n
  | .float x => integerOfFloat x
  | .string s => integerOfText s
  | .null => .error .notInteger
  | .array _ => .error .notInteger
  | .object _ => .error .notInteger

/-- An integer of at least one. -/
def positive (value : Document) : Except Problem { n : Nat // 0 < n } :=
  match integer value with
  | .error problem => .error problem
  | .ok n => if h : 0 < n.toNat then .ok ⟨n.toNat, h⟩ else .error .belowOne

end Gleaner.Validation
