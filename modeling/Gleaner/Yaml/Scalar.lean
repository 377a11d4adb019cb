import Gleaner.Document.Basic
import Gleaner.Json.Number

/-! # Plain YAML scalars

    A scalar without quotes is null, a truth value, a number or a text, which its
    spelling decides. Integers may be written in base two, eight, ten, sixteen or
    sixty, and digits may be grouped by underscores anywhere but at the start.
-/

namespace Gleaner.Yaml

/-! ## Words -/

/-- The spellings of null. -/
def nulls : List Text := ["", "~", "null", "Null", "NULL"]

/-- The spellings of true. -/
def truths : List Text :=
  ["yes", "Yes", "YES", "true", "True", "TRUE", "on", "On", "ON"]

/-- The spellings of false. -/
def falsehoods : List Text :=
  ["no", "No", "NO", "false", "False", "FALSE", "off", "Off", "OFF"]

/-- The spellings of infinity, after a sign. -/
def infinities : List Text := [".inf", ".Inf", ".INF"]

/-- The spellings of what is no number. -/
def nans : List Text := [".nan", ".NaN", ".NAN"]

/-! ## Numbers -/

/-- A sign of either kind at the head of a text, if there is one. -/
def takeSign? : Text → Option Bool × Text
  | .scalar '-' :: rest => (some true, rest)
  | .scalar '+' :: rest => (some false, rest)
  | s => (none, s)

/-- Digits and underscores. -/
def isGrouped (p : CodePoint) : Bool := Json.isDigit p || p == .scalar '_'

/-- A text without underscores. -/
def ungrouped (s : Text) : Text := s.filter (· ≠ .scalar '_')

/-- The value of digits in a base, among which underscores may stand. -/
def digitsIn? (base : Nat) (s : Text) : Option Nat :=
  match (ungrouped s).mapM CodePoint.hexDigit? with
  | none => none
  | some [] => none
  | some digits =>
    if digits.all (· < base) then some (digits.foldl (fun acc d => acc * base + d) 0) else none

/-- Digits of which the first is no zero. -/
def decimal? (s : Text) : Option Nat :=
  match s with
  | [] => none
  | p :: _ => if p.digit?.getD 0 = 0 then none else digitsIn? 10 s

/-- A part of a number in base sixty: one digit, or two below sixty. -/
def sixtieth? (s : Text) : Option Nat :=
  match s.mapM CodePoint.digit? with
  | some [d] => some d
  | some [t, d] => if t < 6 then some (t * 10 + d) else none
  | _ => none

/-- The size of an integer without its sign. -/
def natural? (s : Text) : Option Nat :=
  match s with
  | [.scalar '0'] => some 0
  | .scalar '0' :: .scalar 'b' :: digits => digitsIn? 2 digits
  | .scalar '0' :: .scalar 'x' :: digits => digitsIn? 16 digits
  | .scalar '0' :: _ => digitsIn? 8 s
  | _ =>
    match Text.splitAt (.scalar ':') s with
    | [] => none
    | first :: parts => do
      let first ← decimal? first
      let parts ← parts.mapM sixtieth?
      some (parts.foldl (fun acc part => acc * 60 + part) first)

/-- The exponent at the end of a double, which must have a sign, or nothing. -/
def exponent? : Text → Option Int
  | [] => some 0
  | e :: sign :: digits =>
    if (e = .scalar 'e' ∨ e = .scalar 'E') ∧ (sign = .scalar '-' ∨ sign = .scalar '+') ∧
        digits ≠ [] ∧ digits.all Json.isDigit then
      let size : Int := Json.digitsValue digits
      some (if sign = .scalar '-' then -size else size)
    else none
  | _ => none

/-- A double with a point. Without digits before the point it has none for a sign. -/
def double? (s : Text) : Option Float := do
  let (sign, unsigned) := takeSign? s
  let (whole, rest) ← Text.cutAt? (.scalar '.') unsigned
  let fraction := rest.takeWhile isGrouped
  let exponent ← exponent? (rest.dropWhile isGrouped)
  let leads := if sign.isNone ∧ whole = [] then fraction else whole
  guard ((leads.head?.bind CodePoint.digit?).isSome ∧ whole.all isGrouped)
  let fraction := ungrouped fraction
  return Decimal.nearest (sign.getD false) (Json.digitsValue (ungrouped whole ++ fraction))
    (exponent - fraction.length)

/-- A double that is spelled as a word. -/
def namedDouble? (s : Text) : Option Float :=
  let (sign, unsigned) := takeSign? s
  if unsigned ∈ infinities then some (Decimal.ofBits (sign.getD false) Decimal.infinityBits)
  else if s ∈ nans then some Json.Constant.nan.double
  else none

/-- The integer of a spelling. -/
def integer? (s : Text) : Option Int :=
  let (sign, unsigned) := takeSign? s
  (natural? unsigned).map fun size => if sign.getD false then -(size : Int) else size

/-- The value of a plain scalar. -/
def scalar (s : Text) : Document :=
  if s ∈ nulls then .null
  else if s ∈ truths then .bool true
  else if s ∈ falsehoods then .bool false
  else match integer? s with
    | some n => .int n
    | none => match double? s with
      | some x => .float x
      | none => match namedDouble? s with
        | some x => .float x
        | none => .string s

end Gleaner.Yaml
