import Gleaner.Json.Error
import Gleaner.Decimal.Nearest

/-! # JSON numbers

    A number literal has a sign, a whole part without leading zeros, and perhaps a
    fraction and an exponent. The longest literal at the head of a text is taken:
    a fraction or an exponent without digits is no part of it.

    A literal without fraction and exponent denotes an integer, any other one the
    nearest double.
-/

namespace Gleaner.Json

/-- An ASCII digit. -/
def isDigit (p : CodePoint) : Bool := p.digit?.isSome

/-- The number that a run of ASCII digits denotes. -/
def digitsValue (digits : Text) : Nat := Text.digitsValue (digits.filterMap CodePoint.digit?)

/-- A number as written. -/
structure NumberLiteral where
  negative : Bool
  /-- The digits before the point. -/
  whole    : Text
  /-- The digits after the point, if there is one. -/
  fraction : Option Text
  exponent : Option Int

/-- The digits at the head of a text and what follows them. -/
def takeDigits (s : Text) : Text × Text := (s.takeWhile isDigit, s.dropWhile isDigit)

/-- The sign at the head of a text. -/
def takeMinus : Text → Bool × Text
  | .scalar '-' :: rest => (true, rest)
  | s => (false, s)

/-- A zero, or digits that start with none. -/
def takeWhole? (s : Text) : Option (Text × Text) :=
  match s with
  | .scalar '0' :: rest => some ([.scalar '0'], rest)
  | p :: _ => if isDigit p then some (takeDigits s) else none
  | [] => none

/-- A point and at least one digit. -/
def takeFraction (s : Text) : Option Text × Text :=
  match s with
  | .scalar '.' :: rest =>
    match takeDigits rest with
    | ([], _) => (none, s)
    | (digits, after) => (some digits, after)
  | _ => (none, s)

/-- The sign of either kind at the head of a text. -/
def takeSign : Text → Bool × Text
  | .scalar '-' :: rest => (true, rest)
  | .scalar '+' :: rest => (false, rest)
  | s => (false, s)

/-- An exponent's sign and at least one digit. -/
def takeSignedDigits? (s : Text) : Option (Int × Text) :=
  let (negative, s) := takeSign s
  match takeDigits s with
  | ([], _) => none
  | (digits, after) =>
    let size : Int := digitsValue digits
    some (if negative then -size else size, after)

/-- The letter e of either case and a signed number. -/
def takeExponent (s : Text) : Option Int × Text :=
  let after? := match s with
    | .scalar 'e' :: rest => takeSignedDigits? rest
    | .scalar 'E' :: rest => takeSignedDigits? rest
    | _ => none
  match after? with
  | some (exponent, after) => (some exponent, after)
  | none => (none, s)

/-- The longest number literal at the head of a text. -/
def takeNumber? (s : Text) : Option (NumberLiteral × Text) :=
  let (negative, s) := takeMinus s
  (takeWhole? s).map fun (whole, s) =>
    let (fraction, s) := takeFraction s
    let (exponent, s) := takeExponent s
    (⟨negative, whole, fraction, exponent⟩, s)

namespace NumberLiteral

/-- Whether the literal denotes an integer. -/
def isInteger (literal : NumberLiteral) : Bool :=
  literal.fraction.isNone && literal.exponent.isNone

/-- The integer of a literal without fraction and exponent. -/
def integer (literal : NumberLiteral) : Int :=
  let size : Int := digitsValue literal.whole
  if literal.negative then -size else size

/-- The double nearest to the literal. -/
def double (literal : NumberLiteral) : Float :=
  let fraction := literal.fraction.getD []
  Decimal.nearest literal.negative (digitsValue (literal.whole ++ fraction))
    (literal.exponent.getD 0 - fraction.length)

/-- The document that the literal denotes. -/
def denotes (literal : NumberLiteral) : Document :=
  if literal.isInteger then .int literal.integer else .float literal.double

end NumberLiteral

/-- The double that a constant stands for. -/
def Constant.double : Constant → Float
  | .nan => Decimal.ofBits false 0x7ff8000000000000
  | .infinity => Decimal.ofBits false Decimal.infinityBits
  | .negativeInfinity => Decimal.ofBits true Decimal.infinityBits

/-! ## A number literal is not empty -/

theorem length_takeDigits_snd_le (s : Text) : (takeDigits s).2.length ≤ s.length :=
  (List.dropWhile_suffix _).length_le

theorem length_takeMinus_snd_le (s : Text) : (takeMinus s).2.length ≤ s.length := by
  unfold takeMinus
  split <;> simp

theorem length_of_takeWhole? {s whole rest : Text} (h : takeWhole? s = some (whole, rest)) :
    rest.length < s.length := by
  unfold takeWhole? at h
  split at h
  · simp only [Option.some.injEq, Prod.mk.injEq] at h
    simp [← h.2]
  · next p tail _ =>
    split at h
    · next hp =>
      simp only [takeDigits, List.dropWhile_cons, hp, ↓reduceIte, Option.some.injEq,
        Prod.mk.injEq] at h
      have := (List.dropWhile_suffix isDigit (l := tail)).length_le
      simp only [← h.2, List.length_cons]
      omega
    · simp at h
  · simp at h

theorem length_takeFraction_snd_le (s : Text) : (takeFraction s).2.length ≤ s.length := by
  unfold takeFraction
  split
  · next rest =>
    split
    · simp
    · next digits after _ h =>
      have : after.length ≤ rest.length := by simpa [h] using length_takeDigits_snd_le rest
      simpa using Nat.le_succ_of_le this
  · simp

theorem length_takeSign_snd_le (s : Text) : (takeSign s).2.length ≤ s.length := by
  unfold takeSign
  split <;> simp

theorem length_of_takeSignedDigits? {s rest : Text} {n : Int}
    (h : takeSignedDigits? s = some (n, rest)) : rest.length ≤ s.length := by
  unfold takeSignedDigits? at h
  simp only at h
  split at h
  · simp at h
  · next digits after _ ht =>
    simp only [Option.some.injEq, Prod.mk.injEq] at h
    have h1 := length_takeSign_snd_le s
    have h2 : after.length ≤ (takeSign s).2.length := by
      simpa [ht] using length_takeDigits_snd_le (takeSign s).2
    rw [← h.2]
    omega

theorem length_takeExponent_snd_le (s : Text) : (takeExponent s).2.length ≤ s.length := by
  unfold takeExponent
  simp only
  split
  · next exponent after h =>
    split at h
    · exact Nat.le_succ_of_le (length_of_takeSignedDigits? h)
    · exact Nat.le_succ_of_le (length_of_takeSignedDigits? h)
    · simp at h
  · simp

theorem length_of_takeNumber? {s rest : Text} {literal : NumberLiteral}
    (h : takeNumber? s = some (literal, rest)) : rest.length < s.length := by
  unfold takeNumber? at h
  simp only [Option.map_eq_some_iff, Prod.mk.injEq, Prod.exists] at h
  obtain ⟨whole, after, hw, -, rfl⟩ := h
  have h1 := length_takeMinus_snd_le s
  have h2 := length_of_takeWhole? hw
  have h3 := length_takeFraction_snd_le after
  have h4 := length_takeExponent_snd_le (takeFraction after).2
  omega

end Gleaner.Json
