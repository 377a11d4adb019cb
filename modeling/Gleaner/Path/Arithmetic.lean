import Gleaner.Path.Basic
import Gleaner.Document.Order

/-! # Arithmetic and comparison of values

    Truth values count as zero and one in arithmetic, but in comparisons they are
    not numbers. Texts and lists can be joined, and repeated a whole number of times.
-/

namespace Gleaner.Path

/-- Why two values have no arithmetic result. -/
inductive ArithmeticError
  /-- The operator does not apply to values of these kinds. -/
  | mismatch
  /-- A whole number beyond the doubles, or a repetition that is too long. -/
  | tooLarge
  /-- A side is the parent of a start, which has no value. -/
  | absent
  deriving DecidableEq, Repr

namespace Operator

/-- The operator on whole numbers. -/
def onInts : Operator → Int → Int → Int
  | plus => (· + ·)
  | minus => (· - ·)
  | times => (· * ·)

/-- The operator on doubles. -/
def onFloats : Operator → Float → Float → Float
  | plus => (· + ·)
  | minus => (· - ·)
  | times => (· * ·)

/-- The operator on numbers: exact on whole numbers, rounded as soon as one of
    them is a double. -/
def onNumbers (operator : Operator) : Number → Number → Except ArithmeticError Document
  | .int m, .int n => .ok (.int (operator.onInts m n))
  | x, y =>
    match x.toFloat?, y.toFloat? with
    | some x, some y => .ok (.float (operator.onFloats x y))
    | _, _ => .error .tooLarge

end Operator

/-- The most items that a repetition may make. -/
def repetitionLimit : Nat := Decimal.twoTo 26

/-- A list repeated; a count that is not positive leaves nothing. -/
def repeated (list : List α) (count : Int) : Except ArithmeticError (List α) :=
  if count < -(Decimal.twoTo 63 : Int) ∨ (Decimal.twoTo 63 : Int) ≤ count then .error .tooLarge
  else if list.isEmpty then .ok []
  else if repetitionLimit < list.length * count.toNat then .error .tooLarge
  else .ok (List.replicate count.toNat list).flatten

/-- The whole number that a value counts as. -/
def wholeCount? (value : Document) : Option Int :=
  match value.count? with
  | some (.int n) => some n
  | _ => none

/-- A text or a list repeated. -/
def repeatValue (value : Document) (count : Int) : Except ArithmeticError Document :=
  match value with
  | .string text => (repeated text count).map .string
  | .array list => (repeated list count).map .array
  | _ => .error .mismatch

/-- The result of an operator on two values. -/
def Operator.apply (operator : Operator) (x y : Document) : Except ArithmeticError Document :=
  match x.count?, y.count? with
  | some m, some n => operator.onNumbers m n
  | _, _ =>
    match operator with
    | .plus =>
      match x, y with
      | .string s, .string t => .ok (.string (s ++ t))
      | .array s, .array t => .ok (.array (s ++ t))
      | _, _ => .error .mismatch
    | .minus => .error .mismatch
    | .times =>
      match wholeCount? x, wholeCount? y with
      | none, some n => repeatValue x n
      | some n, none => repeatValue y n
      | _, _ => .error .mismatch

namespace Comparison

/-- What a comparison makes of an order; equality is decided apart. -/
def ofOrdering : Comparison → Ordering → Bool
  | equal, o => o == .eq
  | notEqual, o => o != .eq
  | atMost, o => o != .gt
  | atLeast, o => o != .lt
  | less, o => o == .lt
  | greater, o => o == .gt
  | resembles, _ => false

/-- What a comparison makes of values that can only be the same or not. -/
def ofSameness : Comparison → Bool → Bool
  | equal, same => same
  | notEqual, same => !same
  | atMost, same => same
  | atLeast, same => same
  | less, _ => false
  | greater, _ => false
  | resembles, _ => false

/-- A comparison of two values. Numbers and texts have an order, other values can
    only be the same; a pattern must be a text. -/
def holds? (comparison : Comparison) (x y : Document) : Option Bool :=
  match comparison with
  | .resembles =>
    match x, y with
    | .string text, .string pattern => some (Text.contains pattern text)
    | .string _, _ => none
    | _, _ => some false
  | comparison =>
    match x.number?, y.number? with
    | some m, some n =>
      match m.compare? n with
      | some o => some (comparison.ofOrdering o)
      | none => some (comparison == .notEqual)
    | _, _ =>
      match x, y with
      | .string s, .string t => some (comparison.ofOrdering (Text.compare s t))
      | _, _ => some (comparison.ofSameness (x.same y))

/-- A comparison of which a side has no value at all. -/
def ofAbsence (comparison : Comparison) (noneLeft noneRight : Bool) : Bool :=
  match comparison with
  | notEqual => !(noneLeft && noneRight)
  | equal => noneLeft && noneRight
  | atMost => noneLeft && noneRight
  | atLeast => noneLeft && noneRight
  | _ => false

end Comparison

end Gleaner.Path
