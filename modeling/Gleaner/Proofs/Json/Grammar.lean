import Gleaner.Document.Basic
import Gleaner.Decimal.Nearest
import Mathlib.Data.List.Dedup
import Mathlib.Data.Nat.Digits.Defs

/-! # The grammar of JSON text

    What JSON text is, and which document it denotes, without a reader: every relation
    here is between a text, what the text denotes at its head, and the text that follows.

    The relation of values is stratified by the nesting of lists and objects. The members
    of an object may repeat a key: the keys stand in the order of their first writing, and
    each has the value that was written last.

    Main definitions: `Numeral`, `Quoted`, `Value`, and `Denotes`, which says that a whole
    text is one value with blanks around it.
-/

namespace Gleaner.Json

/-! ## Blanks -/

/-- Space, tab, line feed or carriage return. -/
def IsBlank (p : CodePoint) : Prop :=
  p = .scalar ' ' ∨ p = .scalar '\t' ∨ p = .scalar '\n' ∨ p = .scalar '\r'

/-- Blanks, or nothing. -/
def Blanks (s rest : Text) : Prop :=
  ∃ blanks : Text, (∀ p ∈ blanks, IsBlank p) ∧ s = blanks ++ rest

/-! ## Numbers -/

/-- Digits as they are written. -/
def spelled (digits : List (Fin 10)) : Text :=
  digits.map fun digit : Fin 10 => .scalar (Nat.digitChar digit.val)

/-- The number that digits denote, the first being the most significant. -/
def numberOf (digits : List (Fin 10)) : Nat :=
  Nat.ofDigits 10 (digits.map Fin.val).reverse

/-- A point and digits, or nothing. -/
def fractionText (fraction : Option (List (Fin 10))) : Text :=
  fraction.elim [] fun digits => .scalar '.' :: spelled digits

/-- The sign of an exponent. -/
inductive ExponentSign
  | absent | plus | minus
  deriving DecidableEq

def ExponentSign.text : ExponentSign → Text
  | .absent => []
  | .plus => [.scalar '+']
  | .minus => [.scalar '-']

/-- An exponent. -/
structure Exponent where
  capital  : Bool
  sign     : ExponentSign
  digits   : List (Fin 10)
  nonempty : digits ≠ []

namespace Exponent

def text (exponent : Exponent) : Text :=
  .scalar (if exponent.capital then 'E' else 'e') :: (exponent.sign.text ++ spelled exponent.digits)

def size (exponent : Exponent) : Int :=
  match exponent.sign with
  | .minus => -numberOf exponent.digits
  | _ => numberOf exponent.digits

end Exponent

/-- A number: a minus sign if it is negative, a whole part, and perhaps a fraction and an
    exponent. The whole part does not begin with a zero, unless the zero is all of it. -/
structure Numeral where
  negative : Bool
  whole    : List (Fin 10)
  fraction : Option (List (Fin 10))
  exponent : Option Exponent
  nonempty : whole ≠ []
  unpadded : ∀ digits, whole = 0 :: digits → digits = []
  fraction_nonempty : ∀ digits, fraction = some digits → digits ≠ []

namespace Numeral

def text (numeral : Numeral) : Text :=
  (if numeral.negative then [.scalar '-'] else []) ++ (spelled numeral.whole ++
    (fractionText numeral.fraction ++ numeral.exponent.elim [] Exponent.text))

/-- Without fraction and exponent. -/
def IsInteger (numeral : Numeral) : Prop :=
  numeral.fraction = none ∧ numeral.exponent = none

/-- The integer that the whole part denotes. -/
def integer (numeral : Numeral) : Int :=
  if numeral.negative then -numberOf numeral.whole else numberOf numeral.whole

/-- The double nearest to the number. -/
def double (numeral : Numeral) : Float :=
  let fraction := numeral.fraction.getD []
  Decimal.nearest numeral.negative (numberOf (numeral.whole ++ fraction))
    (numeral.exponent.elim 0 Exponent.size - fraction.length)

/-- Only a number without fraction and exponent denotes an integer. -/
inductive Stands (numeral : Numeral) : Document → Prop
  | integer (integer : numeral.IsInteger) : Stands numeral (.int numeral.integer)
  | double (fractional : ¬ numeral.IsInteger) : Stands numeral (.float numeral.double)

end Numeral

/-! ## Strings -/

/-- A hexadecimal digit of either case, and its value. -/
def Hex (p : CodePoint) (n : Nat) : Prop :=
  n < 16 ∧ (p = .scalar (Nat.digitChar n) ∨ p = .scalar (Nat.digitChar n).toUpper)

/-- Four hexadecimal digits and the UTF-16 unit that they denote. -/
inductive Hex4 : Text → Nat → Text → Prop
  | mk {a b c d : CodePoint} {i j k l : Nat} {rest : Text} (first : Hex a i) (second : Hex b j)
      (third : Hex c k) (fourth : Hex d l) :
      Hex4 (a :: b :: c :: d :: rest) (i * 16 ^ 3 + j * 16 ^ 2 + k * 16 + l) rest

/-- The letters that stand for a code point after a backslash. -/
inductive Letter : Char → Char → Prop
  | quote : Letter '\x22' '\x22'
  | backslash : Letter '\x5c' '\x5c'
  | slash : Letter '/' '/'
  | backspace : Letter 'b' '\x08'
  | formFeed : Letter 'f' '\x0c'
  | lineFeed : Letter 'n' '\x0a'
  | carriageReturn : Letter 'r' '\x0d'
  | tab : Letter 't' '\x09'

/-- A piece of a string: a code point, or a UTF-16 unit in hexadecimal. -/
inductive Piece
  | code (p : CodePoint)
  | unit (n : Nat)

/-- How a piece is written. Quotes, backslashes and control characters only stand as
    escapes. -/
inductive Spelling : Text → Piece → Text → Prop
  | plain {p : CodePoint} {rest : Text} (printable : 0x20 ≤ p.toNat)
      (noQuote : p ≠ .scalar '\x22') (noEscape : p ≠ .scalar '\x5c') :
      Spelling (p :: rest) (.code p) rest
  | letter {letter c : Char} {rest : Text} (stands : Letter letter c) :
      Spelling (.scalar '\x5c' :: .scalar letter :: rest) (.code (.scalar c)) rest
  | unit {s rest : Text} {n : Nat} (digits : Hex4 s n rest) :
      Spelling (.scalar '\x5c' :: .scalar 'u' :: s) (.unit n) rest

/-- Pieces up to the closing quote. -/
inductive Body : Text → List Piece → Text → Prop
  | close {rest : Text} : Body (.scalar '\x22' :: rest) [] rest
  | piece {s after rest : Text} {piece : Piece} {pieces : List Piece}
      (spelling : Spelling s piece after) (body : Body after pieces rest) :
      Body s (piece :: pieces) rest

/-- A high surrogate and a low one. -/
def IsPair (high low : Nat) : Prop :=
  (0xD800 ≤ high ∧ high < 0xDC00) ∧ 0xDC00 ≤ low ∧ low < 0xE000

instance (high low : Nat) : Decidable (IsPair high low) := inferInstanceAs (Decidable (_ ∧ _))

/-- The text of pieces. A unit of the high surrogates and one of the low surrogates right
    after it are one code point; every other unit is a code point by itself. -/
def decoded : List Piece → Text
  | [] => []
  | .code p :: pieces => p :: decoded pieces
  | .unit high :: .unit low :: pieces =>
    if IsPair high low then
      .ofNat (0x10000 + (high - 0xD800) * 0x400 + (low - 0xDC00)) :: decoded pieces
    else .ofNat high :: decoded (.unit low :: pieces)
  | .unit n :: pieces => .ofNat n :: decoded pieces

/-- A string in quotes. -/
inductive Quoted : Text → Text → Text → Prop
  | mk {s rest : Text} {pieces : List Piece} (body : Body s pieces rest) :
      Quoted (.scalar '\x22' :: s) (decoded pieces) rest

/-! ## Values -/

/-- Values without items and members. An integer has at most `limit` digits. -/
inductive Scalar (limit : Nat) : Text → Document → Text → Prop
  | null {rest : Text} : Scalar limit (Text.ofString "null" ++ rest) .null rest
  | true {rest : Text} : Scalar limit (Text.ofString "true" ++ rest) (.bool true) rest
  | false {rest : Text} : Scalar limit (Text.ofString "false" ++ rest) (.bool false) rest
  | number {numeral : Numeral} {document : Document} {rest : Text}
      (stands : numeral.Stands document)
      (short : numeral.IsInteger → numeral.whole.length ≤ limit) :
      Scalar limit (numeral.text ++ rest) document rest
  | string {s t rest : Text} (quoted : Quoted s t rest) : Scalar limit s (.string t) rest

section Compound

variable (value : Text → Document → Text → Prop)

/-- Items between commas, up to the closing bracket. -/
inductive Items : Text → List Document → Text → Prop
  | last {s start after rest : Text} {item : Document} (before : Blanks s start)
      (itself : value start item after) (behind : Blanks after (.scalar ']' :: rest)) :
      Items s [item] rest
  | more {s start after next rest : Text} {item : Document} {items : List Document}
      (before : Blanks s start) (itself : value start item after)
      (behind : Blanks after (.scalar ',' :: next)) (others : Items next items rest) :
      Items s (item :: items) rest

/-- A key in quotes, a colon and a value, with blanks around each of them. -/
inductive Member : Text → Text × Document → Text → Prop
  | mk {s start afterKey colon valueStart afterValue rest : Text} {key : Text}
      {document : Document} (before : Blanks s start) (quoted : Quoted start key afterKey)
      (behindKey : Blanks afterKey (.scalar ':' :: colon)) (beforeValue : Blanks colon valueStart)
      (itself : value valueStart document afterValue) (behind : Blanks afterValue rest) :
      Member s (key, document) rest

/-- Members between commas, up to the closing brace. -/
inductive Members : Text → List (Text × Document) → Text → Prop
  | last {s rest : Text} {member : Text × Document}
      (itself : Member value s member (.scalar '\x7d' :: rest)) : Members s [member] rest
  | more {s next rest : Text} {member : Text × Document} {members : List (Text × Document)}
      (itself : Member value s member (.scalar ',' :: next)) (others : Members next members rest) :
      Members s (member :: members) rest

/-- The object that members make when they are written one over the other. -/
structure LastWritten (written members : List (Text × Document)) : Prop where
  /-- Each key once, in the order of their first writing. -/
  keys : Keyed.keys members = (written.map Prod.fst).reverse.dedup.reverse
  /-- The value of a key is the one written last. -/
  last : ∀ key, Keyed.get? key members = Keyed.get? key written.reverse

/-- Lists and objects, whose items and members are values in the sense of `value`. -/
inductive Compound : Text → Document → Text → Prop
  | emptyArray {s rest : Text} (blanks : Blanks s (.scalar ']' :: rest)) :
      Compound (.scalar '[' :: s) (.array []) rest
  | array {s rest : Text} {items : List Document} (itself : Items value s items rest) :
      Compound (.scalar '[' :: s) (.array items) rest
  | emptyObject {s rest : Text} (blanks : Blanks s (.scalar '\x7d' :: rest)) :
      Compound (.scalar '\x7b' :: s) (.object []) rest
  | object {s rest : Text} {written members : List (Text × Document)}
      (itself : Members value s written rest) (lastWritten : LastWritten written members) :
      Compound (.scalar '\x7b' :: s) (.object members) rest

end Compound

/-- Values whose lists and objects nest at most `depth` levels, with at most `limit` digits
    in each integer. -/
def Value (limit : Nat) : (depth : Nat) → Text → Document → Text → Prop
  | 0, s, document, rest => Scalar limit s document rest
  | depth + 1, s, document, rest =>
    Scalar limit s document rest ∨ Compound (Value limit depth) s document rest

/-- The text is one value with blanks around it. -/
def Denotes (limit depth : Nat) (text : Text) (document : Document) : Prop :=
  ∃ start rest, Blanks text start ∧ Value limit depth start document rest ∧ Blanks rest []

end Gleaner.Json
