import Gleaner.Document.Basic
import Gleaner.Text.Digit

/-! # Why JSON text is refused

    A text is malformed at a place, or it is well formed there and still refused:
    for a constant that JSON does not have, for an integer with too many digits,
    or for nesting that is too deep. Only texts can be read at all.
-/

namespace Gleaner.Json

/-- What is wrong at a place of the text. -/
inductive Flaw
  | missingValue
  | trailingText
  | byteOrderMark
  | openString
  | controlCharacter
  | badEscape
  | badUnicodeEscape
  | missingName
  | missingColon
  | missingComma
  deriving DecidableEq, Repr

/-- The message of a flaw, without its place. -/
def Flaw.message : Flaw → String
  | missingValue => "Expecting value"
  | trailingText => "Extra data"
  | byteOrderMark => "Unexpected UTF-8 BOM (decode using utf-8-sig)"
  | openString => "Unterminated string starting at"
  | controlCharacter => "Invalid control character at"
  | badEscape => "Invalid \\escape"
  | badUnicodeEscape => "Invalid \\uXXXX escape"
  | missingName => "Expecting property name enclosed in double quotes"
  | missingColon => "Expecting ':' delimiter"
  | missingComma => "Expecting ',' delimiter"

/-- The constants that are no JSON values. -/
inductive Constant
  | nan | infinity | negativeInfinity
  deriving DecidableEq, Repr

def Constant.name : Constant → String
  | nan => "NaN"
  | infinity => "Infinity"
  | negativeInfinity => "-Infinity"

/-- The two kinds of nesting. -/
inductive Bracket
  | array | object
  deriving DecidableEq, Repr

/-- Why a text, or something that is no text, cannot be read. -/
inductive ReadError
  /-- Lines and columns count from one, positions from zero. -/
  | malformed (flaw : Flaw) (line column position : Nat)
  | constant (which : Constant)
  | tooManyDigits (count : Nat)
  | tooDeep (bracket : Bracket)
  | notText (kind : Document.Kind)
  deriving DecidableEq, Repr

/-- The message of a refused text. -/
def ReadError.message : ReadError → Text
  | malformed flaw line column position =>
    Text.ofString flaw.message ++ Text.ofString ": line " ++ Text.ofNat line ++
      Text.ofString " column " ++ Text.ofNat column ++
      Text.ofString " (char " ++ Text.ofNat position ++ Text.ofString ")"
  | constant which => Text.ofString which.name ++ Text.ofString " is not valid JSON"
  | tooManyDigits count =>
    Text.ofString "Exceeds the limit (" ++ Text.ofNat Text.digitLimit ++
      Text.ofString " digits) for integer string conversion: value has " ++ Text.ofNat count ++
      Text.ofString " digits; use sys.set_int_max_str_digits() to increase the limit"
  | tooDeep bracket =>
    Text.ofString "maximum recursion depth exceeded while decoding a JSON " ++
      Text.ofString (match bracket with | .array => "array" | .object => "object") ++
      Text.ofString " from a unicode string"
  | notText kind =>
    Text.ofString "the JSON object must be str, bytes or bytearray, not " ++ Text.ofString kind.name

end Gleaner.Json
