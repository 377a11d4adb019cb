import Gleaner.Document.Basic
import Gleaner.Decimal.Shortest
import Gleaner.Text.Quoted

/-! # Writing JSON text

    Documents are written on one line with a blank after each comma and colon. All
    code points outside the ASCII characters from blank to tilde are escaped, those
    above U+FFFF as a pair of surrogates.
-/

namespace Gleaner.Json

/-- A UTF-16 unit as an escape. -/
def unitEscape (n : Nat) : Text := Text.ofString "\\u" ++ Text.hexadecimal 4 n

/-- One code point inside a JSON string. -/
def escaped (p : CodePoint) : Text :=
  let n := p.toNat
  if n = 0x22 then "\\\""
  else if n = 0x5c then "\\\\"
  else if n = 0x0a then "\\n"
  else if n = 0x0d then "\\r"
  else if n = 0x09 then "\\t"
  else if n = 0x0c then "\\f"
  else if n = 0x08 then "\\b"
  else if 0x20 ≤ n ∧ n ≤ 0x7e then [p]
  else if n < 0x10000 then unitEscape n
  else unitEscape (0xD800 + (n - 0x10000) / 0x400) ++ unitEscape (0xDC00 + (n - 0x10000) % 0x400)

/-- A text as a JSON string. -/
def writeString (text : Text) : Text :=
  .scalar '\x22' :: text.flatMap escaped ++ [.scalar '\x22']

/-- JSON names the doubles that are no numbers by words of its own. -/
def layout : Decimal.Layout := { Decimal.Layout.plain with infinity := "Infinity", nan := "NaN" }

mutual

/-- A document as JSON text. -/
def write : Document → Text
  | .null => "null"
  | .bool b => if b then "true" else "false"
  | .int n => Text.ofInt n
  | .float x => layout.write x
  | .string t => writeString t
  | .array items => .scalar '[' :: writeItems items ++ Text.ofString "]"
  | .object members => .scalar '\x7b' :: writeMembers members ++ Text.ofString "\x7d"

def writeItems : List Document → Text
  | [] => []
  | [item] => write item
  | item :: next :: rest => write item ++ Text.ofString ", " ++ writeItems (next :: rest)

def writeMembers : List (Text × Document) → Text
  | [] => []
  | [(key, value)] => writeString key ++ Text.ofString ": " ++ write value
  | (key, value) :: next :: rest =>
    writeString key ++ Text.ofString ": " ++ write value ++ Text.ofString ", " ++
      writeMembers (next :: rest)

end

end Gleaner.Json
