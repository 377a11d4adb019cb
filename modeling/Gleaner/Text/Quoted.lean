import Gleaner.Text.Printable

/-! # Quoted text

    A text in quotes, as it stands in messages and in the notation of values:
    single quotes, or double quotes if the text holds a single quote and no
    double one. Inside, a backslash escapes itself and the quote in use; line
    feed, carriage return and tab are named; every other code point that is not
    printable is written by its number in two, four or eight hexadecimal digits.
-/

namespace Gleaner.Text

/-- `n` in lower-case hexadecimal, filled up with zeros to `width` digits. -/
def hexadecimal (width n : Nat) : Text :=
  let digits := Nat.toDigits 16 n
  (List.replicate (width - digits.length) '0' ++ digits).map .scalar

/-- One code point inside quotes. -/
def quotedPoint (quote : Char) (p : CodePoint) : Text :=
  let n := p.toNat
  if p = .scalar quote ∨ p = .scalar '\x5c' then [.scalar '\x5c', p]
  else if n = 10 then "\\n"
  else if n = 13 then "\\r"
  else if n = 9 then "\\t"
  else if p.isPrintable then [p]
  else if n < 0x100 then ofString "\\x" ++ hexadecimal 2 n
  else if n < 0x10000 then ofString "\\u" ++ hexadecimal 4 n
  else ofString "\\U" ++ hexadecimal 8 n

/-- The quote that a text is put in. -/
def quoteFor (text : Text) : Char :=
  if CodePoint.scalar '\x27' ∈ text ∧ CodePoint.scalar '\x22' ∉ text then '\x22' else '\x27'

/-- A text in quotes. -/
def quoted (text : Text) : Text :=
  let quote := quoteFor text
  .scalar quote :: text.flatMap (quotedPoint quote) ++ [.scalar quote]

end Gleaner.Text
