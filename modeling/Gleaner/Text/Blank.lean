import Gleaner.Text.Basic

/-! # Blanks

    Two sets of blank code points. The wide one holds every code point with the
    Unicode property of white space or a bidirectional class of separators,
    which adds the four information separators U+001C to U+001F. The other is the
    white space property alone.
-/

namespace Gleaner.CodePoint

/-- The inclusive ranges of blank code points, in order. -/
def blankRanges : List (Nat × Nat) :=
  [
    (0x9, 0xd), (0x1c, 0x20), (0x85, 0x85), (0xa0, 0xa0), (0x1680, 0x1680), (0x2000, 0x200a),
    (0x2028, 0x2029), (0x202f, 0x202f), (0x205f, 0x205f), (0x3000, 0x3000)]

/-- A blank of the wide set. -/
def isBlank (p : CodePoint) : Bool :=
  blankRanges.any fun (low, high) => low ≤ p.toNat && p.toNat ≤ high

/-- A code point with the white space property. -/
def isWhiteSpace (p : CodePoint) : Bool :=
  p.isBlank && !(0x1c ≤ p.toNat && p.toNat ≤ 0x1f)

end Gleaner.CodePoint

namespace Gleaner.Text

/-- A text without the code points of a set at its two ends. -/
def stripEnds (set : CodePoint → Bool) (text : Text) : Text :=
  ((text.dropWhile set).reverse.dropWhile set).reverse

/-- A text without the white space at its two ends. -/
def trim (text : Text) : Text := text.stripEnds CodePoint.isWhiteSpace

/-- A text without the blanks of the wide set at its two ends. -/
def trimBlanks (text : Text) : Text := text.stripEnds CodePoint.isBlank

end Gleaner.Text
