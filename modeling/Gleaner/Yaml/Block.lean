import Gleaner.Yaml.Flow

/-! # Reading YAML text

    A document is a mapping whose entries stand on lines of their own. What is
    indented more than a line belongs to it: the entries of a mapping inside, or the
    rest of a value that does not end on the line. Entries of one mapping are
    indented alike.
-/

namespace Gleaner.Yaml

/-! ## Lines -/

/-- Where the scanning for a comment stands. -/
inductive Scan
  | outside (previous : CodePoint)
  | single
  | double
  | escaped

/-- Whether quotes open a text after this code point. -/
def opensQuotes (previous : CodePoint) : Bool :=
  isBlank previous || (Text.ofString "[\x7b,:'").elem previous

/-- A line without its comment, which starts after a blank and outside of quotes. -/
def uncommented : Scan → Text → Text
  | _, [] => []
  | .single, p :: rest =>
    p :: uncommented (if p = .scalar '\x27' then .outside p else .single) rest
  | .double, p :: rest =>
    p :: uncommented (if p = .scalar '\x22' then .outside p
      else if p = .scalar '\x5c' then .escaped else .double) rest
  | .escaped, p :: rest => p :: uncommented .double rest
  | .outside previous, p :: rest =>
    if p = .scalar '#' ∧ isBlank previous then []
    else p :: uncommented (if !opensQuotes previous then .outside p
      else if p = .scalar '\x27' then .single
      else if p = .scalar '\x22' then .double
      else .outside p) rest

/-- A line that is not blank. -/
structure Line where
  indent : Nat
  text   : Text

/-- A line without the blanks at its end. -/
def withoutEnd (line : Text) : Text :=
  (line.reverse.dropWhile fun p => isBlank p || p == .scalar '\r').reverse

/-- The line of a text, if there is anything on it. Only spaces indent. -/
def Line.of? (s : Text) : Option Line :=
  let line := withoutEnd (uncommented (.outside (.scalar ' ')) s)
  let text := line.dropWhile (· == .scalar ' ')
  if text = [] then none else some ⟨line.length - text.length, text⟩

/-- The lines of a text. The mark of a document's start is left out. -/
def lines (s : Text) : List Line :=
  match (Text.splitAt (.scalar '\n') s).filterMap Line.of? with
  | first :: rest => if first.indent = 0 ∧ first.text = "---" then rest else first :: rest
  | [] => []

/-! ## Blocks -/

/-- A line with the lines that are indented more and follow it at once. -/
inductive Block
  | mk (indent : Nat) (text : Text) (inner : List Block)

namespace Block

def indent : Block → Nat
  | mk indent _ _ => indent

def text : Block → Text
  | mk _ text _ => text

/-- The blocks of a list of lines. -/
def ofLines : List Line → List Block
  | [] => []
  | line :: rest =>
    have := (List.takeWhile_prefix (l := rest) fun l => decide (line.indent < l.indent)).length_le
    have := (List.dropWhile_suffix (l := rest) fun l => decide (line.indent < l.indent)).length_le
    mk line.indent line.text (ofLines (rest.takeWhile fun l => line.indent < l.indent)) ::
      ofLines (rest.dropWhile fun l => line.indent < l.indent)
termination_by lines => lines.length

/-- Blocks that are all indented alike. -/
def aligned : List Block → Bool
  | [] => true
  | first :: rest => rest.all fun block => block.indent == first.indent

mutual

/-- The texts of all lines of a block. -/
def texts : Block → List Text
  | mk _ text inner => text :: allTexts inner

def allTexts : List Block → List Text
  | [] => []
  | block :: rest => texts block ++ allTexts rest

end

end Block

/-- The key at the head of a line and the text after its colon. -/
def keyAndValue? (s : Text) : Option (Text × Text) := do
  let name ← key false s
  match skipBlanks name.rest with
  | .scalar ':' :: rest =>
    guard (endsKey false rest)
    return (name.value, skipBlanks rest)
  | _ => none

/-- A value that is spread over lines. -/
def foldedValue (lines : List Text) : Option Document := wholeValue (Text.join " " lines)

/-- Whether blocks make a mapping, which the first one shows. -/
def areEntries : List Block → Bool
  | [] => false
  | first :: _ => (keyAndValue? first.text).isSome

mutual

/-- The entry of a mapping. -/
def Block.entry? : Block → Option (Text × Document)
  | .mk _ text inner => do
    let (name, value) ← keyAndValue? text
    if value ≠ [] then
      return (name, ← foldedValue (value :: Block.allTexts inner))
    else if inner.isEmpty then
      return (name, .null)
    else if areEntries inner then
      guard (Block.aligned inner)
      return (name, .object (Keyed.ofPairs (← entries? inner)))
    else
      return (name, ← foldedValue (Block.allTexts inner))

def entries? : List Block → Option (List (Text × Document))
  | [] => some []
  | block :: rest => do
    let first ← block.entry?
    let more ← entries? rest
    return first :: more

end

/-- The document that a text denotes, if the text is well formed. An empty text is
    null. -/
def read (text : Text) : Option Document :=
  match Block.ofLines (lines text) with
  | [] => some .null
  | blocks =>
    if areEntries blocks then
      if Block.aligned blocks then
        (entries? blocks).map fun pairs => .object (Keyed.ofPairs pairs)
      else none
    else foldedValue (Block.allTexts blocks)

end Gleaner.Yaml
