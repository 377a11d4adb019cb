import Gleaner.Path.Token

/-! # Named operations

    An operation in backquotes is a word such as `len`, or it is written with
    arguments in parentheses:

    * `split(c, n, m)` takes a separator, the number of a piece or a star for all
      pieces, and the greatest number of cuts; a negative one means no limit;
    * `sub(/part/, substitute)` replaces every occurrence of a part;
    * `str()` has none.

    Of several ways to read the arguments the one with the longest first argument
    counts. What follows the closing parenthesis is ignored.
-/

namespace Gleaner.Path.Operation

/-- A start of a text without line feeds, the longest after which `f` accepts the
    rest, with what `f` makes of the rest. -/
def longestStart? (f : Text → Option α) : Text → Option (Text × α)
  | [] => (f []).map ([], ·)
  | p :: rest =>
    if p = .scalar '\n' then (f (p :: rest)).map ([], ·)
    else
      match longestStart? f rest with
      | some (start, a) => some (p :: start, a)
      | none => (f (p :: rest)).map ([], ·)

/-- The same for a start that is not empty. -/
def longestPart? (f : Text → Option α) : Text → Option (Text × α)
  | [] => none
  | p :: rest =>
    if p = .scalar '\n' then none
    else (longestStart? f rest).map fun (start, a) => (p :: start, a)

/-- A text without the blanks at its head. -/
def skipBlanks (s : Text) : Text := s.dropWhile CodePoint.isBlank

/-- The text with fewer and fewer of the blanks at its head dropped, from all of
    them to none. -/
def blankTails : Text → List Text
  | [] => [[]]
  | p :: rest => if p.isBlank then blankTails rest ++ [p :: rest] else [p :: rest]

/-- A whole number and what follows it. -/
def takeInteger? (s : Text) : Option (Int × Text) :=
  let (negative, s) := match s with
    | .scalar '-' :: rest => (true, rest)
    | s => (false, s)
  match takeDigits s with
  | ([], _) => none
  | (digits, rest) =>
    let size : Int := Text.digitsValue digits
    some (if negative then -size else size, rest)

/-- A mark with blanks around it. -/
def takeMark? (c : Char) (s : Text) : Option Text :=
  match skipBlanks s with
  | .scalar d :: rest => if c = d then some (skipBlanks rest) else none
  | _ => none

/-- The second and third argument of a split, up to the closing parenthesis. -/
def takePieceAndLimit? (s : Text) : Option (Option Int × Option Nat) := do
  let s ← takeMark? ',' s
  let (piece, s) ← match s with
    | .scalar '*' :: rest => some (none, rest)
    | s => (takeInteger? s).map fun (n, rest) => (some n, rest)
  let s ← takeMark? ',' s
  let (limit, s) ← takeInteger? s
  let _ ← takeMark? ')' s
  some (piece, if limit < 0 then none else some limit.toNat)

/-- The arguments of a split; the separator may stand in quotes. -/
def splitArguments? (s : Text) : Option Operation :=
  let quoted? : Option (Text × Option Int × Option Nat) :=
    match s with
    | p :: rest =>
      if p = .scalar '\x27' ∨ p = .scalar '\x22' then
        longestPart? (fun t => (Text.dropStart? [p] t).bind takePieceAndLimit?) rest
      else none
    | [] => none
  (quoted? <|> longestPart? takePieceAndLimit? s).map fun (separator, piece, limit) =>
    .split separator piece limit

/-- The arguments of a replacement. -/
def replaceArguments? (s : Text) : Option Operation := do
  let s ← Text.dropStart? "/" s
  let substitute? (t : Text) : Option Text := do
    let t ← Text.dropStart? "/," t
    if t.head?.any CodePoint.isBlank then
      let (substitute, _) ← longestStart? (Text.dropStart? ")") (skipBlanks t)
      some substitute
    else none
  let (part, substitute) ← longestStart? substitute? s
  some (.replace part.trimBlanks substitute.trimBlanks)

/-- The operation that a text in backquotes names. -/
def ofText? (s : Text) : Option Operation :=
  if s = "len" then some .size
  else if s = "keys" then some .keys
  else if s = "path" then some .step
  else if s = "sorted" then some .sorted
  else
    match Text.dropStart? "split(" s, Text.dropStart? "sub(" s, Text.dropStart? "str()" s with
    | some rest, _, _ => (blankTails rest).findSome? splitArguments?
    | none, some rest, _ => replaceArguments? rest
    | none, none, some _ => some .text
    | none, none, none => none

end Gleaner.Path.Operation
