import Gleaner.Taken
import Gleaner.Path.Basic
import Gleaner.Decimal.Nearest
import Gleaner.Text.Blank
import Gleaner.Text.Digit

/-! # Tokens of the path language

    A path text is cut into tokens from the left. At each place the kinds of tokens
    are tried in a fixed order: sort marks before names, names before numbers,
    numbers before texts in quotes, and marks last.

    Blanks, tabs and line feeds between tokens are skipped. A text in quotes is a
    name like any other, but never one of the reserved words.
-/

namespace Gleaner.Path

inductive Token
  | name (text : Text)
  | null
  | bool (b : Bool)
  | number (n : Int)
  | decimal (x : Float)
  /-- A text in backquotes. -/
  | operation (text : Text)
  | having
  | lacking
  | sortMark (descending : Bool)
  | comparison (comparison : Comparison)
  | dots
  | bars
  | ampersands
  | mark (c : Char)

/-! ## Names -/

/-- A name begins with a letter or an underscore. -/
def isNameStart (p : CodePoint) : Bool := p.isLetter || p == .scalar '_'

/-- Inside a name, digits, the at sign and the hyphen may stand as well. -/
def isNamePart (p : CodePoint) : Bool :=
  isNameStart p || p.digit?.isSome || p == .scalar '@' || p == .scalar '-'

/-- The words that are tokens of their own. -/
def wordToken (word : Text) : Token :=
  if word = "true" then .bool true
  else if word = "false" then .bool false
  else if word = "null" then .null
  else if word = "where" then .having
  else if word = "wherenot" then .lacking
  else .name word

theorem length_dropWhile_lt_cons {α : Type} (q : α → Bool) (a : α) (rest : List α) :
    (rest.dropWhile q).length < (a :: rest).length := by
  have := (List.dropWhile_suffix q (l := rest)).length_le
  simp only [List.length_cons]
  omega

/-- A name, or a reserved word, perhaps with an at sign before it. -/
def takeName (s : Text) : Option (Taken Token s) :=
  match s with
  | [] => none
  | p :: rest =>
    if isNameStart p then
      some ⟨wordToken (p :: rest.takeWhile isNamePart), rest.dropWhile isNamePart,
        length_dropWhile_lt_cons _ _ _⟩
    else if p = .scalar '@' ∧ rest.head?.any isNameStart then
      some ⟨.name (p :: rest.takeWhile isNamePart), rest.dropWhile isNamePart,
        length_dropWhile_lt_cons _ _ _⟩
    else none

/-! ## Sort marks -/

/-- A text without a comma at its head. -/
def dropComma : Text → Text
  | .scalar ',' :: rest => rest
  | s => s

theorem length_dropComma_le (s : Text) : (dropComma s).length ≤ s.length := by
  unfold dropComma
  split <;> simp

/-- A slash or a backslash, with a comma and blanks before it. -/
def takeSortMark (s : Text) : Option (Taken Token s) :=
  have hc := length_dropComma_le s
  have hb := (List.dropWhile_suffix CodePoint.isBlank (l := dropComma s)).length_le
  match h : (dropComma s).dropWhile CodePoint.isBlank with
  | .scalar '/' :: rest => some ⟨.sortMark false, rest, by simp [h] at hb; omega⟩
  | .scalar '\x5c' :: rest => some ⟨.sortMark true, rest, by simp [h] at hb; omega⟩
  | _ => none

/-! ## Numbers -/

/-- The values of the digits at the head of a text, digits of any script, and what
    follows them. -/
def takeDigits : Text → List Nat × Text
  | [] => ([], [])
  | p :: rest =>
    match p.anyDigit? with
    | none => ([], p :: rest)
    | some d =>
      let (digits, after) := takeDigits rest
      (d :: digits, after)

theorem length_takeDigits (s : Text) :
    (takeDigits s).1.length + (takeDigits s).2.length = s.length := by
  induction s with
  | nil => rfl
  | cons p rest ih =>
    rw [takeDigits]
    split
    · simp
    · simp only [List.length_cons]
      omega

/-- A point and at least one digit. -/
def takeFraction? : Text → Option (List Nat × Text)
  | .scalar '.' :: rest =>
    match takeDigits rest with
    | ([], _) => none
    | (digits, after) => some (digits, after)
  | _ => none

theorem length_of_takeFraction? {s rest : Text} {digits : List Nat}
    (h : takeFraction? s = some (digits, rest)) : rest.length ≤ s.length := by
  unfold takeFraction? at h
  split at h
  · next t =>
    have := length_takeDigits t
    split at h
    · simp at h
    · next ds after _ he =>
      simp only [he, Option.some.injEq, Prod.mk.injEq] at h this
      simp only [List.length_cons, ← h.2]
      omega
  · simp at h

/-- Digits, perhaps with a fraction, after their sign. A whole number may not have
    more digits than the limit. -/
def takeUnsigned (negative : Bool) (s : Text) : Option (Taken Token s) :=
  have hd := length_takeDigits s
  match h : takeDigits s with
  | ([], _) => none
  | (d :: ds, after) =>
    have ha : after.length < s.length := by
      simp only [h, List.length_cons] at hd
      omega
    match hf : takeFraction? after with
    | some (fraction, rest) =>
      some ⟨.decimal (Decimal.nearest negative (Text.digitsValue (d :: ds ++ fraction))
        (-(fraction.length : Int))), rest, Nat.lt_of_le_of_lt (length_of_takeFraction? hf) ha⟩
    | none =>
      if Text.digitLimit < (d :: ds).length then none
      else
        let size : Int := Text.digitsValue (d :: ds)
        some ⟨.number (if negative then -size else size), after, ha⟩

/-- A number with a hyphen as its sign. -/
def takeNumber (s : Text) : Option (Taken Token s) :=
  match s with
  | .scalar '-' :: rest => (takeUnsigned true rest).map Taken.push
  | s => takeUnsigned false s

/-! ## Texts in quotes -/

/-- The text up to the closing quote. A backslash stands for the code point after
    it, which is no line feed. -/
def takeQuoted (quote : CodePoint) : (s : Text) → Option (Taken Text s)
  | [] => none
  | p :: rest =>
    if p = quote then some (.head [] rest)
    else if p = .scalar '\x5c' then
      match rest with
      | [] => none
      | q :: more =>
        if q = .scalar '\n' then none
        else (takeQuoted quote more).map fun taken => (taken.map (q :: ·)).push.push
    else (takeQuoted quote rest).map fun taken => (taken.map (p :: ·)).push

/-- A name in quotes of either kind, or an operation in backquotes. -/
def takeText (s : Text) : Option (Taken Token s) :=
  match s with
  | [] => none
  | p :: rest =>
    if p = .scalar '\x27' ∨ p = .scalar '\x22' then
      (takeQuoted p rest).map fun taken => (taken.map Token.name).push
    else if p = .scalar '\x60' then
      (takeQuoted p rest).map fun taken => (taken.map Token.operation).push
    else none

/-! ## Marks -/

/-- The marks of more than one character and the comparisons, in the order in which
    they are tried. -/
def marks : List (String × Token) :=
  [("=~", .comparison .resembles), ("==", .comparison .equal), ("=", .comparison .equal),
   ("<=", .comparison .atMost), (">=", .comparison .atLeast), ("!=", .comparison .notEqual),
   ("<", .comparison .less), (">", .comparison .greater), ("..", .dots), ("||", .bars),
   ("&&", .ampersands)]

/-- The marks of one character. -/
def singleMarks : List Char :=
  ['*', '.', '[', ']', '(', ')', '$', ',', ':', '|', '&', '~', '?', '@', '+', '/', '-', '!']

/-- The first mark of a list at the head of a text. -/
def takeMark (s : Text) : (marks : List (String × Token)) → Option (Taken Token s)
  | [] => none
  | (mark, token) :: more =>
    match Text.dropStart? mark s with
    | some rest =>
      if hs : rest.length < s.length then some ⟨token, rest, hs⟩ else takeMark s more
    | none => takeMark s more

/-- A mark of one character. -/
def takeSingleMark (s : Text) : Option (Taken Token s) :=
  match s with
  | .scalar c :: rest => if c ∈ singleMarks then some (.head (.mark c) rest) else none
  | _ => none

/-! ## All tokens of a text -/

/-- The token at the head of a text. -/
def takeToken (s : Text) : Option (Taken Token s) :=
  takeSortMark s <|> takeName s <|> takeNumber s <|> takeText s <|> takeMark s marks <|>
    takeSingleMark s

/-- Space, tab and line feed. -/
def isSkipped (p : CodePoint) : Bool :=
  p == .scalar ' ' || p == .scalar '\t' || p == .scalar '\n'

/-- The tokens of a text; `none` if something in it is no token. -/
def tokens? (s : Text) : Option (List Token) :=
  match s with
  | [] => some []
  | p :: rest =>
    if isSkipped p then tokens? rest
    else
      match takeToken (p :: rest) with
      | none => none
      | some taken =>
        have : taken.rest.length < rest.length + 1 := taken.shorter
        (tokens? taken.rest).map (taken.value :: ·)
termination_by s.length

end Gleaner.Path
