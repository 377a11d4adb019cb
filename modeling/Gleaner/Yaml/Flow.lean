import Gleaner.Taken
import Gleaner.Text.Blank
import Gleaner.Yaml.Scalar

/-! # YAML values on one line

    A value is a text in quotes, a list in brackets, a mapping in braces, or a plain
    scalar. A plain scalar goes on to the end of the line or to a colon before a
    blank; inside brackets and braces their marks end it too. Comments have been
    taken off the line before.
-/

namespace Gleaner.Yaml

/-- Takes an `α` off the head of a text, if it is well formed. -/
abbrev Reader (α : Type) := (s : Text) → Option (Taken α s)

/-! ## Blanks -/

def isBlank (p : CodePoint) : Bool := p == .scalar ' ' || p == .scalar '\t'

/-- A text without the blanks at its head. -/
def skipBlanks (s : Text) : Text := s.dropWhile isBlank

theorem length_skipBlanks_le (s : Text) : (skipBlanks s).length ≤ s.length :=
  (List.dropWhile_suffix _).length_le

/-- What is left when the blanks at the head of a text are skipped. -/
def afterBlanks (value : α) (s : Text) : Continued α s :=
  ⟨value, skipBlanks s, length_skipBlanks_le s⟩

/-! ## Quotes -/

/-- A text in single quotes after the first one. A quote inside is written twice. -/
def singleQuoted : Reader Text
  | [] => none
  | p :: rest =>
    if p = .scalar '\x27' then
      match rest with
      | [] => some (.head [] [])
      | q :: more =>
        if q = .scalar '\x27' then
          (singleQuoted more).map fun taken => (taken.map (p :: ·)).push.push
        else some (.head [] (q :: more))
    else (singleQuoted rest).map fun taken => (taken.map (p :: ·)).push

/-- The code point of an escape of one letter. -/
def letterEscape? : CodePoint → Option Nat
  | .scalar '0' => some 0
  | .scalar 'a' => some 7
  | .scalar 'b' => some 8
  | .scalar 't' => some 9
  | .scalar '\t' => some 9
  | .scalar 'n' => some 10
  | .scalar 'v' => some 11
  | .scalar 'f' => some 12
  | .scalar 'r' => some 13
  | .scalar 'e' => some 27
  | .scalar ' ' => some 32
  | .scalar '\x22' => some 34
  | .scalar '/' => some 47
  | .scalar '\x5c' => some 92
  | .scalar 'N' => some 0x85
  | .scalar '_' => some 0xa0
  | .scalar 'L' => some 0x2028
  | .scalar 'P' => some 0x2029
  | _ => none

/-- The number of digits of an escape in base sixteen. -/
def escapeWidth? : CodePoint → Option Nat
  | .scalar 'x' => some 2
  | .scalar 'u' => some 4
  | .scalar 'U' => some 8
  | _ => none

/-- An escape after its backslash. -/
def escape : Reader CodePoint := fun s =>
  match s with
  | [] => none
  | p :: rest =>
    match letterEscape? p, escapeWidth? p with
    | some n, _ => some (.head (.ofNat n) rest)
    | none, none => none
    | none, some width =>
      if rest.length < width then none
      else do
        let n ← digitsIn? 16 (rest.take width)
        if 0x110000 ≤ n then none
        else some ⟨.ofNat n, rest.drop width, by simp only [List.length_drop, List.length_cons]; omega⟩

/-- A text in double quotes after the first one. -/
def doubleQuoted (s : Text) : Option (Taken Text s) :=
  match s with
  | [] => none
  | .scalar '\x22' :: rest => some (.head [] rest)
  | .scalar '\x5c' :: rest =>
    match escape rest with
    | none => none
    | some taken =>
      have := taken.shorter
      (doubleQuoted taken.rest).map fun more =>
        (taken.andThen (more.map (taken.value :: ·))).push
  | p :: rest => (doubleQuoted rest).map fun taken => (taken.map (p :: ·)).push
termination_by s.length

/-! ## Plain scalars -/

/-- The marks that end a plain scalar inside brackets and braces. -/
def flowMarks : Text := ",?[]\x7b\x7d"

/-- The marks that do not start a plain scalar. -/
def reserved : Text := ",[]\x7b\x7d#&*!|>'\"%@`"

/-- Whether a colon before this text ends a plain scalar. -/
def endsKey (inFlow : Bool) : Text → Bool
  | [] => true
  | p :: _ => isBlank p || (inFlow && p != .scalar '?' && flowMarks.elem p)

/-- Whether a plain scalar ends before this text. -/
def endsPlain (inFlow : Bool) : Text → Bool
  | [] => true
  | p :: rest =>
    (p == .scalar ':' && endsKey inFlow rest) || (inFlow && flowMarks.elem p)

/-- The code points of a plain scalar, and what follows them. -/
def takePlain (inFlow : Bool) : Text → Text × Text
  | [] => ([], [])
  | p :: rest =>
    if endsPlain inFlow (p :: rest) then ([], p :: rest)
    else (p :: (takePlain inFlow rest).1, (takePlain inFlow rest).2)

theorem length_takePlain_snd_le (inFlow : Bool) (s : Text) :
    (takePlain inFlow s).2.length ≤ s.length := by
  induction s with
  | nil => simp [takePlain]
  | cons p rest ih =>
    rw [takePlain]
    split
    · exact Nat.le_refl _
    · exact Nat.le_succ_of_le ih

/-- Whether a plain scalar may start with this text. -/
def startsPlain (inFlow : Bool) : Text → Bool
  | [] => false
  | p :: rest =>
    if p == .scalar '-' then !rest.isEmpty && !(rest.head?.any isBlank)
    else if p == .scalar '?' || p == .scalar ':' then
      !inFlow && !rest.isEmpty && !(rest.head?.any isBlank)
    else !reserved.elem p && !isBlank p

/-- A plain scalar as it is spelled, without blanks at its end. -/
def plain (inFlow : Bool) : Reader Text := fun s =>
  match s with
  | [] => none
  | p :: rest =>
    if startsPlain inFlow (p :: rest) then
      some ⟨Text.stripEnds isBlank (p :: (takePlain inFlow rest).1), (takePlain inFlow rest).2, by
        have := length_takePlain_snd_le inFlow rest
        simp only [List.length_cons]
        omega⟩
    else none

/-! ## Lists and mappings -/

/-- A text in quotes. -/
def quoted : Reader Text := fun s =>
  match s with
  | .scalar '\x22' :: rest => (doubleQuoted rest).map Taken.push
  | .scalar '\x27' :: rest => (singleQuoted rest).map Taken.push
  | _ => none

/-- The key of a mapping as a text. -/
def key (inFlow : Bool) : Reader Text := fun s => (quoted s).orElse fun _ => plain inFlow s

/-- What was taken, together with the blanks after it. -/
def withBlanks {s : Text} (taken : Taken α s) : Taken α s :=
  taken.andOn (afterBlanks taken.value taken.rest)

/-- A colon. -/
def colon : Reader Unit
  | .scalar ':' :: rest => some (.head () rest)
  | _ => none

/-- Whether an entry ends before this text. -/
def endsEntry : Text → Bool
  | [] => true
  | p :: _ => (Text.ofString ",]\x7d").elem p

/-- What was taken, and the value after a colon, if there is a colon. -/
def paired (item : Reader Document) {s : Text} (taken : Taken α s) :
    Option (Taken (α × Option Document) s) :=
  let first := withBlanks taken
  match colon first.rest with
  | none => some (first.map fun a => (a, none))
  | some mark =>
    let mark := withBlanks mark
    if endsEntry mark.rest then some (first.andThen (mark.map fun _ => (first.value, some .null)))
    else (item mark.rest).map fun second =>
      first.andThen (mark.andThen (second.map fun d => (first.value, some d)))

/-- An entry of a list: a value, or a key and a value that make a mapping. -/
def entry (item : Reader Document) : Reader Document := fun s =>
  match (item s).bind (paired item) with
  | none => none
  | some taken =>
    match taken.value with
    | (value, none) => some (taken.map fun _ => value)
    | (.string name, some value) => some (taken.map fun _ => .object [(name, value)])
    | _ => none

/-- An entry of a mapping. A key may stand alone. -/
def pair (item : Reader Document) : Reader (Text × Document) := fun s =>
  ((key true s).bind (paired item)).map
    (Taken.map fun (name, value) => (name, value.getD .null))

/-- What closes a list or a mapping after an entry, or else the comma before the
    next one. -/
def closeOrComma (close : CodePoint) : (s : Text) → Option (Taken Bool s)
  | [] => none
  | p :: rest =>
    if p = close then some (.head true rest)
    else if p = .scalar ',' then some (.head false rest)
    else none

/-- A closing mark in place of an entry. -/
def closing (close : CodePoint) : (s : Text) → Option (Taken Unit s)
  | [] => none
  | p :: rest => if p = close then some (.head () rest) else none

/-- Entries up to a closing mark, with commas between them and perhaps a last one,
    after the blanks before the first. -/
def entries (close : CodePoint) (one : Reader α) (s : Text) : Option (Taken (List α) s) :=
  match closing close s with
  | some mark => some (mark.map fun _ => [])
  | none =>
    match one s with
    | none => none
    | some first =>
      let entry := withBlanks first
      match closeOrComma close entry.rest with
      | none => none
      | some mark =>
        if mark.value then some (entry.andThen (mark.map fun _ => [entry.value]))
        else
          let next := entry.andThen (withBlanks mark)
          have := next.shorter
          (entries close one next.rest).map fun more =>
            next.andThen (more.map (entry.value :: ·))
termination_by s.length

/-- Entries with blanks before them. -/
def blankEntries (close : CodePoint) (one : Reader α) : Reader (List α) := fun s =>
  (entries close one (skipBlanks s)).map (Taken.after (length_skipBlanks_le s))

/-- A value on one line, nested at most `depth` levels. -/
def valueAt (inFlow : Bool) : (depth : Nat) → Reader Document
  | 0 => fun _ => none
  | depth + 1 => fun s =>
    match s with
    | .scalar '[' :: rest =>
      (blankEntries (.scalar ']') (entry (valueAt true depth)) rest).map fun taken =>
        (taken.map .array).push
    | .scalar '\x7b' :: rest =>
      (blankEntries (.scalar '\x7d') (pair (valueAt true depth)) rest).map fun taken =>
        (taken.map fun pairs => .object (Keyed.ofPairs pairs)).push
    | other =>
      match quoted other with
      | some taken => some (taken.map .string)
      | none => (plain inFlow other).map (Taken.map scalar)

/-- The value of a line, with nothing after it. -/
def wholeValue (s : Text) : Option Document := do
  let taken ← valueAt false (s.length + 1) s
  guard (skipBlanks taken.rest).isEmpty
  return taken.value

end Gleaner.Yaml
