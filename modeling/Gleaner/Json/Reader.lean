import Gleaner.Taken
import Gleaner.Json.Number

/-! # Reading JSON text

    A reader takes something off the head of a text and says what is left, which is
    always shorter; the loops below end for that reason. Nesting is bounded: the
    reader of values at depth `n + 1` is built from the one at depth `n`.

    A refusal carries the text from the flaw to the end; `read` turns it into line,
    column and position.
-/

namespace Gleaner.Json

/-- Why a reader stops, with the text from there to the end. -/
inductive Refusal
  | at (flaw : Flaw) (rest : Text)
  | constant (which : Constant)
  | tooManyDigits (count : Nat)
  | tooDeep (bracket : Bracket)

/-- Takes an `α` off the head of a text. -/
abbrev Reader (α : Type) := (s : Text) → Except Refusal (Taken α s)

/-! ## Blanks -/

/-- Space, tab, line feed and carriage return. -/
def isBlank (p : CodePoint) : Bool :=
  p == .scalar ' ' || p == .scalar '\t' || p == .scalar '\n' || p == .scalar '\r'

/-- A text without the blanks at its head. -/
def skipBlanks (s : Text) : Text := s.dropWhile isBlank

theorem length_skipBlanks_le (s : Text) : (skipBlanks s).length ≤ s.length :=
  (List.dropWhile_suffix _).length_le

theorem length_of_skipBlanks {s rest : Text} {p : CodePoint} (h : skipBlanks s = p :: rest) :
    rest.length < s.length :=
  Nat.lt_of_lt_of_le (h ▸ Nat.lt_succ_self _) (length_skipBlanks_le s)

/-! ## Strings -/

/-- Four hexadecimal digits and what follows them. -/
def takeUnit? : Text → Option (Nat × Text)
  | a :: b :: c :: d :: rest => do
    let a ← a.hexDigit?
    let b ← b.hexDigit?
    let c ← c.hexDigit?
    let d ← d.hexDigit?
    some (((a * 16 + b) * 16 + c) * 16 + d, rest)
  | _ => none

theorem length_of_takeUnit? {s rest : Text} {n : Nat} (h : takeUnit? s = some (n, rest)) :
    rest.length < s.length := by
  unfold takeUnit? at h
  split at h
  · simp only [Option.bind_eq_bind, Option.bind_eq_some_iff, Option.some.injEq, Prod.mk.injEq] at h
    obtain ⟨_, _, _, _, _, _, _, _, _, rfl⟩ := h
    simp only [List.length_cons]
    omega
  · simp at h

/-- A UTF-16 unit in hexadecimal, after the letter u. It is not the end of the text,
    since the string is still open. -/
def unit : Reader Nat := fun s =>
  match h : takeUnit? s with
  | some (n, next :: rest) => .ok ⟨n, next :: rest, length_of_takeUnit? h⟩
  | _ => .error (.at .badUnicodeEscape (.scalar 'u' :: s))

/-- Whether a UTF-16 unit is the first or the second of a pair. -/
def isHigh (n : Nat) : Bool := 0xD800 ≤ n && n < 0xDC00

def isLow (n : Nat) : Bool := 0xDC00 ≤ n && n < 0xE000

/-- The code point of a pair of units. -/
def joinUnits (high low : Nat) : CodePoint :=
  .ofNat (0x10000 + (high - 0xD800) * 0x400 + (low - 0xDC00))

/-- A unit after the letter u, joined with a second escape that completes the pair. -/
def unicodeEscape : Reader CodePoint := fun s => do
  let first ← unit s
  match h : first.rest with
  | .scalar '\x5c' :: .scalar 'u' :: more =>
    if isHigh first.value then
      let second ← unit more
      if isLow second.value then
        .ok ⟨joinUnits first.value second.value, second.rest, by
          have h1 := first.shorter
          have h2 := second.shorter
          rw [h] at h1
          simp only [List.length_cons] at h1
          omega⟩
      else .ok ⟨.ofNat first.value, first.rest, first.shorter⟩
    else .ok ⟨.ofNat first.value, first.rest, first.shorter⟩
  | _ => .ok ⟨.ofNat first.value, first.rest, first.shorter⟩

/-- The code point of an escape of one letter. -/
def letterEscape? : CodePoint → Option Char
  | .scalar '\x22' => some '\x22'
  | .scalar '\x5c' => some '\x5c'
  | .scalar '/' => some '/'
  | .scalar 'b' => some '\x08'
  | .scalar 'f' => some '\x0c'
  | .scalar 'n' => some '\n'
  | .scalar 'r' => some '\r'
  | .scalar 't' => some '\t'
  | _ => none

/-- An escape after its backslash. `opening` is the text from the opening quote on. -/
def escape (opening : Text) : Reader CodePoint := fun s =>
  match s with
  | [] => .error (.at .openString opening)
  | .scalar 'u' :: rest => (unicodeEscape rest).map (Taken.after (by simp))
  | p :: rest =>
    match letterEscape? p with
    | some c => .ok ⟨.scalar c, rest, by simp⟩
    | none => .error (.at .badEscape (.scalar '\x5c' :: p :: rest))

/-- A string after its opening quote, and what follows its closing quote; `before`
    holds what was read, last first. -/
def stringBody (opening before s : Text) : Except Refusal (Text × Text) :=
  match s with
  | [] => .error (.at .openString opening)
  | .scalar '\x22' :: rest => .ok (before.reverse, rest)
  | .scalar '\x5c' :: rest =>
    match escape opening rest with
    | .error e => .error e
    | .ok taken => stringBody opening (taken.value :: before) taken.rest
  | p :: rest =>
    if p.toNat < 0x20 then .error (.at .controlCharacter (p :: rest))
    else stringBody opening (p :: before) rest
termination_by s.length
decreasing_by
  · exact Nat.lt_succ_of_lt taken.shorter
  · exact Nat.lt_succ_self _

theorem length_of_stringBody {opening before s t rest : Text}
    (h : stringBody opening before s = .ok (t, rest)) : rest.length < s.length := by
  fun_induction stringBody opening before s with
  | case1 => cases h
  | case2 => cases h; exact Nat.lt_succ_self _
  | case3 => cases h
  | case4 before after taken _ ih =>
    exact Nat.lt_succ_of_lt (Nat.lt_trans (ih h) taken.shorter)
  | case5 => cases h
  | case6 _ _ _ _ _ _ ih => exact Nat.lt_succ_of_lt (ih h)

/-- A string after its opening quote. `opening` is the text from that quote on. -/
def string (opening : Text) : Reader Text := fun s =>
  match h : stringBody opening [] s with
  | .ok (text, rest) => .ok ⟨text, rest, length_of_stringBody h⟩
  | .error e => .error e

/-! ## Values -/

/-- The constants that are no JSON values, at the head of a text. -/
def takeConstant? (s : Text) : Option (Constant × Text) :=
  match Text.dropStart? "NaN" s with
  | some rest => some (.nan, rest)
  | none => match Text.dropStart? "Infinity" s with
    | some rest => some (.infinity, rest)
    | none => (Text.dropStart? "-Infinity" s).map fun rest => (.negativeInfinity, rest)

/-- The three words that are JSON values. -/
def takeWord? (s : Text) : Option (Document × Text) :=
  match Text.dropStart? "null" s with
  | some rest => some (.null, rest)
  | none => match Text.dropStart? "true" s with
    | some rest => some (.bool true, rest)
    | none => (Text.dropStart? "false" s).map fun rest => (.bool false, rest)

theorem length_of_dropStart? {start s rest : Text} (h : Text.dropStart? start s = some rest)
    (hs : start ≠ []) : rest.length < s.length := by
  rw [Text.dropStart?_eq_some_iff] at h
  have := List.length_pos_iff.mpr hs
  rw [h, List.length_append]
  omega

theorem length_of_takeWord? {s rest : Text} {d : Document} (h : takeWord? s = some (d, rest)) :
    rest.length < s.length := by
  unfold takeWord? at h
  split at h
  · next r hr =>
    simp only [Option.some.injEq, Prod.mk.injEq] at h
    exact h.2 ▸ length_of_dropStart? hr (by decide)
  · split at h
    · next r hr =>
      simp only [Option.some.injEq, Prod.mk.injEq] at h
      exact h.2 ▸ length_of_dropStart? hr (by decide)
    · simp only [Option.map_eq_some_iff, Prod.mk.injEq] at h
      obtain ⟨r, hr, -, rfl⟩ := h
      exact length_of_dropStart? hr (by decide)

theorem length_of_takeConstant? {s rest : Text} {which : Constant}
    (h : takeConstant? s = some (which, rest)) : rest.length < s.length := by
  unfold takeConstant? at h
  split at h
  · next r hr =>
    simp only [Option.some.injEq, Prod.mk.injEq] at h
    exact h.2 ▸ length_of_dropStart? hr (by decide)
  · split at h
    · next r hr =>
      simp only [Option.some.injEq, Prod.mk.injEq] at h
      exact h.2 ▸ length_of_dropStart? hr (by decide)
    · simp only [Option.map_eq_some_iff, Prod.mk.injEq] at h
      obtain ⟨r, hr, -, rfl⟩ := h
      exact length_of_dropStart? hr (by decide)

/-- An integer is refused if it has too many digits. -/
def checkDigits (literal : NumberLiteral) : Except Refusal Document :=
  if literal.isInteger && Text.digitLimit < literal.whole.length then
    .error (.tooManyDigits literal.whole.length)
  else .ok literal.denotes

/-- A word, a number, or nothing that JSON has. The constants are numbers only to a
    `lenient` reader. -/
def scalar (lenient : Bool) : Reader Document := fun s =>
  match hw : takeWord? s with
  | some (document, rest) => .ok ⟨document, rest, length_of_takeWord? hw⟩
  | none =>
    match hc : takeConstant? s with
    | some (which, rest) =>
      if lenient then .ok ⟨.float which.double, rest, length_of_takeConstant? hc⟩
      else .error (.constant which)
    | none =>
      match hn : takeNumber? s with
      | some (literal, rest) =>
        (checkDigits literal).map fun document => ⟨document, rest, length_of_takeNumber? hn⟩
      | none => .error (.at .missingValue s)

/-- The items of a list up to its bracket, and what follows it; `before` holds those
    read, last first. -/
def items (item : Reader Document) (before : List Document) (s : Text) :
    Except Refusal (List Document × Text) :=
  match item s with
  | .error e => .error e
  | .ok taken =>
    match h : skipBlanks taken.rest with
    | .scalar ']' :: rest => .ok ((taken.value :: before).reverse, rest)
    | .scalar ',' :: rest =>
      have := length_of_skipBlanks h
      items item (taken.value :: before) (skipBlanks rest)
    | other => .error (.at .missingComma other)
termination_by s.length
decreasing_by
  exact Nat.lt_of_le_of_lt (length_skipBlanks_le rest) (Nat.lt_trans this taken.shorter)

theorem length_of_items {item : Reader Document} {before all : List Document} {s rest : Text}
    (h : items item before s = .ok (all, rest)) : rest.length < s.length := by
  fun_induction items item before s with
  | case1 => cases h
  | case2 _ _ taken _ _ hr =>
    cases h
    exact Nat.lt_trans (length_of_skipBlanks hr) taken.shorter
  | case3 _ _ taken _ after hr _ ih =>
    exact Nat.lt_trans (ih h) (Nat.lt_of_le_of_lt (length_skipBlanks_le after)
      (Nat.lt_trans (length_of_skipBlanks hr) taken.shorter))
  | case4 => cases h

/-- One member of an object: a quoted name, a colon and a value. -/
def member (item : Reader Document) : Reader (Text × Document) := fun s =>
  match s with
  | .scalar '\x22' :: rest => do
    let name ← string s rest
    match h : skipBlanks name.rest with
    | .scalar ':' :: after =>
      let value ← item (skipBlanks after)
      .ok ⟨(name.value, value.value), value.rest,
        Nat.lt_succ_of_lt (Nat.lt_trans value.shorter
          (Nat.lt_of_le_of_lt (length_skipBlanks_le after)
            (Nat.lt_trans (length_of_skipBlanks h) name.shorter)))⟩
    | other => .error (.at .missingColon other)
  | _ => .error (.at .missingName s)

/-- The members of an object up to its brace, written over those read before, and
    what follows the brace. -/
def members (item : Reader Document) (before : Keyed Document) (s : Text) :
    Except Refusal (Keyed Document × Text) :=
  match member item s with
  | .error e => .error e
  | .ok taken =>
    match h : skipBlanks taken.rest with
    | .scalar '\x7d' :: rest => .ok (before.put taken.value.1 taken.value.2, rest)
    | .scalar ',' :: rest =>
      have := length_of_skipBlanks h
      members item (before.put taken.value.1 taken.value.2) (skipBlanks rest)
    | other => .error (.at .missingComma other)
termination_by s.length
decreasing_by
  exact Nat.lt_of_le_of_lt (length_skipBlanks_le rest) (Nat.lt_trans this taken.shorter)

theorem length_of_members {item : Reader Document} {before all : Keyed Document}
    {s rest : Text} (h : members item before s = .ok (all, rest)) : rest.length < s.length := by
  fun_induction members item before s with
  | case1 => cases h
  | case2 _ _ taken _ _ hr =>
    cases h
    exact Nat.lt_trans (length_of_skipBlanks hr) taken.shorter
  | case3 _ _ taken _ after hr _ ih =>
    exact Nat.lt_trans (ih h) (Nat.lt_of_le_of_lt (length_skipBlanks_le after)
      (Nat.lt_trans (length_of_skipBlanks hr) taken.shorter))
  | case4 => cases h

/-- A list after its opening bracket. -/
def array (item : Reader Document) : Reader Document := fun s =>
  match hs : skipBlanks s with
  | .scalar ']' :: rest => .ok ⟨.array [], rest, length_of_skipBlanks hs⟩
  | _ =>
    match h : items item [] (skipBlanks s) with
    | .ok (all, rest) =>
      .ok ⟨.array all, rest, Nat.lt_of_lt_of_le (length_of_items h) (length_skipBlanks_le s)⟩
    | .error e => .error e

/-- An object after its opening brace. -/
def object (item : Reader Document) : Reader Document := fun s =>
  match hs : skipBlanks s with
  | .scalar '\x7d' :: rest => .ok ⟨.object [], rest, length_of_skipBlanks hs⟩
  | _ =>
    match h : members item [] (skipBlanks s) with
    | .ok (all, rest) =>
      .ok ⟨.object all, rest, Nat.lt_of_lt_of_le (length_of_members h) (length_skipBlanks_le s)⟩
    | .error e => .error e

/-- A value whose items and members are read by `inner`; without an `inner`, lists
    and objects are too deep. -/
def value (lenient : Bool) (inner : Option (Reader Document)) : Reader Document := fun s =>
  match s with
  | .scalar '\x22' :: rest =>
    (string s rest).map fun taken =>
      ⟨.string taken.value, taken.rest, Nat.lt_succ_of_lt taken.shorter⟩
  | .scalar '[' :: rest =>
    match inner with
    | none => .error (.tooDeep .array)
    | some item => (array item rest).map (Taken.after (by simp))
  | .scalar '\x7b' :: rest =>
    match inner with
    | none => .error (.tooDeep .object)
    | some item => (object item rest).map (Taken.after (by simp))
  | other => scalar lenient other

/-- Values nested at most `depth` levels. -/
def valueAt (lenient : Bool) : (depth : Nat) → Reader Document
  | 0 => value lenient none
  | depth + 1 => value lenient (some (valueAt lenient depth))

/-- The most levels that lists and objects may nest. -/
def depthLimit : Nat := 990

/-- A value with blanks around it and nothing else. -/
def wholeText (lenient : Bool) (s : Text) : Except Refusal Document :=
  match s with
  | .scalar '\ufeff' :: _ => .error (.at .byteOrderMark s)
  | _ => do
    let taken ← valueAt lenient depthLimit (skipBlanks s)
    match skipBlanks taken.rest with
    | [] => .ok taken.value
    | rest => .error (.at .trailingText rest)

/-! ## Places -/

/-- The line and the column of a position: both count from one, and a line feed
    ends its line. -/
def lineColumn (text : Text) (position : Nat) : Nat × Nat :=
  let before := text.take position
  (before.count (.scalar '\n') + 1, (Text.afterLast (.scalar '\n') before).length + 1)

/-- A refusal as an error of the whole text. -/
def Refusal.inText (text : Text) : Refusal → ReadError
  | .at flaw rest =>
    let position := text.length - rest.length
    let (line, column) := lineColumn text position
    .malformed flaw line column position
  | .constant which => .constant which
  | .tooManyDigits count => .tooManyDigits count
  | .tooDeep bracket => .tooDeep bracket

/-- The document that a JSON text denotes. -/
def read (text : Text) : Except ReadError Document :=
  (wholeText false text).mapError (Refusal.inText text)

/-- The document that a text denotes to a lenient reader. -/
def readLenient (text : Text) : Except ReadError Document :=
  (wholeText true text).mapError (Refusal.inText text)

/-- Reads content, which must be a text. -/
def readContent : Document → Except ReadError Document
  | .string text => read text
  | other => .error (.notText other.kind)

end Gleaner.Json
