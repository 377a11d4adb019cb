/-! # Text as a list of code points

    URLs, fetched content, keys and messages are all `Text`: a list of Unicode
    code points. Surrogates may stand alone in it, because JSON text can name
    one by an escape, so `Text` holds a little more than `String` does.

    The operations are the usual ones on lists: splitting at a separator,
    replacing, and the order by code point.
-/

namespace Gleaner

/-- A Unicode code point: a scalar value, or one of the 2048 surrogates. -/
inductive CodePoint
  | scalar (c : Char)
  | surrogate (offset : Fin 2048)
  deriving DecidableEq, Repr, Inhabited

namespace CodePoint

/-- The number of a code point. -/
def toNat : CodePoint → Nat
  | scalar c => c.toNat
  | surrogate offset => 0xD800 + offset.val

/-- The code point of a number below 0x110000. -/
def ofNat (n : Nat) : CodePoint :=
  if h : 0xD800 ≤ n ∧ n < 0xE000 then surrogate ⟨n - 0xD800, by omega⟩
  else scalar (Char.ofNat n)

/-- The ASCII digit of a code point, as a number. -/
def digit? : CodePoint → Option Nat
  | scalar c => if '0' ≤ c ∧ c ≤ '9' then some (c.toNat - 48) else none
  | surrogate _ => none

/-- The value of an ASCII hexadecimal digit of either case. -/
def hexDigit? (p : CodePoint) : Option Nat :=
  let n := p.toNat
  if 48 ≤ n ∧ n ≤ 57 then some (n - 48)
  else if 97 ≤ n ∧ n ≤ 102 then some (n - 87)
  else if 65 ≤ n ∧ n ≤ 70 then some (n - 55)
  else none

/-- An ASCII letter. -/
def isLetter (p : CodePoint) : Bool :=
  let n := p.toNat
  (65 ≤ n && n ≤ 90) || (97 ≤ n && n ≤ 122)

/-- An ASCII letter in lower case; every other code point is left alone. -/
def asciiLower (p : CodePoint) : CodePoint :=
  if 65 ≤ p.toNat ∧ p.toNat ≤ 90 then ofNat (p.toNat + 32) else p

def isSurrogate : CodePoint → Bool
  | scalar _ => false
  | surrogate _ => true

end CodePoint

/-- A text is a list of code points. -/
abbrev Text := List CodePoint

namespace Text

/-- The text of a string. -/
def ofString (s : String) : Text := s.toList.map .scalar

instance : Coe String Text := ⟨ofString⟩

/-- The text of a natural number in decimal. -/
def ofNat (n : Nat) : Text := (Nat.toDigits 10 n).map .scalar

/-- The text of an integer in decimal, with a sign only if it is negative. -/
def ofInt : Int → Text
  | .ofNat n => ofNat n
  | .negSucc n => .scalar '-' :: ofNat (n + 1)

/-- The number that a list of digit values denotes in base ten. -/
def digitsValue (digits : List Nat) : Nat :=
  digits.foldl (fun acc d => acc * 10 + d) 0

/-- Whether a text is one of a list is decidable. -/
instance decidableMem (text : Text) (texts : List Text) : Decidable (text ∈ texts) :=
  inferInstance

/-! ## Order by code point -/

/-- Texts compare by the numbers of their code points, a proper start of a
    text coming before it. -/
def compare : Text → Text → Ordering
  | [], [] => .eq
  | [], _ :: _ => .lt
  | _ :: _, [] => .gt
  | a :: as, b :: bs =>
    if a.toNat < b.toNat then .lt
    else if b.toNat < a.toNat then .gt
    else compare as bs

/-- `a` comes before `b` or is `b`. -/
def le (a b : Text) : Bool := compare a b != .gt

/-! ## Cutting and joining -/

/-- What follows `start` in `text`, if `text` begins with it. -/
def dropStart? : (start text : Text) → Option Text
  | [], text => some text
  | _ :: _, [] => none
  | a :: start, b :: text => if a = b then dropStart? start text else none

theorem dropStart?_eq_some_iff {start text rest : Text} :
    dropStart? start text = some rest ↔ text = start ++ rest := by
  induction start generalizing text with
  | nil => simp [dropStart?, eq_comm]
  | cons a start ih =>
    cases text with
    | nil => simp [dropStart?]
    | cons b text =>
      by_cases h : a = b
      · simp [dropStart?, h, ih]
      · simp [dropStart?, h, Ne.symm h]

/-- The text before and after the first occurrence of `p`. -/
def cutAt? (p : CodePoint) : Text → Option (Text × Text)
  | [] => none
  | a :: rest =>
    if a = p then some ([], rest)
    else (cutAt? p rest).map fun (before, after) => (a :: before, after)

/-- The text before and after the first occurrence of a non-empty `sep`. -/
def cutAtText? (sep : Text) : Text → Option (Text × Text)
  | [] => none
  | a :: rest =>
    match dropStart? sep (a :: rest) with
    | some after => some ([], after)
    | none => (cutAtText? sep rest).map fun (before, after) => (a :: before, after)

theorem length_of_cutAtText? {sep text before after : Text}
    (h : cutAtText? sep text = some (before, after)) :
    after.length + sep.length ≤ text.length := by
  induction text generalizing before with
  | nil => simp [cutAtText?] at h
  | cons a rest ih =>
    rw [cutAtText?] at h
    split at h
    · next r hr =>
      rw [dropStart?_eq_some_iff] at hr
      obtain ⟨_, rfl⟩ : [] = before ∧ r = after := by simpa using h
      rw [hr]
      simp only [List.length_append]
      omega
    · simp only [Option.map_eq_some_iff] at h
      obtain ⟨⟨b, c⟩, hc, hbc⟩ := h
      simp only [Prod.mk.injEq] at hbc
      have := ih (hbc.2 ▸ hc)
      simp only [List.length_cons]
      omega

/-- The pieces of a text between single code points `p`; never the empty list. -/
def splitAt (p : CodePoint) : Text → List Text
  | [] => [[]]
  | a :: rest =>
    if a = p then [] :: splitAt p rest
    else match splitAt p rest with
      | [] => [[a]]
      | piece :: pieces => (a :: piece) :: pieces

/-- The pieces of a text between occurrences of the non-empty text `p :: sep`,
    cut from the left, at most `limit` times if there is a limit. -/
def splitOn (p : CodePoint) (sep : Text) (limit : Option Nat) (text : Text) : List Text :=
  match limit with
  | some 0 => [text]
  | _ =>
    match h : cutAtText? (p :: sep) text with
    | none => [text]
    | some (before, after) =>
      have : after.length < text.length := by
        have := length_of_cutAtText? h
        simp only [List.length_cons] at this
        omega
      before :: splitOn p sep (limit.map (· - 1)) after
  termination_by text.length

/-- Pieces joined by a separator. -/
def join (sep : Text) : List Text → Text
  | [] => []
  | [piece] => piece
  | piece :: pieces => piece ++ sep ++ join sep pieces

/-- Whether `part` occurs in `text`. -/
def contains (part text : Text) : Bool :=
  part.isEmpty || (cutAtText? part text).isSome

/-- Every occurrence of `part` replaced, from the left. An empty part occurs
    before each code point and at the end. -/
def replace (part substitute text : Text) : Text :=
  match part with
  | [] => substitute ++ text.flatMap fun p => p :: substitute
  | p :: sep => join substitute (splitOn p sep none text)

/-- What stands after the last `p`, or the whole text if there is none. -/
def afterLast (p : CodePoint) (text : Text) : Text :=
  (text.reverse.takeWhile (· ≠ p)).reverse

/-- `text` filled up with blanks on the right to `width` code points. -/
def padRight (width : Nat) (text : Text) : Text :=
  text ++ List.replicate (width - text.length) (.scalar ' ')

end Text

end Gleaner
