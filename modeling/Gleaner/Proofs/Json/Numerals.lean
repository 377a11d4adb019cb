import Gleaner.Json.Number
import Gleaner.Proofs.Json.Grammar
import Mathlib.Data.List.TakeWhile

/-! # Reading numbers

    The reader of numbers takes exactly the numerals of the grammar, the longest one
    that stands at the head of a text. A numeral is read as a whole whenever it is
    followed by nothing that could go on with it.
-/

namespace Gleaner.Json

variable {s rest : Text} {p : CodePoint} {digits : List (Fin 10)} {numeral : Numeral}
  {document : Document}

/-! ## Digits -/

theorem digit?_digitChar :
    ∀ digit : Fin 10, (CodePoint.scalar (Nat.digitChar digit)).digit? = some digit.val := by
  decide

theorem isDigit_digitChar (digit : Fin 10) :
    isDigit (.scalar (Nat.digitChar digit)) = true := by
  simp [isDigit, digit?_digitChar]

/-- The digits of the reader are the characters of the ten digits. -/
theorem exists_of_isDigit (h : isDigit p = true) :
    ∃ digit : Fin 10, p = .scalar (Nat.digitChar digit) := by
  cases p with
  | surrogate offset => cases h
  | scalar c =>
    have hrange : '0' ≤ c ∧ c ≤ '9' := by
      by_contra hno
      simp [isDigit, CodePoint.digit?, hno] at h
    have hlow : 48 ≤ c.toNat := hrange.1
    have hhigh : c.toNat ≤ 57 := hrange.2
    refine ⟨⟨c.toNat - 48, by omega⟩, congrArg CodePoint.scalar (Char.toNat_inj.mp ?_)⟩
    show c.toNat = (Nat.digitChar (c.toNat - 48)).toNat
    rw [Nat.toNat_digitChar_of_lt_ten (by omega)]
    omega

theorem exists_spelled {text : Text} (h : ∀ p ∈ text, isDigit p = true) :
    ∃ digits, text = spelled digits := by
  induction text with
  | nil => exact ⟨[], rfl⟩
  | cons p text ih =>
    obtain ⟨digit, rfl⟩ := exists_of_isDigit (h p (by simp))
    obtain ⟨digits, rfl⟩ := ih fun q hq => h q (List.mem_cons_of_mem _ hq)
    exact ⟨digit :: digits, rfl⟩

theorem isDigit_of_mem_spelled (h : p ∈ spelled digits) : isDigit p = true := by
  obtain ⟨digit, -, rfl⟩ := List.mem_map.mp h
  exact isDigit_digitChar digit

theorem isDigit_of_mem_head? (nonempty : digits ≠ []) (h : p ∈ (spelled digits ++ rest).head?) :
    isDigit p = true := by
  cases digits with
  | nil => exact absurd rfl nonempty
  | cons digit digits =>
    obtain rfl := Option.some.inj h
    exact isDigit_digitChar digit

theorem spelled_append (digits more : List (Fin 10)) :
    spelled (digits ++ more) = spelled digits ++ spelled more :=
  List.map_append

theorem length_spelled (digits : List (Fin 10)) : (spelled digits).length = digits.length :=
  List.length_map _

/-- The reader counts digits from the front, the grammar from the back. -/
theorem digitsValue_spelled (digits : List (Fin 10)) :
    digitsValue (spelled digits) = numberOf digits := by
  have hvalues : (spelled digits).filterMap CodePoint.digit? = digits.map Fin.val := by
    induction digits with
    | nil => rfl
    | cons digit digits ih =>
      rw [spelled, List.map_cons, List.filterMap_cons, digit?_digitChar]
      exact congrArg (digit.val :: ·) ih
  have hstep : (fun acc d : Nat => acc * 10 + d) = fun acc d => d + 10 * acc := by
    funext acc d
    omega
  rw [digitsValue, hvalues, Text.digitsValue, numberOf, Nat.ofDigits_eq_foldr, List.foldr_reverse,
    hstep]
  rfl

/-- Nothing at the head of the text goes on with digits. -/
def NoDigit (rest : Text) : Prop := ∀ p ∈ rest.head?, isDigit p = false

theorem takeDigits_spelled (digits : List (Fin 10)) (h : NoDigit rest) :
    takeDigits (spelled digits ++ rest) = (spelled digits, rest) := by
  have hdigits : ∀ p ∈ spelled digits, isDigit p = true := fun _ => isDigit_of_mem_spelled
  have hrest : rest.takeWhile isDigit = [] ∧ rest.dropWhile isDigit = rest := by
    cases rest with
    | nil => exact ⟨rfl, rfl⟩
    | cons p rest =>
      have hp := h p rfl
      simp [hp]
  rw [takeDigits, List.takeWhile_append_of_pos hdigits, List.dropWhile_append_of_pos hdigits,
    hrest.1, hrest.2, List.append_nil]

theorem exists_takeDigits (s : Text) :
    ∃ digits, (takeDigits s).1 = spelled digits ∧ s = spelled digits ++ (takeDigits s).2 := by
  obtain ⟨digits, hdigits⟩ := exists_spelled fun p (hp : p ∈ s.takeWhile isDigit) =>
    List.mem_takeWhile_imp hp
  refine ⟨digits, hdigits, ?_⟩
  rw [← hdigits]
  exact (List.takeWhile_append_dropWhile).symm

/-! ## The parts of a number -/

/-- A text that goes on with nothing that a number could have next. -/
def NumberEnds (rest : Text) : Prop :=
  NoDigit rest ∧ ∀ p ∈ rest.head?, p ≠ .scalar '.' ∧ p ≠ .scalar 'e' ∧ p ≠ .scalar 'E'

theorem takeMinus_minus (negative : Bool) (h : ∀ p ∈ s.head?, p ≠ .scalar '-') :
    takeMinus ((if negative then [.scalar '-'] else []) ++ s) = (negative, s) := by
  cases negative with
  | true => rfl
  | false =>
    unfold takeMinus
    split
    · next rest heq =>
      have hs : s = .scalar '-' :: rest := heq
      rw [hs] at h
      exact absurd rfl (h _ rfl)
    · rfl

theorem exists_takeMinus (s : Text) :
    s = (if (takeMinus s).1 then [.scalar '-'] else []) ++ (takeMinus s).2 := by
  unfold takeMinus
  split <;> rfl

theorem takeWhole?_of_ne (hp : p ≠ .scalar '0') (s : Text) :
    takeWhole? (p :: s) = if isDigit p then some (takeDigits (p :: s)) else none := by
  unfold takeWhole?
  split
  · next heq => exact absurd (List.cons.inj heq).1 hp
  · next heq =>
    obtain ⟨rfl, rfl⟩ := List.cons.inj heq
    rfl
  · next heq => cases heq

theorem digitChar_eq_zero {digit : Fin 10} (h : CodePoint.scalar (Nat.digitChar digit) = .scalar '0') :
    digit = 0 := by
  have hvalue := digit?_digitChar digit
  rw [h] at hvalue
  exact Fin.ext (Option.some.inj hvalue).symm

theorem takeWhole?_spelled (nonempty : digits ≠ [])
    (unpadded : ∀ others, digits = 0 :: others → others = []) (h : NoDigit rest) :
    takeWhole? (spelled digits ++ rest) = some (spelled digits, rest) := by
  cases digits with
  | nil => exact absurd rfl nonempty
  | cons digit others =>
    by_cases hzero : digit = 0
    · obtain rfl := unpadded others (by rw [hzero])
      rw [hzero]
      rfl
    · have hne : CodePoint.scalar (Nat.digitChar digit) ≠ .scalar '0' :=
        fun heq => hzero (digitChar_eq_zero heq)
      have htake := takeDigits_spelled (digit :: others) h
      rw [spelled, List.map_cons, List.cons_append] at htake ⊢
      rw [takeWhole?_of_ne hne, if_pos (isDigit_digitChar digit), htake]

theorem exists_takeWhole? {whole : Text} (h : takeWhole? s = some (whole, rest)) :
    ∃ digits, whole = spelled digits ∧ digits ≠ [] ∧
      (∀ others, digits = 0 :: others → others = []) ∧ s = spelled digits ++ rest := by
  cases s with
  | nil => cases h
  | cons p s =>
    by_cases hp : p = .scalar '0'
    · subst hp
      obtain ⟨rfl, rfl⟩ := Prod.mk.inj (Option.some.inj h)
      exact ⟨[0], rfl, by simp, by simp, rfl⟩
    · rw [takeWhole?_of_ne hp] at h
      split at h
      · next hdigit =>
        obtain ⟨digits, hdigits, hs⟩ := exists_takeDigits (p :: s)
        rw [Option.some.inj h] at hdigits hs
        refine ⟨digits, hdigits, ?_, ?_, hs⟩
        · rintro rfl
          -- the first code point is a digit, so it was taken
          have htaken : (takeDigits (p :: s)).1 = [] := by rw [Option.some.inj h, hdigits]; rfl
          simp [takeDigits, hdigit] at htaken
        · rintro others rfl
          rw [spelled, List.map_cons, List.cons_append] at hs
          exact absurd (List.cons.inj hs).1 hp
      · cases h

theorem takeFraction_fractionText {fraction : Option (List (Fin 10))}
    (nonempty : ∀ digits, fraction = some digits → digits ≠ []) (hdigit : NoDigit rest)
    (hpoint : ∀ p ∈ rest.head?, p ≠ .scalar '.') :
    takeFraction (fractionText fraction ++ rest) = (fraction.map spelled, rest) := by
  cases fraction with
  | none =>
    show takeFraction rest = (none, rest)
    unfold takeFraction
    split
    · exact absurd rfl (hpoint _ rfl)
    · rfl
  | some digits =>
    show takeFraction (.scalar '.' :: (spelled digits ++ rest)) = (some (spelled digits), rest)
    have hspelled : spelled digits ≠ [] := by
      simpa [spelled] using nonempty digits rfl
    simp only [takeFraction, takeDigits_spelled digits hdigit]

theorem exists_takeFraction (s : Text) :
    ∃ fraction, (takeFraction s).1 = fraction.map spelled ∧
      (∀ digits, fraction = some digits → digits ≠ []) ∧
      s = fractionText fraction ++ (takeFraction s).2 := by
  unfold takeFraction
  split
  · next rest =>
    obtain ⟨digits, hdigits, hs⟩ := exists_takeDigits rest
    split
    · exact ⟨none, rfl, by simp, rfl⟩
    · next taken after hne htake =>
      rw [htake] at hdigits hs
      refine ⟨some digits, congrArg some hdigits, ?_, by rw [hs]; rfl⟩
      rintro _ ⟨rfl⟩ rfl
      exact hne hdigits
  · exact ⟨none, rfl, by simp, rfl⟩

theorem takeSign_text (sign : ExponentSign)
    (h : ∀ p ∈ s.head?, p ≠ .scalar '-' ∧ p ≠ .scalar '+') :
    takeSign (sign.text ++ s) = (decide (sign = .minus), s) := by
  cases sign with
  | plus => rfl
  | minus => rfl
  | absent =>
    show takeSign s = (false, s)
    unfold takeSign
    split
    · exact absurd rfl (h _ rfl).1
    · exact absurd rfl (h _ rfl).2
    · rfl

theorem exists_takeSign (s : Text) :
    ∃ sign : ExponentSign, (takeSign s).1 = decide (sign = .minus) ∧
      s = sign.text ++ (takeSign s).2 := by
  unfold takeSign
  split
  · exact ⟨.minus, rfl, rfl⟩
  · exact ⟨.plus, rfl, rfl⟩
  · exact ⟨.absent, rfl, rfl⟩

theorem takeSignedDigits?_text (exponent : Exponent) (hdigit : NoDigit rest) :
    takeSignedDigits? (exponent.sign.text ++ (spelled exponent.digits ++ rest)) =
      some (exponent.size, rest) := by
  have hhead : ∀ p ∈ (spelled exponent.digits ++ rest).head?,
      p ≠ .scalar '-' ∧ p ≠ .scalar '+' := by
    intro p hp
    have hp' := isDigit_of_mem_head? exponent.nonempty hp
    constructor <;> rintro rfl <;> cases hp'
  have hspelled : spelled exponent.digits ≠ [] := by
    simpa [spelled] using exponent.nonempty
  simp only [takeSignedDigits?, takeSign_text exponent.sign hhead,
    takeDigits_spelled exponent.digits hdigit, digitsValue_spelled, Exponent.size]
  cases exponent.sign <;> rfl

theorem exists_takeSignedDigits? {n : Int} (capital : Bool)
    (h : takeSignedDigits? s = some (n, rest)) :
    ∃ exponent : Exponent, exponent.capital = capital ∧ n = exponent.size ∧
      s = exponent.sign.text ++ (spelled exponent.digits ++ rest) := by
  obtain ⟨sign, hsign, hs⟩ := exists_takeSign s
  obtain ⟨digits, hdigits, hafter⟩ := exists_takeDigits (takeSign s).2
  simp only [takeSignedDigits?] at h
  split at h
  · cases h
  · next taken after hne htake =>
    rw [htake] at hdigits hafter
    obtain rfl : taken = spelled digits := hdigits
    have hnonempty : digits ≠ [] := by
      rintro rfl
      exact hne rfl
    obtain ⟨rfl, rfl⟩ := Prod.mk.inj (Option.some.inj h)
    refine ⟨⟨capital, sign, digits, hnonempty⟩, rfl, ?_, by rw [hs, hafter]⟩
    simp only [hsign, digitsValue_spelled, Exponent.size]
    cases sign <;> rfl

theorem takeExponent_text {exponent : Option Exponent} (hdigit : NoDigit rest)
    (hletter : ∀ p ∈ rest.head?, p ≠ .scalar 'e' ∧ p ≠ .scalar 'E') :
    takeExponent (exponent.elim [] Exponent.text ++ rest) = (exponent.map Exponent.size, rest) := by
  cases exponent with
  | none =>
    show takeExponent rest = (none, rest)
    unfold takeExponent
    split
    · exact absurd rfl (hletter _ rfl).1
    · exact absurd rfl (hletter _ rfl).2
    · rfl
  | some exponent =>
    have htake := takeSignedDigits?_text exponent hdigit
    show takeExponent (.scalar (if exponent.capital then 'E' else 'e') ::
      (exponent.sign.text ++ spelled exponent.digits ++ rest)) = (some exponent.size, rest)
    rw [List.append_assoc]
    cases exponent.capital <;> simp [takeExponent, htake]

theorem exists_takeExponent (s : Text) :
    ∃ exponent : Option Exponent, (takeExponent s).1 = exponent.map Exponent.size ∧
      s = exponent.elim [] Exponent.text ++ (takeExponent s).2 := by
  have hsome : ∀ (capital : Bool) (rest after : Text) (n : Int),
      s = .scalar (if capital then 'E' else 'e') :: rest →
      takeSignedDigits? rest = some (n, after) →
      ∃ exponent : Option Exponent, some n = exponent.map Exponent.size ∧
        s = exponent.elim [] Exponent.text ++ after := by
    intro capital rest after n hs htake
    obtain ⟨exponent, rfl, rfl, hrest⟩ := exists_takeSignedDigits? capital htake
    refine ⟨some exponent, rfl, ?_⟩
    rw [hs, hrest, ← List.append_assoc]
    rfl
  simp only [takeExponent]
  split
  · next n after hafter =>
    split at hafter
    · exact hsome false _ _ _ rfl hafter
    · exact hsome true _ _ _ rfl hafter
    · cases hafter
  · exact ⟨none, rfl, rfl⟩

/-! ## Numbers -/

/-- The literal that the reader makes of a numeral. -/
def Numeral.literal (numeral : Numeral) : NumberLiteral where
  negative := numeral.negative
  whole := spelled numeral.whole
  fraction := numeral.fraction.map spelled
  exponent := numeral.exponent.map Exponent.size

theorem isInteger_literal : numeral.literal.isInteger = true ↔ numeral.IsInteger := by
  simp [NumberLiteral.isInteger, Numeral.literal, Numeral.IsInteger]

theorem stands_iff : numeral.Stands document ↔ numeral.literal.denotes = document := by
  have hint : numeral.literal.integer = numeral.integer := by
    simp [NumberLiteral.integer, Numeral.literal, Numeral.integer, digitsValue_spelled]
  have hdouble : numeral.literal.double = numeral.double := by
    have hfraction : (numeral.fraction.map spelled).getD [] = spelled (numeral.fraction.getD []) := by
      cases numeral.fraction <;> rfl
    have hexponent : (numeral.exponent.map Exponent.size).getD 0 =
        numeral.exponent.elim 0 Exponent.size := by
      cases numeral.exponent <;> rfl
    simp only [NumberLiteral.double, Numeral.literal, Numeral.double, hfraction, hexponent,
      ← spelled_append, digitsValue_spelled, length_spelled]
  unfold NumberLiteral.denotes
  rw [hint, hdouble]
  by_cases h : numeral.IsInteger
  · rw [if_pos (isInteger_literal.mpr h)]
    constructor
    · intro hstands
      cases hstands with
      | integer => rfl
      | double fractional => exact absurd h fractional
    · rintro rfl
      exact .integer h
  · rw [if_neg (fun hliteral => h (isInteger_literal.mp hliteral))]
    constructor
    · intro hstands
      cases hstands with
      | integer integer => exact absurd integer h
      | double => rfl
    · rintro rfl
      exact .double h

/-- A numeral is read as a whole. -/
theorem takeNumber?_text (numeral : Numeral) (h : NumberEnds rest) :
    takeNumber? (numeral.text ++ rest) = some (numeral.literal, rest) := by
  obtain ⟨hdigit, hnext⟩ := h
  -- what follows each part does not go on with it
  have hexponent : ∀ p ∈ (numeral.exponent.elim [] Exponent.text ++ rest).head?,
      isDigit p = false ∧ p ≠ .scalar '.' := by
    intro p hp
    cases hexponent : numeral.exponent with
    | none =>
      rw [hexponent] at hp
      exact ⟨hdigit p hp, (hnext p hp).1⟩
    | some exponent =>
      rw [hexponent] at hp
      obtain rfl := Option.some.inj hp
      cases exponent.capital <;> exact ⟨rfl, by decide⟩
  have hfraction : NoDigit (fractionText numeral.fraction ++
      (numeral.exponent.elim [] Exponent.text ++ rest)) := by
    intro p hp
    cases hfraction : numeral.fraction with
    | none =>
      rw [hfraction] at hp
      exact (hexponent p hp).1
    | some digits =>
      rw [hfraction] at hp
      obtain rfl := Option.some.inj hp
      rfl
  have hwhole : ∀ p ∈ (spelled numeral.whole ++ (fractionText numeral.fraction ++
      (numeral.exponent.elim [] Exponent.text ++ rest))).head?, p ≠ .scalar '-' := by
    rintro p hp rfl
    cases isDigit_of_mem_head? numeral.nonempty hp
  have htext : numeral.text ++ rest = (if numeral.negative then [.scalar '-'] else []) ++
      (spelled numeral.whole ++ (fractionText numeral.fraction ++
        (numeral.exponent.elim [] Exponent.text ++ rest))) := by
    simp only [Numeral.text, List.append_assoc]
  rw [htext, takeNumber?, takeMinus_minus _ hwhole]
  simp only [takeWhole?_spelled numeral.nonempty numeral.unpadded hfraction, Option.map_some,
    takeFraction_fractionText numeral.fraction_nonempty (fun p hp => (hexponent p hp).1)
      (fun p hp => (hexponent p hp).2),
    takeExponent_text hdigit (fun p hp => (hnext p hp).2)]
  rfl

/-- What is read is a numeral. -/
theorem exists_takeNumber? {literal : NumberLiteral} (h : takeNumber? s = some (literal, rest)) :
    ∃ numeral : Numeral, literal = numeral.literal ∧ s = numeral.text ++ rest := by
  have hread : takeNumber? s = (takeWhole? (takeMinus s).2).map fun whole =>
      (⟨(takeMinus s).1, whole.1, (takeFraction whole.2).1,
        (takeExponent (takeFraction whole.2).2).1⟩, (takeExponent (takeFraction whole.2).2).2) := rfl
  rw [hread] at h
  have hminus := exists_takeMinus s
  obtain ⟨⟨whole, afterWhole⟩, hwhole, htaken⟩ := Option.map_eq_some_iff.mp h
  obtain ⟨digits, rfl, nonempty, unpadded, hafterMinus⟩ := exists_takeWhole? hwhole
  obtain ⟨fraction, hfraction, hfractions, hafterWhole⟩ := exists_takeFraction afterWhole
  obtain ⟨exponent, hexponent, hafterFraction⟩ := exists_takeExponent (takeFraction afterWhole).2
  simp only [Prod.mk.injEq] at htaken
  rw [← htaken.1, ← htaken.2]
  refine ⟨⟨(takeMinus s).1, digits, fraction, exponent, nonempty, unpadded, hfractions⟩, ?_, ?_⟩
  · rw [hfraction, hexponent]
    rfl
  · simp only [Numeral.text, List.append_assoc]
    rw [← hafterFraction, ← hafterWhole, ← hafterMinus, ← hminus]

end Gleaner.Json
