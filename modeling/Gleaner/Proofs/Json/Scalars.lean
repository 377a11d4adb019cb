import Gleaner.Proofs.Json.Numerals
import Gleaner.Proofs.Json.Strings

/-! # Reading blanks and scalars

    A scalar is read if no number goes on after it. The words, the constants and the
    numbers begin with different code points, so that the reader tries them in turn
    without a choice.
-/

namespace Gleaner.Json

variable {s t rest after : Text} {p : CodePoint} {document : Document} {limit : Nat}
  {numeral : Numeral}

/-! ## Blanks -/

theorem isBlank_iff : isBlank p = true ↔ IsBlank p := by
  simp [isBlank, IsBlank, or_assoc]

namespace Blanks

theorem refl (s : Text) : Blanks s s := ⟨[], by simp, rfl⟩

theorem trans (h : Blanks s after) (more : Blanks after rest) : Blanks s rest := by
  obtain ⟨blanks, hblanks, rfl⟩ := h
  obtain ⟨others, hothers, rfl⟩ := more
  refine ⟨blanks ++ others, ?_, (List.append_assoc _ _ _).symm⟩
  intro p hp
  exact (List.mem_append.mp hp).elim (hblanks p) (hothers p)

theorem skipBlanks_eq (h : Blanks s rest) : skipBlanks s = skipBlanks rest := by
  obtain ⟨blanks, hblanks, rfl⟩ := h
  exact List.dropWhile_append_of_pos fun p hp => isBlank_iff.mpr (hblanks p hp)

end Blanks

theorem blanks_skipBlanks (s : Text) : Blanks s (skipBlanks s) :=
  ⟨s.takeWhile isBlank, fun _ hp => isBlank_iff.mp (List.mem_takeWhile_imp hp),
    List.takeWhile_append_dropWhile.symm⟩

theorem skipBlanks_cons (h : isBlank p = false) (s : Text) : skipBlanks (p :: s) = p :: s := by
  rw [skipBlanks, List.dropWhile_cons_of_neg (by simp [h])]

/-! ## Ends of numbers -/

theorem numberEnds_nil : NumberEnds [] := ⟨by simp [NoDigit], by simp⟩

theorem numberEnds_cons (h : isDigit p = false ∧ p ≠ .scalar '.' ∧ p ≠ .scalar 'e' ∧
    p ≠ .scalar 'E') (rest : Text) : NumberEnds (p :: rest) := by
  constructor
  · intro q hq
    obtain rfl := Option.some.inj hq
    exact h.1
  · intro q hq
    obtain rfl := Option.some.inj hq
    exact h.2

theorem NumberEnds.of_blanks (ends : NumberEnds rest) (h : Blanks s rest) : NumberEnds s := by
  obtain ⟨blanks, hblanks, rfl⟩ := h
  cases blanks with
  | nil => exact ends
  | cons p blanks =>
    refine numberEnds_cons ?_ _
    rcases hblanks p (by simp) with rfl | rfl | rfl | rfl <;> decide

/-! ## Beginnings -/

/-- The code points that values begin with. -/
def beginnings : Text := Text.ofString "\x22-0123456789[fnt\x7b"

def Begins (s : Text) : Prop := ∃ p ∈ s.head?, p ∈ beginnings

theorem begins_cons_iff : Begins (p :: s) ↔ p ∈ beginnings := by
  simp [Begins]

theorem Begins.skipBlanks_eq (h : Begins s) : skipBlanks s = s := by
  have hblank : ∀ p ∈ beginnings, isBlank p = false := by decide
  cases s with
  | nil => rfl
  | cons p s => exact skipBlanks_cons (hblank p (begins_cons_iff.mp h)) s

theorem Quoted.begins (h : Quoted s t rest) : Begins s := by
  cases h with
  | mk body => exact begins_cons_iff.mpr (by decide)

/-- A number begins with a digit, or with a minus sign before a digit. -/
theorem Numeral.exists_digit (numeral : Numeral) (rest : Text) :
    ∃ (digit : Fin 10) (more : Text), numeral.text ++ rest =
      (if numeral.negative then [.scalar '-'] else []) ++ .scalar (Nat.digitChar digit) :: more := by
  obtain ⟨digit, digits, hwhole⟩ := List.exists_cons_of_ne_nil numeral.nonempty
  refine ⟨digit, spelled digits ++ (fractionText numeral.fraction ++
    numeral.exponent.elim [] Exponent.text) ++ rest, ?_⟩
  simp [Numeral.text, hwhole, spelled]

theorem Scalar.begins (h : Scalar limit s document rest) : Begins s := by
  cases h with
  | null => exact begins_cons_iff.mpr (by decide)
  | true => exact begins_cons_iff.mpr (by decide)
  | false => exact begins_cons_iff.mpr (by decide)
  | @number numeral _ _ stands short =>
    have hdigit : ∀ digit : Fin 10, .scalar (Nat.digitChar digit) ∈ beginnings := by decide
    obtain ⟨digit, more, htext⟩ := numeral.exists_digit rest
    rw [htext]
    cases numeral.negative with
    | true => exact begins_cons_iff.mpr (by decide)
    | false => exact begins_cons_iff.mpr (hdigit digit)
  | string quoted => exact quoted.begins

/-! ## Words and constants -/

theorem takeWord?_null (rest : Text) :
    takeWord? (Text.ofString "null" ++ rest) = some (.null, rest) := rfl

theorem takeWord?_true (rest : Text) :
    takeWord? (Text.ofString "true" ++ rest) = some (.bool true, rest) := rfl

theorem takeWord?_false (rest : Text) :
    takeWord? (Text.ofString "false" ++ rest) = some (.bool false, rest) := rfl

theorem scalar_of_takeWord? (h : takeWord? s = some (document, rest)) :
    Scalar limit s document rest := by
  unfold takeWord? at h
  split at h
  · next after hafter =>
    obtain ⟨rfl, rfl⟩ := Prod.mk.inj (Option.some.inj h)
    rw [Text.dropStart?_eq_some_iff.mp hafter]
    exact .null
  · split at h
    · next after hafter =>
      obtain ⟨rfl, rfl⟩ := Prod.mk.inj (Option.some.inj h)
      rw [Text.dropStart?_eq_some_iff.mp hafter]
      exact .true
    · obtain ⟨after, hafter, htaken⟩ := Option.map_eq_some_iff.mp h
      obtain ⟨rfl, rfl⟩ := Prod.mk.inj htaken
      rw [Text.dropStart?_eq_some_iff.mp hafter]
      exact .false

/-- A number is neither a word nor a constant. -/
theorem takeWord?_numeral (numeral : Numeral) (rest : Text) :
    takeWord? (numeral.text ++ rest) = none ∧ takeConstant? (numeral.text ++ rest) = none := by
  obtain ⟨⟨digit, hdigit⟩, more, htext⟩ := numeral.exists_digit rest
  rw [htext]
  -- the head decides, and behind a minus sign the digit does
  cases numeral.negative <;> interval_cases digit <;> exact ⟨rfl, rfl⟩

/-! ## Scalars -/

/-- An integer is not refused if it has few digits, and nothing else is refused. -/
theorem checkDigits_eq_ok_iff : checkDigits numeral.literal = .ok document ↔
    numeral.Stands document ∧ (numeral.IsInteger → numeral.whole.length ≤ Text.digitLimit) := by
  have hlength : numeral.literal.whole.length = numeral.whole.length := length_spelled _
  rw [checkDigits, stands_iff, ← isInteger_literal, hlength]
  by_cases hlong : numeral.literal.isInteger = true ∧ Text.digitLimit < numeral.whole.length
  · rw [if_pos (by simpa using hlong)]
    constructor
    · intro h
      cases h
    · rintro ⟨-, short⟩
      exact absurd (short hlong.1) (by omega)
  · rw [if_neg (by simpa using hlong)]
    constructor
    · intro h
      exact ⟨Except.ok.inj h, fun integer => Nat.le_of_not_lt fun long => hlong ⟨integer, long⟩⟩
    · rintro ⟨rfl, -⟩
      rfl

theorem scalar_of_reads (h : Reads (scalar false) s document rest) :
    Scalar Text.digitLimit s document rest := by
  obtain ⟨shorter, h⟩ := h
  unfold scalar at h
  split at h
  · next hword =>
    obtain ⟨rfl, rfl⟩ := Taken.mk.inj (Except.ok.inj h)
    exact scalar_of_takeWord? hword
  · split at h
    · cases h
    · split at h
      · next hnumber =>
        obtain ⟨numeral, rfl, rfl⟩ := exists_takeNumber? hnumber
        obtain ⟨found, hfound, htaken⟩ := map_eq_ok_iff.mp h
        obtain ⟨rfl, rfl⟩ := Taken.mk.inj htaken
        obtain ⟨stands, short⟩ := checkDigits_eq_ok_iff.mp hfound
        exact .number stands short
      · cases h

theorem reads_scalar_of_takeWord? (h : takeWord? s = some (document, rest)) :
    Reads (scalar false) s document rest := by
  refine ⟨length_of_takeWord? h, ?_⟩
  unfold scalar
  split
  · next heq =>
    obtain ⟨rfl, rfl⟩ := Prod.mk.inj (Option.some.inj (h.symm.trans heq))
    rfl
  · next heq =>
    rw [h] at heq
    cases heq

theorem reads_scalar_numeral (stands : numeral.Stands document)
    (short : numeral.IsInteger → numeral.whole.length ≤ Text.digitLimit) (ends : NumberEnds rest) :
    Reads (scalar false) (numeral.text ++ rest) document rest := by
  obtain ⟨noWord, noConstant⟩ := takeWord?_numeral numeral rest
  have hnumber := takeNumber?_text numeral ends
  have hdigits := checkDigits_eq_ok_iff.mpr ⟨stands, short⟩
  refine ⟨length_of_takeNumber? hnumber, ?_⟩
  unfold scalar
  split
  · next heq =>
    rw [noWord] at heq
    cases heq
  · split
    · next heq =>
      rw [noConstant] at heq
      cases heq
    · split
      · next heq =>
        obtain ⟨rfl, rfl⟩ := Prod.mk.inj (Option.some.inj (hnumber.symm.trans heq))
        rw [hdigits]
        rfl
      · next heq =>
        rw [hnumber] at heq
        cases heq

end Gleaner.Json
