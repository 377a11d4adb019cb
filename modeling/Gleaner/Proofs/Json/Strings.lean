import Gleaner.Json.Reader
import Gleaner.Proofs.Json.Grammar
import Mathlib.Tactic.IntervalCases

/-! # Reading strings

    The reader of strings takes exactly the strings of the grammar. It reads a pair of
    UTF-16 units in one step, where the grammar has two pieces; a unit that begins no pair
    is read alone, and what follows it is read afresh.
-/

namespace Gleaner.Json

variable {α : Type} {s t rest after opening before : Text} {p : CodePoint} {n : Nat}
  {pieces : List Piece}

/-- The reader takes `a` off the head of `s` and leaves `rest`. -/
def Reads (reader : Reader α) (s : Text) (a : α) (rest : Text) : Prop :=
  ∃ shorter, reader s = .ok ⟨a, rest, shorter⟩

/-! ## Units -/

theorem hexDigit?_of_hex (h : Hex p n) : p.hexDigit? = some n := by
  obtain ⟨hlt, hp⟩ := h
  interval_cases n <;> rcases hp with rfl | rfl <;> rfl

theorem range_of_hexDigit? (h : p.hexDigit? = some n) :
    48 ≤ p.toNat ∧ p.toNat ≤ 57 ∧ n = p.toNat - 48 ∨
      97 ≤ p.toNat ∧ p.toNat ≤ 102 ∧ n = p.toNat - 87 ∨
      65 ≤ p.toNat ∧ p.toNat ≤ 70 ∧ n = p.toNat - 55 := by
  unfold CodePoint.hexDigit? at h
  dsimp only at h
  by_cases hdigit : 48 ≤ p.toNat ∧ p.toNat ≤ 57
  · rw [if_pos hdigit] at h
    exact .inl ⟨hdigit.1, hdigit.2, (Option.some.inj h).symm⟩
  · rw [if_neg hdigit] at h
    by_cases hlower : 97 ≤ p.toNat ∧ p.toNat ≤ 102
    · rw [if_pos hlower] at h
      exact .inr (.inl ⟨hlower.1, hlower.2, (Option.some.inj h).symm⟩)
    · rw [if_neg hlower] at h
      by_cases hupper : 65 ≤ p.toNat ∧ p.toNat ≤ 70
      · rw [if_pos hupper] at h
        exact .inr (.inr ⟨hupper.1, hupper.2, (Option.some.inj h).symm⟩)
      · rw [if_neg hupper] at h
        cases h

theorem hex_of_hexDigit? (h : p.hexDigit? = some n) : Hex p n := by
  have hletters : ∀ k : Fin 6, (Nat.digitChar (10 + k)).toNat = 97 + k ∧
      (Nat.digitChar (10 + k)).toUpper.toNat = 65 + k := by
    decide
  have hrange := range_of_hexDigit? h
  obtain ⟨c, rfl⟩ : ∃ c, p = .scalar c := by
    cases p with
    | scalar c => exact ⟨c, rfl⟩
    | surrogate offset =>
      rw [CodePoint.toNat] at hrange
      omega
  rw [CodePoint.toNat] at hrange
  -- a digit, a small letter or a capital one
  rcases hrange with ⟨hlow, hhigh, rfl⟩ | ⟨hlow, hhigh, rfl⟩ | ⟨hlow, hhigh, rfl⟩
  · refine ⟨by omega, .inl (congrArg CodePoint.scalar (Char.toNat_inj.mp ?_))⟩
    rw [Nat.toNat_digitChar_of_lt_ten (by omega)]
    omega
  · refine ⟨by omega, .inl (congrArg CodePoint.scalar (Char.toNat_inj.mp ?_))⟩
    obtain ⟨k, hk⟩ : ∃ k : Fin 6, c.toNat - 87 = 10 + k.val := ⟨⟨c.toNat - 97, by omega⟩, by
      show c.toNat - 87 = 10 + (c.toNat - 97)
      omega⟩
    rw [hk, (hletters k).1]
    omega
  · refine ⟨by omega, .inr (congrArg CodePoint.scalar (Char.toNat_inj.mp ?_))⟩
    obtain ⟨k, hk⟩ : ∃ k : Fin 6, c.toNat - 55 = 10 + k.val := ⟨⟨c.toNat - 65, by omega⟩, by
      show c.toNat - 55 = 10 + (c.toNat - 65)
      omega⟩
    rw [hk, (hletters k).2]
    omega

theorem takeUnit?_of_hex4 (h : Hex4 s n rest) : takeUnit? s = some (n, rest) := by
  cases h with
  | @mk a b c d i j k l _ first second third fourth =>
    simp only [takeUnit?, hexDigit?_of_hex first, hexDigit?_of_hex second, hexDigit?_of_hex third,
      hexDigit?_of_hex fourth, Option.bind_eq_bind, Option.bind_some, Option.some.injEq,
      Prod.mk.injEq, and_true]
    omega

theorem hex4_of_takeUnit? (h : takeUnit? s = some (n, rest)) : Hex4 s n rest := by
  unfold takeUnit? at h
  split at h
  · simp only [Option.bind_eq_bind, Option.bind_eq_some_iff, Option.some.injEq, Prod.mk.injEq] at h
    obtain ⟨i, first, j, second, k, third, l, fourth, rfl, rfl⟩ := h
    have hvalue : ((i * 16 + j) * 16 + k) * 16 + l = i * 16 ^ 3 + j * 16 ^ 2 + k * 16 + l := by
      omega
    rw [hvalue]
    exact .mk (hex_of_hexDigit? first) (hex_of_hexDigit? second) (hex_of_hexDigit? third)
      (hex_of_hexDigit? fourth)
  · cases h

theorem hex4_unique {m : Nat} (h : Hex4 s n rest) (other : Hex4 s m after) :
    n = m ∧ rest = after := by
  have heq := (takeUnit?_of_hex4 h).symm.trans (takeUnit?_of_hex4 other)
  exact Prod.mk.inj (Option.some.inj heq)

/-- A unit in a string is followed by something. -/
theorem reads_unit_iff : Reads unit s n rest ↔ Hex4 s n rest ∧ rest ≠ [] := by
  unfold Reads unit
  constructor
  · rintro ⟨shorter, h⟩
    split at h
    · next htake =>
      obtain ⟨rfl, rfl⟩ := Taken.mk.inj (Except.ok.inj h)
      exact ⟨hex4_of_takeUnit? htake, by simp⟩
    · cases h
  · rintro ⟨hex, nonempty⟩
    have htake := takeUnit?_of_hex4 hex
    refine ⟨length_of_takeUnit? htake, ?_⟩
    split
    · next heq =>
      rw [htake] at heq
      obtain ⟨rfl, rfl⟩ := Prod.mk.inj (Option.some.inj heq)
      rfl
    · next hno =>
      cases rest with
      | nil => exact absurd rfl nonempty
      | cons p rest => exact (hno _ _ _ htake).elim

/-! ## Escapes -/

theorem map_eq_ok_iff {ε α β : Type} {f : α → β} {x : Except ε α} {b : β} :
    x.map f = .ok b ↔ ∃ a, x = .ok a ∧ f a = b := by
  cases x <;> simp [Except.map]

theorem isPair_iff {high low : Nat} : IsPair high low ↔ isHigh high = true ∧ isLow low = true := by
  simp [IsPair, isHigh, isLow]

/-- Nothing that stands right after the unit completes a pair with it. -/
def Alone (n : Nat) (rest : Text) : Prop :=
  ∀ more low after, rest = .scalar '\x5c' :: .scalar 'u' :: more → Hex4 more low after →
    ¬ IsPair n low

theorem of_reads_unicodeEscape (h : Reads unicodeEscape s p rest) :
    (∃ high low more, Hex4 s high (.scalar '\x5c' :: .scalar 'u' :: more) ∧ Hex4 more low rest ∧
        IsPair high low ∧ p = joinUnits high low) ∨
      ∃ n, Hex4 s n rest ∧ p = .ofNat n ∧ Alone n rest := by
  obtain ⟨shorter, h⟩ := h
  simp only [unicodeEscape, bind, Except.bind] at h
  split at h
  · cases h
  · next first hfirst =>
    obtain ⟨n, after, hshorter⟩ := first
    have hhex := (reads_unit_iff.mp ⟨hshorter, hfirst⟩).1
    dsimp only at h
    split at h
    -- another escape follows: it is read only behind a high surrogate, and used only if it is low
    · next more =>
      split at h
      · next hhigh =>
        split at h
        · cases h
        · next second hsecond =>
          obtain ⟨low, last, hlast⟩ := second
          have hlow := (reads_unit_iff.mp ⟨hlast, hsecond⟩).1
          dsimp only at h
          split at h
          · next hpair =>
            obtain ⟨rfl, rfl⟩ := Taken.mk.inj (Except.ok.inj h)
            exact .inl ⟨n, low, more, hhex, hlow, isPair_iff.mpr ⟨hhigh, hpair⟩, rfl⟩
          · next hpair =>
            obtain ⟨rfl, rfl⟩ := Taken.mk.inj (Except.ok.inj h)
            refine .inr ⟨n, hhex, rfl, ?_⟩
            intro again other after hagain hother isPair
            obtain rfl : more = again := by simpa using hagain
            obtain ⟨rfl, -⟩ := hex4_unique hlow hother
            exact hpair (isPair_iff.mp isPair).2
      · next hhigh =>
        obtain ⟨rfl, rfl⟩ := Taken.mk.inj (Except.ok.inj h)
        exact .inr ⟨n, hhex, rfl, fun _ _ _ _ _ isPair => hhigh (isPair_iff.mp isPair).1⟩
    · next hno =>
      obtain ⟨rfl, rfl⟩ := Taken.mk.inj (Except.ok.inj h)
      exact .inr ⟨n, hhex, rfl, fun more _ _ hmore => (hno more hmore).elim⟩

theorem reads_unicodeEscape_pair {high low : Nat} {more : Text}
    (hhigh : Hex4 s high (.scalar '\x5c' :: .scalar 'u' :: more)) (hlow : Hex4 more low rest)
    (nonempty : rest ≠ []) (pair : IsPair high low) :
    Reads unicodeEscape s (joinUnits high low) rest := by
  obtain ⟨hfirst, hfirst'⟩ := reads_unit_iff.mpr ⟨hhigh, by simp⟩
  obtain ⟨hsecond, hsecond'⟩ := reads_unit_iff.mpr ⟨hlow, nonempty⟩
  obtain ⟨isHigh, isLow⟩ := isPair_iff.mp pair
  simp only [Reads, unicodeEscape, bind, Except.bind, hfirst', hsecond', isHigh, isLow, if_true]
  simp only [List.length_cons] at hfirst
  exact ⟨by omega, trivial⟩

theorem reads_unicodeEscape_alone (hex : Hex4 s n rest) (nonempty : rest ≠ [])
    (follows : ∀ more, rest = .scalar '\x5c' :: .scalar 'u' :: more →
      ∃ low after, Hex4 more low after ∧ after ≠ []) (alone : Alone n rest) :
    Reads unicodeEscape s (.ofNat n) rest := by
  obtain ⟨hfirst, hfirst'⟩ := reads_unit_iff.mpr ⟨hex, nonempty⟩
  refine ⟨hfirst, ?_⟩
  simp only [unicodeEscape, bind, Except.bind, hfirst']
  split
  · next more =>
    obtain ⟨low, after, hlow, hafter⟩ := follows more rfl
    split
    · next hhigh =>
      obtain ⟨hsecond, hsecond'⟩ := reads_unit_iff.mpr ⟨hlow, hafter⟩
      have hno : ¬ isLow low = true := fun isLow =>
        alone more low after rfl hlow (isPair_iff.mpr ⟨hhigh, isLow⟩)
      simp only [hsecond', hno]
      rfl
    · rfl
  · rfl

theorem letterEscape?_eq_some_iff {c : Char} :
    letterEscape? p = some c ↔ ∃ letter, p = .scalar letter ∧ Letter letter c := by
  constructor
  · intro h
    unfold letterEscape? at h
    split at h
    · exact ⟨_, rfl, Option.some.inj h ▸ .quote⟩
    · exact ⟨_, rfl, Option.some.inj h ▸ .backslash⟩
    · exact ⟨_, rfl, Option.some.inj h ▸ .slash⟩
    · exact ⟨_, rfl, Option.some.inj h ▸ .backspace⟩
    · exact ⟨_, rfl, Option.some.inj h ▸ .formFeed⟩
    · exact ⟨_, rfl, Option.some.inj h ▸ .lineFeed⟩
    · exact ⟨_, rfl, Option.some.inj h ▸ .carriageReturn⟩
    · exact ⟨_, rfl, Option.some.inj h ▸ .tab⟩
    · cases h
  · rintro ⟨letter, rfl, stands⟩
    cases stands <;> rfl

/-- An escape is that of a letter, or one of units. -/
theorem reads_escape_iff : Reads (escape opening) s p rest ↔
    (∃ letter c, s = .scalar letter :: rest ∧ Letter letter c ∧ p = .scalar c) ∨
      ∃ more, s = .scalar 'u' :: more ∧ Reads unicodeEscape more p rest := by
  constructor
  · rintro ⟨shorter, h⟩
    unfold escape at h
    split at h
    · cases h
    · next more =>
      right
      obtain ⟨taken, htaken, hafter⟩ := map_eq_ok_iff.mp h
      obtain ⟨rfl, rfl⟩ := Taken.mk.inj hafter
      exact ⟨more, rfl, taken.shorter, htaken⟩
    · next q more _ =>
      left
      split at h
      · next c hletter =>
        obtain ⟨rfl, rfl⟩ := Taken.mk.inj (Except.ok.inj h)
        obtain ⟨letter, rfl, stands⟩ := letterEscape?_eq_some_iff.mp hletter
        exact ⟨letter, c, rfl, stands, rfl⟩
      · cases h
  · rintro (⟨letter, c, rfl, stands, rfl⟩ | ⟨more, rfl, shorter, h⟩)
    · have hletter := letterEscape?_eq_some_iff.mpr ⟨letter, rfl, stands⟩
      refine ⟨by simp, ?_⟩
      cases stands <;> rfl
    · refine ⟨Nat.lt_succ_of_lt shorter, ?_⟩
      simp only [escape, h]
      rfl

/-! ## Bodies -/

/-- A unit that completes no pair is a code point by itself. -/
theorem decoded_unit_of_alone (alone : Alone n s) (body : Body s pieces rest) :
    decoded (.unit n :: pieces) = .ofNat n :: decoded pieces := by
  cases body with
  | close => rfl
  | @piece _ after _ piece pieces spelling body =>
    cases spelling with
    | plain printable noQuote noEscape => rfl
    | letter stands => rfl
    | @unit more _ low digits =>
      have hpair : ¬ IsPair n low := alone more low after rfl digits
      rw [decoded, if_neg hpair]

/-- What an escape adds to the pieces after it. -/
theorem exists_pieces_of_escape (h : Reads (escape opening) s p after)
    (body : Body after pieces rest) :
    ∃ more, Body (.scalar '\x5c' :: s) more rest ∧ decoded more = p :: decoded pieces := by
  rcases reads_escape_iff.mp h with ⟨letter, c, rfl, stands, rfl⟩ | ⟨more, rfl, hunicode⟩
  · exact ⟨.code (.scalar c) :: pieces, .piece (.letter stands) body, rfl⟩
  · rcases of_reads_unicodeEscape hunicode with
      ⟨high, low, next, hhigh, hlow, pair, hp⟩ | ⟨n, hex, hp, alone⟩
    · refine ⟨.unit high :: .unit low :: pieces, .piece (.unit hhigh) (.piece (.unit hlow) body), ?_⟩
      rw [decoded, if_pos pair, hp, joinUnits]
    · refine ⟨.unit n :: pieces, .piece (.unit hex) body, ?_⟩
      rw [decoded_unit_of_alone alone body, hp]

/-- What is read up to the closing quote are pieces. The induction is on the steps of the
    reader. -/
theorem exists_body (h : stringBody opening before s = .ok (t, rest)) :
    ∃ pieces, Body s pieces rest ∧ t = before.reverse ++ decoded pieces := by
  fun_induction stringBody opening before s with
  | case1 => cases h
  | case2 before after =>
    obtain ⟨rfl, rfl⟩ := Prod.mk.inj (Except.ok.inj h)
    exact ⟨[], .close, by simp [decoded]⟩
  | case3 => cases h
  | case4 before after taken hescape ih =>
    obtain ⟨pieces, body, rfl⟩ := ih h
    obtain ⟨more, hmore, hdecoded⟩ := exists_pieces_of_escape ⟨taken.shorter, hescape⟩ body
    exact ⟨more, hmore, by rw [hdecoded]; simp⟩
  | case5 => cases h
  | case6 before p after noQuote noEscape printable ih =>
    obtain ⟨pieces, body, rfl⟩ := ih h
    refine ⟨.code p :: pieces, .piece (.plain (by omega) noQuote noEscape) body, ?_⟩
    simp [decoded]

/-- A body is not empty. -/
theorem Body.ne_nil (h : Body s pieces rest) : s ≠ [] := by
  cases h with
  | close => simp
  | piece spelling body => cases spelling <;> simp

theorem stringBody_plain (printable : 0x20 ≤ p.toNat) (noQuote : p ≠ .scalar '\x22')
    (noEscape : p ≠ .scalar '\x5c') (opening before s : Text) :
    stringBody opening before (p :: s) = stringBody opening (p :: before) s := by
  have hcontrol : ¬ p.toNat < 0x20 := by omega
  rw [stringBody]
  · rw [if_neg hcontrol]
  · exact noQuote
  · exact noEscape

/-- What is read after a code point is read with it. -/
theorem stringBody_escape {more : Text} (h : Reads (escape opening) s p after) (before : Text)
    (hread : stringBody opening (p :: before) after = .ok ((p :: before).reverse ++ more, rest)) :
    stringBody opening before (.scalar '\x5c' :: s) = .ok (before.reverse ++ p :: more, rest) := by
  obtain ⟨shorter, h⟩ := h
  rw [List.reverse_cons, List.append_assoc, List.singleton_append] at hread
  rw [stringBody, h]
  exact hread

theorem reads_escape_letter {letter c : Char} (stands : Letter letter c) :
    Reads (escape opening) (.scalar letter :: after) (.scalar c) after :=
  reads_escape_iff.mpr (.inl ⟨letter, c, rfl, stands, rfl⟩)

theorem reads_escape_unicode (h : Reads unicodeEscape s p after) :
    Reads (escape opening) (.scalar 'u' :: s) p after :=
  reads_escape_iff.mpr (.inr ⟨s, rfl, h⟩)

/-- A unit and a body after it that begins with `low`, which completes no pair. -/
theorem reads_unicodeEscape_of_noPair {high low : Nat} (hex : Hex4 s high after)
    (body : Body after (.unit low :: pieces) rest) (noPair : ¬ IsPair high low) :
    Reads unicodeEscape s (.ofNat high) after := by
  have follows : ∀ more, after = .scalar '\x5c' :: .scalar 'u' :: more →
      ∃ after', Hex4 more low after' ∧ after' ≠ [] := by
    rintro more rfl
    cases body with
    | piece spelling body =>
      cases spelling with
      | unit hlow => exact ⟨_, hlow, body.ne_nil⟩
  have alone : Alone high after := by
    intro more other after' hmore hother pair
    -- four digits are the digits of one unit only
    obtain ⟨_, hlow, _⟩ := follows more hmore
    obtain ⟨rfl, -⟩ := hex4_unique hlow hother
    exact noPair pair
  exact reads_unicodeEscape_alone hex body.ne_nil (fun more hmore => ⟨low, follows more hmore⟩) alone

/-- A unit and a body after it that begins with none. -/
theorem reads_unicodeEscape_of_noUnit (hex : Hex4 s n after) (body : Body after pieces rest)
    (noUnit : ∀ low more, pieces = .unit low :: more → False) :
    Reads unicodeEscape s (.ofNat n) after := by
  have hno : ∀ more, after ≠ .scalar '\x5c' :: .scalar 'u' :: more := by
    rintro more rfl
    cases body with
    | piece spelling body =>
      cases spelling with
      | plain printable noQuote noEscape => exact noEscape rfl
      | letter stands => cases stands
      | unit digits => exact noUnit _ _ rfl
  exact reads_unicodeEscape_alone hex body.ne_nil (fun more hmore => (hno more hmore).elim)
    (fun more _ _ hmore => (hno more hmore).elim)

/-- Pieces up to a quote are read. The induction is on the pieces as they are decoded, two
    at a time if they are a pair. -/
theorem stringBody_of_body (h : Body s pieces rest) (opening before : Text) :
    stringBody opening before s = .ok (before.reverse ++ decoded pieces, rest) := by
  induction pieces using decoded.induct generalizing s before with
  | case1 =>
    cases h with
    | close => rw [stringBody, decoded, List.append_nil]
  | case2 p pieces ih =>
    cases h with
    | piece spelling body =>
      have hread := ih body (p :: before)
      rw [decoded]
      cases spelling with
      | plain printable noQuote noEscape =>
        rw [stringBody_plain printable noQuote noEscape, hread]
        simp
      | letter stands => exact stringBody_escape (reads_escape_letter stands) before hread
  | case3 high low pieces pair ih =>
    cases h with
    | piece spelling body =>
      cases spelling with
      | unit hhigh =>
        cases body with
        | piece spelling body =>
          cases spelling with
          | unit hlow =>
            have hunicode := reads_unicodeEscape_pair hhigh hlow body.ne_nil pair
            rw [decoded, if_pos pair]
            exact stringBody_escape (reads_escape_unicode hunicode) before (ih body _)
  | case4 high low pieces noPair ih =>
    cases h with
    | piece spelling body =>
      cases spelling with
      | unit hhigh =>
        have hunicode := reads_unicodeEscape_of_noPair hhigh body noPair
        rw [decoded, if_neg noPair]
        exact stringBody_escape (reads_escape_unicode hunicode) before (ih body _)
  | case5 n pieces noUnit ih =>
    cases h with
    | piece spelling body =>
      cases spelling with
      | unit hex =>
        have hunicode := reads_unicodeEscape_of_noUnit hex body noUnit
        rw [decoded.eq_4 _ _ noUnit]
        exact stringBody_escape (reads_escape_unicode hunicode) before (ih body _)

/-! ## Strings -/

/-- What is read as a string is what the grammar has as one, with the same text and the same
    rest. -/
theorem reads_string_iff :
    Reads (string opening) s t rest ↔ Quoted (.scalar '\x22' :: s) t rest := by
  constructor
  · rintro ⟨shorter, h⟩
    unfold string at h
    split at h
    · next text after hbody =>
      obtain ⟨rfl, rfl⟩ := Taken.mk.inj (Except.ok.inj h)
      obtain ⟨pieces, body, rfl⟩ := exists_body hbody
      exact .mk body
    · cases h
  · intro quoted
    cases quoted with
    | @mk _ _ pieces body =>
      have hbody : stringBody opening [] s = .ok (decoded pieces, rest) :=
        stringBody_of_body body opening []
      refine ⟨length_of_stringBody hbody, ?_⟩
      unfold string
      split
      · next heq =>
        obtain ⟨rfl, rfl⟩ := Prod.mk.inj (Except.ok.inj (hbody.symm.trans heq))
        rfl
      · next heq =>
        rw [hbody] at heq
        cases heq

end Gleaner.Json
