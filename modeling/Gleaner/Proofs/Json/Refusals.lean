import Gleaner.Proofs.Json.Values

/-! # Refused texts

    A text is broken if, where a value begins at some depth, there stands something that no
    value begins with: one of the constants, a zero before another digit, a string with a
    raw control character, or items or members with a comma before their end. No reading
    goes past such a place, since the values before it can only be read in one way.
-/

namespace Gleaner.Json

variable {s t rest after next start : Text} {p : CodePoint} {document : Document}
  {limit depth : Nat} {item : Reader Document} {value wider : Text → Document → Text → Prop}
  {broken worse : Text → Prop} {piece : Piece} {pieces : List Piece}

/-! ## What is broken -/

/-- A control character that is not written as an escape, before the end of the string. -/
inductive RawControl : Text → Prop
  | here {p : CodePoint} {rest : Text} (control : p.toNat < 0x20) : RawControl (p :: rest)
  | later {s after : Text} {piece : Piece} (spelling : Spelling s piece after)
      (raw : RawControl after) : RawControl s

/-- A zero with a sign or without, and a digit after it. -/
def padded (negative : Bool) (digit : Fin 10) (rest : Text) : Text :=
  (if negative then [.scalar '-'] else []) ++ .scalar '0' :: .scalar (Nat.digitChar digit) :: rest

/-- What no scalar begins with. -/
inductive BrokenScalar : Text → Prop
  | constant (which : Constant) (rest : Text) : BrokenScalar (Text.ofString which.name ++ rest)
  | paddedNumber (negative : Bool) (digit : Fin 10) (rest : Text) :
      BrokenScalar (padded negative digit rest)
  | string {s : Text} (raw : RawControl s) : BrokenScalar (.scalar '\x22' :: s)

section Compound

variable (value : Text → Document → Text → Prop) (broken : Text → Prop)

/-- Items of which one is broken, after others, or after which a comma is left over. -/
inductive BrokenItems : Text → Prop
  | item {s start : Text} (before : Blanks s start) (itself : broken start) : BrokenItems s
  | comma {s start after next rest : Text} {document : Document} (before : Blanks s start)
      (itself : value start document after) (behind : Blanks after (.scalar ',' :: next))
      (close : Blanks next (.scalar ']' :: rest)) : BrokenItems s
  | later {s start after next : Text} {document : Document} (before : Blanks s start)
      (itself : value start document after) (behind : Blanks after (.scalar ',' :: next))
      (others : BrokenItems next) : BrokenItems s

/-- Members of which a key or a value is broken, after others, or after which a comma is left
    over. -/
inductive BrokenMembers : Text → Prop
  | key {s start : Text} (before : Blanks s (.scalar '\x22' :: start)) (raw : RawControl start) :
      BrokenMembers s
  | value {s start afterKey colon valueStart key : Text} (before : Blanks s start)
      (quoted : Quoted start key afterKey) (behindKey : Blanks afterKey (.scalar ':' :: colon))
      (beforeValue : Blanks colon valueStart) (itself : broken valueStart) : BrokenMembers s
  | comma {s next rest : Text} {member : Text × Document}
      (itself : Member value s member (.scalar ',' :: next))
      (close : Blanks next (.scalar '\x7d' :: rest)) : BrokenMembers s
  | later {s next : Text} {member : Text × Document}
      (itself : Member value s member (.scalar ',' :: next)) (others : BrokenMembers next) :
      BrokenMembers s

/-- A list or an object that is broken inside. -/
inductive BrokenCompound : Text → Prop
  | array {s : Text} (items : BrokenItems value broken s) : BrokenCompound (.scalar '[' :: s)
  | object {s : Text} (members : BrokenMembers value broken s) :
      BrokenCompound (.scalar '\x7b' :: s)

end Compound

/-- Broken at most `depth` levels deep. -/
def Broken (limit : Nat) : (depth : Nat) → Text → Prop
  | 0, s => BrokenScalar s
  | depth + 1, s =>
    BrokenScalar s ∨ BrokenCompound (Value limit depth) (Broken limit depth) s

/-! ## More nesting -/

section Wider

variable (wide : ∀ {s document rest}, value s document rest → wider s document rest)
  (bad : ∀ {s}, broken s → worse s)

include wide bad

theorem BrokenItems.mono (h : BrokenItems value broken s) : BrokenItems wider worse s := by
  induction h with
  | item before itself => exact .item before (bad itself)
  | comma before itself behind close => exact .comma before (wide itself) behind close
  | later before itself behind _ ih => exact .later before (wide itself) behind ih

theorem BrokenMembers.mono (h : BrokenMembers value broken s) : BrokenMembers wider worse s := by
  induction h with
  | key before raw => exact .key before raw
  | value before quoted behindKey beforeValue itself =>
    exact .value before quoted behindKey beforeValue (bad itself)
  | comma itself close => exact .comma (itself.mono wide) close
  | later itself _ ih => exact .later (itself.mono wide) ih

theorem BrokenCompound.mono (h : BrokenCompound value broken s) :
    BrokenCompound wider worse s := by
  cases h with
  | array items => exact .array (items.mono wide bad)
  | object members => exact .object (members.mono wide bad)

end Wider

theorem Broken.succ (h : Broken limit depth s) : Broken limit (depth + 1) s := by
  induction depth generalizing s with
  | zero => exact .inl h
  | succ depth ih => exact h.imp id (BrokenCompound.mono Value.succ ih)

theorem Broken.mono {deeper : Nat} (le : depth ≤ deeper) (h : Broken limit depth s) :
    Broken limit deeper s := by
  induction le with
  | refl => exact h
  | step _ ih => exact ih.succ

/-! ## Scalars -/

/-- A piece is spelled in one way. -/
theorem Spelling.unique {other : Piece} (h : Spelling s piece rest) (h' : Spelling s other after) :
    rest = after := by
  cases h with
  | plain printable noQuote noEscape =>
    cases h' with
    | plain => rfl
    | letter stands => exact absurd rfl noEscape
    | unit digits => exact absurd rfl noEscape
  | letter stands =>
    cases h' with
    | plain printable noQuote noEscape => exact absurd rfl noEscape
    | letter => rfl
    | unit digits => cases stands
  | unit digits =>
    cases h' with
    | plain printable noQuote noEscape => exact absurd rfl noEscape
    | letter stands => cases stands
    | unit digits' => exact (hex4_unique digits digits').2

theorem not_body_of_rawControl (raw : RawControl s) : ¬ Body s pieces rest := by
  intro body
  induction raw generalizing pieces with
  | @here p s control =>
    have hprintable : ¬ p.toNat < 0x20 := by
      cases body with
      | close => decide
      | piece spelling body =>
        cases spelling with
        | plain printable => omega
        | letter => decide
        | unit => decide
    exact hprintable control
  | later spelling _ ih =>
    cases body with
    | close =>
      cases spelling with
      | plain printable noQuote noEscape => exact noQuote rfl
    | piece spelling' body =>
      rw [← spelling.unique spelling'] at body
      exact ih body

theorem not_quoted_of_rawControl (raw : RawControl s) : ¬ Quoted (.scalar '\x22' :: s) t rest := by
  intro quoted
  cases quoted with
  | mk body => exact not_body_of_rawControl raw body

/-- The reader stops between the zero and the digit. -/
theorem value_padded (negative : Bool) (digit : Fin 10) (rest : Text)
    (inner : Option (Reader Document)) :
    ∃ literal shorter, Json.value false inner (padded negative digit rest) =
      (checkDigits literal).map fun document =>
        ⟨document, .scalar (Nat.digitChar digit) :: rest, shorter⟩ := by
  obtain ⟨digit, hdigit⟩ := digit
  refine ⟨⟨negative, [.scalar '0'], none, none⟩, ?_, ?_⟩
  · cases negative
    · show rest.length + 1 < rest.length + 1 + 1
      omega
    · show rest.length + 1 < rest.length + 1 + 1 + 1
      omega
  · cases negative <;> interval_cases digit <;> rfl

theorem not_scalar_of_brokenScalar (h : BrokenScalar s) (ends : NumberEnds rest) :
    ¬ Scalar Text.digitLimit s document rest := by
  intro scalar
  obtain ⟨shorter, hread⟩ := faithful_scalar.complete scalar ends
  cases h with
  -- the reader refuses a constant, and stops at the digit behind the zero
  | constant which more => cases which <;> cases hread
  | paddedNumber negative digit more =>
    obtain ⟨literal, shorter', hpadded⟩ := value_padded negative digit more none
    obtain ⟨found, -, htaken⟩ := map_eq_ok_iff.mp (hpadded.symm.trans hread)
    obtain ⟨rfl, rfl⟩ := Taken.mk.inj htaken
    have hdigit : isDigit (.scalar (Nat.digitChar digit)) = false := ends.1 _ rfl
    rw [isDigit_digitChar] at hdigit
    cases hdigit
  | string raw =>
    obtain ⟨taken, hstring, -⟩ := map_eq_ok_iff.mp hread
    exact not_quoted_of_rawControl raw (reads_string_iff.mp ⟨taken.shorter, hstring⟩)

/-- A scalar is neither a list nor an object. -/
theorem not_scalar_of_brokenCompound (h : BrokenCompound value broken s) (ends : NumberEnds rest) :
    ¬ Scalar Text.digitLimit s document rest := by
  intro scalar
  obtain ⟨shorter, hread⟩ := faithful_scalar.complete scalar ends
  cases h <;> cases hread

/-! ## Items and members -/

/-- No value in the sense of `value` is broken, and no closing bracket. -/
structure Excludes (value : Text → Document → Text → Prop) (broken : Text → Prop) : Prop where
  not_value : ∀ {s document rest}, broken s → NumberEnds rest → ¬ value s document rest
  solid : ∀ {s}, broken s → skipBlanks s = s
  noBracket : ∀ {s}, broken s → s.head? ≠ some (.scalar ']')

/-- Behind blanks there is one place for what begins with none. -/
theorem Blanks.unique (h : Blanks s rest) (h' : Blanks s after) (solid : skipBlanks rest = rest)
    (solid' : skipBlanks after = after) : rest = after := by
  rw [← solid, ← solid', ← h.skipBlanks_eq, ← h'.skipBlanks_eq]

theorem Quoted.unique {other : Text} (h : Quoted s t rest) (h' : Quoted s other after) :
    t = other ∧ rest = after := by
  cases h with
  | @mk s _ pieces body =>
    exact (reads_string_iff.mpr (.mk body) : Reads (string []) s _ _).unique
      (reads_string_iff.mpr h')

/-- Members begin with a member. -/
theorem Members.exists_member {all : List (Text × Document)} (h : Members value s all rest) :
    ∃ pair after, Member value s pair after ∧ NumberEnds after := by
  cases h with
  | @last _ rest pair itself => exact ⟨pair, _, itself, numberEnds_cons (by decide) rest⟩
  | @more _ next rest pair others itself => exact ⟨pair, _, itself, numberEnds_cons (by decide) next⟩

theorem Quoted.exists_quote (h : Quoted s t rest) : ∃ more, s = .scalar '\x22' :: more := by
  cases h with
  | @mk more => exact ⟨more, rfl⟩

/-- Broken members begin with a quote all the same. -/
theorem BrokenMembers.exists_quote (h : BrokenMembers value broken s) :
    ∃ more, skipBlanks s = .scalar '\x22' :: more := by
  cases h with
  | @key _ start before raw =>
    exact ⟨start, before.skipBlanks_eq.trans (skipBlanks_cons (by decide) start)⟩
  | value before quoted =>
    rw [before.skipBlanks_eq, quoted.begins.skipBlanks_eq]
    exact quoted.exists_quote
  | comma itself close => exact itself.exists_quote
  | later itself others => exact itself.exists_quote

section Faithful

variable (faithful : Faithful item value)

include faithful

/-- Behind a value and a comma, items go on with items. -/
theorem Items.after_comma {all : List Document} (h : Items value s all rest)
    (before : Blanks s start) (itself : value start document after)
    (behind : Blanks after (.scalar ',' :: next)) : ∃ others, Items value next others rest := by
  have ends : NumberEnds after := (numberEnds_cons (by decide) next).of_blanks behind
  have hcomma : skipBlanks after = .scalar ',' :: next :=
    behind.skipBlanks_eq.trans (skipBlanks_cons (by decide) next)
  have solid := (faithful.begins itself).skipBlanks_eq
  cases h with
  | @last _ start' after' rest item before' itself' behind' =>
    obtain rfl := before.unique before' solid (faithful.begins itself').skipBlanks_eq
    have ends' : NumberEnds after' := (numberEnds_cons (by decide) rest).of_blanks behind'
    obtain ⟨-, rfl⟩ := faithful.unique itself ends itself' ends'
    -- a bracket stands where the comma is
    rw [behind'.skipBlanks_eq, skipBlanks_cons (by decide)] at hcomma
    cases hcomma
  | @more _ start' after' next' rest item others before' itself' behind' others' =>
    obtain rfl := before.unique before' solid (faithful.begins itself').skipBlanks_eq
    have ends' : NumberEnds after' := (numberEnds_cons (by decide) next').of_blanks behind'
    obtain ⟨-, rfl⟩ := faithful.unique itself ends itself' ends'
    rw [behind'.skipBlanks_eq, skipBlanks_cons (by decide)] at hcomma
    obtain rfl := (List.cons.inj hcomma).2
    exact ⟨others, others'⟩

/-- No items are broken. The induction is on how far the broken one, or the comma that is left
    over, is from the first. -/
theorem not_items_of_brokenItems (excludes : Excludes value broken)
    (h : BrokenItems value broken s) (all : List Document) : ¬ Items value s all rest := by
  induction h generalizing all with
  | @item s start before itself =>
    intro items
    obtain ⟨document, after, hvalue, ends⟩ := items.exists_value faithful.begins
    rw [before.skipBlanks_eq, excludes.solid itself] at hvalue
    exact excludes.not_value itself ends hvalue
  | comma before itself behind close =>
    intro items
    obtain ⟨others, hothers⟩ := items.after_comma faithful before itself behind
    -- the others would begin with the bracket behind the comma
    have hbegins := hothers.begins faithful.begins
    rw [close.skipBlanks_eq, skipBlanks_cons (by decide), begins_cons_iff] at hbegins
    exact absurd hbegins (by decide)
  | later before itself behind _ ih =>
    intro items
    obtain ⟨others, hothers⟩ := items.after_comma faithful before itself behind
    exact ih others hothers

/-- Behind a member and a comma, members go on with members. -/
theorem Members.after_comma {all : List (Text × Document)} {pair : Text × Document}
    (h : Members value s all rest) (itself : Member value s pair (.scalar ',' :: next)) :
    ∃ others, Members value next others rest := by
  obtain ⟨after, hread, hcomma⟩ :=
    exists_reads_member faithful itself (by decide) (numberEnds_cons (by decide) next)
  cases h with
  | @last _ rest pair' itself' =>
    obtain ⟨after', hread', hclose⟩ :=
      exists_reads_member faithful itself' (by decide) (numberEnds_cons (by decide) rest)
    obtain ⟨-, rfl⟩ := hread.unique hread'
    -- a brace stands where the comma is
    rw [hclose] at hcomma
    cases hcomma
  | @more _ next' rest pair' others itself' others' =>
    obtain ⟨after', hread', hcomma'⟩ :=
      exists_reads_member faithful itself' (by decide) (numberEnds_cons (by decide) next')
    obtain ⟨-, rfl⟩ := hread.unique hread'
    obtain rfl := (List.cons.inj (hcomma'.symm.trans hcomma)).2
    exact ⟨others, others'⟩

theorem not_member_of_broken (excludes : Excludes value broken)
    {afterKey colon valueStart key : Text} {pair : Text × Document} (before : Blanks s start)
    (quoted : Quoted start key afterKey) (behindKey : Blanks afterKey (.scalar ':' :: colon))
    (beforeValue : Blanks colon valueStart) (itself : broken valueStart) (ends : NumberEnds rest) :
    ¬ Member value s pair rest := by
  intro member
  cases member with
  | mk before' quoted' behindKey' beforeValue' itself' behind =>
    obtain rfl := before.unique before' quoted.begins.skipBlanks_eq quoted'.begins.skipBlanks_eq
    obtain ⟨-, rfl⟩ := quoted.unique quoted'
    have hcolon := behindKey.unique behindKey' (skipBlanks_cons (by decide) _)
      (skipBlanks_cons (by decide) _)
    obtain rfl := (List.cons.inj hcolon).2
    obtain rfl := beforeValue.unique beforeValue' (excludes.solid itself)
      (faithful.begins itself').skipBlanks_eq
    exact excludes.not_value itself (ends.of_blanks behind) itself'

/-- No members are broken. -/
theorem not_members_of_brokenMembers (excludes : Excludes value broken)
    (h : BrokenMembers value broken s) (all : List (Text × Document)) :
    ¬ Members value s all rest := by
  induction h generalizing all with
  | @key s start before raw =>
    intro members
    obtain ⟨pair, after, member, -⟩ := members.exists_member
    cases member with
    | mk before' quoted =>
      obtain rfl := before.unique before' (skipBlanks_cons (by decide) start)
        quoted.begins.skipBlanks_eq
      exact not_quoted_of_rawControl raw quoted
  | value before quoted behindKey beforeValue itself =>
    intro members
    obtain ⟨pair, after, member, ends⟩ := members.exists_member
    exact not_member_of_broken faithful excludes before quoted behindKey beforeValue itself ends
      member
  | comma itself close =>
    intro members
    obtain ⟨others, hothers⟩ := members.after_comma faithful itself
    obtain ⟨pair, after, member, -⟩ := hothers.exists_member
    obtain ⟨more, hmore⟩ := member.exists_quote
    rw [close.skipBlanks_eq, skipBlanks_cons (by decide)] at hmore
    cases hmore
  | later itself _ ih =>
    intro members
    obtain ⟨others, hothers⟩ := members.after_comma faithful itself
    exact ih others hothers

/-! ## Lists and objects -/

theorem skipBlanks_ne_of_value (before : Blanks s start) (itself : value start document after) :
    skipBlanks s ≠ .scalar ']' :: rest := by
  intro heq
  have hbegins := faithful.begins itself
  rw [← hbegins.skipBlanks_eq, ← before.skipBlanks_eq, heq, begins_cons_iff] at hbegins
  exact absurd hbegins (by decide)

/-- Before a closing bracket nothing is broken. -/
theorem BrokenItems.skipBlanks_ne (excludes : Excludes value broken)
    (h : BrokenItems value broken s) : skipBlanks s ≠ .scalar ']' :: rest := by
  cases h with
  | item before itself =>
    intro heq
    rw [before.skipBlanks_eq, excludes.solid itself] at heq
    exact excludes.noBracket itself (by rw [heq]; rfl)
  | comma before itself => exact skipBlanks_ne_of_value faithful before itself
  | later before itself => exact skipBlanks_ne_of_value faithful before itself

theorem not_compound_of_brokenCompound (excludes : Excludes value broken)
    (h : BrokenCompound value broken s) : ¬ Compound value s document rest := by
  intro compound
  cases h with
  | @array s items =>
    cases compound with
    | emptyArray blanks =>
      exact items.skipBlanks_ne faithful excludes
        (blanks.skipBlanks_eq.trans (skipBlanks_cons (by decide) rest))
    | array itself => exact not_items_of_brokenItems faithful excludes items _ itself
  | @object s members =>
    cases compound with
    | emptyObject blanks =>
      obtain ⟨more, hmore⟩ := members.exists_quote
      rw [blanks.skipBlanks_eq, skipBlanks_cons (by decide)] at hmore
      cases hmore
    | object itself => exact not_members_of_brokenMembers faithful excludes members _ itself

end Faithful

/-! ## Texts -/

/-- What a broken value begins with: the head of a value, or that of a constant. -/
theorem exists_of_brokenScalar (h : BrokenScalar s) :
    ∃ p ∈ s.head?, p ∈ Text.ofString "NI-0\x22" := by
  cases h with
  | constant which => cases which <;> exact ⟨_, rfl, by decide⟩
  | paddedNumber negative => cases negative <;> exact ⟨_, rfl, by decide⟩
  | string => exact ⟨_, rfl, by decide⟩

theorem exists_of_broken (h : Broken limit depth s) :
    ∃ p ∈ s.head?, p ∈ Text.ofString "NI-0\x22[\x7b" := by
  have hscalar : ∀ s, BrokenScalar s → ∃ p ∈ s.head?, p ∈ Text.ofString "NI-0\x22[\x7b" := by
    intro s scalar
    obtain ⟨p, hp, hmem⟩ := exists_of_brokenScalar scalar
    exact ⟨p, hp, List.mem_append_left (Text.ofString "[\x7b") hmem⟩
  cases depth with
  | zero => exact hscalar s h
  | succ depth =>
    rcases h with scalar | compound
    · exact hscalar s scalar
    · cases compound <;> exact ⟨_, rfl, by decide⟩

theorem not_compound_of_brokenScalar (h : BrokenScalar s) : ¬ Compound value s document rest := by
  intro compound
  obtain ⟨p, hp, hmem⟩ := exists_of_brokenScalar h
  cases compound <;> cases hp <;> exact absurd hmem (by decide)

theorem Broken.skipBlanks_eq (h : Broken limit depth s) : skipBlanks s = s := by
  have hblank : ∀ p ∈ Text.ofString "NI-0\x22[\x7b", isBlank p = false := by decide
  obtain ⟨p, hp, hmem⟩ := exists_of_broken h
  cases s with
  | nil => cases hp
  | cons q s =>
    obtain rfl := Option.some.inj hp
    exact skipBlanks_cons (hblank _ hmem) s

theorem Broken.noBracket (h : Broken limit depth s) : s.head? ≠ some (.scalar ']') := by
  intro heq
  obtain ⟨p, hp, hmem⟩ := exists_of_broken h
  rw [heq] at hp
  cases hp
  exact absurd hmem (by decide)

/-- At each depth, nothing that is broken is a value. The step from one depth to the next is
    that lists and objects with something broken inside are none. -/
theorem excludes_value (depth : Nat) :
    Excludes (Value Text.digitLimit depth) (Broken Text.digitLimit depth) := by
  refine ⟨?_, Broken.skipBlanks_eq, Broken.noBracket⟩
  induction depth with
  | zero => exact not_scalar_of_brokenScalar
  | succ depth ih =>
    have excludes : Excludes (Value Text.digitLimit depth) (Broken Text.digitLimit depth) :=
      ⟨ih, Broken.skipBlanks_eq, Broken.noBracket⟩
    rintro s document rest (broken | broken) ends (scalar | compound)
    · exact not_scalar_of_brokenScalar broken ends scalar
    · exact not_compound_of_brokenScalar broken compound
    · exact not_scalar_of_brokenCompound broken ends scalar
    · exact not_compound_of_brokenCompound (faithful_valueAt depth) excludes broken compound

/-- A text that is broken at any depth denotes nothing. -/
theorem not_denotes_of_broken {nesting : Nat} (before : Blanks t start)
    (h : Broken Text.digitLimit depth start) : ¬ Denotes Text.digitLimit nesting t document := by
  rintro ⟨start', rest, before', itself, behind⟩
  obtain rfl := before.unique before' h.skipBlanks_eq
    ((faithful_valueAt nesting).begins itself).skipBlanks_eq
  have ends : NumberEnds rest := numberEnds_nil.of_blanks behind
  -- the two depths are compared at the deeper one
  have hbroken := h.mono (Nat.le_max_left depth nesting)
  have hvalue := itself.mono (Nat.le_max_right depth nesting)
  exact (excludes_value _).not_value hbroken ends hvalue

end Gleaner.Json
