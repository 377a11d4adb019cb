import Mathlib.Data.List.TakeWhile
import Mathlib.Tactic.MkIffOfInductiveProp
import Gleaner.Path.Parser

/-! # Paths written as segments

    The plainest paths are a dollar sign and then segments: a point and a name, or a star in
    brackets. A name is made of letters, digits and underscores and does not begin with a
    digit.

    Such a text is read as it looks. It is cut into the marks and the names that were
    written, since a name ends where the next segment begins, and the marks are read from the
    left, each segment from what the ones before it find.
-/

namespace Gleaner.Path

/-! ## Segments -/

/-- A step of a plain path. -/
inductive Segment
  | member (name : Text)
  | items
  deriving DecidableEq

namespace Segment

/-- A name that can be written without quotes. The two words that join paths are none. -/
@[mk_iff]
structure IsName (name : Text) : Prop where
  begins   : name.head?.any isNameStart = true
  parts    : ∀ p ∈ name, isNameStart p = true ∨ p.digit?.isSome = true
  notJoint : name ≠ "where" ∧ name ≠ "wherenot"

instance (name : Text) : Decidable (IsName name) := decidable_of_iff' _ (isName_iff name)

/-- A segment whose name, if it has one, can be written without quotes. -/
def Plain : Segment → Prop
  | member name => IsName name
  | items => True

instance : (segment : Segment) → Decidable segment.Plain
  | member name => inferInstanceAs (Decidable (IsName name))
  | items => inferInstanceAs (Decidable True)

/-- A segment as it is written. -/
def written : Segment → Text
  | member name => .scalar '.' :: name
  | items => "[*]"

/-- The tokens of a segment. -/
def tokens : Segment → List Token
  | member name => [.mark '.', wordToken name]
  | items => [.mark '[', .mark '*', .mark ']']

/-- What a segment finds at a place. -/
def path : Segment → Path
  | member name => .members [name]
  | items => .children

end Segment

/-- A plain path as it is written. -/
def written (segments : List Segment) : Text :=
  .scalar '$' :: segments.flatMap Segment.written

/-- The path from the document along segments. -/
def along (path : Path) (segments : List Segment) : Path :=
  segments.foldl (fun path segment => .child path segment.path) path

variable {p : CodePoint} {name tail : Text} {segments : List Segment} {level : Nat}

/-! ## Code points of names -/

theorem toNat_of_isNameStart (h : isNameStart p = true) :
    (65 ≤ p.toNat ∧ p.toNat ≤ 90) ∨ (97 ≤ p.toNat ∧ p.toNat ≤ 122) ∨ p.toNat = 95 := by
  simp only [isNameStart, CodePoint.isLetter, Bool.or_eq_true, Bool.and_eq_true,
    decide_eq_true_eq, beq_iff_eq] at h
  rcases h with (hcapital | hsmall) | rfl
  · exact .inl hcapital
  · exact .inr (.inl hsmall)
  · exact .inr (.inr rfl)

theorem isBlank_of_isNameStart (h : isNameStart p = true) : p.isBlank = false := by
  have hrange := toNat_of_isNameStart h
  have hfar : ∀ row ∈ CodePoint.blankRanges, row.2 < 65 ∨ 122 < row.1 := by decide
  rw [CodePoint.isBlank, List.any_eq_false]
  intro row hrow
  have hrow := hfar row hrow
  simp only [Bool.and_eq_true, decide_eq_true_eq]
  omega

theorem ne_of_isNameStart (h : isNameStart p = true) {c : Char}
    (hc : isNameStart (.scalar c) = false) : p ≠ .scalar c := by
  rintro rfl
  rw [hc] at h
  cases h

/-! ## Tokens -/

/-- A blank, a comma, a slash or a backslash begins every sort mark. -/
theorem takeSortMark_of_isNameStart (h : isNameStart p = true) :
    takeSortMark (p :: tail) = none := by
  have hcomma : dropComma (p :: tail) = p :: tail := by
    unfold dropComma
    split
    · next heq => exact absurd (List.cons.inj heq).1 (ne_of_isNameStart h (by decide))
    · rfl
  have hdrop : (dropComma (p :: tail)).dropWhile CodePoint.isBlank = p :: tail := by
    rw [hcomma, List.dropWhile_cons, isBlank_of_isNameStart h]
    rfl
  unfold takeSortMark
  split
  · next heq =>
    rw [hdrop] at heq
    exact absurd (List.cons.inj heq).1 (ne_of_isNameStart h (by decide))
  · next heq =>
    rw [hdrop] at heq
    exact absurd (List.cons.inj heq).1 (ne_of_isNameStart h (by decide))
  · rfl

theorem isSkipped_of_isNameStart (h : isNameStart p = true) : isSkipped p = false := by
  have hspace : p ≠ .scalar ' ' := ne_of_isNameStart h (by decide)
  have htab : p ≠ .scalar '\t' := ne_of_isNameStart h (by decide)
  have hfeed : p ≠ .scalar '\n' := ne_of_isNameStart h (by decide)
  simp [isSkipped, hspace, htab, hfeed]

theorem takeToken_name (h : isNameStart p = true) :
    ∃ shorter, takeToken (p :: tail) =
      some ⟨wordToken (p :: tail.takeWhile isNamePart), tail.dropWhile isNamePart, shorter⟩ := by
  refine ⟨length_dropWhile_lt_cons _ _ _, ?_⟩
  rw [takeToken, takeSortMark_of_isNameStart h, takeName, if_pos h]
  rfl

theorem takeMark_of_dropStart?_eq_none {s : Text} {mark : String} {token : Token}
    {more : List (String × Token)} (h : Text.dropStart? mark s = none) :
    takeMark s ((mark, token) :: more) = takeMark s more := by
  rw [takeMark]
  split
  · next rest hrest =>
    rw [h] at hrest
    cases hrest
  · rfl

/-- A point in front of a name is no walk. -/
theorem takeToken_point (h : isNameStart p = true) :
    takeToken (.scalar '.' :: p :: tail) = some (.head (.mark '.') (p :: tail)) := by
  have hpoint : CodePoint.scalar '.' ≠ p := Ne.symm (ne_of_isNameStart h (by decide))
  have hdots : Text.dropStart? ".." (.scalar '.' :: p :: tail) = none := by
    show (if CodePoint.scalar '.' = p then some tail else none) = none
    exact if_neg hpoint
  have hmarks : takeMark (.scalar '.' :: p :: tail) marks = none := by
    show takeMark (.scalar '.' :: p :: tail)
      [("..", .dots), ("||", .bars), ("&&", .ampersands)] = none
    rw [takeMark_of_dropStart?_eq_none hdots]
    rfl
  show (takeMark (.scalar '.' :: p :: tail) marks <|> takeSingleMark (.scalar '.' :: p :: tail)) = _
  rw [hmarks]
  rfl

theorem tokens?_of_takeToken {token : Token} {rest : Text} (kept : isSkipped p = false)
    (h : ∃ shorter, takeToken (p :: tail) = some ⟨token, rest, shorter⟩) :
    tokens? (p :: tail) = (tokens? rest).map (token :: ·) := by
  obtain ⟨shorter, htaken⟩ := h
  rw [tokens?, kept, htaken]
  rfl

/-- The marks that begin no longer token, whatever comes after them. -/
theorem tokens?_mark {c : Char} (h : c ∈ ['$', '[', '*', ']']) :
    tokens? (.scalar c :: tail) = (tokens? tail).map (.mark c :: ·) := by
  have hmark : isSkipped (.scalar c) = false ∧
      takeToken (.scalar c :: tail) = some (.head (.mark c) tail) := by
    simp only [List.mem_cons, List.not_mem_nil, or_false] at h
    rcases h with rfl | rfl | rfl | rfl
    all_goals exact ⟨by decide, rfl⟩
  exact tokens?_of_takeToken hmark.1 ⟨_, hmark.2⟩

/-! ## The tokens of a path -/

/-- A name ends where the next segment begins. -/
theorem takeWhile_flatMap_written :
    (segments.flatMap Segment.written).takeWhile isNamePart = [] := by
  rcases segments with _ | ⟨_ | _, _⟩
  · rfl
  · rfl
  · rfl

theorem Segment.IsName.exists_cons (h : IsName name) :
    ∃ p more, name = p :: more ∧ isNameStart p = true ∧ ∀ q ∈ more, isNamePart q = true := by
  obtain ⟨hbegins, hparts, -⟩ := h
  rcases name with _ | ⟨p, more⟩
  · cases hbegins
  · refine ⟨p, more, rfl, hbegins, ?_⟩
    intro q hq
    have hpart := hparts q (List.mem_cons_of_mem p hq)
    simp only [isNamePart, Bool.or_eq_true]
    exact .inl (.inl hpart)

theorem tokens?_member (hname : Segment.IsName name)
    (hends : tail.takeWhile isNamePart = []) :
    tokens? (.scalar '.' :: (name ++ tail)) =
      (tokens? tail).map ([.mark '.', wordToken name] ++ ·) := by
  obtain ⟨p, more, rfl, hp, hmore⟩ := hname.exists_cons
  have hleft : tail.dropWhile isNamePart = tail := by
    have hparts := @List.takeWhile_append_dropWhile _ isNamePart tail
    rwa [hends] at hparts
  have htaken := @takeToken_name p (more ++ tail) hp
  rw [List.takeWhile_append_of_pos hmore, List.dropWhile_append_of_pos hmore, hends, hleft,
    List.append_nil] at htaken
  rw [List.cons_append, tokens?_of_takeToken (by decide) ⟨_, takeToken_point hp⟩,
    tokens?_of_takeToken (isSkipped_of_isNameStart hp) htaken, Option.map_map]
  rfl

/-- The tokens of segments are those of each, one after the other. -/
theorem tokens?_flatMap_written (h : ∀ s ∈ segments, s.Plain) :
    tokens? (segments.flatMap Segment.written) = some (segments.flatMap Segment.tokens) := by
  induction segments with
  | nil =>
    show tokens? [] = some []
    rw [tokens?]
  | cons segment segments ih =>
    have hrest := ih fun s hs => h s (List.mem_cons_of_mem segment hs)
    have hplain := h segment List.mem_cons_self
    rw [List.flatMap_cons, List.flatMap_cons]
    rcases segment with name | _
    · show tokens? (.scalar '.' :: (name ++ segments.flatMap Segment.written)) = _
      rw [tokens?_member hplain takeWhile_flatMap_written, hrest]
      rfl
    · show tokens? (.scalar '[' :: .scalar '*' :: .scalar ']' ::
        segments.flatMap Segment.written) = _
      rw [tokens?_mark (by decide), tokens?_mark (by decide), tokens?_mark (by decide), hrest]
      rfl

/-! ## Reading the tokens -/

theorem Segment.IsName.nameOf?_wordToken (h : IsName name) :
    Parser.nameOf? (wordToken name) = some name := by
  obtain ⟨-, -, hwhere, hnot⟩ := h
  unfold wordToken
  split_ifs with htrue hfalse hnull
  · rw [htrue]
    rfl
  · rw [hfalse]
    rfl
  · rw [hnull]
    rfl
  · rfl

namespace Parser

variable {token : Token}

/-- What the tokens of segments begin with binds no tighter than a member, and is no comma. -/
theorem extension_two_flatMap_tokens (path : Path) :
    extension 2 path (segments.flatMap Segment.tokens) =
      some (.stop path (segments.flatMap Segment.tokens)) := by
  rcases segments with _ | ⟨_ | _, segments⟩
  · rw [List.flatMap_nil, extension]
  · rw [List.flatMap_cons, extension.eq_def]
    rfl
  · rw [List.flatMap_cons, extension.eq_def]
    rfl

theorem moreNames_flatMap_tokens :
    moreNames (segments.flatMap Segment.tokens) =
      some (.stop [] (segments.flatMap Segment.tokens)) := by
  rcases segments with _ | ⟨_ | _, segments⟩
  · rw [List.flatMap_nil, moreNames.eq_def]
  · rw [List.flatMap_cons, moreNames.eq_def]
    rfl
  · rw [List.flatMap_cons, moreNames.eq_def]
    rfl

theorem names_of_nameOf? (h : nameOf? token = some name) :
    names (token :: segments.flatMap Segment.tokens) =
      some (Taken.head [name] (segments.flatMap Segment.tokens)) := by
  rw [names, h]
  simp only [moreNames_flatMap_tokens]
  rfl

/-- After a point, a name is a member, and the next segment is left for later. -/
theorem expression_of_nameOf? (h : nameOf? token = some name) :
    expression 2 (token :: segments.flatMap Segment.tokens) =
      some (.head (.members [name]) (segments.flatMap Segment.tokens)) := by
  have hnames := @names_of_nameOf? _ segments _ h
  have hform : (∃ text, token = .name text) ∨ token = .null ∨ ∃ b, token = .bool b := by
    unfold nameOf? at h
    split at h
    · exact .inl ⟨_, rfl⟩
    · exact .inr (.inl rfl)
    · exact .inr (.inr ⟨_, rfl⟩)
    · cases h
  rcases hform with ⟨text, rfl⟩ | rfl | ⟨b, rfl⟩
  all_goals
    rw [expression.eq_def]
    simp only [hnames, Taken.head, extension_two_flatMap_tokens]
    rfl

theorem extension_point {rest : List Token} {taken : Taken Path rest} (path : Path)
    (h : expression 2 rest = some taken) :
    extension loosest path (.mark '.' :: rest) =
      (extension loosest (.child path taken.value) taken.rest).map
        fun more => (taken.andOn more).push.weaken := by
  have htighter : ¬ 2 ≤ loosest := by decide
  rw [extension.eq_def]
  show (if 2 ≤ loosest then _ else _) = _
  rw [if_neg htighter, h]

theorem extension_star (path : Path) (rest : List Token) :
    extension loosest path (.mark '[' :: .mark '*' :: .mark ']' :: rest) =
      (extension loosest (.child path .children) rest).map
        fun more => (Continued.taken more).push.push.weaken := by
  rw [extension.eq_def]
  rfl

/-- Segments are read from the left, each from the path of those before it. -/
theorem extension_flatMap_tokens (h : ∀ s ∈ segments, s.Plain) (path : Path) :
    ∃ notLonger, extension loosest path (segments.flatMap Segment.tokens) =
      some ⟨along path segments, [], notLonger⟩ := by
  induction segments generalizing path with
  | nil =>
    refine ⟨Nat.le_refl _, ?_⟩
    show extension loosest path [] = _
    rw [extension]
    rfl
  | cons segment segments ih =>
    have hsegments : ∀ s ∈ segments, s.Plain := fun s hs => h s (List.mem_cons_of_mem _ hs)
    obtain ⟨notLonger, hrest⟩ := ih hsegments (.child path segment.path)
    refine ⟨Nat.zero_le _, ?_⟩
    rcases segment with name | _
    · have hname : Segment.IsName name := h (.member name) List.mem_cons_self
      have hstep := @extension_point _ _ path
        (@expression_of_nameOf? _ segments _ hname.nameOf?_wordToken)
      exact hstep.trans (congrArg (Option.map _) hrest)
    · have hstep := extension_star path (segments.flatMap Segment.tokens)
      exact hstep.trans (congrArg (Option.map _) hrest)

end Parser

/-- A plain path is read as the path along its segments. -/
theorem ofText?_written (h : ∀ s ∈ segments, s.Plain) :
    ofText? (written segments) = some (along .root segments) := by
  have htokens : tokens? (written segments) =
      some (.mark '$' :: segments.flatMap Segment.tokens) := by
    rw [written, tokens?_mark (by decide), tokens?_flatMap_written h]
    rfl
  obtain ⟨notLonger, hrest⟩ := Parser.extension_flatMap_tokens h .root
  rw [ofText?, htokens]
  simp only
  rw [Parser.expression, hrest]
  rfl

end Gleaner.Path
