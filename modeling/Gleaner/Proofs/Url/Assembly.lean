import Gleaner.Proofs.Url.Hosts

/-! # URLs that are put together

    A scheme, a network location and a path make a URL, and to split that URL gives the three
    parts back. Points and colons of the scheme and of the network location are not in the way:
    no colon stands in a scheme, so the first one ends it, and a network location without
    slashes ends where the path begins.

    Blanks and control characters in front of the URL change nothing, and neither do tabs and
    line ends anywhere. So the format that such a text shows is the one its path ends in.
-/

namespace Gleaner

variable {p : CodePoint} {text url more other : Text}

namespace Url

/-! ## Texts with tabs and line ends put in -/

/-- The second text is the first one with tabs and line ends put in anywhere. -/
inductive Interspersed : Text → Text → Prop
  | nil : Interspersed [] []
  | keep {p : CodePoint} {text url : Text} : Interspersed text url →
      Interspersed (p :: text) (p :: url)
  | insert {p : CodePoint} {text url : Text} : isDropped p = true → Interspersed text url →
      Interspersed text (p :: url)

theorem interspersed_self (text : Text) : Interspersed text text := by
  induction text with
  | nil => exact .nil
  | cons p text ih => exact .keep ih

theorem Interspersed.append (h : Interspersed text url) (hmore : Interspersed more other) :
    Interspersed (text ++ more) (url ++ other) := by
  induction h with
  | nil => exact hmore
  | keep _ ih => exact .keep ih
  | insert dropped _ ih => exact .insert dropped ih

/-- A tab or a line end is among the code points that are dropped at the head of a text. -/
theorem toNat_le_of_isDropped (h : isDropped p = true) : p.toNat ≤ 0x20 := by
  simp only [isDropped, Bool.or_eq_true, beq_iff_eq] at h
  rcases h with (rfl | rfl) | rfl <;> decide

theorem Interspersed.filter_eq (h : Interspersed text url) :
    (url.filter fun p => !isDropped p) = text.filter fun p => !isDropped p := by
  induction h with
  | nil => rfl
  | keep _ ih => rw [List.filter_cons, List.filter_cons, ih]
  | insert dropped _ ih => rw [List.filter_cons_of_neg (by simp [dropped]), ih]

/-- What is put in goes away again, also where the head of the text is dropped. -/
theorem Interspersed.cleaned_eq (h : Interspersed text url) : cleaned url = cleaned text := by
  unfold cleaned
  induction h with
  | nil => rfl
  | @keep p text url h ih =>
    by_cases hblank : p.toNat ≤ 0x20
    · rw [List.dropWhile_cons_of_pos (by simpa using hblank),
        List.dropWhile_cons_of_pos (by simpa using hblank), ih]
    -- the head ends here in both texts, and the filter does the rest
    · rw [List.dropWhile_cons_of_neg (by simpa using hblank),
        List.dropWhile_cons_of_neg (by simpa using hblank), (Interspersed.keep h).filter_eq]
  | insert dropped _ ih =>
    rw [List.dropWhile_cons_of_pos (by simpa using toNat_le_of_isDropped dropped), ih]

/-! ## The parts -/

/-- A scheme, an address in ASCII and a path, from which a URL can be put together: none of
    them has a delimiter of another one in it. -/
structure Assembly where
  scheme : Text
  netloc : Text
  path   : Text
  fits    : isScheme scheme = true
  /-- It is not empty. -/
  located : netloc ≠ []
  ascii   : ∀ p ∈ netloc, p.toNat < 0x80
  /-- Nothing in it ends it, is a bracket or is dropped. -/
  plain   : ∀ p ∈ netloc, endsNetloc p = false ∧ p ≠ .scalar '[' ∧ p ≠ .scalar ']' ∧
    isDropped p = false
  /-- It is empty or begins with a slash. -/
  rooted  : path = [] ∨ path.head? = some (.scalar '/')
  /-- Neither a query nor a fragment begins in it, and nothing in it is dropped. -/
  uncut   : ∀ p ∈ path, p ≠ .scalar '?' ∧ p ≠ .scalar '#' ∧ isDropped p = false

namespace Assembly

variable (parts : Assembly) {blanks : Text}

/-- The parts put together. -/
def joined : Text :=
  parts.scheme ++ .scalar ':' :: .scalar '/' :: .scalar '/' :: (parts.netloc ++ parts.path)

/-- The parts as they are cut out of a URL. -/
def toUrl : Url := ⟨parts.scheme.map CodePoint.asciiLower, parts.netloc, parts.path, [], []⟩

theorem scheme_ne_nil : parts.scheme ≠ [] := by
  intro hnil
  have hfits := parts.fits
  rw [hnil] at hfits
  cases hfits

theorem isDropped_eq_false (hp : p ∈ parts.joined) : isDropped p = false := by
  simp only [joined, List.mem_append, List.mem_cons] at hp
  rcases hp with hscheme | rfl | rfl | rfl | hnetloc | hpath
  · have hpart := isSchemePart_of_isScheme parts.fits hscheme
    by_contra hdropped
    simp only [isDropped, Bool.not_eq_false, Bool.or_eq_true, beq_iff_eq] at hdropped
    rcases hdropped with (rfl | rfl) | rfl <;> exact absurd hpart (by decide)
  · decide
  · decide
  · decide
  · exact (parts.plain p hnetloc).2.2.2
  · exact (parts.uncut p hpath).2.2

/-- A letter stands at the head, and no letter is a blank. -/
theorem dropWhile_joined : (parts.joined.dropWhile fun p => p.toNat ≤ 0x20) = parts.joined := by
  obtain ⟨a, rest, hscheme⟩ := List.exists_cons_of_ne_nil parts.scheme_ne_nil
  have hfits := parts.fits
  simp only [isScheme, hscheme, List.head?_cons, Option.any_some, Bool.and_eq_true,
    CodePoint.isLetter, Bool.or_eq_true, decide_eq_true_eq] at hfits
  rw [joined, hscheme, List.cons_append]
  refine List.dropWhile_cons_of_neg ?_
  rw [decide_eq_true_eq]
  omega

theorem cleaned_append (blank : ∀ p ∈ blanks, p.toNat ≤ 0x20) :
    cleaned (blanks ++ parts.joined) = parts.joined := by
  unfold cleaned
  rw [List.dropWhile_append_of_pos (by simpa using blank), dropWhile_joined,
    List.filter_eq_self.mpr fun p hp => by simp [parts.isDropped_eq_false hp]]

theorem cutNetloc_eq : cutNetloc (.scalar '/' :: .scalar '/' :: (parts.netloc ++ parts.path)) =
    (parts.netloc, parts.path) := by
  have hinside : ∀ p ∈ parts.netloc, (!endsNetloc p) = true := fun p hp => by
    simp [(parts.plain p hp).1]
  -- the path is empty or begins with a slash, so nothing of it is taken
  have hpath : (parts.path.takeWhile fun p => !endsNetloc p) = [] ∧
      (parts.path.dropWhile fun p => !endsNetloc p) = parts.path := by
    rcases parts.rooted with hnil | hslash
    · rw [hnil]
      exact ⟨rfl, rfl⟩
    · obtain ⟨rest, hrest⟩ := List.head?_eq_some_iff.mp hslash
      rw [hrest]
      exact ⟨rfl, rfl⟩
  rw [cutNetloc, List.takeWhile_append_of_pos hinside, List.dropWhile_append_of_pos hinside,
    hpath.1, hpath.2, List.append_nil]

/-- There are no brackets, and no code point of ASCII is a disguise of another one. -/
theorem checkNetloc_eq : checkNetloc parts.netloc = .ok () := by
  refine checkNetloc_eq_ok_iff.mpr ⟨checkBrackets_eq_ok_iff.mpr (.inl ⟨?_, ?_⟩), ?_⟩
  · exact fun hmem => (parts.plain _ hmem).2.1 rfl
  · exact fun hmem => (parts.plain _ hmem).2.2.1 rfl
  · have hplain : (parts.netloc.any fun p => disguises.contains p.toNat) = false := by
      rw [List.any_eq_false]
      intro p hp hdisguise
      have hlarge : ∀ n ∈ disguises, 0x80 ≤ n := by decide
      have hascii := parts.ascii p hp
      have := hlarge p.toNat (List.contains_iff_mem.mp hdisguise)
      omega
    rw [checkDisguises, hplain]
    rfl

/-- **Splitting undoes joining**, whatever blanks stand in front and wherever tabs and line
    ends are put in. -/
theorem split_eq (blank : ∀ p ∈ blanks, p.toNat ≤ 0x20)
    (spread : Interspersed (blanks ++ parts.joined) url) : split url = .ok parts.toUrl := by
  have hcleaned : cleaned url = parts.joined := by
    rw [spread.cleaned_eq, parts.cleaned_append blank]
  have hsign : cutAround (.scalar '#') parts.path = (parts.path, []) :=
    cutAround_of_not_mem fun hmem => (parts.uncut _ hmem).2.1 rfl
  have hquestion : cutAround (.scalar '?') parts.path = (parts.path, []) :=
    cutAround_of_not_mem fun hmem => (parts.uncut _ hmem).1 rfl
  obtain ⟨hbrackets, hdisguises⟩ := checkNetloc_eq_ok_iff.mp parts.checkNetloc_eq
  simp only [split, hcleaned, joined, cutScheme_of_isScheme parts.fits, cutNetloc_eq, hbrackets,
    hsign, hquestion, hdisguises]
  rfl

end Assembly

end Url

/-! ## Formats -/

namespace Format

variable {path format blanks : Text} {explicit : Document}

/-- The format that a path ends in: what follows its last point, and all of it if it has no
    point. -/
def EndsIn (path format : Text) : Prop :=
  (.scalar '.' ∉ path ∧ format = path) ∨
    ∃ directory, path = directory ++ .scalar '.' :: format ∧ .scalar '.' ∉ format

/-- To read the format off a path is to find the one it ends in. -/
theorem ofPath_eq_iff : ofPath path = format ↔ EndsIn path format := by
  constructor
  · rintro rfl
    by_cases hpoint : .scalar '.' ∈ path
    · -- the last point of the path is the first one from behind
      obtain ⟨after, before, hreverse, hafter⟩ :=
        List.eq_append_cons_of_mem (List.mem_reverse.mpr hpoint)
      have hpath : path = before.reverse ++ .scalar '.' :: after.reverse := by
        simpa using congrArg List.reverse hreverse
      have hnone : .scalar '.' ∉ after.reverse := fun hmem => hafter (List.mem_reverse.mp hmem)
      refine .inr ⟨before.reverse, ?_⟩
      rw [hpath, ofPath, Text.afterLast_append hnone]
      exact ⟨rfl, hnone⟩
    · exact .inl ⟨hpoint, Text.afterLast_of_not_mem hpoint⟩
  · rintro (⟨hnone, rfl⟩ | ⟨directory, rfl, hnone⟩)
    · exact Text.afterLast_of_not_mem hnone
    · exact Text.afterLast_append hnone

/-- **URLs that are put together.** No format is given. A scheme, a plain address in ASCII and
    a path are put together; blanks may stand in front, and tabs and line ends anywhere. The
    parts come out as they went in, the scheme in lower case, and the format is the one that
    the path ends in. -/
theorem resolve_of_assembly (parts : Url.Assembly) (void : explicit.isVoid = true)
    (blank : ∀ p ∈ blanks, p.toNat ≤ 0x20)
    (spread : Url.Interspersed (blanks ++ parts.joined) url) :
    Url.split url = .ok parts.toUrl ∧
      ∃ format, resolve (.string url) explicit = .ok (.string format) ∧
        ∀ ending, EndsIn parts.path ending ↔ ending = format := by
  have hsplit := parts.split_eq blank spread
  have hscheme : parts.toUrl.scheme ≠ [] := fun hnil =>
    parts.scheme_ne_nil (List.map_eq_nil_iff.mp hnil)
  have hnetloc : parts.toUrl.netloc ≠ [] := parts.located
  have hshown : ofUrl url = .ok (ofPath parts.path) := by
    rw [ofUrl, hsplit]
    simp only [hscheme, hnetloc, and_false, if_false]
    rfl
  refine ⟨hsplit, ofPath parts.path, ?_, fun ending => ?_⟩
  · rw [resolve_string, if_pos void, ← Url.ofUrl_eq_format_outline, hshown]
  · rw [← ofPath_eq_iff, eq_comm]

/-- A scheme and an address with points and colons, a path with a point in a directory, and
    a tab and a line end in the middle. -/
theorem resolve_of_assembly_interspersed :
    let parts : Url.Assembly :=
      ⟨"Web+a.b", "u.v:p@e.x:80", "/a.d/ç.JSON", by decide, by decide, by decide, by decide,
        .inr (by decide), by decide⟩
    let blanks : Text := "\x00 "
    let url : Text := "\x00 We\tb+a.b://u.v:p@e.x:80/a.d\r\n/ç.JSON"
    (∀ p ∈ blanks, p.toNat ≤ 0x20) ∧ Url.Interspersed (blanks ++ parts.joined) url ∧
      Url.split url = .ok ⟨"web+a.b", "u.v:p@e.x:80", "/a.d/ç.JSON", [], []⟩ ∧
      resolve (.string url) .null = .ok (.string "JSON") := by
  intro parts blanks url
  have blank : ∀ p ∈ blanks, p.toNat ≤ 0x20 := by decide
  have hlast : Url.Interspersed "/ç.JSON" "/ç.JSON" := Url.interspersed_self _
  have hpath : Url.Interspersed (Text.ofString "b+a.b://u.v:p@e.x:80/a.d" ++ "/ç.JSON")
      (Text.ofString "b+a.b://u.v:p@e.x:80/a.d" ++ "\r\n/ç.JSON") :=
    (Url.interspersed_self _).append (.insert rfl (.insert rfl hlast))
  have spread : Url.Interspersed (blanks ++ parts.joined) url :=
    (Url.interspersed_self "\x00 We").append (.insert rfl hpath)
  have ends : EndsIn parts.path "JSON" := .inr ⟨"/a.d/ç", by decide, by decide⟩
  obtain ⟨hsplit, format, hresolved, hformat⟩ :=
    @resolve_of_assembly url blanks .null parts rfl blank spread
  obtain rfl := (hformat "JSON").mp ends
  exact ⟨blank, spread, hsplit, hresolved⟩

end Format

end Gleaner
