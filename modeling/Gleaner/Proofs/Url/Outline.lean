import Gleaner.Proofs.Url.Cuts

/-! # The outline of a URL

    A format depends on three parts of a URL: the scheme, the network location and the path.
    `Url.outline` cuts them out of a text, `Outline.format` judges them, and to read a format
    off a URL is to do the one after the other.

    Query and fragment are not in the outline. The question mark or the number sign that
    begins them is no blank, cannot stand in a scheme, and ends the network location and the
    path. So what follows it changes neither the format nor the reason for which there is
    none.
-/

namespace Gleaner

variable {p mark : CodePoint} {text before after rest tail : Text}

/-! ## Cutting at the first of a kind -/

theorem Text.cutAt?_eq_none_iff : Text.cutAt? p text = none ↔ p ∉ text := by
  induction text with
  | nil => simp [Text.cutAt?]
  | cons a rest ih =>
    by_cases h : a = p
    · simp [Text.cutAt?, h]
    · simp [Text.cutAt?, h, ih, Ne.symm h]

theorem Text.cutAt?_eq_some_iff :
    Text.cutAt? p text = some (before, after) ↔ text = before ++ p :: after ∧ p ∉ before := by
  constructor
  · intro h
    refine ⟨Text.eq_of_cutAt? h, ?_⟩
    induction text generalizing before with
    | nil => cases h
    | cons a rest ih =>
      rw [Text.cutAt?] at h
      split at h
      · obtain ⟨rfl, -⟩ := Prod.mk.inj (Option.some.inj h)
        exact List.not_mem_nil
      · next hne =>
        obtain ⟨⟨start, tail⟩, htail, hcons⟩ := Option.map_eq_some_iff.mp h
        obtain ⟨rfl, rfl⟩ := Prod.mk.inj hcons
        simpa [Ne.symm hne] using ih htail
  · rintro ⟨rfl, hnot⟩
    induction before with
    | nil => simp [Text.cutAt?]
    | cons a rest ih =>
      obtain ⟨hne, hrest⟩ := not_or.mp (List.mem_cons.not.mp hnot)
      simp [Text.cutAt?, Ne.symm hne, ih hrest]

/-- A code point that fails a test stops the search for another that does. -/
theorem takeWhile_append_stop (test : CodePoint → Bool) (h : test mark = false)
    (text tail : Text) : (text ++ mark :: tail).takeWhile test = text.takeWhile test := by
  induction text with
  | nil => simp [h]
  | cons a rest ih => cases ha : test a <;> simp [ha, ih]

theorem dropWhile_append_stop (test : CodePoint → Bool) (h : test mark = false)
    (text tail : Text) :
    (text ++ mark :: tail).dropWhile test = text.dropWhile test ++ mark :: tail := by
  induction text with
  | nil => simp [h]
  | cons a rest ih => cases ha : test a <;> simp [ha, ih]

namespace Url

theorem cutAround_of_not_mem (h : p ∉ text) : cutAround p text = (text, []) := by
  rw [cutAround, Text.cutAt?_eq_none_iff.mpr h, Option.getD_none]

theorem cutAround_of_mark (h : p ∉ text) : cutAround p (text ++ p :: rest) = (text, rest) := by
  rw [cutAround, Text.cutAt?_eq_some_iff.mpr ⟨rfl, h⟩, Option.getD_some]

theorem cutAround_append (h : p ∉ text) :
    cutAround p (text ++ rest) = (text ++ (cutAround p rest).1, (cutAround p rest).2) := by
  cases hcut : Text.cutAt? p rest with
  | none =>
    have hrest : p ∉ rest := Text.cutAt?_eq_none_iff.mp hcut
    rw [cutAround_of_not_mem hrest, cutAround_of_not_mem (by simp [h, hrest])]
  | some cut =>
    obtain ⟨start, tail⟩ := cut
    obtain ⟨rfl, hstart⟩ := Text.cutAt?_eq_some_iff.mp hcut
    have hboth : p ∉ text ++ start := by simp [h, hstart]
    rw [cutAround_of_mark hstart, ← List.append_assoc, cutAround_of_mark hboth]

/-! ## Schemes and network locations -/

theorem isSchemePart_of_isScheme (h : isScheme text = true) (hp : p ∈ text) :
    isSchemePart p = true := by
  rw [isScheme, Bool.and_eq_true, List.all_eq_true] at h
  exact h.2 p hp

theorem cutScheme_of_isScheme (h : isScheme before = true) :
    cutScheme (before ++ .scalar ':' :: after) = (before.map CodePoint.asciiLower, after) := by
  have hcolon : .scalar ':' ∉ before := by
    intro hmem
    have hpart := isSchemePart_of_isScheme h hmem
    exact absurd hpart (by decide)
  rw [cutScheme, Text.cutAt?_eq_some_iff.mpr ⟨rfl, hcolon⟩]
  exact if_pos h

theorem cutScheme_of_no_scheme
    (h : ∀ before after, text = before ++ .scalar ':' :: after → isScheme before = false) :
    cutScheme text = ([], text) := by
  unfold cutScheme
  split
  · next before after hcut =>
    rw [h before after (Text.eq_of_cutAt? hcut)]
    rfl
  · rfl

theorem cutNetloc_of_no_slashes (h : ∀ rest, text ≠ .scalar '/' :: .scalar '/' :: rest) :
    cutNetloc text = ([], text) := by
  unfold cutNetloc
  split
  · next rest => exact absurd rfl (h rest)
  · rfl

/-! ## The outline -/

/-- The parts of a URL on which its format depends. -/
structure Outline where
  scheme : Text
  netloc : Text
  path   : Text
  deriving DecidableEq

/-- What stands before the first number sign, and there before the first question mark. -/
def beforeQuery (text : Text) : Text :=
  (cutAround (.scalar '?') (cutAround (.scalar '#') text).1).1

/-- The outline of a text, whether or not its network location passes the checks. -/
def outline (text : Text) : Outline :=
  let (scheme, afterScheme) := cutScheme (cleaned text)
  let (netloc, afterNetloc) := cutNetloc afterScheme
  ⟨scheme, netloc, beforeQuery afterNetloc⟩

/-- The checks of a network location, in their order. -/
def checkNetloc (netloc : Text) : Except Flaw Unit := do
  checkBrackets netloc
  checkDisguises netloc

/-- The format of a URL with this outline. -/
def Outline.format (outline : Outline) : Except Format.UrlError Text :=
  match checkNetloc outline.netloc with
  | .error flaw => .error (.flaw flaw)
  | .ok () =>
    if outline.scheme = [] then .error .missingScheme
    else if outline.scheme ∈ Format.hostSchemes ∧ outline.netloc = [] then .error .missingHost
    else .ok (Format.ofPath outline.path)

theorem ofUrl_eq_format_outline (text : Text) : Format.ofUrl text = (outline text).format := by
  simp only [Format.ofUrl, split, Outline.format, checkNetloc, outline, beforeQuery, bind,
    Except.bind, pure, Except.pure]
  cases checkBrackets (cutNetloc (cutScheme (cleaned text)).2).1 with
  | error flaw => rfl
  | ok _ =>
    cases checkDisguises (cutNetloc (cutScheme (cleaned text)).2).1 <;> rfl

/-! ## What follows a question mark or a number sign -/

/-- A code point that begins a query or a fragment. -/
def BeginsTail (p : CodePoint) : Prop := p = .scalar '?' ∨ p = .scalar '#'

namespace BeginsTail

theorem isSchemePart_eq_false (h : BeginsTail mark) : isSchemePart mark = false := by
  rcases h with rfl | rfl <;> decide

theorem endsNetloc (h : BeginsTail mark) : endsNetloc mark = true := by
  rcases h with rfl | rfl <;> decide

theorem ne_colon (h : BeginsTail mark) : mark ≠ .scalar ':' := by
  rcases h with rfl | rfl <;> decide

theorem ne_slash (h : BeginsTail mark) : mark ≠ .scalar '/' := by
  rcases h with rfl | rfl <;> decide

theorem cleaned_append (h : BeginsTail mark) (text tail : Text) :
    cleaned (text ++ mark :: tail) =
      cleaned text ++ mark :: tail.filter fun p => !isDropped p := by
  have hblank : decide (mark.toNat ≤ 0x20) = false := by rcases h with rfl | rfl <;> decide
  have hkept : (!isDropped mark) = true := by rcases h with rfl | rfl <;> decide
  unfold cleaned
  rw [dropWhile_append_stop _ hblank, List.filter_append, List.filter_cons, if_pos hkept]

/-- No scheme reaches over the mark, and no colon behind it makes one. -/
theorem cutScheme_append (h : BeginsTail mark) (text tail : Text) :
    cutScheme (text ++ mark :: tail) =
      ((cutScheme text).1, (cutScheme text).2 ++ mark :: tail) := by
  by_cases hscheme : ∃ before after, text = before ++ .scalar ':' :: after ∧
      isScheme before = true
  · obtain ⟨before, after, rfl, hbefore⟩ := hscheme
    rw [List.append_assoc, List.cons_append, cutScheme_of_isScheme hbefore,
      cutScheme_of_isScheme hbefore]
  · have hnone : ∀ before after, text = before ++ .scalar ':' :: after →
        isScheme before = false := by
      intro before after heq
      by_contra hbefore
      exact hscheme ⟨before, after, heq, by simpa using hbefore⟩
    have hlonger : ∀ before after, text ++ mark :: tail = before ++ .scalar ':' :: after →
        isScheme before = false := by
      intro before after heq
      -- the colon stands behind the mark, or in the text
      rcases List.append_eq_append_iff.mp heq with ⟨between, hbefore, htail⟩ | ⟨left, hleft, hafter⟩
      · cases between with
        | nil => exact absurd (List.cons.inj htail).1 h.ne_colon
        | cons a between =>
          obtain rfl := (List.cons.inj htail).1
          by_contra hscheme
          have hpart := isSchemePart_of_isScheme (by simpa using hscheme)
            (hbefore ▸ List.mem_append_right _ List.mem_cons_self)
          rw [h.isSchemePart_eq_false] at hpart
          cases hpart
      · cases left with
        | nil => exact absurd (List.cons.inj hafter).1.symm h.ne_colon
        | cons a left =>
          obtain rfl := (List.cons.inj hafter).1
          exact hnone before left hleft
    rw [cutScheme_of_no_scheme hlonger, cutScheme_of_no_scheme hnone]

theorem cutNetloc_append (h : BeginsTail mark) (text tail : Text) :
    cutNetloc (text ++ mark :: tail) =
      ((cutNetloc text).1, (cutNetloc text).2 ++ mark :: tail) := by
  by_cases hslashes : ∃ rest, text = .scalar '/' :: .scalar '/' :: rest
  · obtain ⟨rest, rfl⟩ := hslashes
    have hstop : (!Url.endsNetloc mark) = false := by simp [h.endsNetloc]
    simp only [List.cons_append, cutNetloc]
    rw [takeWhile_append_stop (fun p => !Url.endsNetloc p) hstop,
      dropWhile_append_stop (fun p => !Url.endsNetloc p) hstop]
  · have hnone : ∀ rest, text ≠ .scalar '/' :: .scalar '/' :: rest :=
      fun rest heq => hslashes ⟨rest, heq⟩
    have hlonger : ∀ rest, text ++ mark :: tail ≠ .scalar '/' :: .scalar '/' :: rest := by
      intro rest heq
      -- the mark is no slash, so both slashes stand before it
      match text, hnone with
      | [], _ => exact h.ne_slash (List.cons.inj heq).1
      | [_], _ => exact h.ne_slash (List.cons.inj (List.cons.inj heq).2).1
      | a :: b :: more, hnone =>
        obtain ⟨rfl, hmore⟩ := List.cons.inj heq
        obtain ⟨rfl, -⟩ := List.cons.inj hmore
        exact hnone more rfl
    rw [cutNetloc_of_no_slashes hnone, cutNetloc_of_no_slashes hlonger]

/-- A path without the two marks is all that stands before them. -/
theorem beforeQuery_append (h : BeginsTail mark) (apart : ∀ p ∈ text, ¬ BeginsTail p)
    (tail : Text) : beforeQuery (text ++ mark :: tail) = text := by
  have hquestion : .scalar '?' ∉ text := fun hmem => apart _ hmem (.inl rfl)
  have hnumber : .scalar '#' ∉ text := fun hmem => apart _ hmem (.inr rfl)
  rcases h with rfl | rfl
  · have hsign : cutAround (.scalar '#') (.scalar '?' :: tail) =
        (.scalar '?' :: (cutAround (.scalar '#') tail).1, (cutAround (.scalar '#') tail).2) :=
      @cutAround_append _ [.scalar '?'] tail (by decide)
    rw [beforeQuery, cutAround_append hnumber, hsign, cutAround_of_mark hquestion]
  · rw [beforeQuery, cutAround_of_mark hnumber, cutAround_of_not_mem hquestion]

end BeginsTail

theorem beforeQuery_of_apart (apart : ∀ p ∈ text, ¬ BeginsTail p) : beforeQuery text = text := by
  have hquestion : .scalar '?' ∉ text := fun hmem => apart _ hmem (.inl rfl)
  have hnumber : .scalar '#' ∉ text := fun hmem => apart _ hmem (.inr rfl)
  rw [beforeQuery, cutAround_of_not_mem hnumber, cutAround_of_not_mem hquestion]

/-- Query and fragment are not in the outline. -/
theorem outline_append (h : BeginsTail mark) (apart : ∀ p ∈ text, ¬ BeginsTail p)
    (tail : Text) : outline (text ++ mark :: tail) = outline text := by
  have hleft : ∀ p ∈ (cutNetloc (cutScheme (cleaned text)).2).2, ¬ BeginsTail p :=
    fun p hp => apart p ((afterNetloc_sublist text).subset hp)
  simp only [outline, h.cleaned_append, h.cutScheme_append, h.cutNetloc_append,
    h.beforeQuery_append hleft, beforeQuery_of_apart hleft]

end Url

/-! ## Formats -/

namespace Format

variable {url : Text} {explicit : Document}

/-- A text shows a format, or is refused for the reason for which it shows none. -/
theorem resolve_string (url : Text) (explicit : Document) :
    resolve (.string url) explicit =
      if explicit.isVoid then
        match (Url.outline url).format with
        | .ok format => .ok (.string format)
        | .error error => .error (.refused (refusal (.string url) error))
      else .ok explicit := by
  rw [← Url.ofUrl_eq_format_outline]
  rfl

/-- URLs of one outline show one format, or are refused for one reason. -/
theorem resolve_of_outline_eq (h : Url.outline url = Url.outline text) (explicit : Document) :
    (∃ format, resolve (.string text) explicit = .ok format ∧
        resolve (.string url) explicit = .ok format) ∨
      ∃ error, resolve (.string text) explicit =
          .error (.refused (refusal (.string text) error)) ∧
        resolve (.string url) explicit = .error (.refused (refusal (.string url) error)) := by
  rw [resolve_string, resolve_string, h]
  by_cases hvoid : explicit.isVoid = true
  · cases hformat : (Url.outline text).format with
    | ok format => exact .inl ⟨.string format, by simp [hvoid], by simp [hvoid]⟩
    | error error => exact .inr ⟨error, by simp [hvoid], by simp [hvoid]⟩
  · exact .inl ⟨explicit, by simp [hvoid], by simp [hvoid]⟩

/-- **Query and fragment.** A text without question marks and number signs, and the same
    text with a query, with a fragment or with both, have one outline. They show the same
    format, or are refused for the same reason, each under its own name. -/
theorem resolve_of_query_and_fragment
    (apart : ∀ p ∈ text, p ≠ .scalar '?' ∧ p ≠ .scalar '#') (query fragment : Text)
    (explicit : Document) :
    ∀ url ∈ [text ++ .scalar '?' :: query, text ++ .scalar '#' :: fragment,
        text ++ .scalar '?' :: query ++ .scalar '#' :: fragment],
      Url.outline url = Url.outline text ∧
      ((∃ format, resolve (.string text) explicit = .ok format ∧
          resolve (.string url) explicit = .ok format) ∨
        ∃ error, resolve (.string text) explicit =
            .error (.refused (refusal (.string text) error)) ∧
          resolve (.string url) explicit = .error (.refused (refusal (.string url) error))) := by
  intro url hurl
  have hapart : ∀ p ∈ text, ¬ Url.BeginsTail p := fun p hp =>
    not_or.mpr (apart p hp)
  have houtline : Url.outline url = Url.outline text := by
    simp only [List.mem_cons, List.not_mem_nil, or_false] at hurl
    rcases hurl with rfl | rfl | rfl
    · exact Url.outline_append (.inl rfl) hapart query
    · exact Url.outline_append (.inr rfl) hapart fragment
    · -- the fragment is part of what follows the question mark
      rw [List.append_assoc, List.cons_append]
      exact Url.outline_append (.inl rfl) hapart _
  exact ⟨houtline, resolve_of_outline_eq houtline explicit⟩

/-- The text has blanks at its head and a bracketed address, the query a scheme, an address,
    a path and half a bracket, and the fragment an extension. -/
theorem resolve_of_query_and_fragment_bracketed :
    let text : Text := " \thttps://a.b@[::1]:8080/c.d/e.JSON"
    let url := text ++ .scalar '?' :: "u=ws://x.y:1/\n]" ++ .scalar '#' :: "@z.gz"
    (∀ p ∈ text, p ≠ .scalar '?' ∧ p ≠ .scalar '#') ∧
      Format.ofUrl text = .ok "JSON" ∧
      resolve (.string url) .null = .ok (.string "JSON") := by
  intro text url
  have apart : ∀ p ∈ text, p ≠ .scalar '?' ∧ p ≠ .scalar '#' := by decide
  have hshown : Format.ofUrl text = .ok "JSON" := by decide
  have hresolved : resolve (.string text) .null = .ok (.string "JSON") := by
    simp only [resolve, ofUrlValue, hshown, Document.isVoid, if_true]
  refine ⟨apart, hshown, ?_⟩
  obtain ⟨-, ⟨format, hformat, hurl⟩ | ⟨error, herror, -⟩⟩ :=
    resolve_of_query_and_fragment apart "u=ws://x.y:1/\n]" "@z.gz" .null url (by simp [url])
  · rw [hresolved] at hformat
    rw [hurl, ← hformat]
  · rw [hresolved] at herror
    cases herror

end Format

end Gleaner
