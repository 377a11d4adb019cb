import Gleaner.Proofs.Url.Outline

/-! # Schemes that need a host

    A URL of one of the host schemes is refused if nothing stands between the two slashes and
    the path. What stands there is the network location, and it may hold user information
    and a service number besides the host. So the question is which network locations name no
    host though they are not empty.

    An empty address in brackets is no address, and single brackets are refused. What is left
    are the anonymous ones: user information, a service number or both, and no brackets.
    They are accepted, although they name no host. For all other URLs of a host scheme, to be
    accepted is to have a host.
-/

namespace Gleaner

variable {p : CodePoint} {text written rest netloc : Text}

namespace Url

/-! ## Schemes of either case -/

theorem isLetter_or_asciiLower_eq (p : CodePoint) :
    p.isLetter = true ∨ CodePoint.asciiLower p = p := by
  by_cases h : 65 ≤ p.toNat ∧ p.toNat ≤ 90
  · exact .inl (by simp [CodePoint.isLetter, h])
  · exact .inr (if_neg h)

/-- What is a scheme in lower case is a scheme. -/
theorem isScheme_of_lower (h : isScheme (written.map CodePoint.asciiLower) = true) :
    isScheme written = true := by
  rw [isScheme, Bool.and_eq_true, List.all_eq_true] at h ⊢
  obtain ⟨hhead, hall⟩ := h
  constructor
  · cases written with
    | nil => cases hhead
    | cons a rest =>
      rcases isLetter_or_asciiLower_eq a with hletter | hsame
      · exact hletter
      · simpa [hsame] using hhead
  · intro a ha
    rcases isLetter_or_asciiLower_eq a with hletter | hsame
    · simp [isSchemePart, hletter]
    · rw [← hsame]
      exact hall _ (List.mem_map_of_mem ha)

theorem isScheme_of_hostScheme (h : text ∈ Format.hostSchemes) : isScheme text = true := by
  revert text
  decide

/-! ## Hosts -/

/-- A network location with user information or a service number, without a host and without
    brackets. -/
structure Anonymous (netloc : Text) : Prop where
  notEmpty   : netloc ≠ []
  noBrackets : .scalar '[' ∉ netloc ∧ .scalar ']' ∉ netloc
  /-- After the user information there is nothing, or a service number. -/
  noHost     : Text.afterLast (.scalar '@') netloc = [] ∨
    (Text.afterLast (.scalar '@') netloc).head? = some (.scalar ':')

theorem cutAround_fst_eq_nil_iff :
    (cutAround p text).1 = [] ↔ text = [] ∨ text.head? = some p := by
  cases text with
  | nil => simp [cutAround, Text.cutAt?]
  | cons a rest =>
    by_cases h : a = p
    · simp [cutAround, Text.cutAt?, h]
    · cases hrest : Text.cutAt? p rest <;> simp [cutAround, Text.cutAt?, h, hrest]

/-- Without brackets, the host stands before the colon. -/
theorem hostOf_of_no_bracket (h : .scalar '[' ∉ netloc) :
    hostOf netloc = (cutAround (.scalar ':') (Text.afterLast (.scalar '@') netloc)).1 := by
  have hlocation : .scalar '[' ∉ Text.afterLast (.scalar '@') netloc :=
    fun hmem => h ((Text.afterLast_sublist _ _).subset hmem)
  rw [hostOf, Text.cutAt?_eq_none_iff.mpr hlocation]

theorem checkBracketed_nil : checkBracketed [] = .error (.notAddress []) := by
  decide

/-- Brackets are balanced and their host is an address, or there are none. -/
theorem checkBrackets_eq_ok_iff : checkBrackets netloc = .ok () ↔
    (.scalar '[' ∉ netloc ∧ .scalar ']' ∉ netloc) ∨
      (.scalar '[' ∈ netloc ∧ .scalar ']' ∈ netloc ∧ bracketsStandAlone netloc = true ∧
        checkBracketed (hostOf netloc) = .ok ()) := by
  unfold checkBrackets
  by_cases hopen : .scalar '[' ∈ netloc <;> by_cases hclose : .scalar ']' ∈ netloc <;>
    by_cases halone : bracketsStandAlone netloc = true <;> simp [hopen, hclose, halone]

theorem checkNetloc_eq_ok_iff : checkNetloc netloc = .ok () ↔
    checkBrackets netloc = .ok () ∧ checkDisguises netloc = .ok () := by
  simp only [checkNetloc, bind, Except.bind]
  cases checkBrackets netloc <;> simp

/-- A network location without a host passes its checks only without brackets. -/
theorem noBrackets_of_hostOf_eq_nil (checked : checkBrackets netloc = .ok ())
    (h : hostOf netloc = []) : .scalar '[' ∉ netloc ∧ .scalar ']' ∉ netloc := by
  rcases checkBrackets_eq_ok_iff.mp checked with hnone | ⟨-, -, -, haddress⟩
  · exact hnone
  · rw [h, checkBracketed_nil] at haddress
    cases haddress

theorem Anonymous.hostOf_eq_nil (h : Anonymous netloc) : hostOf netloc = [] := by
  rw [hostOf_of_no_bracket h.noBrackets.1]
  exact cutAround_fst_eq_nil_iff.mpr h.noHost

theorem Anonymous.checkBrackets (h : Anonymous netloc) : checkBrackets netloc = .ok () :=
  checkBrackets_eq_ok_iff.mpr (.inl h.noBrackets)

/-- Of the network locations that pass their checks, only the empty one and the anonymous ones
    name no host. -/
theorem anonymous_of_hostOf_eq_nil (checked : checkBrackets netloc = .ok ())
    (notEmpty : netloc ≠ []) (h : hostOf netloc = []) : Anonymous netloc := by
  have hbrackets := noBrackets_of_hostOf_eq_nil checked h
  rw [hostOf_of_no_bracket hbrackets.1] at h
  exact ⟨notEmpty, hbrackets, cutAround_fst_eq_nil_iff.mp h⟩

end Url

/-! ## URLs of a host scheme -/

namespace Format

variable {url : Text} {explicit : Document}

/-- The outline of a URL whose scheme is a host scheme in any letter case. -/
theorem outline_of_hostScheme (shape : Url.cleaned url = written ++ .scalar ':' :: rest)
    (hosted : written.map CodePoint.asciiLower ∈ hostSchemes) :
    (Url.outline url).scheme = written.map CodePoint.asciiLower ∧
      (Url.outline url).netloc = (Url.cutNetloc rest).1 := by
  have hscheme := Url.isScheme_of_lower (Url.isScheme_of_hostScheme hosted)
  have hcut := @Url.cutScheme_of_isScheme written rest hscheme
  simp only [Url.outline, shape, hcut, and_self]

/-- All that can become of such a URL: its network location fails a check, is empty, or lets
    the path show the format. -/
theorem resolve_cases_of_hostScheme (void : explicit.isVoid = true)
    (shape : Url.cleaned url = written ++ .scalar ':' :: rest)
    (hosted : written.map CodePoint.asciiLower ∈ hostSchemes) :
    (∃ flaw, Url.checkNetloc (Url.cutNetloc rest).1 = .error flaw ∧
        resolve (.string url) explicit = .error (.refused (refusal (.string url) (.flaw flaw)))) ∨
      ((Url.cutNetloc rest).1 = [] ∧
        resolve (.string url) explicit = .error (.refused (refusal (.string url) .missingHost))) ∨
      (Url.checkNetloc (Url.cutNetloc rest).1 = .ok () ∧ (Url.cutNetloc rest).1 ≠ [] ∧
        resolve (.string url) explicit = .ok (.string (ofPath (Url.outline url).path))) := by
  obtain ⟨hscheme, hnetloc⟩ := outline_of_hostScheme shape hosted
  have hne : written.map CodePoint.asciiLower ≠ [] := by
    intro hnil
    rw [hnil] at hosted
    exact absurd hosted (by decide)
  rw [resolve_string, if_pos void, Url.Outline.format, hscheme, hnetloc]
  cases hchecked : Url.checkNetloc (Url.cutNetloc rest).1 with
  | error flaw => exact .inl ⟨flaw, rfl, rfl⟩
  | ok _ =>
    by_cases hempty : (Url.cutNetloc rest).1 = []
    · exact .inr (.inl ⟨hempty, by simp [hne, hosted, hempty]⟩)
    · exact .inr (.inr ⟨rfl, hempty, by simp [hne, hempty]⟩)

/-- **Host schemes.** No format is given, and the scheme of the URL is a host scheme in any
    letter case. Unless the network location is anonymous, a URL that shows a format has a
    host, and one without a host is refused; without a network location, for want of a host.
    An anonymous network location names no host, and only a disguised delimiter in it keeps
    the URL from showing its format. -/
theorem resolve_of_hostScheme (void : explicit.isVoid = true)
    (shape : Url.cleaned url = written ++ .scalar ':' :: rest)
    (hosted : written.map CodePoint.asciiLower ∈ hostSchemes) :
    let netloc := (Url.cutNetloc rest).1
    let resolved := resolve (.string url) explicit
    (¬ Url.Anonymous netloc →
      (∀ format, resolved = .ok format → Url.hostOf netloc ≠ []) ∧
        (Url.hostOf netloc = [] →
          ∃ refused, resolved = .error (.refused refused) ∧ refused.code = .invalidUrl)) ∧
    (netloc = [] → resolved = .error (.refused (refusal (.string url) .missingHost))) ∧
    (Url.Anonymous netloc →
      Url.hostOf netloc = [] ∧
        ((∃ format, resolved = .ok format) ↔ Url.checkDisguises netloc = .ok ())) := by
  intro netloc resolved
  have hcases : (∃ flaw, Url.checkNetloc netloc = .error flaw ∧
        resolved = .error (.refused (refusal (.string url) (.flaw flaw)))) ∨
      (netloc = [] ∧ resolved = .error (.refused (refusal (.string url) .missingHost))) ∨
      (Url.checkNetloc netloc = .ok () ∧ netloc ≠ [] ∧
        resolved = .ok (.string (ofPath (Url.outline url).path))) :=
    resolve_cases_of_hostScheme void shape hosted
  clear_value netloc resolved
  rcases hcases with
    ⟨flaw, hflaw, hresolved⟩ | ⟨hempty, hresolved⟩ | ⟨hchecked, hlocated, hresolved⟩
  · -- a check fails, and for an anonymous network location that is the last one
    refine ⟨fun _ => ⟨fun format hformat => ?_, fun _ => ⟨_, hresolved, rfl⟩⟩, ?_, ?_⟩
    · rw [hresolved] at hformat
      cases hformat
    · intro hempty
      rw [hempty] at hflaw
      exact absurd hflaw (by simp [show Url.checkNetloc [] = .ok () from rfl])
    · intro hanonymous
      refine ⟨hanonymous.hostOf_eq_nil, ?_, ?_⟩
      · rintro ⟨format, hformat⟩
        rw [hresolved] at hformat
        cases hformat
      · intro hdisguises
        rw [Url.checkNetloc_eq_ok_iff.mpr ⟨hanonymous.checkBrackets, hdisguises⟩] at hflaw
        cases hflaw
  · -- there is no network location
    refine ⟨fun _ => ⟨fun format hformat => ?_, fun _ => ⟨_, hresolved, rfl⟩⟩,
      fun _ => hresolved, fun hanonymous => absurd hempty hanonymous.notEmpty⟩
    rw [hresolved] at hformat
    cases hformat
  · -- the URL shows a format
    obtain ⟨hbrackets, hdisguises⟩ := Url.checkNetloc_eq_ok_iff.mp hchecked
    refine ⟨fun hnamed => ?_, fun hempty => absurd hempty hlocated, fun hanonymous =>
      ⟨hanonymous.hostOf_eq_nil, fun _ => hdisguises, fun _ => ⟨_, hresolved⟩⟩⟩
    have hhost : Url.hostOf netloc ≠ [] := fun hnil =>
      hnamed (Url.anonymous_of_hostOf_eq_nil hbrackets hlocated hnil)
    exact ⟨fun _ _ => hhost, fun hnil => absurd hnil hhost⟩

/-- An address in brackets after user information, in front of a service number. -/
theorem resolve_of_hostScheme_bracketed :
    let url : Text := "\x01 HtTpS:\t//a@b:c@[::1]:80/x.json"
    Url.cleaned url = Text.ofString "HtTpS" ++ .scalar ':' :: "//a@b:c@[::1]:80/x.json" ∧
      (Text.ofString "HtTpS").map CodePoint.asciiLower ∈ hostSchemes ∧
      resolve (.string url) .null = .ok (.string "json") ∧
      Url.hostOf "a@b:c@[::1]:80" ≠ [] := by
  intro url
  have shape : Url.cleaned url =
      Text.ofString "HtTpS" ++ .scalar ':' :: "//a@b:c@[::1]:80/x.json" := by decide +kernel
  have hosted : (Text.ofString "HtTpS").map CodePoint.asciiLower ∈ hostSchemes := by decide
  have hshown : ofUrl url = .ok "json" := by decide +kernel
  have hresolved : resolve (.string url) .null = .ok (.string "json") := by
    simp only [resolve, ofUrlValue, hshown, Document.isVoid, if_true]
  have hnamed : ¬ Url.Anonymous "a@b:c@[::1]:80" :=
    fun h => absurd h.noBrackets.1 (by decide)
  obtain ⟨hhost, -⟩ := @resolve_of_hostScheme "HtTpS" "//a@b:c@[::1]:80/x.json" url .null rfl
    shape hosted
  exact ⟨shape, hosted, hresolved, (hhost hnamed).1 _ hresolved⟩

/-- User information alone, or a service number alone, stands for a host. -/
theorem exists_format_without_host :
    let user : Text := "https://user@/doc.json"
    let service : Text := "ws://:80/doc.json"
    (Url.split user = .ok ⟨"https", "user@", "/doc.json", [], []⟩ ∧ Url.hostOf "user@" = [] ∧
      resolve (.string user) .null = .ok (.string "json")) ∧
    (Url.split service = .ok ⟨"ws", ":80", "/doc.json", [], []⟩ ∧ Url.hostOf ":80" = [] ∧
      resolve (.string service) .null = .ok (.string "json")) := by
  intro user service
  have huser : ofUrl user = .ok "json" := by decide
  have hservice : ofUrl service = .ok "json" := by decide
  refine ⟨⟨by decide, by decide, ?_⟩, by decide, by decide, ?_⟩
  · simp only [resolve, ofUrlValue, huser, Document.isVoid, if_true]
  · simp only [resolve, ofUrlValue, hservice, Document.isVoid, if_true]

end Format

end Gleaner
