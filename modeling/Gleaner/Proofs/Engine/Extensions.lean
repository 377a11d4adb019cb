import Gleaner.Proofs.Engine.Precedence
import Gleaner.Proofs.Url.Cuts

/-! # URLs without an extension

    The format that a URL shows is what follows the last point of its path. Without a point
    it is the whole path, which should never be a format with a parser.

    After a host this is so: the path is empty or begins with a slash, and no format that is
    built in does. It is also so for every other URL whose path begins with a slash. But the
    path of a URL without a host may begin with anything, and `x:json` has the path `json`.
-/

namespace Gleaner

variable {text path : Text} {p a : CodePoint}

/-! ## Paths -/

namespace Url

/-- A text that is cut begins as it did, unless it is cut at its head. -/
theorem head?_cutAround (h : (cutAround p text).1.head? = some a) :
    text.head? = some a ∧ a ≠ p := by
  cases text with
  | nil => simp [cutAround, Text.cutAt?] at h
  | cons b rest =>
    by_cases hb : b = p
    · simp [cutAround, Text.cutAt?, hb] at h
    · have hhead : (cutAround p (b :: rest)).1.head? = some b := by
        rw [cutAround, Text.cutAt?, if_neg hb]
        cases Text.cutAt? p rest <;> rfl
      rw [hhead] at h
      obtain rfl := Option.some.inj h
      exact ⟨rfl, hb⟩

/-- What follows a network location begins with a delimiter. -/
theorem endsNetloc_of_cutNetloc (located : (cutNetloc text).1 ≠ [])
    (h : (cutNetloc text).2.head? = some a) : endsNetloc a = true := by
  have hcut : (cutNetloc text).1 = [] ∨
      ∃ rest : Text, (cutNetloc text).2 = rest.dropWhile fun p => !endsNetloc p := by
    unfold cutNetloc
    split
    · exact .inr ⟨_, rfl⟩
    · exact .inl rfl
  obtain ⟨rest, hrest⟩ := hcut.resolve_left located
  have hnot := List.head?_dropWhile_not (fun p => !endsNetloc p) rest
  rw [← hrest, h] at hnot
  simpa using hnot

/-- After a host, a path that is not empty begins with a slash. -/
theorem head?_path {url : Url} (h : split text = .ok url) (located : url.netloc ≠ [])
    (head : url.path.head? = some a) : a = .scalar '/' := by
  rw [eq_of_split h] at located head
  obtain ⟨hasked, hquestion⟩ := head?_cutAround head
  obtain ⟨hparted, hnumber⟩ := head?_cutAround hasked
  have hends := endsNetloc_of_cutNetloc located hparted
  simp only [endsNetloc, Bool.or_eq_true, beq_iff_eq] at hends
  -- at a question mark or a number sign the path would have been cut off
  rcases hends with (hslash | rfl) | rfl
  · exact hslash
  · exact absurd rfl hquestion
  · exact absurd rfl hnumber

end Url

/-! ## Formats -/

/-- A path with a slash at its head keeps it in lower case. -/
theorem Text.head?_lowercase (h : path.head? = some (.scalar '/')) :
    (Text.lowercase path).head? = some (.scalar '/') := by
  obtain ⟨rest, rfl⟩ := List.head?_eq_some_iff.mp h
  rfl

namespace Format

variable {url name : Text} {parts : Url}

/-- What a URL from which a format can be read looks like. -/
theorem ofUrl_eq_ok_iff (split : Url.split url = .ok parts) : ofUrl url = .ok name ↔
    parts.scheme ≠ [] ∧ (parts.scheme ∈ hostSchemes → parts.netloc ≠ []) ∧
      name = ofPath parts.path := by
  unfold ofUrl
  rw [split]
  by_cases hscheme : parts.scheme = []
  · simp [hscheme]
  · by_cases hhost : parts.scheme ∈ hostSchemes ∧ parts.netloc = []
    · simp [hscheme, hhost]
    · simp only [hscheme, hhost, if_false, Except.ok.injEq, not_false_eq_true, ne_eq, true_and]
      rw [not_and] at hhost
      exact ⟨fun h => ⟨hhost, h.symm⟩, fun h => h.2.symm⟩

/-- Without a point in its path, a URL shows the whole path. -/
theorem eq_path_of_ofUrl (split : Url.split url = .ok parts)
    (pointless : .scalar '.' ∉ parts.path) (resolved : ofUrl url = .ok name) :
    name = parts.path := by
  rw [((ofUrl_eq_ok_iff split).mp resolved).2.2, ofPath, Text.afterLast_of_not_mem pointless]

end Format

namespace Engine

variable {label url name : Text} {parts : Url} {content format : Document}
  {selector : SelectorArgument} {chosen : Selector} {cache : Cache}

theorem registered_iff : Registered label name ↔ Text.lowercase name = "json" := by
  unfold Registered Registry.contains
  rw [@eq_comm _ (Text.lowercase name)]
  simp [Registry.builtIn, Keyed.get?]

/-- A path that is a built-in format stands in a URL without a host and begins with no
    slash. -/
theorem hostless_of_registered (split : Url.split url = .ok parts)
    (resolved : Format.ofUrl url = .ok name) (registered : Registered label parts.path) :
    parts.netloc = [] ∧ parts.scheme ∉ Format.hostSchemes ∧
      parts.path.head? ≠ some (.scalar '/') := by
  have hslash : parts.path.head? ≠ some (.scalar '/') := by
    intro hhead
    have hlower := Text.head?_lowercase hhead
    rw [registered_iff.mp registered] at hlower
    exact absurd hlower (by decide)
  have hnetloc : parts.netloc = [] := by
    -- after a host there is only an empty path or one with a slash at its head
    by_contra located
    cases hpath : parts.path with
    | nil =>
      rw [hpath, registered_iff] at registered
      exact absurd registered (by decide)
    | cons a rest =>
      have hhead : parts.path.head? = some a := by rw [hpath, List.head?_cons]
      rw [Url.head?_path split located hhead] at hhead
      exact hslash hhead
  have hscheme := ((Format.ofUrl_eq_ok_iff split).mp resolved).2.1
  exact ⟨hnetloc, fun hmem => hscheme hmem hnetloc, hslash⟩

/-! ## Parses -/

theorem resolve_of_ofUrl (void : format.isVoid = true) (resolved : Format.ofUrl url = .ok name) :
    Format.resolve (.string url) format = .ok (.string name) := by
  simp only [Format.resolve, void, if_true, Format.ofUrlValue, resolved]

/-- **A URL without an extension.** No format is given, one can be read off the URL, and
    there is no point in its path. If the path is not a built-in format, it is reported as
    unknown, the plain answer is null, and the engine is as it was, whatever the content is.
    If it is one, then the URL has no host and its path begins with no slash, and only then
    is the content read. -/
theorem parse_of_no_point (accepted : Selector.ofArgument selector = .ok chosen)
    (void : format.isVoid = true) (split : Url.split url = .ok parts)
    (resolved : Format.ofUrl url = .ok name) (pointless : .scalar '.' ∉ parts.path) :
    let engine : Engine := ⟨.builtIn label, cache⟩
    let ran := engine.parseOutcome (.string url) content selector format
    let answer := engine.parse (.string url) content selector format
    name = parts.path ∧
    (¬ Registered label parts.path →
      ran.value = .ok { status := .formatUnknown, format := some (Text.lowercase parts.path) } ∧
        answer.value = .ok .null ∧ ran.state = engine ∧ answer.state = engine ∧
        ran.events = [.formatUnknown (.string url) parts.path]) ∧
    (Registered label parts.path →
      parts.netloc = [] ∧ parts.scheme ∉ Format.hostSchemes ∧
        parts.path.head? ≠ some (.scalar '/') ∧
        ran = engine.runParser (.json label) "json" (.string url) content chosen) := by
  intro engine ran answer
  obtain rfl := Format.eq_path_of_ofUrl split pointless resolved
  have hresolved := resolve_of_ofUrl void resolved
  refine ⟨rfl, ?_, ?_⟩
  · intro unregistered
    have hran : ran =
        ⟨.ok (unknownFormat parts.path), engine, [.formatUnknown (.string url) parts.path]⟩ :=
      parseOutcome_of_unknown accepted hresolved (by simpa [Registered] using unregistered)
    have hanswer : answer = ran.map fun outcome => outcome.map Outcome.unwrap := rfl
    rw [hanswer, hran]
    exact ⟨rfl, rfl, rfl, rfl, rfl⟩
  · intro registered
    obtain ⟨hnetloc, hscheme, hslash⟩ := hostless_of_registered split resolved registered
    refine ⟨hnetloc, hscheme, hslash, ?_⟩
    have hlower : Text.lowercase parts.path = "json" := registered_iff.mp registered
    have hknown : engine.registry.parsers.get? (Text.lowercase parts.path) =
        some (.json label) := by
      rw [hlower]
      rfl
    have hran : ran = engine.runParser (.json label) (Text.lowercase parts.path) (.string url)
        content chosen := parseOutcome_of_known accepted hresolved hknown
    rwa [hlower] at hran

/-- The host and the query have points, the path has none, and the URL has an entry. -/
theorem parse_of_no_point_cached :
    let url : Text := "https://e.f/json?a.json"
    let cache := ((Cache.bounded 1 (by decide)).store ⟨url, .int 1⟩).state
    let engine := ofCache cache
    let ran := engine.parseOutcome (.string url) (.string "1") (.value (.string "$")) .null
    ran.value = .ok { status := .formatUnknown, format := some "/json" } ∧ ran.state = engine := by
  intro url cache engine ran
  let parts : Url := ⟨"https", "e.f", "/json", "a.json", []⟩
  have split : Url.split url = .ok parts := by decide
  have resolved : Format.ofUrl url = .ok "/json" := by decide
  have unregistered : ¬ Registered builtInLabel parts.path := by
    rw [registered_iff]
    decide
  obtain ⟨-, hunknown, -⟩ := @parse_of_no_point builtInLabel url "/json" parts (.string "1") .null
    (.value (.string "$")) (.path (.string "$")) cache rfl rfl split resolved (by decide)
  obtain ⟨hvalue, -, hstate, -⟩ := hunknown unregistered
  exact ⟨hvalue, hstate⟩

/-- The path of a URL without a host may be a built-in format. -/
theorem exists_parser_of_no_point :
    let url : Text := "x:json"
    let ran := (ofCache .unbounded).parseOutcome (.string url) (.string "1")
      (.selector (.function .ok)) .null
    Url.split url = .ok ⟨"x", [], "json", [], []⟩ ∧ .scalar '.' ∉ Text.ofString "json" ∧
      Format.ofUrl url = .ok "json" ∧
      ran.value = .ok { status := .found, value := .int 1, format := some "json" } ∧
      ran.state.cache.urls = [url] := by
  intro url ran
  exact ⟨by decide, by decide, by decide, rfl, by decide⟩

end Engine

end Gleaner
