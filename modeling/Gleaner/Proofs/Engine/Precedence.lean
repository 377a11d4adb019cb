import Gleaner.Proofs.Engine.Escapes

/-! # The first failure decides

    Before any parser is run, three things may be wrong with a parse: the selector, the URL
    if it has to show the format, and the format if it has no parser. Each `Failure` is
    found without regard to the others, and `failures` lists them in the order in which an
    engine judges them. The first one decides what the caller gets.

    Neither the content nor the cache is looked at for that, nor what the parsers and the
    selector would do. So a parse with a failure goes the same way in every engine that has
    parsers of the same formats, and it leaves the engine as it is.

    What a parser, a deserializer or a selector function makes of a parse without a failure
    is passed on, also where it looks like a refusal of the engine.
-/

namespace Gleaner.Engine

/-! ## Failures -/

/-- What may be wrong with a parse. -/
inductive Failure
  /-- Something that is no selector. -/
  | selector (value : Document)
  /-- A URL that shows no format. -/
  | url (error : Format.UrlError)
  /-- A format without a parser. -/
  | format (name : Text)

namespace Failure

/-- What the caller gets. -/
def ending (shown : Document) : Failure → Except Fault Outcome
  | selector value => .error (.refused (Selector.refusal value))
  | url error => .error (.refused (Format.refusal shown error))
  | format name => .ok (unknownFormat name)

/-- What is reported. -/
def events (shown : Document) : Failure → List Event
  | format name => [.formatUnknown shown name]
  | _ => []

end Failure

def selectorFailure? : SelectorArgument → Option Failure
  | .selector _ => none
  | .value (.string _) => none
  | .value other => some (.selector other)

/-- The URL is looked at only if no format is given. -/
def urlFailure? (url format : Document) : Option Failure :=
  if format.isVoid then
    match Format.ofUrlValue url with
    | .ok _ => none
    | .error error => some (.url error)
  else none

/-- The format that is given or that the URL shows. -/
def named? (url format : Document) : Option Text :=
  if format.isVoid then (Format.ofUrlValue url).toOption else format.text?

def formatFailure? (registry : Registry) (url format : Document) : Option Failure :=
  (named? url format).bind fun name =>
    if registry.contains (.string name) then none else some (.format name)

/-- All that is wrong with a parse, what is judged first at the head. -/
def failures (registry : Registry) (url : Document) (selector : SelectorArgument)
    (format : Document) : List Failure :=
  [selectorFailure? selector, urlFailure? url format,
    formatFailure? registry url format].reduceOption

variable {engine : Engine} {registry : Registry} {url content format : Document}
  {selector : SelectorArgument} {failure : Failure} {name : Text}

theorem head?_failures : (failures registry url selector format).head? =
    (selectorFailure? selector).or ((urlFailure? url format).or
      (formatFailure? registry url format)) := by
  unfold failures
  cases selectorFailure? selector <;> cases urlFailure? url format <;>
    cases formatFailure? registry url format <;> rfl

/-- Of a registry, only the formats count. -/
theorem failures_congr {more : Registry} {like : SelectorArgument}
    (formats : ∀ name, more.contains (.string name) = registry.contains (.string name))
    (alike : selectorFailure? like = selectorFailure? selector) :
    failures more url like format = failures registry url selector format := by
  simp only [failures, formatFailure?, formats, alike]

/-! ## What is judged -/

theorem selectorFailure?_cases (selector : SelectorArgument) :
    (∃ chosen, Selector.ofArgument selector = .ok chosen ∧ selectorFailure? selector = none) ∨
      ∃ value, Selector.ofArgument selector = .error (.refused (Selector.refusal value)) ∧
        selectorFailure? selector = some (.selector value) := by
  cases selector with
  | selector chosen => exact .inl ⟨chosen, rfl, rfl⟩
  | value value =>
    cases value with
    | string text => exact .inl ⟨.path (.string text), rfl, rfl⟩
    | _ => exact .inr ⟨_, rfl, rfl⟩

theorem urlFailure?_cases (url : Document)
    (given : format = .null ∨ ∃ name, format = .string name) :
    (∃ name, Format.resolve url format = .ok (.string name) ∧ urlFailure? url format = none ∧
        named? url format = some name) ∨
      ∃ error, Format.resolve url format = .error (.refused (Format.refusal url error)) ∧
        urlFailure? url format = some (.url error) := by
  by_cases hvoid : format.isVoid = true
  · cases h : Format.ofUrlValue url with
    | ok name => exact .inl ⟨name, by simp [Format.resolve, urlFailure?, named?, hvoid, h,
        Except.toOption]⟩
    | error error => exact .inr ⟨error, by simp [Format.resolve, urlFailure?, hvoid, h]⟩
  · rcases given with rfl | ⟨name, rfl⟩
    · exact absurd rfl hvoid
    · exact .inl ⟨name, by simp [Format.resolve, urlFailure?, named?, hvoid, Document.text?]⟩

theorem formatFailure?_of_named (h : named? url format = some name) :
    formatFailure? registry url format =
      if registry.contains (.string name) then none else some (.format name) := by
  rw [formatFailure?, h, Option.bind_some]

/-! ## What becomes of a parse -/

/-- The first failure ends a parse, and without one a parser is run. -/
theorem parseOutcome_cases (engine : Engine) (url content : Document) (selector : SelectorArgument)
    (given : format = .null ∨ ∃ name, format = .string name) :
    (∃ failure, (failures engine.registry url selector format).head? = some failure ∧
        engine.parseOutcome url content selector format =
          ⟨failure.ending url, engine, failure.events url⟩) ∨
      (failures engine.registry url selector format).head? = none ∧
        ∃ chosen name parser, Selector.ofArgument selector = .ok chosen ∧
          Format.resolve url format = .ok (.string name) ∧
          engine.registry.parsers.get? (Text.lowercase name) = some parser ∧
          engine.parseOutcome url content selector format =
            engine.runParser parser (Text.lowercase name) url content chosen := by
  rw [head?_failures]
  rcases selectorFailure?_cases selector with
    ⟨chosen, haccepted, hselector⟩ | ⟨value, hrefused, hselector⟩
  · rw [hselector, Option.none_or]
    rcases urlFailure?_cases url given with
      ⟨name, hresolved, hurl, hnamed⟩ | ⟨error, hrefused, hurl⟩
    · rw [hurl, Option.none_or, formatFailure?_of_named hnamed]
      cases hcontains : engine.registry.contains (.string name) with
      | false =>
        exact .inl ⟨.format name, rfl, parseOutcome_of_unknown haccepted hresolved hcontains⟩
      | true =>
        obtain ⟨parser, hparser⟩ := Option.isSome_iff_exists.mp hcontains
        exact .inr ⟨rfl, chosen, name, parser, haccepted, hresolved, hparser,
          parseOutcome_of_known haccepted hresolved hparser⟩
    · rw [hurl]
      exact .inl ⟨.url error, rfl, by simp only [parseOutcome, haccepted, hrefused]; rfl⟩
  · rw [hselector]
    exact .inl ⟨.selector value, rfl, by simp only [parseOutcome, hrefused]; rfl⟩

/-- The first failure is all that the caller gets to know. -/
theorem parseOutcome_of_first (given : format = .null ∨ ∃ name, format = .string name)
    (first : (failures engine.registry url selector format).head? = some failure) :
    engine.parseOutcome url content selector format =
      ⟨failure.ending url, engine, failure.events url⟩ := by
  rcases parseOutcome_cases engine url content selector given with
    ⟨other, hother, hended⟩ | ⟨hnone, -⟩
  · rw [first] at hother
    rw [hended, Option.some.inj hother]
  · rw [first] at hnone
    cases hnone

/-- Without a failure, the parser of the format decides. -/
theorem parseOutcome_of_no_failure (given : format = .null ∨ ∃ name, format = .string name)
    (fine : failures engine.registry url selector format = []) :
    ∃ chosen name parser, Selector.ofArgument selector = .ok chosen ∧
      Format.resolve url format = .ok (.string name) ∧
      engine.registry.parsers.get? (Text.lowercase name) = some parser ∧
      engine.parseOutcome url content selector format =
        engine.runParser parser (Text.lowercase name) url content chosen := by
  rcases parseOutcome_cases engine url content selector given with
    ⟨failure, hfirst, -⟩ | ⟨-, hparsed⟩
  · rw [fine] at hfirst
    cases hfirst
  · exact hparsed

/-- A format counts only in lower case. -/
theorem parseAs_of_lowercase_eq {other : Text} (same : Text.lowercase name = Text.lowercase other)
    (chosen : Selector) :
    (engine.parseAs (.string name) url content chosen).value =
        (engine.parseAs (.string other) url content chosen).value ∧
      (engine.parseAs (.string name) url content chosen).state =
        (engine.parseAs (.string other) url content chosen).state := by
  have hunknown : unknownFormat name = unknownFormat other := by
    simp only [unknownFormat, same]
  simp only [parseAs, same]
  -- only the report of an unknown format shows it as it was given
  cases engine.registry.parsers.get? (Text.lowercase other) with
  | none => exact ⟨congrArg Except.ok hunknown, rfl⟩
  | some parser => exact ⟨rfl, rfl⟩

theorem parseOutcome_of_lowercase_eq {other : Text} (hname : name ≠ []) (hother : other ≠ [])
    (same : Text.lowercase name = Text.lowercase other) :
    (engine.parseOutcome url content selector (.string name)).value =
        (engine.parseOutcome url content selector (.string other)).value ∧
      (engine.parseOutcome url content selector (.string name)).state =
        (engine.parseOutcome url content selector (.string other)).state := by
  have hgiven : ∀ text : Text, text ≠ [] →
      Format.resolve url (.string text) = .ok (.string text) := by
    intro text htext
    obtain ⟨p, rest, rfl⟩ := List.exists_cons_of_ne_nil htext
    rfl
  simp only [parseOutcome, hgiven name hname, hgiven other hother]
  cases Selector.ofArgument selector with
  | error fault => exact ⟨rfl, rfl⟩
  | ok chosen => exact parseAs_of_lowercase_eq same chosen

/-- **The first failure decides.** If something is wrong with a parse, the caller gets what
    the first failure says, and the engine is as it was. Any engine with parsers of the same
    formats answers the same, whatever its parsers do, whatever its cache holds, whatever
    the content is, and whichever selector stands in the place of one that is accepted.

    If nothing is wrong, the parser of the format is run, and the caller gets its outcome
    under the name of the format in lower case.

    It makes no difference which of two formats is given that are equal in lower case. -/
theorem first_failure_decides (given : format = .null ∨ ∃ name, format = .string name) :
    let ran := engine.parseOutcome url content selector format
    let wrong := failures engine.registry url selector format
    (∀ failure, wrong.head? = some failure →
      ran = ⟨failure.ending url, engine, failure.events url⟩ ∧
      (∀ name, failure = .format name →
        ran.value = .ok { status := .formatUnknown, format := some (Text.lowercase name) }) ∧
      ∀ (other : Engine) (unread : Document) (like : SelectorArgument),
        (∀ name, other.registry.contains (.string name) = engine.registry.contains (.string name)) →
        selectorFailure? like = selectorFailure? selector →
        other.parseOutcome url unread like format = ⟨ran.value, other, ran.events⟩) ∧
    (wrong = [] → ∃ chosen name parser, Selector.ofArgument selector = .ok chosen ∧
      Format.resolve url format = .ok (.string name) ∧
      engine.registry.parsers.get? (Text.lowercase name) = some parser ∧
      let parsed := engine.parseBy parser (Text.lowercase name) url content chosen
      ran.value = parsed.value.map (fun outcome =>
        { outcome with format := some (Text.lowercase name) }) ∧
      ran.events = parsed.events ∧ ran.state = parsed.state) ∧
    (∀ name other : Text, name ≠ [] → other ≠ [] → Text.lowercase name = Text.lowercase other →
      let one := engine.parseOutcome url content selector (.string name)
      let two := engine.parseOutcome url content selector (.string other)
      one.value = two.value ∧ one.state = two.state) := by
  intro ran wrong
  refine ⟨?_, ?_, ?_⟩
  · intro failure hfirst
    have hran : ran = ⟨failure.ending url, engine, failure.events url⟩ :=
      parseOutcome_of_first given hfirst
    refine ⟨hran, ?_, ?_⟩
    · rintro name rfl
      rw [hran]
      rfl
    · intro other unread like formats alike
      -- the same failures are found there
      have hsame : failures other.registry url like format = wrong := failures_congr formats alike
      rw [hran]
      exact parseOutcome_of_first given (by rw [hsame, hfirst])
  · intro hnone
    obtain ⟨chosen, name, parser, haccepted, hresolved, hparser, hran⟩ :=
      parseOutcome_of_no_failure given hnone
    refine ⟨chosen, name, parser, haccepted, hresolved, hparser, ?_⟩
    rw [show ran = _ from hran]
    exact ⟨rfl, rfl, rfl⟩
  · intro name other hname hother same
    exact parseOutcome_of_lowercase_eq hname hother same

/-- Neither the selector nor the URL is in order, and the selector is judged first. -/
theorem first_failure_decides_twice :
    let engine := ofCache ((Cache.bounded 1 (by decide)).store ⟨"https://e/a.json", .null⟩).state
    let ran := engine.parseOutcome (.string "a.json") (.string "1") (.value (.int 1)) (.string "")
    failures engine.registry (.string "a.json") (.value (.int 1)) (.string "") =
        [.selector (.int 1), .url .missingScheme] ∧
      ran = ⟨.error (.refused (Selector.refusal (.int 1))), engine, []⟩ := by
  intro engine ran
  have hfailures : failures engine.registry (.string "a.json") (.value (.int 1)) (.string "") =
      [.selector (.int 1), .url .missingScheme] := rfl
  have given : Document.string "" = .null ∨ ∃ name, Document.string "" = .string name :=
    .inr ⟨"", rfl⟩
  obtain ⟨hfirst, -⟩ := @first_failure_decides engine (.string "a.json") (.string "1")
    (.string "") (.value (.int 1)) given
  exact ⟨hfailures, (hfirst (.selector (.int 1)) (congrArg List.head? hfailures)).1⟩

/-- A selector function may refuse a document as an engine refuses a selector. The document
    has been read by then, and it is kept. -/
theorem exists_refusal_of_function :
    let refusal : Refusal := ⟨.invalidSelector, "mine", false⟩
    let engine := ofCache .unbounded
    let ran := engine.parseOutcome (.string "https://e/a.json") (.string "1")
      (.selector (.function fun _ => .error (.refused refusal))) .null
    ran.value = .error (.refused refusal) ∧ engine.cache.urls = [] ∧
      ran.state.cache.urls = ["https://e/a.json"] := by
  intro refusal engine ran
  refine ⟨?_, rfl, ?_⟩
  · rfl
  · decide

end Gleaner.Engine
