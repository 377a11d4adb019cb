import Gleaner.Engine
import Gleaner.Proofs.Cache.Entries

/-! # Requests to an engine

    What is asked of a running engine, as data: parses, and the maintenance of its
    cache in between. Requests are carried out one after the other.

    A parse is dispatched if its selector is accepted, its format is known and the
    format has a parser that reads through the shared cache. What a dispatched parse
    does to the cache is one `getOrParse`, and the reply to that is all that its
    outcome depends on. Every other parse leaves the engine as it is.
-/

namespace Gleaner

/-- The deserializer of a parser that reads through the shared cache. -/
def Parser.deserializer? (parser : Parser) : Option Deserializer :=
  match parser.behaviour with
  | .through deserialize .shared => some deserialize
  | _ => none

/-- Every parser reads through the shared cache. -/
def Registry.Shared (registry : Registry) : Prop :=
  ∀ pair ∈ registry.parsers, (pair.2.deserializer?).isSome

theorem Registry.builtIn_shared (label : Text) : (Registry.builtIn label).Shared := by
  intro pair hpair
  obtain rfl := List.mem_singleton.mp hpair
  rfl

namespace Engine

/-! ## Requests -/

/-- What is asked of an engine. -/
inductive Request
  | parse (url content : Document) (selector : SelectorArgument) (format : Document)
  | get (url : Document)
  | invalidate (url : Document)
  | clear

/-- What a request gets. -/
inductive Answer
  | outcome (result : Except Fault Outcome)
  | reply (reply : Cache.Reply)

/-- Carries a request out. -/
def Request.run : Request → Engine → Ran Engine Answer
  | .parse url content selector format, engine =>
    (engine.parseOutcome url content selector format).map .outcome
  | .get url, engine => (engine.onCache (Cache.Call.get url).run).map .reply
  | .invalidate url, engine => (engine.onCache (Cache.Call.invalidate url).run).map .reply
  | .clear, engine => (engine.onCache Cache.Call.clear.run).map .reply

/-- The engine after some requests. -/
def after : List Request → Engine → Engine
  | [], engine => engine
  | request :: requests, engine => after requests (request.run engine).state

/-- The answers to requests that are carried out one after the other. -/
def answers : List Request → Engine → List Answer
  | [], _ => []
  | request :: requests, engine =>
    let ran := request.run engine
    ran.value :: answers requests ran.state

/-- An answer depends on the requests before it only through the engine they leave. -/
theorem answers_getElem? (requests : List Request) (engine : Engine) (i : Nat) :
    (answers requests engine)[i]? =
      requests[i]?.map fun request => (request.run (after (requests.take i) engine)).value := by
  induction requests generalizing engine i with
  | nil => simp [answers]
  | cons request requests ih =>
    cases i with
    | zero => simp [answers, after]
    | succ i => simp [answers, after, ih]

theorem after_append_singleton (requests : List Request) (request : Request) (engine : Engine) :
    after (requests ++ [request]) engine = (request.run (after requests engine)).state := by
  induction requests generalizing engine with
  | nil => rfl
  | cons first requests ih => simp [after, ih]

/-! ## Dispatched parses -/

/-- A parse on its way to the cache. -/
structure Dispatch where
  selector : Selector
  /-- The format in lower case. -/
  key      : Text
  /-- What the deserializer of the format does with the content. -/
  attempt  : Attempt

/-- The parse that a parser gets to carry out, if all of its arguments are in order. -/
def dispatch? (registry : Registry) (url content : Document) (selector : SelectorArgument)
    (format : Document) : Option Dispatch :=
  match Selector.ofArgument selector, Format.resolve url format with
  | .ok selector, .ok (.string format) =>
    let key := Text.lowercase format
    ((registry.parsers.get? key).bind Parser.deserializer?).map fun deserialize =>
      ⟨selector, key, deserialize content⟩
  | _, _ => none

namespace Dispatch

/-- What the selector makes of a document. -/
def select (dispatch : Dispatch) (document : Document) : Except Fault Outcome :=
  (dispatch.selector.select document).1.map fun outcome =>
    { outcome with format := some dispatch.key }

/-- The outcome for a reply of the cache. -/
def outcome (dispatch : Dispatch) : Except Fault (Option Entry) → Except Fault Outcome
  | .ok (some entry) => dispatch.select entry.document
  | .ok none => .ok { status := .contentUnreadable, format := some dispatch.key }
  | .error fault => .error fault

end Dispatch

variable {url content format : Document} {selector : SelectorArgument}

section Judged

variable {engine : Engine} {chosen : Selector} {name : Text}

/-- A format without a parser is reported, and nothing else is done. -/
theorem parseOutcome_of_unknown (accepted : Selector.ofArgument selector = .ok chosen)
    (resolved : Format.resolve url format = .ok (.string name))
    (unknown : engine.registry.contains (.string name) = false) :
    engine.parseOutcome url content selector format =
      ⟨.ok (unknownFormat name), engine, [.formatUnknown url name]⟩ := by
  have hget : engine.registry.parsers.get? (Text.lowercase name) = none := by
    simpa [Registry.contains] using unknown
  simp only [parseOutcome, accepted, resolved, parseAs, hget]

/-- The parser of the format does the rest. -/
theorem parseOutcome_of_known {parser : Parser}
    (accepted : Selector.ofArgument selector = .ok chosen)
    (resolved : Format.resolve url format = .ok (.string name))
    (known : engine.registry.parsers.get? (Text.lowercase name) = some parser) :
    engine.parseOutcome url content selector format =
      engine.runParser parser (Text.lowercase name) url content chosen := by
  simp only [parseOutcome, accepted, resolved, parseAs, known]

end Judged

/-- A dispatched parse is one call to the cache. -/
theorem parseOutcome_of_dispatch {engine : Engine} {dispatch : Dispatch}
    (h : dispatch? engine.registry url content selector format = some dispatch) :
    let ran := engine.cache.getOrParse url dispatch.attempt
    (engine.parseOutcome url content selector format).value = dispatch.outcome ran.value ∧
      (engine.parseOutcome url content selector format).state =
        { engine with cache := ran.state } := by
  unfold dispatch? at h
  split at h
  · next chosen text hselector hformat =>
    obtain ⟨deserialize, hparser, rfl⟩ := Option.map_eq_some_iff.mp h
    obtain ⟨parser, hget, hdeserialize⟩ := Option.bind_eq_some_iff.mp hparser
    have hbehaviour : parser.behaviour = .through deserialize .shared := by
      unfold Parser.deserializer? at hdeserialize
      split at hdeserialize
      · next other hbehaviour => rw [hbehaviour, Option.some.inj hdeserialize]
      · cases hdeserialize
    rw [parseOutcome_of_known hselector hformat hget]
    simp only [runParser, parseBy, hbehaviour, Parser.parseThrough, Ran.map, Ran.onState]
    cases hran : (engine.cache.getOrParse url (deserialize content)).value with
    | error fault => exact ⟨rfl, rfl⟩
    | ok found => cases found <;> exact ⟨rfl, rfl⟩
  · cases h

/-- A parse that is not dispatched has the same outcome whatever the cache, and
    changes nothing. -/
theorem parseOutcome_of_no_dispatch {registry : Registry} (shared : registry.Shared)
    (h : dispatch? registry url content selector format = none) :
    ∃ result, ∀ cache, (Engine.parseOutcome url content selector format ⟨registry, cache⟩).value =
        result ∧
      (Engine.parseOutcome url content selector format ⟨registry, cache⟩).state =
        ⟨registry, cache⟩ := by
  unfold dispatch? at h
  simp only [parseOutcome]
  cases hselector : Selector.ofArgument selector with
  | error fault => exact ⟨.error fault, fun cache => ⟨rfl, rfl⟩⟩
  | ok chosen =>
    cases hformat : Format.resolve url format with
    | error fault => exact ⟨.error fault, fun cache => ⟨rfl, rfl⟩⟩
    | ok resolved =>
      rw [hselector, hformat] at h
      cases resolved with
      | string text =>
        have hget : registry.parsers.get? (Text.lowercase text) = none := by
          cases hget : registry.parsers.get? (Text.lowercase text) with
          | none => rfl
          | some parser =>
            -- Every parser shares the cache, so this one would have been dispatched.
            have hsome := shared _ (Keyed.mem_of_get?_eq_some hget)
            obtain ⟨deserialize, hdeserialize⟩ := Option.isSome_iff_exists.mp hsome
            simp [hget, hdeserialize] at h
        exact ⟨.ok (unknownFormat text), fun cache => by simp [parseAs, hget]⟩
      | _ => exact ⟨.error .missingOperation, fun cache => ⟨rfl, rfl⟩⟩

end Engine

end Gleaner
