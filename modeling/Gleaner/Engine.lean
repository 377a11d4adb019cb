import Gleaner.Registry
import Gleaner.Format

/-! # The engine

    An engine has a registry of parsers and the cache that they share. To parse is to
    judge the selector, to find the format, to find its parser and to run it, in this
    order; the first of these that fails decides what the caller gets.
-/

namespace Gleaner

structure Engine where
  registry : Registry
  cache    : Cache

namespace Engine

/-- The label of the built-in parsers of an engine. -/
def builtInLabel : Text := "builtin"

/-- An engine with the built-in formats. -/
def ofCache (cache : Cache) : Engine := ⟨.builtIn builtInLabel, cache⟩

/-- The outcome of a parse under a format without a parser. -/
def unknownFormat (format : Text) : Outcome :=
  { status := .formatUnknown, format := some (Text.lowercase format) }

/-- What the parser under a key makes of a content, and what becomes of the engine by it. -/
def parseBy (parser : Parser) (key : Text) (url content : Document) (selector : Selector)
    (engine : Engine) : Ran Engine (Except Fault Outcome) :=
  let registry := engine.registry
  match parser.behaviour with
  | .through deserialize .shared =>
    (Parser.parseThrough deserialize url content selector engine.cache).onState fun cache =>
      { engine with cache }
  | .through deserialize (.own cache) =>
    (Parser.parseThrough deserialize url content selector cache).onState fun cache =>
      { engine with
        registry := registry.put key ⟨parser.label, .through deserialize (.own cache)⟩ }
  | .through deserialize (.common number) =>
    let cache := registry.common.caches number
    (Parser.parseThrough deserialize url content selector cache).onState fun cache =>
      { engine with
        registry := { registry with common := registry.common.withCache number cache } }
  | .acting act =>
    let deed := act url content selector ⟨engine.cache, registry.common, registry.labels⟩
    ⟨deed.outcome,
      ⟨deed.changes.foldl Registry.change { registry with common := deed.common }, deed.shared⟩,
      deed.events⟩

/-- Runs the parser under a key, and names the key in its outcome. -/
def runParser (parser : Parser) (key : Text) (url content : Document) (selector : Selector)
    (engine : Engine) : Ran Engine (Except Fault Outcome) :=
  (engine.parseBy parser key url content selector).map fun result =>
    result.map fun outcome => { outcome with format := some key }

/-- Parses content under a format that is known. -/
def parseAs (format url content : Document) (selector : Selector) (engine : Engine) :
    Ran Engine (Except Fault Outcome) :=
  match format with
  | .string text =>
    let key := Text.lowercase text
    match engine.registry.parsers.get? key with
    | none => ⟨.ok (unknownFormat text), engine, [.formatUnknown url text]⟩
    | some parser => engine.runParser parser key url content selector
  | _ => ⟨.error .missingOperation, engine, []⟩

/-- Parses content fetched from a URL. Without a format, or with a void one, the URL
    shows the format. -/
def parseOutcome (url content : Document) (selector : SelectorArgument) (format : Document)
    (engine : Engine) : Ran Engine (Except Fault Outcome) :=
  match Selector.ofArgument selector with
  | .error fault => ⟨.error fault, engine, []⟩
  | .ok selector =>
    match Format.resolve url format with
    | .error fault => ⟨.error fault, engine, []⟩
    | .ok format => engine.parseAs format url content selector

/-- Parses content fetched from a URL and answers the value, null if there is none. -/
def parse (url content : Document) (selector : SelectorArgument) (format : Document)
    (engine : Engine) : Ran Engine (Except Fault Document) :=
  (engine.parseOutcome url content selector format).map fun outcome =>
    outcome.map Outcome.unwrap

/-- An operation on the cache of an engine. -/
def onCache (operation : Cache → Ran Cache α) (engine : Engine) : Ran Engine α :=
  (operation engine.cache).onState fun cache => { engine with cache }

end Engine

end Gleaner
