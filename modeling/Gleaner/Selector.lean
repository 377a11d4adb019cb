import Gleaner.Outcome
import Gleaner.Event
import Gleaner.Path.Find
import Gleaner.Document.Index

/-! # Selectors

    A selector picks a value out of a document: the first match of a path, or the
    result of a function. A path that fails is an outcome like any other and is
    reported as an event; a fault of a function is passed on as it is.
-/

namespace Gleaner

/-- A way to pick a value out of a document. -/
inductive Selector
  /-- The path need not be a text; then it fails. -/
  | path (path : Document)
  | function (pick : Document → Except Fault Document)

/-- What a caller hands over as a selector. -/
inductive SelectorArgument
  | selector (selector : Selector)
  /-- A plain value; only a text stands for a selector. -/
  | value (value : Document)

namespace Selector

/-- The refusal of a value that is no selector. -/
def refusal (value : Document) : Refusal where
  code := .invalidSelector
  message := Text.ofString "selector must be a JSONPath string or a callable, got " ++
    Text.ofString value.kind.name

/-- The selector that an argument stands for. -/
def ofArgument : SelectorArgument → Except Fault Selector
  | .selector selector => .ok selector
  | .value (.string text) => .ok (.path (.string text))
  | .value other => .error (.refused (refusal other))

/-- The values that a path finds; `none` if the path is no text or fails. -/
def evaluate (path document : Document) : Option (List Document) :=
  path.text?.bind fun text => Path.evaluate text document

/-- What becomes of the values that a path found. -/
def outcomeOf : List Document → Outcome
  | [] => .ofStatus .noMatch
  | first :: _ => { status := .found, value := first }

/-- Picks a value out of a document. -/
def select (selector : Selector) (document : Document) : Except Fault Outcome × List Event :=
  match selector with
  | .path expression =>
    match evaluate expression document with
    | some found => (.ok (outcomeOf found), [])
    | none => (.ok (.ofStatus .selectorFailed), [.pathFailed expression])
  | .function pick => ((pick document).map fun value => { status := .found, value }, [])

/-! ## Functions -/

/-- The fault of an index that does not apply. -/
def indexFault : IndexError → Fault
  | .missingKey => .missingKey
  | .outOfRange => .outOfRange
  | .wrongKind => .wrongKind

/-- The selector that follows keys one after the other. -/
def followingKeys (keys : List Document) : Selector :=
  .function fun document => (document.indexAll keys).mapError indexFault

/-- The selector of the number of items, members or code points. -/
def counting : Selector :=
  .function fun document =>
    match document.size? with
    | some n => .ok (.int n)
    | none => .error .wrongKind

end Selector

end Gleaner
