import Gleaner.Parser
import Gleaner.Text.Lowercase

/-! # The registry of parsers

    Parsers are registered under formats without regard to case: a format is put
    into lower case before it is written or looked up.
-/

namespace Gleaner

/-- The parsers by their formats in lower case, and what they have in common. -/
structure Registry where
  parsers : Keyed Parser := []
  common  : Parser.Common := {}

namespace Registry

/-- Something that is to be registered. -/
inductive Candidate
  | parser (parser : Parser)
  /-- Something of this kind that is no parser. -/
  | other (kind : Text)

/-- Writes the parser under a key. -/
def put (key : Text) (parser : Parser) (registry : Registry) : Registry :=
  { registry with parsers := registry.parsers.put key parser }

/-- Takes the parser under a key away. -/
def erase (key : Text) (registry : Registry) : Registry :=
  { registry with parsers := registry.parsers.erase key }

/-- A format in lower case; only texts have one. -/
def keyOf : Document → Except Fault Text
  | .string format => .ok (Text.lowercase format)
  | _ => .error .missingOperation

/-- Registers a parser under a format, in place of the one that is there. The
    format is looked at first, and must not be void. -/
def register (format : Document) (candidate : Candidate) (registry : Registry) :
    Except Fault Registry :=
  if format.isVoid then .error .emptyFormat
  else
    match candidate with
    | .other kind => .error (.notParser kind)
    | .parser parser =>
      (keyOf format).map fun key => registry.put key parser

/-- The parser of a format. -/
def lookup (format : Document) (registry : Registry) : Except Fault (Option Parser) :=
  (keyOf format).map fun key => registry.parsers.get? key

/-- Removes the parser of a format and answers it. -/
def unregister (format : Document) (registry : Registry) :
    Except Fault (Option Parser × Registry) :=
  (keyOf format).map fun key => (registry.parsers.get? key, registry.erase key)

/-- Whether a value is a format that has a parser. -/
def contains (format : Document) (registry : Registry) : Bool :=
  match format with
  | .string text => (registry.parsers.get? (Text.lowercase text)).isSome
  | _ => false

/-- A format with what was registered there, or with nothing if its parser was taken away. A
    registration that would be refused is none. -/
def change (registry : Registry) : Text × Option (Text × Parser.Behaviour) → Registry
  | (format, some (label, behaviour)) =>
    match registry.register (.string format) (.parser ⟨label, behaviour⟩) with
    | .ok registered => registered
    | .error _ => registry
  | (format, none) => registry.erase (Text.lowercase format)

/-- The labels of the parsers by their formats. -/
def labels (registry : Registry) : Keyed Text :=
  registry.parsers.map fun (key, parser) => (key, parser.label)

/-- The formats in order. -/
def formats (registry : Registry) : List Text := registry.parsers.keys.mergeSort Text.le

/-- The registry of the built-in formats. -/
def builtIn (label : Text) : Registry := { parsers := [("json", .json label)] }

end Registry

end Gleaner
