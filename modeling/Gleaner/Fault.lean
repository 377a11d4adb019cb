import Gleaner.Validation.Basic
import Gleaner.Document.Literal

/-! # Faults

    Everything that can end an operation without a value. A `Refusal` is one of the
    two conditions that a caller must expect: a URL from which no format can be
    read, and something that is no selector. The other faults are those of
    deserializers, selector functions, settings and wrong arguments.
-/

namespace Gleaner

/-- The conditions under which a call is refused. -/
inductive RefusalCode
  | invalidUrl | invalidSelector
  deriving DecidableEq, Repr

namespace RefusalCode

def name : RefusalCode → String
  | invalidUrl => "INVALID_URL"
  | invalidSelector => "INVALID_SELECTOR"

def all : List RefusalCode := [invalidUrl, invalidSelector]

/-- The code of a name. -/
def ofName? (name : Text) : Option RefusalCode :=
  all.find? fun code => name == Text.ofString code.name

end RefusalCode

/-- A refused call. -/
structure Refusal where
  code        : RefusalCode
  message     : Text
  recoverable : Bool := false
  deriving DecidableEq, Repr

/-- A refusal as a structured value. -/
def Refusal.toDocument (refusal : Refusal) : Document :=
  .object [("error", .object [
    ("code", .string refusal.code.name),
    ("message", .string refusal.message),
    ("recoverable", .bool refusal.recoverable)])]

/-- Why an operation ends without a value. -/
inductive Fault
  | refused (refusal : Refusal)
  /-- Content that is not valid for its format. -/
  | unreadable (reason : Text)
  /-- Values that do not fit the fields of a model. -/
  | invalid (details : List Validation.Detail)
  /-- An object has no member of that key. -/
  | missingKey
  /-- A list or a text is too short. -/
  | outOfRange
  /-- A value of the wrong kind for what is done with it. -/
  | wrongKind
  /-- A value that lacks the operation asked of it. -/
  | missingOperation
  | emptyFormat
  /-- Something of this kind was registered that is no parser. -/
  | notParser (kind : Text)
  /-- A bound of a cache below one. -/
  | boundTooSmall
  /-- Something that is no refusal code, in literal notation. -/
  | unknownCode (literal : Text)
  /-- The environment variable of this settings field does not hold JSON. -/
  | unreadableVariable (field : Text)
  /-- A settings file that is not well formed. -/
  | malformedFile
  /-- A value that a function refuses for a reason of its own. -/
  | badValue (message : Text)
  /-- A failure inside a function or a deserializer. -/
  | failure (message : Text)
  deriving DecidableEq, Repr

/-- The refusal code that a value names. -/
def RefusalCode.ofValue (value : Document) : Except Fault RefusalCode :=
  match value.text?.bind ofName? with
  | some code => .ok code
  | none => .error (.unknownCode value.literal)

namespace Fault

/-- The message of a fault that has one. -/
def message? : Fault → Option Text
  | refused refusal => some refusal.message
  | unreadable reason => some reason
  | emptyFormat => some "format must not be empty"
  | notParser kind => some (kind ++ Text.ofString " does not implement Parser")
  | boundTooSmall => some "max_entries must be >= 1 or None"
  | unknownCode literal => some (literal ++ Text.ofString " is not a valid ErrorCode")
  | unreadableVariable field =>
    some (Text.ofString "error parsing value for field \"" ++ field ++
      Text.ofString "\" from source \"EnvSettingsSource\"")
  | badValue message => some message
  | failure message => some message
  | invalid _ => none
  | missingKey => none
  | outOfRange => none
  | wrongKind => none
  | missingOperation => none
  | malformedFile => none

end Fault

end Gleaner
