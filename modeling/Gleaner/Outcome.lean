import Gleaner.Fault
import Gleaner.Validation.Model

/-! # Outcomes

    A parse ends with a status, and with a value if something was found. The format
    is the one that the parse was carried out under, once it is known.
-/

namespace Gleaner

/-- How a parse ends. -/
inductive Status
  | found | noMatch | contentUnreadable | selectorFailed | formatUnknown
  deriving DecidableEq, Repr

namespace Status

def name : Status → String
  | found => "found"
  | noMatch => "no_match"
  | contentUnreadable => "deserialization_failed"
  | selectorFailed => "selector_failed"
  | formatUnknown => "unknown_format"

def all : List Status := [found, noMatch, contentUnreadable, selectorFailed, formatUnknown]

end Status

/-- The result of a parse. -/
structure Outcome where
  status : Status
  value  : Document := .null
  format : Option Text := none

namespace Outcome

/-- Whether a value was found. -/
def found (outcome : Outcome) : Bool := outcome.status == .found

/-- The value that was found, and null if none was. -/
def unwrap (outcome : Outcome) : Document :=
  if outcome.found then outcome.value else .null

/-- The outcome of a parse with nothing found. -/
def ofStatus (status : Status) : Outcome := { status }

/-- The outcome that an object describes; fields of other names are left out of
    account. -/
def ofFields (fields : Keyed Document) : Validation.Checked Outcome :=
  open Validation in
  let status := required "status"
    (.ofProblem ∘ choice Status.all Status.name .notMember) fields
  let value := (fields.get? "value").getD .null
  let format := field "format" (orNull (.ofProblem ∘ text)) (.ok none) fields
  (Checked.both status format).map fun (status, format) => { status, value, format }

end Outcome

end Gleaner
