import Gleaner.Document.Basic

/-! # Validation

    Values that come from outside are checked against what a field may hold. A value
    that does not fit is reported as a `Detail`: the place of the field, and the
    `Problem` found there. Each problem has a name and a message.
-/

namespace Gleaner.Validation

/-- What is wrong with a value. -/
inductive Problem
  | missing
  /-- A field that the model does not have. -/
  | unknownField
  /-- Neither an object nor an instance of the model of this name. -/
  | notModel (name : String)
  | notText
  /-- A text with surrogates in it has no encoded form. -/
  | notEncodable
  | notInteger
  | notIntegerText
  | fraction
  | notFinite
  | tooManyDigits
  | belowOne
  /-- None of a few literal texts. -/
  | notAmong (choices : List String)
  /-- No member of an enumeration. -/
  | notMember (choices : List String)
  deriving DecidableEq, Repr

namespace Problem

/-- The name of a kind of problem. -/
def name : Problem → String
  | missing => "missing"
  | unknownField => "extra_forbidden"
  | notModel _ => "model_type"
  | notText => "string_type"
  | notEncodable => "string_unicode"
  | notInteger => "int_type"
  | notIntegerText => "int_parsing"
  | fraction => "int_from_float"
  | notFinite => "finite_number"
  | tooManyDigits => "int_parsing_size"
  | belowOne => "greater_than_equal"
  | notAmong _ => "literal_error"
  | notMember _ => "enum"

/-- Choices in quotes, between commas and with a last "or". -/
def listChoices : List String → String
  | [] => ""
  | [choice] => "'" ++ choice ++ "'"
  | [choice, last] => "'" ++ choice ++ "' or '" ++ last ++ "'"
  | choice :: more => "'" ++ choice ++ "', " ++ listChoices more

def message : Problem → String
  | missing => "Field required"
  | unknownField => "Extra inputs are not permitted"
  | notModel name => "Input should be a valid dictionary or instance of " ++ name
  | notText => "Input should be a valid string"
  | notEncodable =>
    "Input should be a valid string, unable to parse raw data as a unicode string"
  | notInteger => "Input should be a valid integer"
  | notIntegerText => "Input should be a valid integer, unable to parse string as an integer"
  | fraction => "Input should be a valid integer, got a number with a fractional part"
  | notFinite => "Input should be a finite number"
  | tooManyDigits => "Unable to parse input string as an integer, exceeded maximum size"
  | belowOne => "Input should be greater than or equal to 1"
  | notAmong choices => "Input should be " ++ listChoices choices
  | notMember choices => "Input should be " ++ listChoices choices

end Problem

/-- A problem and the place of the field, from the outside in. -/
structure Detail where
  place   : List Text
  problem : Problem
  deriving DecidableEq, Repr

/-- A detail of a field, seen from outside the model that has the field. -/
def Detail.inside (field : Text) (detail : Detail) : Detail :=
  { detail with place := field :: detail.place }

/-- A text. Nothing is asked of its code points. -/
def text : Document → Except Problem Text
  | .string t => .ok t
  | _ => .error .notText

/-- A text has an encoded form if there are no surrogates in it. -/
def isEncodable (t : Text) : Bool := !t.any CodePoint.isSurrogate

/-- A text that is looked at in its encoded form. -/
def encodable (t : Text) : Except Problem Text :=
  if isEncodable t then .ok t else .error .notEncodable

end Gleaner.Validation
