import Gleaner.Keyed

/-! # Documents

    A `Document` is what a deserializer hands over: null, a truth value, a number,
    a text, a list or an object. Whole numbers and doubles are kept apart, and the
    members of an object keep the order of their keys.

    The same type serves for the dynamic arguments of the public operations, so
    that a URL or a format that is not a text is refused by a rule and not by a
    missing case.
-/

namespace Gleaner

/-- A structured value. -/
inductive Document
  | null
  | bool (b : Bool)
  | int (n : Int)
  | float (x : Float)
  | string (t : Text)
  | array (items : List Document)
  | object (members : List (Text × Document))
  deriving Inhabited

namespace Document

/-- The kinds of documents. -/
inductive Kind
  | null | bool | int | float | string | array | object
  deriving DecidableEq, Repr

/-- The kind of a document. -/
def kind : Document → Kind
  | null => .null
  | bool _ => .bool
  | int _ => .int
  | float _ => .float
  | string _ => .string
  | array _ => .array
  | object _ => .object

/-- The name of a kind in messages. -/
def Kind.name : Kind → String
  | .null => "NoneType"
  | .bool => "bool"
  | .int => "int"
  | .float => "float"
  | .string => "str"
  | .array => "list"
  | .object => "dict"

/-- Null, false, zero, and the empty text, list and object are void. -/
def isVoid : Document → Bool
  | null => true
  | bool b => !b
  | int n => n == 0
  | float x => x == 0
  | string t => t.isEmpty
  | array items => items.isEmpty
  | object members => members.isEmpty

/-- The text of a document that is one. -/
def text? : Document → Option Text
  | string t => some t
  | _ => none

/-- The member of an object. -/
def member? (key : Text) : Document → Option Document
  | object members => Keyed.get? key members
  | _ => none

/-- The children of a list or an object in order. -/
def children : Document → List Document
  | array items => items
  | object members => members.map (·.2)
  | _ => []

/-- The number of items, members or code points. -/
def size? : Document → Option Nat
  | string t => some t.length
  | array items => some items.length
  | object members => some members.length
  | _ => none

end Document

end Gleaner
