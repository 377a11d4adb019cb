import Gleaner.Document.Basic
import Gleaner.Decimal.Shortest
import Gleaner.Text.Quoted

/-! # Documents in literal notation

    The notation of values in messages and in aligned log lines: texts are quoted,
    lists stand in brackets, objects in braces, and the three constants are
    capitalised words.
-/

namespace Gleaner.Document

mutual

/-- A document in literal notation. -/
def literal : Document → Text
  | null => "None"
  | bool b => if b then "True" else "False"
  | int n => Text.ofInt n
  | float x => Decimal.Layout.plain.write x
  | string t => t.quoted
  | array items => .scalar '[' :: literalItems items ++ Text.ofString "]"
  | object members => .scalar '\x7b' :: literalMembers members ++ Text.ofString "\x7d"

/-- Items, separated by a comma and a blank. -/
def literalItems : List Document → Text
  | [] => []
  | [item] => literal item
  | item :: next :: rest => literal item ++ Text.ofString ", " ++ literalItems (next :: rest)

/-- Members, each a quoted key, a colon and a blank before its value. -/
def literalMembers : List (Text × Document) → Text
  | [] => []
  | [(key, value)] => Text.quoted key ++ Text.ofString ": " ++ literal value
  | (key, value) :: next :: rest =>
    Text.quoted key ++ Text.ofString ": " ++ literal value ++ Text.ofString ", " ++
      literalMembers (next :: rest)

end

/-- A text as it is, any other document in literal notation. -/
def plain : Document → Text
  | string t => t
  | other => other.literal

end Gleaner.Document
