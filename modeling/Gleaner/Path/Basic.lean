import Gleaner.Document.Basic

/-! # Paths

    A path is an expression that, applied to a place in a document, finds other
    places: by member names, by positions, by walking down, by conditions, by
    sorting, or by arithmetic on values already found.

    Conditions are tested on the children of a place. They are built from paths
    too, so the two types are defined together.
-/

namespace Gleaner

namespace Path

/-- How a condition compares two values. -/
inductive Comparison
  | equal | notEqual | atMost | atLeast | less | greater
  /-- The value is a text that contains the pattern. -/
  | resembles
  deriving DecidableEq, Repr

/-- The arithmetic operators. -/
inductive Operator
  | plus | minus | times
  deriving DecidableEq, Repr

/-- What a named operation computes from a value. -/
inductive Operation
  /-- The number of code points, items or members. -/
  | size
  /-- The keys of an object. -/
  | keys
  /-- The last step that led to the place, as text. -/
  | step
  /-- The items, or the keys, in ascending order. -/
  | sorted
  /-- The value as text. -/
  | text
  /-- The pieces of a text between separators: one of them, or all. -/
  | split (separator : Text) (piece : Option Int) (limit : Option Nat)
  /-- A text with every occurrence of a part replaced. -/
  | replace (part substitute : Text)

end Path

mutual

/-- An expression that finds places in a document. -/
inductive Path
  /-- The document itself, from anywhere inside it. -/
  | root
  | this
  | parent
  /-- The members of these names, in this order. -/
  | members (names : List Text)
  /-- All children of a list or an object. -/
  | children
  /-- The items at these positions, counted from the end if negative. -/
  | items (positions : List Int)
  | slice (start stop step : Option Int)
  /-- From each place found by the first, the second. -/
  | child (first second : Path)
  /-- From each place found by the first and everything below it, the second. -/
  | descend (first second : Path)
  /-- The places found by the first from which the second finds something. -/
  | having (first second : Path)
  /-- The places found by the first from which the second finds nothing. -/
  | lacking (first second : Path)
  | union (first second : Path)
  /-- It can be written, but not carried out. -/
  | intersection (first second : Path)
  /-- The children that meet a condition. -/
  | filter (condition : Condition)
  /-- The list in the order of these keys, each ascending or descending. -/
  | order (keys : List (Bool × Path))
  | operation (operation : Path.Operation)
  | arithmetic (operator : Path.Operator) (left right : Operand)

/-- One side of an arithmetic expression. -/
inductive Operand
  | constant (value : Document)
  | path (path : Path)

/-- A condition on a child. -/
inductive Condition
  /-- The path finds something. -/
  | has (path : Path)
  /-- The path finds nothing. -/
  | lacks (path : Path)
  | compare (path : Path) (comparison : Path.Comparison) (value : Document)
  | compareWith (path : Path) (comparison : Path.Comparison) (other : Path)
  | both (first second : Condition)
  | either (first second : Condition)

end

instance : Inhabited Path := ⟨.this⟩

/-! ## Whether the document itself is used -/

mutual

/-- Whether `root` occurs in a path. -/
def Path.usesRoot : Path → Bool
  | .root => true
  | .this => false
  | .parent => false
  | .members _ => false
  | .children => false
  | .items _ => false
  | .slice _ _ _ => false
  | .child first second => first.usesRoot || second.usesRoot
  | .descend first second => first.usesRoot || second.usesRoot
  | .having first second => first.usesRoot || second.usesRoot
  | .lacking first second => first.usesRoot || second.usesRoot
  | .union first second => first.usesRoot || second.usesRoot
  | .intersection first second => first.usesRoot || second.usesRoot
  | .filter condition => condition.usesRoot
  | .order keys => Path.keysUseRoot keys
  | .operation _ => false
  | .arithmetic _ left right => left.usesRoot || right.usesRoot

def Path.keysUseRoot : List (Bool × Path) → Bool
  | [] => false
  | (_, key) :: keys => key.usesRoot || Path.keysUseRoot keys

def Operand.usesRoot : Operand → Bool
  | .constant _ => false
  | .path p => p.usesRoot

/-- Whether `root` occurs in a condition. -/
def Condition.usesRoot : Condition → Bool
  | .has path => path.usesRoot
  | .lacks path => path.usesRoot
  | .compare path _ _ => path.usesRoot
  | .compareWith path _ other => path.usesRoot || other.usesRoot
  | .both first second => first.usesRoot || second.usesRoot
  | .either first second => first.usesRoot || second.usesRoot

end

end Gleaner
