import Gleaner.Document.Basic

/-! # Indexing documents

    Taking a document apart key by key. An object is indexed by a text; a list and
    a text by a whole number, which counts from the end if it is negative.
-/

namespace Gleaner

/-- Why an index does not apply. -/
inductive IndexError
  /-- The object has no member of that key. -/
  | missingKey
  /-- The list or text is too short. -/
  | outOfRange
  /-- This kind of document cannot be indexed, or not by this kind of key. -/
  | wrongKind
  deriving DecidableEq, Repr

namespace Document

/-- The item at a position, counted from the end if it is negative. -/
def itemAt? (items : List α) (position : Int) : Option α :=
  if 0 ≤ position then items[position.toNat]?
  else if items.length < position.natAbs then none
  else items[items.length - position.natAbs]?

/-- The whole number that a key stands for. -/
def position? : Document → Option Int
  | int n => some n
  | bool b => some (if b then 1 else 0)
  | _ => none

/-- The document under one key. -/
def index (document key : Document) : Except IndexError Document :=
  match document with
  | object members =>
    match key with
    | string name => match Keyed.get? name members with
      | some value => .ok value
      | none => .error .missingKey
    | array _ => .error .wrongKind
    | object _ => .error .wrongKind
    | _ => .error .missingKey
  | array items =>
    match key.position? with
    | none => .error .wrongKind
    | some position => match itemAt? items position with
      | some item => .ok item
      | none => .error .outOfRange
  | string text =>
    match key.position? with
    | none => .error .wrongKind
    | some position => match itemAt? text position with
      | some p => .ok (.string [p])
      | none => .error .outOfRange
  | _ => .error .wrongKind

/-- The document under a list of keys, taken one after the other. -/
def indexAll : List Document → Document → Except IndexError Document
  | [], document => .ok document
  | key :: keys, document =>
    match document.index key with
    | .ok next => indexAll keys next
    | .error e => .error e

end Document

end Gleaner
