import Gleaner.Document.Number

/-! # Sameness and order of documents

    Two documents are the same when they have the same structure; numbers are the
    same by value, and the members of objects are compared without regard to
    order. Whether truth values count as numbers is left to a view, a function
    from documents to the numbers they stand for.

    The order that sorting uses exists between two numbers, two texts, and two
    lists whose first differing items have an order; anything else has none.
-/

namespace Gleaner.Document

mutual

/-- Sameness under a view of documents as numbers. -/
def sameUnder (view : Document → Option Number) : Document → Document → Bool
  | null, other => match other with
    | null => true
    | _ => false
  | bool a, other => match view (bool a), view other with
    | some x, some y => x.same y
    | none, none => match other with
      | bool b => a == b
      | _ => false
    | _, _ => false
  | int a, other => match view other with
    | some y => (Number.int a).same y
    | none => false
  | float a, other => match view other with
    | some y => (Number.float a).same y
    | none => false
  | string a, other => match other with
    | string b => a == b
    | _ => false
  | array as, other => match other with
    | array bs => sameItems view as bs
    | _ => false
  | object as, other => match other with
    | object bs => as.length == bs.length && sameMembers view as bs
    | _ => false

/-- Sameness item by item. -/
def sameItems (view : Document → Option Number) : List Document → List Document → Bool
  | [], [] => true
  | a :: as, b :: bs => sameUnder view a b && sameItems view as bs
  | _, _ => false

/-- Each member has its like in the other object. -/
def sameMembers (view : Document → Option Number) :
    List (Text × Document) → List (Text × Document) → Bool
  | [], _ => true
  | (key, a) :: as, others =>
    (match Keyed.get? key others with
      | some b => sameUnder view a b
      | none => false) && sameMembers view as others

end

/-- Sameness in conditions: a truth value is never the same as a number. -/
def same (a b : Document) : Bool := sameUnder number? a b

/-- Sameness in sorting: false and true are the same as zero and one. -/
def alike (a b : Document) : Bool := sameUnder count? a b

mutual

/-- Whether `a` comes before `b`; `none` if the two have no order. -/
def before? : Document → Document → Option Bool
  | string a, string b => some (Text.compare a b == .lt)
  | array as, array bs => itemsBefore? as bs
  | a, b => match count? a, count? b with
    | some x, some y => some (x.compare? y == some .lt)
    | _, _ => none

/-- Lists are ordered by their first differing items, or by length. -/
def itemsBefore? : List Document → List Document → Option Bool
  | [], [] => some false
  | [], _ :: _ => some true
  | _ :: _, [] => some false
  | a :: as, b :: bs => if alike a b then itemsBefore? as bs else before? a b

end

end Gleaner.Document
