import Gleaner.Path.Node
import Gleaner.Path.Parser
import Gleaner.Path.Arithmetic
import Gleaner.Sorting
import Gleaner.Document.Literal

/-! # What a path finds

    A path maps a place to the matches it finds from there, in order, or it fails.
    It fails where a value is asked of a missing parent, where things without an
    order are to be sorted, and where a number grows too large.

    `Path.find` goes by recursion on the path; walking down is a list of places
    that is made first, so it needs no recursion of its own.
-/

namespace Gleaner

namespace Path

/-! ## Parts -/

/-- The matches of each of a list of matches, one after the other. -/
def gather (f : Match → Option (List Match)) : List Match → Option (List Match)
  | [] => some []
  | m :: rest => do
    let here ← f m
    let there ← gather f rest
    some (here ++ there)

/-- The members of a list that pass a test which may fail. -/
def select? {α : Type} (test : α → Option Bool) : List α → Option (List α)
  | [] => some []
  | a :: rest => do
    let passes ← test a
    let others ← select? test rest
    some (if passes then a :: others else others)

/-- Whether a test passes for some member of a list; later members are not tested. -/
def any? {α : Type} (test : α → Option Bool) : List α → Option Bool
  | [] => some false
  | a :: rest => do
    if ← test a then some true else any? test rest

/-- The values of matches. -/
def values? (found : List Match) : Option (List Document) := found.mapM Match.value?

/-- Where a slice begins or ends: positions count from the end if they are negative,
    and are cut off at `low` and `high`. -/
def sliceBound (size low high : Int) : (bound : Option Int) → (default : Int) → Int
  | none, default => default
  | some n, _ => if n < 0 then max (n + size) low else min n high

/-- The positions of a slice of a list of some size; none if the step is zero. -/
def slicePositions (size : Nat) (start stop step : Option Int) : List Int :=
  let step := step.getD 1
  let size : Int := size
  if 0 < step then
    let first := sliceBound size 0 size start 0
    let last := sliceBound size 0 size stop size
    let count := ((last - first + step - 1) / step).toNat
    (List.range count).map fun k : Nat => first + k * step
  else if step < 0 then
    let first := sliceBound size (-1) (size - 1) start (size - 1)
    let last := sliceBound size (-1) (size - 1) stop (-1)
    let count := ((first - last - step - 1) / (-step)).toNat
    (List.range count).map fun k : Nat => first + k * step
  else []

/-! ## Named operations -/

namespace Operation

/-- The name under which a computed value shows how it was computed. -/
def name : Operation → String
  | size => "len"
  | keys => "keys"
  | step => "path"
  | sorted => "sorted"
  | text => "str()"
  | split _ _ _ => "split"
  | replace _ _ => "sub"

/-- The ascending list of items or keys; other values have none. -/
def sortedValue? : Document → Option Document
  | .array list => (Sorting.sort Document.before? list).map .array
  | .object pairs =>
    (Sorting.sort Document.before? (pairs.map fun (key, _) => .string key)).map .array
  | _ => none

/-- What an operation computes at a place. -/
def apply (operation : Operation) (node : Node) : Option (List Match) :=
  match operation with
  | size => some (node.value.size?.toList.map fun n : Nat => .computed (.int n) (.computed size.name))
  | keys =>
    match node.value with
    | .object pairs =>
      some (pairs.map fun (key, _) => .computed (.string key) (.computed keys.name))
    | _ => some []
  | step => some [.node (.under (.string node.step.text) (.computed step.name) node)]
  | sorted => (sortedValue? node.value).map fun value => [.computed value .this]
  | text => some [.computed (.string node.value.plain) .this]
  | split separator piece limit =>
    match separator, node.value with
    | p :: more, .string t =>
      let pieces := Text.splitOn p more limit t
      match piece with
      | none => some [.computed (.array (pieces.map .string)) .this]
      | some n => some ((Document.itemAt? pieces n).toList.map fun t => .computed (.string t) .this)
    | _, _ => some []
  | replace part substitute =>
    match node.value with
    | .string t =>
      let t' := Text.replace part substitute t
      some (if t' = t then [] else [.computed (.string t') .this])
    | _ => none

end Operation

/-- Sorting is not carried out where it is only asked whether it finds something; so
    what cannot be sorted at all counts as found. -/
def isIdle (path : Path) (value : Document) : Bool :=
  match path, value with
  | .operation .sorted, .array _ => false
  | .operation .sorted, .object _ => false
  | .operation .sorted, _ => true
  | _, _ => false

/-- Whether a path finds something at a place, where `found` is what it finds. -/
def findsSome? (path : Path) (node : Node) (found : Option (List Match)) : Option Bool :=
  if path.isIdle node.value then some true else found.map fun ms => !ms.isEmpty

/-! ## Arithmetic on matches -/

/-- One side of an arithmetic expression when its paths have been followed. -/
inductive Side
  | constant (value : Document)
  | found (found : List Match)

/-- The pairs of values that an operator is applied to. Two lists of matches must be
    equally long. -/
def pairSides : Side → Side → List (Option Document × Option Document)
  | .constant x, .constant y => [(some x, some y)]
  | .constant x, .found right => right.map fun m => (some x, m.value?)
  | .found left, .constant y => left.map fun m => (m.value?, some y)
  | .found left, .found right =>
    if left.length = right.length then
      left.zipWith (fun l r => (l.value?, r.value?)) right
    else []

/-- An operator on two values that may be absent. -/
def Operator.applyPair (operator : Operator) :
    Option Document × Option Document → Except ArithmeticError Document
  | (some x, some y) => operator.apply x y
  | _ => .error .absent

/-- The results of an operator on all pairs; if one pair does not fit, there are no
    results at all. -/
def results? (operator : Operator) (pairs : List (Option Document × Option Document)) :
    Option (List Document) :=
  match pairs.mapM operator.applyPair with
  | .ok values => some values
  | .error .mismatch => some []
  | .error _ => none

/-! ## Order by keys -/

/-- How two elements compare on one key. Unless both sides have exactly one match,
    they are the same on it. -/
def compareOn? (descending : Bool) (left right : List Match) : Option Ordering :=
  match left, right with
  | [l], [r] => do
    let x ← l.value?
    let y ← r.value?
    if Document.alike x y then some .eq
    else
      let less ← Document.before? x y
      some (if less != descending then .lt else .gt)
  | _, _ => some .eq

/-! ## Finding -/

end Path

mutual

/-- The matches that a path finds from a place. -/
def Path.find : Path → Node → Option (List Match)
  | .root, node => some [.node node.root]
  | .this, node => some [.node node]
  | .parent, node => some [node.parent]
  | .members names, node => some ((names.filterMap fun name => node.member? name).map .node)
  | .children, node => some (node.children.map .node)
  | .items positions, node => some ((positions.filterMap fun i => node.item? i).map .node)
  | .slice start stop step, node =>
    some (((Path.slicePositions node.items.length start stop step).filterMap
      fun i => node.item? i).map .node)
  | .child first second, node =>
    (first.find node).bind (Path.gather fun m => second.find m.toNode)
  | .descend first second, node =>
    (first.find node).bind (Path.gather fun
      | .node n => Path.gather (fun m => second.find m.toNode) (n.walk.map .node)
      | .missing => none)
  | .having first second, node =>
    (first.find node).bind (Path.select? fun m =>
      Path.findsSome? second m.toNode (second.find m.toNode))
  | .lacking first second, node =>
    (first.find node).bind (Path.select? fun m =>
      (Path.findsSome? second m.toNode (second.find m.toNode)).map (!·))
  | .union first second, node =>
    (first.find node).bind fun ms => (second.find node).map (ms ++ ·)
  | .intersection _ _, _ => none
  | .filter condition, node =>
    (Path.select? (fun child =>
      condition.holds (if condition.usesRoot then child else .start child.value .this))
      node.children).map fun nodes => nodes.map .node
  | .order keys, node =>
    match node.value with
    | .array items =>
      (Sorting.sort (fun x y =>
        (Path.compareByKeys keys (.start x .this) (.start y .this)).map (· == .lt)) items).map
        fun sorted => [.computed (.array sorted) .this]
    | _ => none
  | .operation operation, node => operation.apply node
  | .arithmetic operator left right, node =>
    (left.find node).bind fun x => (right.find node).bind fun y =>
      (Path.results? operator (Path.pairSides x y)).map fun values =>
        values.map fun value => .computed value .this

/-- How two elements compare by keys, the first key that tells them apart deciding. -/
def Path.compareByKeys : List (Bool × Path) → Node → Node → Option Ordering
  | [], _, _ => some .eq
  | (descending, key) :: keys, x, y =>
    (key.find x).bind fun left => (key.find y).bind fun right =>
      (Path.compareOn? descending left right).bind fun
        | .eq => Path.compareByKeys keys x y
        | o => some o

/-- What an operand stands for at a place. -/
def Operand.find : Operand → Node → Option Path.Side
  | .constant value, _ => some (.constant value)
  | .path path, node => (path.find node).map .found

/-- Whether a condition holds at a place. -/
def Condition.holds : Condition → Node → Option Bool
  | .has path, node => Path.findsSome? path node (path.find node)
  | .lacks path, node => (Path.findsSome? path node (path.find node)).map (!·)
  | .compare path comparison value, node =>
    (path.find node).bind fun left =>
      if left.isEmpty then some (comparison == .notEqual)
      else Path.any? (fun l => l.value?.bind fun x => comparison.holds? x value) left
  | .compareWith path comparison other, node =>
    (path.find node).bind fun left => (other.find node).bind fun right =>
      if left.isEmpty || right.isEmpty then
        some (comparison.ofAbsence left.isEmpty right.isEmpty)
      else Path.any? (fun l => Path.any? (fun r =>
        l.value?.bind fun x => r.value?.bind fun y => comparison.holds? x y) right) left
  | .both first second, node =>
    (first.holds node).bind fun
      | true => second.holds node
      | false => some false
  | .either first second, node =>
    (first.holds node).bind fun
      | true => some true
      | false => second.holds node

end

/-- The values that a path finds in a document; `none` if following it fails. -/
def Path.valuesIn (path : Path) (document : Document) : Option (List Document) :=
  (path.find (.start document .this)).bind Path.values?

/-- The values that a path text finds in a document; `none` if it is no path, or if
    following it fails. -/
def Path.evaluate (text : Text) (document : Document) : Option (List Document) :=
  (Path.ofText? text).bind fun path => path.valuesIn document

end Gleaner
