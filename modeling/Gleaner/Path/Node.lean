import Gleaner.Path.Basic
import Gleaner.Document.Index
import Gleaner.Text.Quoted

/-! # Places in a document

    A `Node` is a place that a path has found: a value, the last step that led to it,
    and the place the step was taken from. A start has no place before it; the
    document itself and every computed value are starts.

    Paths speak of `Match`es. All are nodes but one: the parent of a start, which
    exists without having a value.
-/

namespace Gleaner

/-- The last step to a place. -/
inductive Step
  | root
  | this
  | member (name : Text)
  /-- A position as it was asked for, which may count from the end. -/
  | item (position : Int)
  /-- The value was computed by the operation of this name. -/
  | computed (operation : String)
  deriving DecidableEq

/-- A place in a document. -/
inductive Node
  | start (value : Document) (step : Step)
  | under (value : Document) (step : Step) (parent : Node)

namespace Step

/-- A name that can stand in a path without quotes. -/
def isPlainName (name : Text) : Bool :=
  let start (p : CodePoint) : Bool := p.isLetter || p == .scalar '_'
  let part (p : CodePoint) : Bool :=
    start p || p.digit?.isSome || p == .scalar '@' || p == .scalar '-'
  match name with
  | .scalar '@' :: p :: rest => start p && rest.all part
  | p :: rest => start p && rest.all part
  | [] => false

/-- A step as text. -/
def text : Step → Text
  | root => "$"
  | this => "\x60this\x60"
  | member name => if isPlainName name then name else name.quoted
  | item position => .scalar '[' :: Text.ofInt position ++ Text.ofString "]"
  | computed operation => Text.ofString "\x60" ++ Text.ofString operation ++ Text.ofString "\x60"

end Step

namespace Node

def value : Node → Document
  | start value _ => value
  | under value _ _ => value

def step : Node → Step
  | start _ step => step
  | under _ step _ => step

/-- The document at the end of the chain of places. -/
def root : Node → Node
  | start value _ => .start value .root
  | under _ _ parent => parent.root

/-- The member of an object as a place. -/
def member? (name : Text) (node : Node) : Option Node :=
  (node.value.member? name).map fun value => .under value (.member name) node

/-- The items of a list; nothing else has items. -/
def items (node : Node) : List Document :=
  match node.value with
  | .array items => items
  | _ => []

/-- The item of a list as a place. -/
def item? (position : Int) (node : Node) : Option Node :=
  (Document.itemAt? node.items position).map fun value => .under value (.item position) node

/-- Items as places below a node, the first of them at `position`. -/
def itemsFrom (node : Node) : (position : Nat) → List Document → List Node
  | _, [] => []
  | position, value :: rest =>
    .under value (.item position) node :: itemsFrom node (position + 1) rest

/-- The children of a list or an object. -/
def children (node : Node) : List Node :=
  match node.value with
  | .array items => node.itemsFrom 0 items
  | .object members => members.map fun (name, value) => .under value (.member name) node
  | _ => []

mutual

/-- A place and all places below it, each before its children. The first argument
    is the value of the place. -/
def walkFrom : Document → Node → List Node
  | .array items, node => node :: walkItems 0 items node
  | .object members, node => node :: walkMembers members node
  | .null, node => [node]
  | .bool _, node => [node]
  | .int _, node => [node]
  | .float _, node => [node]
  | .string _, node => [node]

def walkItems : Nat → List Document → Node → List Node
  | _, [], _ => []
  | position, value :: rest, node =>
    walkFrom value (.under value (.item position) node) ++ walkItems (position + 1) rest node

def walkMembers : List (Text × Document) → Node → List Node
  | [], _ => []
  | (name, value) :: rest, node =>
    walkFrom value (.under value (.member name) node) ++ walkMembers rest node

end

/-- A place and all places below it, each before its children. -/
def walk (node : Node) : List Node := walkFrom node.value node

end Node

/-- What a path finds. -/
inductive Match
  | node (node : Node)
  /-- The parent of a start. -/
  | missing

namespace Match

/-- The place from which a path goes on; after a missing parent that is null. -/
def toNode : Match → Node
  | node n => n
  | missing => .start .null .this

/-- A missing parent has no value. -/
def value? : Match → Option Document
  | node n => some n.value
  | missing => none

/-- A computed value. -/
def computed (value : Document) (step : Step) : Match := .node (.start value step)

end Match

/-- The place that a node was reached from. -/
def Node.parent : Node → Match
  | start _ _ => .missing
  | under _ _ parent => .node parent

end Gleaner
