import Gleaner.Deserializer
import Gleaner.Selector

/-! # Parsers

    A parser of one format reads the content of a URL and picks a value out of the
    document. Most parsers go through a cache: the shared one, one of their own, or one
    that they have in common with other parsers. A custom parser does as it likes: it may
    use these caches, keep values for later, and register and unregister parsers.
-/

namespace Gleaner

namespace Parser

/-! ## What parsers have -/

/-- The cache that a parser reads through. -/
inductive Place
  | shared
  /-- One that no other parser has. The parser is registered under one format only. -/
  | own (cache : Cache)
  /-- One of the caches that parsers have in common. A parser that is registered under
      several formats has its cache in common with itself. -/
  | common (number : Nat)

/-- What parsers have in common besides the shared cache. -/
structure Common where
  /-- Caches by number. -/
  caches : Nat → Cache := fun _ => .unbounded
  /-- What custom parsers keep from one run to the next, by name. -/
  kept   : Keyed Document := []

/-- Writes one of the caches. -/
def Common.withCache (number : Nat) (cache : Cache) (common : Common) : Common :=
  { common with caches := fun n => if n = number then cache else common.caches n }

/-! ## What parsers do -/

/-- What a custom parser finds when it is run. It knows other parsers by their labels, and
    runs none of them. -/
structure Scene where
  shared : Cache
  common : Common
  labels : Keyed Text

/-- What a custom parser leaves. `β` is how the parsers behave that it registers. -/
structure Deed (β : Type) where
  outcome : Except Fault Outcome
  shared  : Cache
  common  : Common
  /-- The formats under which it registered a parser of some label, and those from which it
      took the parser away, in order. -/
  changes : List (Text × Option (Text × β)) := []
  events  : List Event := []

/-- How a parser comes to an outcome. -/
inductive Behaviour
  | through (deserialize : Deserializer) (place : Place)
  | acting (act : (url content : Document) → Selector → Scene → Deed Behaviour)

/-- Reads through the shared cache, or through its own if it has one. -/
def Behaviour.structured (deserialize : Deserializer) (own : Option Cache) : Behaviour :=
  .through deserialize (match own with
    | none => .shared
    | some cache => .own cache)

/-- Makes an outcome of the arguments alone. -/
def Behaviour.custom (parse : (url content : Document) → Selector → Except Fault Outcome) :
    Behaviour :=
  .acting fun url content selector scene =>
    { outcome := parse url content selector, shared := scene.shared, common := scene.common }

end Parser

/-- A parser with a label, by which look-ups show it. -/
structure Parser where
  label     : Text
  behaviour : Parser.Behaviour

namespace Parser

/-- The built-in parser of JSON. -/
def json (label : Text) : Parser := ⟨label, .structured Deserializer.json none⟩

/-- Reads content through a cache and picks a value out of the document. -/
def parseThrough (deserialize : Deserializer) (url content : Document) (selector : Selector)
    (cache : Cache) : Ran Cache (Except Fault Outcome) :=
  let ran := cache.getOrParse url (deserialize content)
  match ran.value with
  | .error fault => ⟨.error fault, ran.state, ran.events⟩
  | .ok none => ⟨.ok (.ofStatus .contentUnreadable), ran.state, ran.events⟩
  | .ok (some entry) =>
    let (outcome, events) := selector.select entry.document
    ⟨outcome, ran.state, ran.events ++ events⟩

end Parser

end Gleaner
