import Gleaner.Document.Basic

/-! # Events

    What happens inside is reported as events. An event has a level, a name and
    fields, which its `record` shows; records are what a log writes.
-/

namespace Gleaner

/-- The levels of events, the least important first. -/
inductive Level
  | debug | info | warning | error | critical
  deriving DecidableEq, Repr

namespace Level

def name : Level → String
  | debug => "debug"
  | info => "info"
  | warning => "warning"
  | error => "error"
  | critical => "critical"

def all : List Level := [debug, info, warning, error, critical]

/-- The level of a name; there are two names for warnings. -/
def ofName? (name : Text) : Option Level :=
  if name = Text.ofString "warn" then some warning
  else all.find? fun level => name == Text.ofString level.name

/-- Levels by importance. -/
def rank : Level → Nat
  | debug => 0
  | info => 1
  | warning => 2
  | error => 3
  | critical => 4

end Level

/-- A line for a log: a level, the name of an event, and its fields in order. -/
structure Record where
  level  : Level
  name   : Text
  fields : Keyed Document

/-- What is reported. URLs and paths are reported as they were given, be they texts
    or not. -/
inductive Event
  | documentCached (url : Text)
  | documentUnreadable (url : Document) (reason : Text)
  | entryEvicted (url : Text)
  | entryInvalidated (url : Text)
  | cacheCleared (dropped : Nat)
  | formatUnknown (url : Document) (format : Text)
  | pathFailed (path : Document)

/-- The record of an event. -/
def Event.record : Event → Record
  | documentCached url => ⟨.debug, "document_cached", [("url", .string url)]⟩
  | documentUnreadable url reason =>
    ⟨.warning, "document_parse_failed", [("url", url), ("reason", .string reason)]⟩
  | entryEvicted url => ⟨.debug, "cache_evicted", [("url", .string url)]⟩
  | entryInvalidated url => ⟨.info, "cache_invalidated", [("url", .string url)]⟩
  | cacheCleared dropped => ⟨.info, "cache_cleared", [("dropped", .int dropped)]⟩
  | formatUnknown url format =>
    ⟨.info, "format_not_registered", [("url", url), ("format", .string format)]⟩
  | pathFailed path => ⟨.warning, "selector_evaluation_failed", [("path", path)]⟩

/-- What an operation leaves: a value, the state after it, and the events that it
    reported, in order. -/
structure Ran (σ α : Type) where
  value  : α
  state  : σ
  events : List Event

/-- The value seen through a function. -/
def Ran.map (f : α → β) (ran : Ran σ α) : Ran σ β := ⟨f ran.value, ran.state, ran.events⟩

/-- The state seen through a function. -/
def Ran.onState (f : σ → τ) (ran : Ran σ α) : Ran τ α := ⟨ran.value, f ran.state, ran.events⟩

end Gleaner
