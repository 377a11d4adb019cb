import Gleaner.Engine
import Gleaner.Settings.Sources

/-! # The shared engine

    Callers without an engine of their own share one. It is built from the settings
    when it is first needed. An engine that cannot be built is none: the next use
    tries again, with the settings of its own time. A caller may also hand over an
    engine, or ask that the next use build another one; the engine that was shared
    until then lives on, and may be handed over again, or lend its cache to a new one.
-/

namespace Gleaner

/-- An empty cache with the bound that is set. -/
def Cache.ofSettings (settings : CacheSettings) : Cache :=
  match settings.maxEntries with
  | none => .unbounded
  | some ⟨n, h⟩ => .bounded n h

/-- An engine with the built-in formats and the cache that is set. -/
def Engine.ofSettings (settings : Settings) : Engine := .ofCache (.ofSettings settings.cache)

/-! ## Engines -/

/-- An engine among others: its registry, and the number of its cache. -/
structure Seat where
  registry : Registry
  cache    : Nat

/-- Engines, numbered as they came, and their caches. Engines may have a cache in common. The
    parsers of an engine have nothing in common with those of another one but this cache. -/
structure Engines where
  seats    : List Seat := []
  caches   : List Cache := []
  cache_lt : ∀ seat ∈ seats, seat.cache < caches.length := by nofun

namespace Engines

/-- How many engines there are. -/
def length (engines : Engines) : Nat := engines.seats.length

variable (engines : Engines) (number : Nat) (number_lt : number < engines.length)

def seat : Seat := engines.seats.get ⟨number, number_lt⟩

theorem cache_seat_lt : (engines.seat number number_lt).cache < engines.caches.length :=
  engines.cache_lt _ (List.get_mem _ _)

/-- The engine of a number. -/
def get : Engine where
  registry := (engines.seat number number_lt).registry
  cache := engines.caches.get ⟨_, engines.cache_seat_lt number number_lt⟩

/-- Writes the engine of a number. Whoever has the same cache finds it changed. -/
def set (engine : Engine) : Engines where
  seats := engines.seats.set number ⟨engine.registry, (engines.seat number number_lt).cache⟩
  caches := engines.caches.set (engines.seat number number_lt).cache engine.cache
  cache_lt := fun seat hseat => by
    rw [List.length_set]
    rcases List.mem_or_eq_of_mem_set hseat with hmem | rfl
    · exact engines.cache_lt seat hmem
    · exact engines.cache_seat_lt number number_lt

/-- Adds an engine with a cache that no other engine has. -/
def add (engine : Engine) : Engines where
  seats := engines.seats ++ [⟨engine.registry, engines.caches.length⟩]
  caches := engines.caches ++ [engine.cache]
  cache_lt := fun seat hseat => by
    rw [List.length_append, List.length_singleton]
    rcases List.mem_append.mp hseat with hmem | hmem
    · exact Nat.lt_succ_of_lt (engines.cache_lt seat hmem)
    · rw [List.mem_singleton.mp hmem]
      exact Nat.lt_succ_self _

/-- Adds an engine with the cache of another one. -/
def addOver (registry : Registry) : Engines where
  seats := engines.seats ++ [⟨registry, (engines.seat number number_lt).cache⟩]
  caches := engines.caches
  cache_lt := fun seat hseat => by
    rcases List.mem_append.mp hseat with hmem | hmem
    · exact engines.cache_lt seat hmem
    · rw [List.mem_singleton.mp hmem]
      exact engines.cache_seat_lt number number_lt

@[simp] theorem length_set (engine : Engine) :
    (engines.set number number_lt engine).length = engines.length :=
  List.length_set

@[simp] theorem length_add (engine : Engine) :
    (engines.add engine).length = engines.length + 1 :=
  List.length_append

@[simp] theorem length_addOver (registry : Registry) :
    (engines.addOver number number_lt registry).length = engines.length + 1 :=
  List.length_append

end Engines

/-! ## The shared engine -/

/-- All engines that there have been, and which of them is shared, if any is. -/
structure SharedEngine where
  all       : Engines := {}
  number    : Option Nat := none
  number_lt : ∀ n, number = some n → n < all.length := by nofun

/-- Engines of which one is there to be used. -/
structure Ready where
  all       : Engines
  number    : Nat
  number_lt : number < all.length

namespace Ready

def engine (ready : Ready) : Engine := ready.all.get ready.number ready.number_lt

def shared (ready : Ready) : SharedEngine where
  all := ready.all
  number := some ready.number
  number_lt := fun n h => by
    cases h
    exact ready.number_lt

/-- A new engine, which gets the next number. -/
def ofNew (engine : Engine) (others : Engines) : Ready where
  all := others.add engine
  number := others.length
  number_lt := by simp

/-- A new engine with the cache of another one. -/
def ofOver (registry : Registry) (others : Engines) (number : Nat)
    (number_lt : number < others.length) : Ready where
  all := others.addOver number number_lt registry
  number := others.length
  number_lt := by simp

/-- What becomes of the engine by its use. -/
def leave (engine : Engine) (ready : Ready) : Ready where
  all := ready.all.set ready.number ready.number_lt engine
  number := ready.number
  number_lt := by simpa using ready.number_lt

end Ready

namespace SharedEngine

/-- The engine that is shared, if there is one yet. -/
def engine (shared : SharedEngine) : Option Engine :=
  match h : shared.number with
  | some number => some (shared.all.get number (shared.number_lt number h))
  | none => none

/-- How many engines there have been. -/
def engines (shared : SharedEngine) : Nat := shared.all.length

/-- Puts a new engine in place of the one that is there. -/
def install (engine : Engine) (shared : SharedEngine) : SharedEngine :=
  (Ready.ofNew engine shared.all).shared

/-- Lets go of the engine; the next use builds another one. -/
def drop (shared : SharedEngine) : SharedEngine := { all := shared.all }

/-- The engine to be used, which is built if there is none. -/
def ready (sources : Settings.Sources) (shared : SharedEngine) : Except Fault Ready :=
  match h : shared.number with
  | some number => .ok ⟨shared.all, number, shared.number_lt number h⟩
  | none => do
    let engine := Engine.ofSettings (← Settings.load sources)
    return .ofNew engine shared.all

/-- The engine, and what is shared afterwards. -/
def current (sources : Settings.Sources) (shared : SharedEngine) :
    Except Fault (Engine × SharedEngine) :=
  (shared.ready sources).map fun ready => (ready.engine, ready.shared)

/-- Uses the engine by a function that is told its number, too. A fault of the settings comes
    before any fault of the use. -/
def useNumbered (sources : Settings.Sources) (run : Nat → Engine → Ran Engine (Except Fault α))
    (shared : SharedEngine) : Ran SharedEngine (Except Fault α) :=
  match shared.ready sources with
  | .error fault => ⟨.error fault, shared, []⟩
  | .ok ready =>
    let ran := run ready.number ready.engine
    ⟨ran.value, (ready.leave ran.state).shared, ran.events⟩

/-- Uses the engine. -/
def use (sources : Settings.Sources) (run : Engine → Ran Engine (Except Fault α))
    (shared : SharedEngine) : Ran SharedEngine (Except Fault α) :=
  shared.useNumbered sources fun _ => run

/-! ## Calls -/

/-- What callers use the engine for. -/
inductive Use
  | parse (url content : Document) (selector : SelectorArgument) (format : Document)
  | parseOutcome (url content : Document) (selector : SelectorArgument) (format : Document)
  /-- To get hold of it. -/
  | get

inductive Answer
  | value (value : Document)
  | outcome (outcome : Outcome)
  | engine (number : Nat)
  | done

/-- A use of an engine with this number. -/
def Use.run (number : Nat) : Use → Engine → Ran Engine (Except Fault Answer)
  | .parse url content selector format, engine =>
    (engine.parse url content selector format).map (·.map .value)
  | .parseOutcome url content selector format, engine =>
    (engine.parseOutcome url content selector format).map (·.map .outcome)
  | .get, engine => ⟨.ok (.engine number), engine, []⟩

/-- What can be put in place of the shared engine. -/
inductive Replacement
  | nothing
  /-- An engine that has been here before. -/
  | known (number : Nat)
  | new (engine : Engine)
  /-- An engine with this registry, and with the cache of the engine of a number. -/
  | over (registry : Registry) (number : Nat)

/-- Replaces the engine. There is nothing under a number that no engine has. -/
def reset (replacement : Replacement) (shared : SharedEngine) : SharedEngine :=
  match replacement with
  | .nothing => shared.drop
  | .known number =>
    if h : number < shared.all.length then Ready.shared ⟨shared.all, number, h⟩ else shared.drop
  | .new engine => shared.install engine
  | .over registry number =>
    if h : number < shared.all.length then (Ready.ofOver registry shared.all number h).shared
    else shared.drop

/-- What can be asked of the shared engine. -/
inductive Call
  | use (purpose : Use)
  | reset (replacement : Replacement)

/-- Carries a call out, at a time when settings would come from these sources. -/
def Call.run (sources : Settings.Sources) : Call → SharedEngine →
    Ran SharedEngine (Except Fault Answer)
  | .use purpose, shared => shared.useNumbered sources purpose.run
  | .reset replacement, shared => ⟨.ok .done, shared.reset replacement, []⟩

/-- Carries calls out one after the other, each with the sources of its time. -/
def runAll : List (Settings.Sources × Call) → SharedEngine →
    Ran SharedEngine (List (Except Fault Answer))
  | [], shared => ⟨[], shared, []⟩
  | (sources, call) :: calls, shared =>
    let first := call.run sources shared
    let others := runAll calls first.state
    ⟨first.value :: others.value, others.state, first.events ++ others.events⟩

end SharedEngine

end Gleaner
