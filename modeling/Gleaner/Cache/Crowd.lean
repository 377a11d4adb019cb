import Gleaner.Cache.Call

/-! # Many callers at once

    Any number of callers may use a cache at the same time. Every look at the
    entries and counters is one step, and so is every taking and giving back of a
    lock and every reading of a content; the steps of different callers come in
    any order.

    A caller who misses registers with the lock of the URL. There is one such lock
    as long as anyone is registered with it. Who holds it looks a second time, since
    another caller may have stored an entry meanwhile, and only then reads the
    content. So of all callers of one URL only one reads at a time, and when it
    fails the next one tries.
-/

namespace Gleaner.Cache

/-! ## Locks -/

/-- The lock of one URL. -/
structure KeyLock where
  /-- How many callers are registered with it. -/
  users  : Nat := 0
  /-- The caller who holds it. -/
  holder : Option Nat := none
  deriving DecidableEq, Repr

/-- What a lock is registered under: a URL, or another value that can be looked up. -/
inductive LockName
  | url (text : Text)
  | value (literal : Text)
  deriving DecidableEq, Repr

/-- The name for the lock of a value, unless the value cannot be looked up at all. -/
def lockName? (url : Document) : Option LockName :=
  match url with
  | .string text => some (.url text)
  | other => if isNoKey other then none else some (.value other.literal)

/-! ## Callers -/

/-- How far a caller has come. -/
inductive Stage
  | arrived (call : Call)
  /-- Registered with a lock, and waiting to take it. -/
  | waiting (url : Document) (name : LockName) (attempt : Attempt) (lock : Nat)
  /-- Holding the lock, and about to look a second time. -/
  | holding (url : Document) (name : LockName) (attempt : Attempt) (lock : Nat)
  /-- Counted as a miss, and about to read the content. -/
  | reading (url : Document) (name : LockName) (attempt : Attempt) (lock : Nat)
  /-- The content has been read. -/
  | concluding (url : Document) (name : LockName) (result : Except Fault Document) (lock : Nat)
  /-- The reply is known, and the lock is still held. -/
  | releasing (name : LockName) (reply : Reply) (lock : Nat)
  /-- The lock was given back; the caller is still registered with it. -/
  | leaving (name : LockName) (reply : Reply) (lock : Nat)
  | finished (reply : Reply)

/-- The reply of a caller who has one and is done. -/
def Stage.reply? : Stage → Option Reply
  | finished reply => some reply
  | _ => none

/-- A cache and everyone who uses it. Callers and locks are numbered as they come. -/
structure Crowd where
  cache   : Cache
  callers : Nat → Option Stage := fun _ => none
  arrived : Nat := 0
  /-- The lock that is registered under a name. -/
  locks   : LockName → Option Nat := fun _ => none
  /-- All locks that were ever made. -/
  made    : Nat → KeyLock := fun _ => {}
  count   : Nat := 0
  /-- The callers whose content was read, in order. -/
  reads   : List Nat := []
  events  : List Event := []

namespace Crowd

/-! ## Functional update -/

/-- A function with another value at one place. -/
def set [DecidableEq α] (f : α → β) (i : α) (value : β) : α → β :=
  fun j => if j = i then value else f j

@[simp] theorem set_self [DecidableEq α] (f : α → β) (i : α) (value : β) :
    set f i value i = value := by
  simp [set]

@[simp] theorem set_ne [DecidableEq α] (f : α → β) {i j : α} (value : β) (h : j ≠ i) :
    set f i value j = f j := by
  simp [set, h]

/-- Moves a caller on. -/
def moveTo (i : Nat) (stage : Stage) (crowd : Crowd) : Crowd :=
  { crowd with callers := set crowd.callers i (some stage) }

/-- Writes a lock. -/
def withLock (lock : Nat) (state : KeyLock) (crowd : Crowd) : Crowd :=
  { crowd with made := set crowd.made lock state }

/-! ## Steps -/

/-- A caller comes. -/
def arrive (call : Call) (crowd : Crowd) : Crowd :=
  { crowd.moveTo crowd.arrived (.arrived call) with arrived := crowd.arrived + 1 }

/-- Registers a caller with the lock of a name, which is made if there is none. -/
def register (i : Nat) (url : Document) (name : LockName) (attempt : Attempt) (crowd : Crowd) :
    Crowd :=
  match crowd.locks name with
  | some lock =>
    let state := crowd.made lock
    (crowd.withLock lock { state with users := state.users + 1 }).moveTo i
      (.waiting url name attempt lock)
  | none =>
    let lock := crowd.count
    { (crowd.withLock lock { users := 1 }).moveTo i (.waiting url name attempt lock) with
      locks := set crowd.locks name (some lock), count := lock + 1 }

/-- The first look of a caller who may have to read. -/
def look (i : Nat) (url : Document) (attempt : Attempt) (crowd : Crowd) : Crowd :=
  match lockName? url with
  | none => crowd.moveTo i (.finished (.fault .wrongKind))
  | some name =>
    match crowd.cache.lookupValue url with
    | (some entry, after) =>
      { crowd with cache := { after with hits := after.hits + 1 } }.moveTo i
        (.finished (.entry (some entry)))
    | (none, after) => { crowd with cache := after }.register i url name attempt

/-- A call that needs no lock is one step. -/
def start (i : Nat) (call : Call) (crowd : Crowd) : Crowd :=
  match call with
  | .getOrParse url attempt => crowd.look i url attempt
  | call =>
    let ran := call.run crowd.cache
    { crowd with cache := ran.state, events := crowd.events ++ ran.events }.moveTo i
      (.finished ran.value)

/-- The second look, with the lock in hand. -/
def lookAgain (i : Nat) (url : Document) (name : LockName) (attempt : Attempt) (lock : Nat)
    (crowd : Crowd) : Crowd :=
  match crowd.cache.lookupValue url with
  | (some entry, after) =>
    { crowd with cache := { after with hits := after.hits + 1 } }.moveTo i
      (.releasing name (.entry (some entry)) lock)
  | (none, after) =>
    { crowd with cache := { after with misses := after.misses + 1 } }.moveTo i
      (.reading url name attempt lock)

/-- Reads the content. -/
def read (i : Nat) (url : Document) (name : LockName) (attempt : Attempt) (lock : Nat)
    (crowd : Crowd) : Crowd :=
  let ran := attempt.run crowd.cache
  { crowd with
    cache := ran.state, events := crowd.events ++ ran.events, reads := crowd.reads ++ [i] }.moveTo i
    (.concluding url name ran.value lock)

/-- Stores what was read, or counts the failure. -/
def conclude (i : Nat) (url : Document) (name : LockName) (result : Except Fault Document)
    (lock : Nat) (crowd : Crowd) : Crowd :=
  let ran := crowd.cache.conclude url result
  { crowd with cache := ran.state, events := crowd.events ++ ran.events }.moveTo i
    (.releasing name (.of .entry ran.value) lock)

/-- Gives the lock back. -/
def release (i : Nat) (name : LockName) (reply : Reply) (lock : Nat) (crowd : Crowd) : Crowd :=
  (crowd.withLock lock { crowd.made lock with holder := none }).moveTo i (.leaving name reply lock)

/-- Leaves. The last one who leaves takes the lock away. -/
def leave (i : Nat) (name : LockName) (reply : Reply) (lock : Nat) (crowd : Crowd) : Crowd :=
  let state := { crowd.made lock with users := (crowd.made lock).users - 1 }
  let left := (crowd.withLock lock state).moveTo i (.finished reply)
  if state.users = 0 ∧ crowd.locks name = some lock then
    { left with locks := set left.locks name none }
  else left

/-- The next step of a caller; none if it has to wait or is done. -/
def advance? (i : Nat) (crowd : Crowd) : Option Crowd :=
  match crowd.callers i with
  | none => none
  | some (.arrived call) => some (crowd.start i call)
  | some (.waiting url name attempt lock) =>
    let state := crowd.made lock
    if state.holder.isNone then
      some ((crowd.withLock lock { state with holder := some i }).moveTo i
        (.holding url name attempt lock))
    else none
  | some (.holding url name attempt lock) => some (crowd.lookAgain i url name attempt lock)
  | some (.reading url name attempt lock) => some (crowd.read i url name attempt lock)
  | some (.concluding url name result lock) => some (crowd.conclude i url name result lock)
  | some (.releasing name reply lock) => some (crowd.release i name reply lock)
  | some (.leaving name reply lock) => some (crowd.leave i name reply lock)
  | some (.finished _) => none

/-! ## Runs -/

/-- What can happen next. -/
inductive Action
  | arrive (call : Call)
  | advance (caller : Nat)

/-- What an action leads to, if it can happen. -/
def act? : Action → Crowd → Option Crowd
  | .arrive call, crowd => some (crowd.arrive call)
  | .advance i, crowd => crowd.advance? i

/-- Everything that can come of a cache that nobody uses yet. -/
inductive Reachable (cache : Cache) : Crowd → Prop
  | start : Reachable cache { cache }
  | step {crowd next : Crowd} (action : Action) :
    Reachable cache crowd → crowd.act? action = some next → Reachable cache next

/-- Moves a caller on by at most so many steps. -/
def advanceBy : (steps : Nat) → (i : Nat) → Crowd → Crowd
  | 0, _, crowd => crowd
  | steps + 1, i, crowd =>
    match crowd.advance? i with
    | some next => advanceBy steps i next
    | none => crowd

/-- The steps from the arrival to the reading of a content. -/
def stepsToReading : Nat := 3

/-- The steps from the arrival to the end. -/
def stepsToEnd : Nat := 7

/-- The first caller comes and goes on until it is about to read; all others come
    while it does. Then they finish in the order of their coming. -/
def meet (first : Call) (others : List Call) (cache : Cache) : Crowd :=
  let inside := advanceBy stepsToReading 0 (arrive first { cache })
  let full := others.foldl (fun crowd call => advanceBy 1 crowd.arrived (crowd.arrive call)) inside
  (List.range full.arrived).foldl (fun crowd i => advanceBy stepsToEnd i crowd) full

/-- The replies of all callers who are done, in the order of their coming. -/
def replies (crowd : Crowd) : List Reply :=
  (List.range crowd.arrived).filterMap fun i => (crowd.callers i).bind Stage.reply?

end Crowd

end Gleaner.Cache
