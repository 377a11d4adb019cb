import Gleaner.Proofs.Crowd.Steps

/-! # A caller alone

    A caller who comes when nobody is registered for its URL, and whom nobody disturbs
    until it is done, gets what the call gets, and does to the cache what the call does.
    The lock that it made is gone when it leaves, whatever its reply. So callers who come
    one after the other find no lock, and are served as `runAll` serves their calls.
-/

namespace Gleaner.Cache.Crowd

variable {crowd : Crowd} {url : Document} {name : LockName} {attempt : Attempt} {call : Call}
  {i lock : Nat} {entry : Entry}

/-! ## Functional update -/

section Set

variable {α β : Type} [DecidableEq α] {f : α → β} {x : α}

@[simp] theorem set_set (f : α → β) (x : α) (first last : β) :
    set (set f x first) x last = set f x last := by
  funext y
  by_cases h : y = x <;> simp [set, h]

theorem set_eq_self {value : β} (h : f x = value) : set f x value = f := by
  funext y
  by_cases hy : y = x
  · rw [hy, set_self, h]
  · rw [set_ne f value hy]

end Set

/-! ## Steps of one caller -/

theorem advanceBy_of_done (h : crowd.advance? i = none) (steps : Nat) :
    advanceBy steps i crowd = crowd := by
  cases steps with
  | zero => rfl
  | succ steps => simp [advanceBy, h]

theorem advanceBy_of_advance {next : Crowd} (h : crowd.advance? i = some next) (steps : Nat) :
    advanceBy (steps + 1) i crowd = advanceBy steps i next := by
  simp [advanceBy, h]

theorem advanceBy_add (first more i : Nat) (crowd : Crowd) :
    advanceBy (first + more) i crowd = advanceBy more i (advanceBy first i crowd) := by
  induction first generalizing crowd with
  | zero => rw [Nat.zero_add, advanceBy]
  | succ first ih =>
    cases h : crowd.advance? i with
    | none => simp only [advanceBy_of_done h]
    | some next => rw [Nat.succ_add, advanceBy_of_advance h, advanceBy_of_advance h, ih]

/-- Who is done makes no more steps. -/
theorem advanceBy_of_finished {reply : Reply} {next : Crowd} (h : crowd.advance? i = some next)
    (done : next.callers i = some (.finished reply)) (steps : Nat) :
    advanceBy (steps + 1) i crowd = next := by
  rw [advanceBy_of_advance h]
  exact advanceBy_of_done (by simp [advance?, done]) steps

/-! ## The way of a miss -/

/-- From the arrival to the reading, with a lock that is new. -/
theorem advanceBy_stepsToReading (hname : lockName? url = some name)
    (absent : crowd.cache.held? url = none) (free : crowd.locks name = none) :
    advanceBy stepsToReading crowd.arrived (crowd.arrive (.getOrParse url attempt)) =
      { crowd with
        cache := crowd.cache.missed
        callers := set crowd.callers crowd.arrived (some (.reading url name attempt crowd.count))
        arrived := crowd.arrived + 1
        locks := set crowd.locks name (some crowd.count)
        made := set crowd.made crowd.count { users := 1, holder := some crowd.arrived }
        count := crowd.count + 1 } := by
  have hlook := lookupValue_of_held?_eq_none absent
  simp [stepsToReading, advanceBy, advance?, arrive, moveTo, withLock, start, look, register,
    lookAgain, hname, hlook, free, missed]

/-- The steps from the reading of a content to the end. -/
def stepsFromReading : Nat := 4

/-- From the reading to the end, if nobody else is registered with the lock. -/
theorem advanceBy_stepsFromReading
    (reading : crowd.callers i = some (.reading url name attempt lock))
    (registered : crowd.locks name = some lock) (users : (crowd.made lock).users = 1) :
    let ran := attempt.run crowd.cache
    let done := ran.state.conclude url ran.value
    advanceBy stepsFromReading i crowd =
      { crowd with
        cache := done.state
        callers := set crowd.callers i (some (.finished (.of .entry done.value)))
        locks := set crowd.locks name none
        made := set crowd.made lock {}
        reads := crowd.reads ++ [i]
        events := crowd.events ++ ran.events ++ done.events } := by
  simp [stepsFromReading, advanceBy, advance?, moveTo, withLock, Crowd.read, conclude, release,
    leave, reading, registered, users]

/-! ## A whole call -/

/-- A caller comes and goes on to the end. -/
def alone (call : Call) (crowd : Crowd) : Crowd :=
  advanceBy stepsToEnd crowd.arrived (crowd.arrive call)

/-- The call need not share a lock with anyone. -/
def Free (crowd : Crowd) : Call → Prop
  | .getOrParse url _ => ∀ name, lockName? url = some name → crowd.locks name = none
  | _ => True

/-- One more caller has come and is done, and got and left what the call does. -/
structure Served (call : Call) (before after : Crowd) : Prop where
  reply   : after.callers before.arrived = some (.finished (call.run before.cache).value)
  others  : ∀ i, i ≠ before.arrived → after.callers i = before.callers i
  arrived : after.arrived = before.arrived + 1
  cache   : after.cache = (call.run before.cache).state
  events  : after.events = before.events ++ (call.run before.cache).events
  locks   : after.locks = before.locks

/-- Who answers at once does so with the first step. -/
theorem alone_of_answer (answer : call.isParse = false) :
    alone call crowd =
      { crowd.withRan (call.run crowd.cache) with
        callers := set crowd.callers crowd.arrived (some (.finished (call.run crowd.cache).value))
        arrived := crowd.arrived + 1 } := by
  rw [alone, stepsToEnd]
  cases call with
  | getOrParse url attempt => simp [Call.isParse] at answer
  | _ =>
    exact advanceBy_of_finished (by simp [advance?, arrive, moveTo, start, withRan])
      (set_self _ _ _) _

theorem alone_of_refused (key : isNoKey url = true) :
    alone (.getOrParse url attempt) crowd =
      { crowd with
        callers := set crowd.callers crowd.arrived (some (.finished (.fault .wrongKind)))
        arrived := crowd.arrived + 1 } := by
  have hname := lockName?_eq_none_iff.mpr key
  rw [alone, stepsToEnd]
  exact advanceBy_of_finished (by simp [advance?, arrive, moveTo, start, look, hname])
    (set_self _ _ _) _

theorem alone_of_hit (hname : lockName? url = some name)
    (held : crowd.cache.held? url = some entry) :
    alone (.getOrParse url attempt) crowd =
      { crowd with
        cache := crowd.cache.used url
        callers := set crowd.callers crowd.arrived (some (.finished (.entry (some entry))))
        arrived := crowd.arrived + 1 } := by
  obtain ⟨hlooked, hused⟩ := lookupValue_of_present held
  rw [alone, stepsToEnd, ← hused]
  refine advanceBy_of_finished ?_ (set_self _ _ _) _
  simp only [advance?, arrive, moveTo, start, look, set_self, hname, set_set]
  rw [hlooked]

theorem alone_of_miss (hname : lockName? url = some name)
    (absent : crowd.cache.held? url = none) (free : crowd.locks name = none) :
    let ran := attempt.run crowd.cache.missed
    let done := ran.state.conclude url ran.value
    alone (.getOrParse url attempt) crowd =
      { crowd with
        cache := done.state
        callers := set crowd.callers crowd.arrived (some (.finished (.of .entry done.value)))
        arrived := crowd.arrived + 1
        made := set crowd.made crowd.count {}
        count := crowd.count + 1
        reads := crowd.reads ++ [crowd.arrived]
        events := crowd.events ++ ran.events ++ done.events } := by
  intro ran done
  have hsteps : stepsToEnd = stepsToReading + stepsFromReading := rfl
  rw [alone, hsteps, advanceBy_add, advanceBy_stepsToReading hname absent free,
    advanceBy_stepsFromReading (set_self _ _ _) (set_self _ _ _)
      (congrArg KeyLock.users (set_self _ _ _))]
  -- the name is written to the table and taken out again, which leaves it as it was
  simp only [set_set, set_eq_self free, ran, done]

/-- By what the caller finds: no need of a lock, a value that is no key, an entry, or none. -/
theorem served_alone (free : crowd.Free call) : Served call crowd (alone call crowd) := by
  cases hparse : call.isParse with
  | false =>
    rw [alone_of_answer hparse]
    exact ⟨set_self _ _ _, fun i hi => set_ne _ _ hi, rfl, rfl, rfl, rfl⟩
  | true =>
    cases call with
    | getOrParse url attempt =>
      cases hname : lockName? url with
      | none =>
        have key := lockName?_eq_none_iff.mp hname
        have hrun : (Call.getOrParse url attempt).run crowd.cache =
            ⟨.fault .wrongKind, crowd.cache, []⟩ := by
          simp only [Call.run, getOrParse_of_isNoKey key]
          rfl
        rw [alone_of_refused key]
        refine ⟨?_, fun i hi => set_ne _ _ hi, rfl, ?_, ?_, rfl⟩ <;> simp [hrun]
      | some name =>
        have key : isNoKey url = false := by
          rw [← Bool.not_eq_true, ← lockName?_eq_none_iff, hname]
          exact Option.some_ne_none name
        cases hheld : crowd.cache.held? url with
        | some entry =>
          have hrun : (Call.getOrParse url attempt).run crowd.cache =
              ⟨.entry (some entry), crowd.cache.used url, []⟩ := by
            simp only [Call.run, getOrParse_of_present hheld]
            rfl
          rw [alone_of_hit hname hheld]
          refine ⟨?_, fun i hi => set_ne _ _ hi, rfl, ?_, ?_, rfl⟩ <;> simp [hrun]
        | none =>
          rw [alone_of_miss hname hheld (free name hname)]
          refine ⟨?_, fun i hi => set_ne _ _ hi, rfl, ?_, ?_, rfl⟩ <;>
            simp [Call.run, Ran.map, getOrParse_of_absent key hheld]
    | _ => simp [Call.isParse] at hparse

/-! ## One caller after the other -/

theorem Served.replies {before after : Crowd} (served : Served call before after) :
    after.replies = before.replies ++ [(call.run before.cache).value] := by
  have hothers : ∀ i ∈ List.range before.arrived,
      (after.callers i).bind Stage.reply? = (before.callers i).bind Stage.reply? := by
    intro i hi
    rw [served.others i (List.mem_range.mp hi).ne]
  rw [Crowd.replies, served.arrived, List.range_succ, List.filterMap_append,
    List.filterMap_congr hothers]
  simp [Crowd.replies, served.reply, Stage.reply?]

/-- Callers who come one after the other, each when the one before is done. -/
def inTurn : List Call → Crowd → Crowd
  | [], crowd => crowd
  | call :: calls, crowd => inTurn calls (alone call crowd)

theorem free_of_no_locks (noLocks : ∀ name, crowd.locks name = none) (call : Call) :
    crowd.Free call := by
  cases call with
  | getOrParse url attempt => exact fun name _ => noLocks name
  | _ => trivial

/-- Callers in turn are served as `runAll` serves their calls, and leave no lock behind. The
    induction is on the callers still to come. -/
theorem inTurn_of_no_locks (noLocks : ∀ name, crowd.locks name = none) (calls : List Call) :
    (inTurn calls crowd).cache = (runAll calls crowd.cache).state ∧
      (inTurn calls crowd).replies = crowd.replies ++ (runAll calls crowd.cache).value ∧
      (inTurn calls crowd).events = crowd.events ++ (runAll calls crowd.cache).events ∧
      ∀ name, (inTurn calls crowd).locks name = none := by
  induction calls generalizing crowd with
  | nil => simp [inTurn, runAll, noLocks]
  | cons call calls ih =>
    -- the first caller takes its lock away, so the next one finds the table empty again
    have served := served_alone (free_of_no_locks noLocks call)
    have hafter : ∀ name, (alone call crowd).locks name = none := by
      rw [served.locks]
      exact noLocks
    obtain ⟨hcache, hreplies, hevents, hlocks⟩ := ih hafter
    rw [served.cache] at hcache hreplies hevents
    rw [served.replies, List.append_assoc] at hreplies
    rw [served.events, List.append_assoc] at hevents
    exact ⟨hcache, hreplies, hevents, hlocks⟩

end Gleaner.Cache.Crowd
