import Gleaner.Proofs.Cache.Entries

/-! # Counters that are ahead

    Two caches may differ in what they have counted and in nothing else: one has counted
    a miss early, or a failure that the other one never saw. Of all calls only `stats`
    shows the counters, and only `clear` sets them back. So all other calls get the same
    from both caches, and leave them as far apart as they were.
-/

namespace Gleaner

namespace Cache

/-- The cache with more misses and more failures. -/
def ahead (misses failures : Nat) (cache : Cache) : Cache :=
  { cache with misses := cache.misses + misses, failures := cache.failures + failures }

variable {misses failures : Nat}

@[simp] theorem held?_ahead (misses failures : Nat) (url : Document) (cache : Cache) :
    (cache.ahead misses failures).held? url = cache.held? url := rfl

@[simp] theorem ahead_zero (cache : Cache) : cache.ahead 0 0 = cache := rfl

theorem ahead_ahead (misses failures misses' failures' : Nat) (cache : Cache) :
    (cache.ahead misses failures).ahead misses' failures' =
      cache.ahead (misses + misses') (failures + failures') := by
  simp [ahead, Nat.add_assoc]

theorem missed_eq_ahead (cache : Cache) : cache.missed = cache.ahead 1 0 := rfl

theorem missed_ahead (misses failures : Nat) (cache : Cache) :
    (cache.ahead misses failures).missed = cache.missed.ahead misses failures := by
  simp only [missed_eq_ahead, ahead_ahead, Nat.add_comm]

/-! ## What is done to a cache -/

theorem lookupValue_ahead (misses failures : Nat) (url : Document) (cache : Cache) :
    (cache.ahead misses failures).lookupValue url =
      ((cache.lookupValue url).1, (cache.lookupValue url).2.ahead misses failures) := by
  cases url with
  | string text =>
    cases hentry : cache.entries.get? text with
    | none => simp [lookupValue, lookup, ahead, hentry]
    | some entry => by_cases h : cache.bound.isSome <;> simp [lookupValue, lookup, ahead, hentry, h]
  | _ => rfl

theorem used_ahead (misses failures : Nat) (url : Document) (cache : Cache) :
    (cache.ahead misses failures).used url = (cache.used url).ahead misses failures := by
  unfold used
  rw [lookupValue_ahead]
  rfl

theorem store_ahead (misses failures : Nat) (entry : Entry) (cache : Cache) :
    (cache.ahead misses failures).store entry =
      (cache.store entry).onState (ahead misses failures) := by
  simp only [store, ahead]
  cases cache.entries.get? entry.url <;> rfl

theorem conclude_ahead (misses failures : Nat) (url : Document) (result : Except Fault Document)
    (cache : Cache) :
    (cache.ahead misses failures).conclude url result =
      (cache.conclude url result).onState (ahead misses failures) := by
  cases result with
  | ok document =>
    simp only [conclude, finish]
    cases Entry.ofValues url document with
    | error fault => rfl
    | ok entry =>
      simp only [store_ahead]
      rfl
  | error fault =>
    cases fault with
    | unreadable reason =>
      simp only [conclude, ahead, Ran.onState]
      congr 2
      omega
    | _ => rfl

/-- If the reading goes the same way, so does the call that reads on a miss. -/
theorem getOrParse_ahead {attempt : Attempt}
    (hread : ∀ cache, attempt.run (ahead misses failures cache) =
      (attempt.run cache).onState (ahead misses failures)) (url : Document) (cache : Cache) :
    (cache.ahead misses failures).getOrParse url attempt =
      (cache.getOrParse url attempt).onState (ahead misses failures) := by
  by_cases hkey : isNoKey url = true
  · rw [getOrParse_of_isNoKey hkey, getOrParse_of_isNoKey hkey]
    rfl
  · rw [Bool.not_eq_true] at hkey
    cases hheld : cache.held? url with
    | some entry =>
      have hahead : (cache.ahead misses failures).held? url = some entry := hheld
      rw [getOrParse_of_present hheld, getOrParse_of_present hahead, used_ahead]
      rfl
    | none =>
      have hahead : (cache.ahead misses failures).held? url = none := hheld
      rw [getOrParse_of_absent hkey hheld, getOrParse_of_absent hkey hahead, missed_ahead, hread]
      simp only [Ran.onState, conclude_ahead]

end Cache

/-- The induction is on the attempt, which sees of the cache nothing but replies. -/
theorem Attempt.run_ahead (attempt : Attempt) (misses failures : Nat) (cache : Cache) :
    attempt.run (cache.ahead misses failures) =
      (attempt.run cache).onState (Cache.ahead misses failures) := by
  induction attempt generalizing cache with
  | ended result => rfl
  | nested url inner next ihInner ihNext =>
    have hreply : (cache.ahead misses failures).getOrParseWith inner.run url =
        (cache.getOrParseWith inner.run url).onState (Cache.ahead misses failures) :=
      Cache.getOrParse_ahead ihInner url cache
    simp only [run, hreply, Ran.onState, ihNext]
  | rival entry next ih => simp only [run, Cache.store_ahead, Ran.onState, ih]

namespace Cache

/-! ## Calls -/

/-- The reply of a cache that has more misses and more failures. -/
def Reply.ahead (misses failures : Nat) : Reply → Reply
  | .stats shown =>
    .stats { shown with misses := shown.misses + misses, failures := shown.failures + failures }
  | reply => reply

@[simp] theorem Reply.ahead_of_entry (misses failures : Nat)
    (result : Except Fault (Option Entry)) :
    (Reply.of .entry result).ahead misses failures = .of .entry result := by
  cases result <;> rfl

@[simp] theorem Reply.ahead_of_flag (misses failures : Nat) (result : Except Fault Bool) :
    (Reply.of .flag result).ahead misses failures = .of .flag result := by
  cases result <;> rfl

/-- Every call but `clear` finds the caches apart, and leaves them as far apart. -/
theorem Call.run_ahead {call : Call} (keeps : call ≠ .clear) (misses failures : Nat)
    (cache : Cache) :
    call.run (cache.ahead misses failures) =
      ⟨(call.run cache).value.ahead misses failures,
        (call.run cache).state.ahead misses failures, (call.run cache).events⟩ := by
  cases call with
  | getOrParse url attempt =>
    simp only [Call.run, getOrParse_ahead (attempt.run_ahead misses failures), Ran.onState, Ran.map,
      Reply.ahead_of_entry]
  | get url =>
    simp only [Call.run, Cache.get, lookupValue_ahead]
    cases isNoKey url <;> rfl
  | contains url =>
    simp only [Call.run, Cache.contains, lookupValue_ahead, Reply.ahead_of_flag]
  | size => rfl
  | invalidate url =>
    simp only [Call.run, Cache.invalidate]
    cases isNoKey url with
    | true => rfl
    | false =>
      cases url with
      | string text =>
        simp only [urls, ahead]
        by_cases h : text ∈ cache.entries.keys <;>
          simp [h, Ran.map, Reply.of, Reply.ahead]
      | _ => rfl
  | clear => exact absurd rfl keeps
  | stats => simp [Call.run, Cache.stats, Reply.ahead, ahead, Cache.size]

end Cache

end Gleaner
