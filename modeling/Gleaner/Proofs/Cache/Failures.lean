import Gleaner.Proofs.Cache.Ahead
import Gleaner.Proofs.Cache.Counters
import Gleaner.Proofs.Crowd.Alone

/-! # What is left of a failed reading

    A deserializer that ends with a fault has been counted as a miss, and as a failure if
    the content was not valid. Nothing else is left of the call: the entries and their order
    are as they were, nothing was evicted, and the lock is gone. So all later calls go as if
    the call had not been made, but for the figures that `stats` shows, and even these are
    the same once the cache has been cleared.
-/

namespace Gleaner.Cache

variable {cache : Cache} {url : Document} {misses failures : Nat}

/-! ## Calls on a cache that is ahead -/

/-- How many calls are made before the cache is cleared. -/
def untilClear (calls : List Call) : Nat :=
  (calls.takeWhile fun call => !call.clears).length

/-- A run on a cache that has counted more, in terms of the run on the other one. A clearing
    puts an end to the difference. -/
def aheadUntilClear (misses failures : Nat) (calls : List Call) (ran : Ran Cache (List Reply)) :
    Ran Cache (List Reply) :=
  let recent := untilClear calls
  ⟨(ran.value.take recent).map (Reply.ahead misses failures) ++ ran.value.drop recent,
    if calls.any Call.clears then ran.state else ran.state.ahead misses failures, ran.events⟩

/-- The induction is on the calls. Up to a clearing the caches stay apart, and from then on
    they are the same. -/
theorem runAll_ahead (calls : List Call) (misses failures : Nat) (cache : Cache) :
    runAll calls (cache.ahead misses failures) =
      aheadUntilClear misses failures calls (runAll calls cache) := by
  induction calls generalizing cache with
  | nil => rfl
  | cons call calls ih =>
    by_cases hclear : call = .clear
    · -- the clearing sets both caches to the same
      subst hclear
      rfl
    · simp [runAll, Call.run_ahead hclear, ih, aheadUntilClear, untilClear,
        Call.clears_eq_false hclear]

/-! ## The failed call -/

/-- The call of a deserializer that ends at once with a fault. -/
def Call.failing (url : Document) (fault : Fault) : Call :=
  .getOrParse url (.ended (.error fault))

theorem run_failing (misses : cache.Misses url) (fault : Fault) :
    (Call.failing url fault).run cache =
      ⟨.of .entry (replyOf url (.error fault)), cache.ahead 1 (failureCount (.error fault)),
        failureReport url (.error fault)⟩ := by
  have hreply : ∀ entry, replyOf url (.error fault) ≠ .ok (some entry) := by
    intro entry h
    obtain ⟨document, hdocument, -⟩ := replyOf_eq_some_iff.mp h
    cases hdocument
  simp only [Call.failing, Call.run, getOrParse_ended_of_absent misses.1 misses.2,
    conclude_of_no_entry hreply]
  rfl

/-- **A failed parse leaves no trace.** Some calls are made to a cache, then one for a URL
    without an entry, whose deserializer ends at once with a fault, and then others. The
    failed call gets no entry if the content was not valid, and its own fault otherwise; it
    counts one miss, and one failure in the first case, of which it also gives one warning;
    it changes and evicts no entry. All other calls get the same replies, leave the same
    entries in the same order and report the same events as if the call had not been made,
    but that until the cache is cleared the figures show what the call counted.

    Of a caller who makes the call after others did theirs, no lock stays behind. -/
theorem runAll_failing (start : Cache) (earlier later : List Call) (url : Document)
    (fault : Fault) (misses : (runAll earlier start).state.Misses url) :
    let before := runAll earlier start
    let failed := (Call.failing url fault).run before.state
    let count := failureCount (.error fault)
    let without := runAll (earlier ++ later) start
    let whole := runAll (earlier ++ .failing url fault :: later) start
    let rest := runAll later before.state
    let apart := aheadUntilClear 1 count later rest
    ((∀ reason, fault = .unreadable reason →
        failed = ⟨.entry none, before.state.ahead 1 1, [.documentUnreadable url reason]⟩) ∧
      ((∀ reason, fault ≠ .unreadable reason) →
        failed = ⟨.fault fault, before.state.ahead 1 0, []⟩) ∧
      failed.state.Misses url) ∧
    without = ⟨before.value ++ rest.value, rest.state, before.events ++ rest.events⟩ ∧
    whole = ⟨before.value ++ failed.value :: apart.value, apart.state,
      before.events ++ failed.events ++ rest.events⟩ ∧
    let crowd := Crowd.inTurn earlier { cache := start }
    crowd.cache = before.state ∧ (Crowd.alone (.failing url fault) crowd).cache = failed.state ∧
      (Crowd.alone (.failing url fault) crowd).locks = crowd.locks := by
  intro before failed count without whole rest apart
  have hfailed : failed = ⟨.of .entry (replyOf url (.error fault)), before.state.ahead 1 count,
      failureReport url (.error fault)⟩ := run_failing misses fault
  refine ⟨⟨?_, ?_, ?_⟩, ?_, ?_, ?_⟩
  · rintro reason rfl
    exact hfailed
  · intro other
    rw [hfailed]
    cases fault with
    | unreadable reason => exact absurd rfl (other reason)
    | _ => rfl
  · rw [hfailed]
    exact misses
  · exact runAll_append earlier later start
  · -- what the failed call counted is all that the later calls can tell
    have hlater : runAll later failed.state = apart := by
      rw [hfailed]
      exact runAll_ahead later 1 count before.state
    have hevents : apart.events = rest.events := rfl
    simp only [whole, runAll_append, runAll]
    rw [hlater, hevents, List.append_assoc]
  · intro crowd
    obtain ⟨hcache, -, -, hlocks⟩ :=
      @Crowd.inTurn_of_no_locks { cache := start } (fun _ => rfl) earlier
    have hserved := Crowd.served_alone (Crowd.free_of_no_locks hlocks (.failing url fault))
    refine ⟨hcache, ?_, hserved.locks⟩
    rw [hserved.cache, hcache]

/-- The failed call finds the cache full. The figures differ by it before the clearing, and
    not after it. -/
theorem runAll_failing_full :
    let read (url : Text) : Call := .getOrParse (.string url) (.ended (.ok .null))
    let failing : Call := .failing (.string "b") (.unreadable "?")
    let start := bounded 1 (by decide)
    let later : List Call := [.get (.string "a"), .stats, .clear, .stats]
    let without := runAll ([read "a"] ++ later) start
    let whole := runAll ([read "a"] ++ failing :: later) start
    let first : Reply := .entry (some ⟨"a", .null⟩)
    without.value = [first, first, .stats ⟨1, some 1, 0, 1, 0, 0⟩, .done,
        .stats ⟨0, some 1, 0, 0, 0, 0⟩] ∧
      whole.value = [first, .entry none, first, .stats ⟨1, some 1, 0, 2, 1, 0⟩, .done,
        .stats ⟨0, some 1, 0, 0, 0, 0⟩] ∧
      whole.state = without.state ∧
      (failing.run (runAll [read "a"] start).state).state.urls = ["a"] ∧
      (Crowd.alone failing (Crowd.inTurn [read "a"] { cache := start })).locks =
        (Crowd.inTurn [read "a"] { cache := start }).locks := by
  intro read failing start later without whole first
  have misses : (runAll [read "a"] start).state.Misses (.string "b") := by decide
  obtain ⟨⟨hunreadable, -, -⟩, hwithout, hwhole, -, -, hlocks⟩ :=
    runAll_failing start [read "a"] later (.string "b") (.unreadable "?") misses
  have hfailed := hunreadable "?" rfl
  refine ⟨congrArg Ran.value hwithout, congrArg Ran.value hwhole, ?_, ?_, hlocks⟩
  · exact (congrArg Ran.state hwhole).trans (congrArg Ran.state hwithout).symm
  · rw [hfailed]
    rfl

end Gleaner.Cache
