import Gleaner.Proofs.Cache.Attempts

/-! # What a call does, access by access

    No caller has a cache to itself for a whole call. A caller who misses looks twice,
    reads the content, and comes back with what was read; in between, others are at the
    cache. `Access` lists what is done to a cache at a time, and `accesses` what a call
    does to it one after the other, together with all that its deserializer does to the
    same cache on the way.

    The accesses of a call lead to the state that the call leaves. So what every access
    keeps holds at every moment of every run, whoever else is at the cache. -/

namespace Gleaner

namespace Cache

/-! ## Accesses -/

/-- What is done to a cache at a time. -/
inductive Access
  /-- The first look of a caller who may have to read. A hit is counted. -/
  | look (url : Document)
  /-- The look right before reading. A hit is counted, or a miss. -/
  | lookAgain (url : Document)
  | countFailure
  | store (entry : Entry)
  | get (url : Document)
  | invalidate (url : Document)
  | clear
  /-- A look at the figures, or the end of a call that was registered with a lock. Neither
      touches entries or counters. -/
  | glance

/-- The cache after an access. -/
def Access.run : Access → Cache → Cache
  | look url, cache => if (cache.held? url).isSome then cache.used url else cache
  | lookAgain url, cache => if (cache.held? url).isSome then cache.used url else cache.missed
  | countFailure, cache => { cache with failures := cache.failures + 1 }
  | store entry, cache => (cache.store entry).state
  | get url, cache => (cache.get url).state
  | invalidate url, cache => (cache.invalidate url).state
  | clear, cache => cache.clear.state
  | glance, cache => cache

/-- The cache after accesses, one after the other. -/
def after (accesses : List Access) (cache : Cache) : Cache :=
  accesses.foldl (fun cache access => access.run cache) cache

@[simp] theorem after_nil (cache : Cache) : after [] cache = cache := rfl

@[simp] theorem after_cons (access : Access) (accesses : List Access) (cache : Cache) :
    after (access :: accesses) cache = after accesses (access.run cache) := rfl

@[simp] theorem after_append (first rest : List Access) (cache : Cache) :
    after (first ++ rest) cache = after rest (after first cache) :=
  List.foldl_append

/-! ## The accesses of a call -/

/-- The access by which a caller comes back from reading, if there is anything to store
    or to count. -/
def closing (url : Document) (result : Except Fault Document) : List Access :=
  match replyOf url result with
  | .ok (some entry) => [.store entry]
  | .ok none => [.countFailure]
  | .error _ => []

/-- The accesses of a caller who reads on a miss. What the reading does to the cache is
    `inside`. -/
def visit (read : Cache → Ran Cache (Except Fault Document)) (inside : Cache → List Access)
    (url : Document) (cache : Cache) : List Access :=
  if isNoKey url ∨ (cache.held? url).isSome then [.look url]
  else
    [.look url, .lookAgain url] ++ inside cache.missed ++
      closing url (read cache.missed).value ++ [.glance]

end Cache

/-- The accesses of a deserializer to the cache that it is run by. -/
def Attempt.accesses : Attempt → Cache → List Cache.Access
  | ended _, _ => []
  | nested url inner next, cache =>
    let reply := cache.getOrParse url inner
    Cache.visit inner.run inner.accesses url cache ++ (next reply.value).accesses reply.state
  | rival entry next, cache => .store entry :: next.accesses (cache.store entry).state

namespace Cache

/-- The accesses of a call. -/
def Call.accesses : Call → Cache → List Access
  | .getOrParse url attempt, cache => visit attempt.run attempt.accesses url cache
  | .get url, _ => [.get url]
  | .contains _, _ => [.glance]
  | .size, _ => [.glance]
  | .invalidate url, _ => [.invalidate url]
  | .clear, _ => [.clear]
  | .stats, _ => [.glance]

/-- The accesses of calls that are carried out one after the other. -/
def accessesOf : List Call → Cache → List Access
  | [], _ => []
  | call :: calls, cache => call.accesses cache ++ accessesOf calls (call.run cache).state

/-! ## Where the accesses of a call lead -/

variable {cache : Cache} {url : Document}

theorem after_closing (url : Document) (result : Except Fault Document) (cache : Cache) :
    after (closing url result) cache = (cache.conclude url result).state := by
  cases result with
  | ok document =>
    cases h : Entry.ofValues url document with
    | ok entry => simp [closing, replyOf, h, Except.map, Access.run, conclude, finish]
    | error fault => simp [closing, replyOf, h, Except.map, conclude, finish]
  | error fault => cases fault <;> rfl

/-- If the reading goes where its accesses lead, so does the whole visit. -/
theorem after_visit {attempt : Attempt}
    (inside : ∀ cache, after (attempt.accesses cache) cache = (attempt.run cache).state)
    (url : Document) (cache : Cache) :
    after (visit attempt.run attempt.accesses url cache) cache =
      (cache.getOrParse url attempt).state := by
  by_cases hkey : isNoKey url = true
  · simp [visit, hkey, getOrParse_of_isNoKey hkey, Access.run, held?_of_isNoKey hkey]
  · rw [Bool.not_eq_true] at hkey
    cases hheld : cache.held? url with
    | some entry => simp [visit, hheld, getOrParse_of_present hheld, Access.run]
    | none =>
      -- both looks find nothing, and what follows starts from the counted miss
      have hvisit : after (visit attempt.run attempt.accesses url cache) cache =
          after (closing url (attempt.run cache.missed).value)
            (after (attempt.accesses cache.missed) cache.missed) := by
        simp [visit, hkey, hheld, Access.run]
      rw [hvisit, inside, after_closing, getOrParse_of_absent hkey hheld]

theorem after_attempt (attempt : Attempt) (cache : Cache) :
    after (attempt.accesses cache) cache = (attempt.run cache).state := by
  induction attempt generalizing cache with
  | ended result => rfl
  | nested url inner next ihInner ihNext =>
    simp only [Attempt.accesses, after_append, after_visit ihInner]
    exact ihNext _ _
  | rival entry next ih => exact ih (cache.store entry).state

theorem after_call (call : Call) (cache : Cache) :
    after (call.accesses cache) cache = (call.run cache).state := by
  cases call with
  | getOrParse url attempt => exact after_visit (after_attempt attempt) url cache
  | _ => rfl

/-- The accesses of a run, and all that its deserializers do in between, lead to the cache
    that the run leaves. -/
theorem after_accessesOf (calls : List Call) (cache : Cache) :
    after (accessesOf calls cache) cache = (runAll calls cache).state := by
  induction calls generalizing cache with
  | nil => rfl
  | cons call calls ih =>
    rw [accessesOf, after_append, after_call]
    exact ih (call.run cache).state

end Cache

end Gleaner
