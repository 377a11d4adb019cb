import Gleaner.Proofs.Cache.Bounds

/-! # Nothing is lost or counted twice

    The figures of a cache against what its callers saw. An `Inquiry` is a call of
    `getOrParse` that has come to its end, be it a caller's or that of a deserializer in
    the middle of one; it says how the content was read and what the call got, and
    nothing of the counters. `Balanced` says what the counters must have gained between
    two caches, given the inquiries and the invalidations in between: each inquiry is a
    hit or a miss, and a miss has left an entry, a failure or a fault.

    A deserializer that asks for a URL while its content is still being read would wait
    for itself, so such attempts are left out, and so are other writers who store without
    any inquiry. `WellNested` says this of the calls that an attempt does make. -/

namespace Gleaner

namespace Keyed

variable {α : Type} {key : Text} {pairs : Keyed α}

theorem length_erase (h : key ∈ pairs.keys) : (erase key pairs).length + 1 = pairs.length := by
  have hlength := congrArg List.length (keys_erase key pairs)
  have hpos := List.length_pos_of_mem h
  rw [List.length_erase_of_mem h] at hlength
  simp only [keys, List.length_map] at hlength hpos
  omega

theorem length_toEnd (key : Text) (pairs : Keyed α) : (toEnd key pairs).length = pairs.length := by
  rw [toEnd]
  split
  · next value hget =>
    have hmem : key ∈ pairs.keys := List.mem_map_of_mem (mem_of_get?_eq_some hget)
    rw [List.length_append, List.length_singleton, length_erase hmem]
  · rfl

end Keyed

namespace Cache

/-! ## Inquiries -/

/-- A call of `getOrParse` that has come to its end. -/
structure Inquiry where
  /-- What the deserializer ended with, if it was run. -/
  reading? : Option (Except Fault Document)
  reply    : Except Fault (Option Entry)

namespace Inquiry

/-- The deserializer found that the content is not valid. -/
def failed (inquiry : Inquiry) : Bool :=
  match inquiry.reading? with
  | some (.error (.unreadable _)) => true
  | _ => false

/-- The call left with a fault. -/
def faulted (inquiry : Inquiry) : Bool :=
  match inquiry.reply with
  | .error _ => true
  | .ok _ => false

end Inquiry

/-- The inquiries of a call of `getOrParse`: those that its deserializer makes, and then the
    call itself. What cannot be looked up at all is refused before anything is counted. -/
def inquiriesWith (read : Cache → Ran Cache (Except Fault Document))
    (inside : Cache → List Inquiry) (url : Document) (cache : Cache) : List Inquiry :=
  let reply := (cache.getOrParseWith read url).value
  if cache.Misses url then inside cache.missed ++ [⟨some (read cache.missed).value, reply⟩]
  else if isNoKey url then []
  else [⟨none, reply⟩]

end Cache

/-- The inquiries that an attempt makes when it is run on a cache. -/
def Attempt.inquiries : Attempt → Cache → List Cache.Inquiry
  | ended _, _ => []
  | nested url inner next, cache =>
    let reply := cache.getOrParse url inner
    Cache.inquiriesWith inner.run inner.inquiries url cache ++
      (next reply.value).inquiries reply.state
  | rival entry next, cache => next.inquiries (cache.store entry).state

/-- Run on a cache, the attempt asks for no URL whose content is still being read, and
    nobody else stores anything. -/
def Attempt.WellNested : Attempt → List Document → Cache → Prop
  | ended _, _, _ => True
  | nested url inner next, pending, cache =>
    let reply := cache.getOrParse url inner
    url ∉ pending ∧ (cache.Misses url → inner.WellNested (url :: pending) cache.missed) ∧
      (next reply.value).WellNested pending reply.state
  | rival _ _, _, _ => False

namespace Cache

variable {cache next mid : Cache} {url other : Document} {attempt : Attempt}
  {pending : List Document} {result : Except Fault Document} {dropped more : Nat}
  {asked others : List Inquiry}

/-- A call that does not have to read adds no entry. -/
theorem mem_entries_getOrParse_of_not_misses (h : ¬ cache.Misses url) (attempt : Attempt) :
    ∀ pair ∈ (cache.getOrParse url attempt).state.entries, pair ∈ cache.entries := by
  intro pair hpair
  by_cases hkey : isNoKey url = true
  · rwa [getOrParse_of_isNoKey hkey] at hpair
  · rw [Bool.not_eq_true] at hkey
    obtain ⟨entry, hheld⟩ := Option.ne_none_iff_exists'.mp fun hnone => h ⟨hkey, hnone⟩
    rw [getOrParse_of_present hheld] at hpair
    exact mem_entries_used hpair

/-- A URL whose content is being read has no entry when the reading ends. The induction is
    on the attempt, and with every inner attempt one more URL is being read. -/
theorem held?_run_of_wellNested (nested : attempt.WellNested pending cache)
    (reading : other ∈ pending) (absent : cache.held? other = none) :
    (attempt.run cache).state.held? other = none := by
  induction attempt generalizing pending cache with
  | ended result => exact absent
  | rival entry next ih => exact False.elim nested
  | nested url inner next ihInner ihNext =>
    obtain ⟨hurl, hinner, hnext⟩ := nested
    -- the inner call stores under its own URL only, which is not one that is being read
    have hne : other ≠ url := fun heq => hurl (heq ▸ reading)
    have hreply : (cache.getOrParse url inner).state.held? other = none := by
      by_cases hmisses : cache.Misses url
      · rw [getOrParse_of_absent hmisses.1 hmisses.2]
        have hread : (inner.run cache.missed).state.held? other = none :=
          ihInner (hinner hmisses) (List.mem_cons_of_mem _ reading) absent
        exact held?_conclude_eq_none hne hread _
      · exact held?_eq_none_of_subset (mem_entries_getOrParse_of_not_misses hmisses inner) absent
    exact ihNext _ hnext reading hreply

/-! ## Balance -/

/-- What the counters have gained between two caches, by the inquiries in between and the
    number of entries that were dropped. -/
structure Balanced (before after : Cache) (asked : List Inquiry) (dropped : Nat) : Prop where
  calls    : after.hits + after.misses = before.hits + before.misses + asked.length
  failures : after.failures = before.failures + asked.countP Inquiry.failed
  /-- What has been read is there, or was evicted or dropped, unless there was nothing to
      store. -/
  entries  : after.size + after.evictions + dropped + asked.countP Inquiry.failed +
    asked.countP Inquiry.faulted + before.misses = before.size + before.evictions + after.misses

theorem balanced_rfl (cache : Cache) : Balanced cache cache [] 0 := by
  constructor <;> simp

theorem Balanced.append (first : Balanced cache mid asked dropped)
    (second : Balanced mid next others more) :
    Balanced cache next (asked ++ others) (dropped + more) := by
  obtain ⟨hcalls, hfailures, hentries⟩ := first
  obtain ⟨hcalls', hfailures', hentries'⟩ := second
  constructor
  · rw [List.length_append]
    omega
  · rw [List.countP_append]
    omega
  · rw [List.countP_append, List.countP_append]
    omega

/-! ## What single operations gain -/

/-- A look-up changes no figure. -/
theorem balanced_lookupValue (url : Document) (cache : Cache) :
    Balanced cache (cache.lookupValue url).2 [] 0 := by
  obtain ⟨entries, hlooked, hentries⟩ := lookupValue_snd url cache
  have hsize : entries.length = cache.entries.length := by
    rcases hentries with rfl | ⟨text, -, rfl⟩
    · rfl
    · exact Keyed.length_toEnd text cache.entries
  rw [hlooked]
  constructor <;> simp [size, hsize]

/-- A hit is an inquiry without a reading. -/
theorem balanced_used (url : Document) (entry : Entry) (cache : Cache) :
    Balanced cache (cache.used url) [⟨none, .ok (some entry)⟩] 0 := by
  obtain ⟨hcalls, hfailures, hentries⟩ := balanced_lookupValue url cache
  obtain ⟨entries, hlooked, -⟩ := lookupValue_snd url cache
  have hhits : (cache.lookupValue url).2.hits = cache.hits := by rw [hlooked]
  constructor
  · simp only [used, List.length_nil, List.length_singleton] at hcalls ⊢
    omega
  · simpa [used, Inquiry.failed] using hfailures
  · simpa [used, size, Inquiry.failed, Inquiry.faulted] using hentries

theorem length_makeRoom (bound : Option Nat) (entries : Keyed Entry) :
    (makeRoom bound entries).1.length + (makeRoom bound entries).2.length = entries.length := by
  cases bound with
  | none => simp [makeRoom]
  | some n =>
    simp only [makeRoom, List.splitAt_eq, List.length_take, List.length_drop]
    omega

/-- A new entry is there afterwards, and for each that is not, an eviction is counted. -/
theorem store_counts {entry : Entry} (absent : cache.held? (.string entry.url) = none) :
    let next := (cache.store entry).state
    next.hits = cache.hits ∧ next.misses = cache.misses ∧ next.failures = cache.failures ∧
      next.size + next.evictions = cache.size + cache.evictions + 1 := by
  have hroom := length_makeRoom cache.bound (cache.entries ++ [(entry.url, entry)])
  rw [List.length_append, List.length_singleton] at hroom
  rw [held?_string] at absent
  simp only [store, absent, size, true_and]
  omega

/-- A miss ends in a new entry, in a failure or in a fault. -/
theorem conclude_counts (absent : cache.held? url = none) (result : Except Fault Document) :
    let next := (cache.conclude url result).state
    let own : List Inquiry := [⟨some result, (cache.conclude url result).value⟩]
    next.hits = cache.hits ∧ next.misses = cache.misses ∧
      next.failures = cache.failures + own.countP Inquiry.failed ∧
      next.size + next.evictions + own.countP Inquiry.failed + own.countP Inquiry.faulted =
        cache.size + cache.evictions + 1 := by
  by_cases hreply : ∃ entry, replyOf url result = .ok (some entry)
  · obtain ⟨entry, hreply⟩ := hreply
    obtain rfl := url_of_replyOf hreply
    obtain ⟨hhits, hmisses, hfailures, hsize⟩ := store_counts absent
    obtain ⟨document, rfl, -⟩ := replyOf_eq_some_iff.mp hreply
    rw [conclude_of_entry absent hreply]
    exact ⟨hhits, hmisses, hfailures, hsize⟩
  · rw [not_exists] at hreply
    rw [conclude_of_no_entry hreply]
    cases result with
    | error fault => cases fault <;> exact ⟨rfl, rfl, rfl, rfl⟩
    | ok document =>
      -- no entry can be made of the document
      cases hentry : Entry.ofValues url document with
      | ok entry => exact absurd (by simp [replyOf, hentry, Except.map]) (hreply entry)
      | error fault =>
        have hfault : replyOf url (.ok document) = .error fault := by
          simp [replyOf, hentry, Except.map]
        rw [hfault]
        exact ⟨rfl, rfl, rfl, rfl⟩

/-! ## What an inquiry gains -/

/-- The end of a miss, after a reading that is in balance with the counted miss. -/
theorem Balanced.conclude (inside : Balanced cache.missed mid asked dropped)
    (absent : mid.held? url = none) (result : Except Fault Document) :
    Balanced cache (mid.conclude url result).state
      (asked ++ [⟨some result, (mid.conclude url result).value⟩]) dropped := by
  obtain ⟨hcalls, hfailures, hentries⟩ := inside
  obtain ⟨hhits, hmisses, hfailed, hsize⟩ := conclude_counts absent result
  have hmissed : cache.missed.hits = cache.hits ∧ cache.missed.misses = cache.misses + 1 ∧
      cache.missed.failures = cache.failures ∧ cache.missed.size = cache.size ∧
      cache.missed.evictions = cache.evictions := ⟨rfl, rfl, rfl, rfl, rfl⟩
  constructor
  · rw [List.length_append, List.length_singleton]
    omega
  · rw [List.countP_append]
    omega
  · rw [List.countP_append, List.countP_append]
    omega

/-- If the reading is in balance, and leaves the URL without an entry, so is the call. -/
theorem balanced_getOrParse
    (inside : cache.Misses url →
      Balanced cache.missed (attempt.run cache.missed).state (attempt.inquiries cache.missed) 0)
    (absent : cache.Misses url → (attempt.run cache.missed).state.held? url = none) :
    Balanced cache (cache.getOrParse url attempt).state
      (inquiriesWith attempt.run attempt.inquiries url cache) 0 := by
  have hreply : cache.getOrParseWith attempt.run url = cache.getOrParse url attempt := rfl
  by_cases hmisses : cache.Misses url
  · rw [inquiriesWith, if_pos hmisses, hreply, getOrParse_of_absent hmisses.1 hmisses.2]
    exact (inside hmisses).conclude (absent hmisses) _
  · rw [inquiriesWith, if_neg hmisses, hreply]
    -- without a miss the value is refused, or the entry is handed out
    by_cases hkey : isNoKey url = true
    · rw [if_pos hkey, getOrParse_of_isNoKey hkey]
      exact balanced_rfl cache
    · rw [if_neg hkey]
      rw [Bool.not_eq_true] at hkey
      obtain ⟨entry, hheld⟩ := Option.ne_none_iff_exists'.mp fun hnone => hmisses ⟨hkey, hnone⟩
      rw [getOrParse_of_present hheld]
      exact balanced_used url entry cache

/-- The induction is on the attempt. What an inner call leaves absent is the URL whose
    content it reads, since no deeper call may ask for it. -/
theorem balanced_run (nested : attempt.WellNested pending cache) :
    Balanced cache (attempt.run cache).state (attempt.inquiries cache) 0 := by
  induction attempt generalizing pending cache with
  | ended result => exact balanced_rfl cache
  | rival entry next ih => exact False.elim nested
  | nested url inner next ihInner ihNext =>
    obtain ⟨-, hinner, hnext⟩ := nested
    have hcall : Balanced cache (cache.getOrParse url inner).state
        (inquiriesWith inner.run inner.inquiries url cache) 0 :=
      balanced_getOrParse (fun hmisses => ihInner (hinner hmisses)) fun hmisses =>
        held?_run_of_wellNested (hinner hmisses) List.mem_cons_self hmisses.2
    exact hcall.append (ihNext _ hnext)

/-! ## Turns -/

namespace Turn

/-- The inquiries that a call makes, its own at the end. -/
def inquiries (turn : Turn) : List Inquiry :=
  match turn.call with
  | .getOrParse url attempt => inquiriesWith attempt.run attempt.inquiries url turn.before
  | _ => []

/-- An invalidation that found an entry. -/
def drops (turn : Turn) : Bool :=
  match turn.call with
  | .invalidate url => (turn.before.invalidate url).value.toOption.getD false
  | _ => false

/-- The deserializer of the call asks for no URL whose content is still being read. -/
def WellNested (turn : Turn) : Prop :=
  match turn.call with
  | .getOrParse url attempt =>
    turn.before.Misses url → attempt.WellNested [url] turn.before.missed
  | _ => True

end Turn

theorem balanced_get (url : Document) (cache : Cache) :
    Balanced cache (cache.get url).state [] 0 := by
  rw [get]
  split
  · exact balanced_rfl cache
  · exact balanced_lookupValue url cache

/-- An invalidation drops one entry, or says that there is none. -/
theorem balanced_invalidate (url : Document) (cache : Cache) :
    Balanced cache (cache.invalidate url).state []
      ((cache.invalidate url).value.toOption.getD false).toNat := by
  unfold invalidate
  by_cases hkey : isNoKey url = true
  · rw [if_pos hkey]
    exact balanced_rfl cache
  · rw [if_neg hkey]
    cases url with
    | string text =>
      by_cases hmem : text ∈ cache.urls
      · have herase : (cache.entries.erase text).length + 1 = cache.entries.length :=
          Keyed.length_erase hmem
        simp only [if_pos hmem]
        constructor
        · rfl
        · rfl
        · simp only [size, Except.toOption, Option.getD_some, Bool.toNat_true, List.countP_nil]
          omega
      · simp only [if_neg hmem]
        exact balanced_rfl cache
    | _ => exact balanced_rfl cache

/-- Whatever a call does but clearing, the figures stay in balance. -/
theorem balanced_turn {turn : Turn} (nested : turn.WellNested) (keeps : turn.call.clears = false) :
    Balanced turn.before turn.after turn.inquiries turn.drops.toNat := by
  obtain ⟨cache, call⟩ := turn
  cases call with
  | getOrParse url attempt =>
    exact balanced_getOrParse (fun hmisses => balanced_run (nested hmisses)) fun hmisses =>
      held?_run_of_wellNested (nested hmisses) (List.mem_singleton.mpr rfl) hmisses.2
  | get url => exact balanced_get url cache
  | invalidate url => exact balanced_invalidate url cache
  | clear => cases keeps
  | _ => exact balanced_rfl cache

/-! ## Runs -/

/-- The turns since the cache was last cleared. -/
def sinceClear (history : List Turn) : List Turn :=
  (history.reverse.takeWhile fun turn => !turn.call.clears).reverse

theorem sinceClear_append_clear (history : List Turn) {turn : Turn}
    (clears : turn.call.clears = true) : sinceClear (history ++ [turn]) = [] := by
  simp [sinceClear, clears]

theorem sinceClear_append_singleton (history : List Turn) {turn : Turn}
    (keeps : turn.call.clears = false) :
    sinceClear (history ++ [turn]) = sinceClear history ++ [turn] := by
  simp [sinceClear, keeps]

/-- A cache that has just been made or cleared. -/
def Blank (cache : Cache) : Prop :=
  cache.entries = [] ∧ cache.hits = 0 ∧ cache.misses = 0 ∧ cache.failures = 0 ∧
    cache.evictions = 0

theorem blank_of_ofBound {bound : Option Int} (accepted : ofBound bound = .ok cache) :
    cache.Blank := by
  rcases ofBound_cases accepted with ⟨-, rfl⟩ | ⟨n, pos, -, rfl⟩ <;> exact ⟨rfl, rfl, rfl, rfl, rfl⟩

/-- The figures of a cache are in balance with the turns since some blank cache. -/
def Settled (cache : Cache) (recent : List Turn) : Prop :=
  ∃ blank : Cache, blank.Blank ∧
    Balanced blank cache (recent.flatMap Turn.inquiries) (recent.countP Turn.drops)

theorem settled_of_blank (blank : cache.Blank) : Settled cache [] :=
  ⟨cache, blank, balanced_rfl cache⟩

theorem Settled.turn {recent : List Turn} {turn : Turn} (settled : Settled turn.before recent)
    (nested : turn.WellNested) (keeps : turn.call.clears = false) :
    Settled turn.after (recent ++ [turn]) := by
  obtain ⟨blank, hblank, hbalanced⟩ := settled
  have hnext := hbalanced.append (balanced_turn nested keeps)
  refine ⟨blank, hblank, ?_⟩
  rw [List.flatMap_append, List.flatMap_singleton, List.countP_append, List.countP_singleton]
  cases h : turn.drops <;> simpa [h] using hnext

/-- The induction is on the turns, the last one first, since what counts ends with it. -/
theorem settled_of_run {start : Cache} {calls : List Call} (blank : start.Blank)
    (nested : ∀ turn ∈ turns calls start, turn.WellNested) :
    Settled (runAll calls start).state (sinceClear (turns calls start)) := by
  induction calls using List.reverseRecOn with
  | nil => exact settled_of_blank blank
  | append_singleton calls call ih =>
    rw [turns_append_singleton] at nested ⊢
    rw [(runAll_append_singleton calls call start).2]
    let turn : Turn := ⟨(runAll calls start).state, call⟩
    cases hclears : call.clears with
    | true =>
      have hsince : sinceClear (turns calls start ++ [turn]) = [] :=
        sinceClear_append_clear _ hclears
      rw [hsince]
      -- the counters begin anew with the history that counts
      cases call with
      | clear => exact settled_of_blank ⟨rfl, rfl, rfl, rfl, rfl⟩
      | _ => cases hclears
    | false =>
      have hsince : sinceClear (turns calls start ++ [turn]) =
          sinceClear (turns calls start) ++ [turn] := sinceClear_append_singleton _ hclears
      rw [hsince]
      have hsettled : Settled turn.before (sinceClear (turns calls start)) :=
        ih fun other hother => nested other (List.mem_append_left _ hother)
      have hturn : turn.WellNested := nested turn (List.mem_append_right _ List.mem_cons_self)
      exact hsettled.turn hturn hclears

/-- **Nothing is lost or counted twice.** At any moment between two calls, and since the
    cache was last cleared: every inquiry was a hit or a miss; the failures are the
    inquiries whose content was found not to be valid; and every other miss that did not end
    in a fault has left a document that is still there, was evicted or was invalidated. -/
theorem stats_of_history {bound : Option Int} {start : Cache} {calls : List Call}
    (accepted : ofBound bound = .ok start)
    (nested : ∀ turn ∈ turns calls start, turn.WellNested) :
    let stats := (runAll calls start).state.stats
    let recent := sinceClear (turns calls start)
    let asked := recent.flatMap Turn.inquiries
    stats.hits + stats.misses = asked.length ∧
      stats.failures = asked.countP Inquiry.failed ∧
      stats.entries + stats.evictions + recent.countP Turn.drops =
        stats.misses - stats.failures - asked.countP Inquiry.faulted := by
  intro stats recent asked
  obtain ⟨blank, ⟨hempty, hhits, hmisses, hfailures, hevictions⟩, hbalanced⟩ :=
    settled_of_run (blank_of_ofBound accepted) nested
  obtain ⟨calls, failures, entries⟩ := hbalanced
  have hsize : blank.size = 0 := by rw [size, hempty, List.length_nil]
  rw [hhits, hmisses] at calls
  rw [hfailures] at failures
  rw [hmisses, hsize, hevictions] at entries
  simp only [stats, recent, asked, Cache.stats]
  refine ⟨?_, ?_, ?_⟩ <;> omega

/-- After a clearing: a document is stored while another one is read and is evicted for it,
    then come a hit, a failure, a fault and an invalidation. -/
theorem stats_of_history_nested :
    let read (url : Text) (result : Except Fault Document) : Call :=
      .getOrParse (.string url) (.ended result)
    let including : Call := .getOrParse (.string "a")
      (.nested (.string "b") (.ended (.ok .null)) fun _ => .ended (.ok .null))
    let calls := [read "a" (.ok .null), .clear, including, read "a" (.ok .null),
      read "c" (.error (.unreadable "?")), read "d" (.error .wrongKind), .invalidate (.string "a")]
    let start := bounded 1 (by decide)
    let recent := sinceClear (turns calls start)
    let asked := recent.flatMap Turn.inquiries
    (∀ turn ∈ turns calls start, turn.WellNested) ∧
      (runAll calls start).state.stats = ⟨0, some 1, 1, 4, 1, 1⟩ ∧ asked.length = 5 ∧
      asked.countP Inquiry.failed = 1 ∧
      recent.countP Turn.drops + asked.countP Inquiry.faulted = 2 := by
  intro read including calls start recent asked
  have accepted : ofBound (some 1) = .ok start := rfl
  have hother : Document.string "b" ∉ [Document.string "a"] := by
    rw [List.mem_singleton, Document.string.injEq]
    decide
  have hincluding : ∀ cache, Turn.WellNested ⟨cache, including⟩ :=
    fun _ _ => ⟨hother, fun _ => trivial, trivial⟩
  have nested : ∀ turn ∈ turns calls start, turn.WellNested := by
    simp only [calls, turns, List.forall_mem_cons]
    exact ⟨fun _ => trivial, trivial, hincluding _, fun _ => trivial, fun _ => trivial,
      fun _ => trivial, trivial, List.forall_mem_nil _⟩
  have hstats : (runAll calls start).state.stats = ⟨0, some 1, 1, 4, 1, 1⟩ := by decide
  have hfigures := stats_of_history accepted nested
  simp only [hstats] at hfigures
  obtain ⟨hcalls, hfailures, hentries⟩ := hfigures
  change (1 : Int) + 4 = asked.length at hcalls
  change (1 : Int) = asked.countP Inquiry.failed at hfailures
  change (0 : Int) + 1 + recent.countP Turn.drops = 4 - 1 - asked.countP Inquiry.faulted at hentries
  refine ⟨nested, hstats, ?_, ?_, ?_⟩ <;> omega

end Cache

end Gleaner
