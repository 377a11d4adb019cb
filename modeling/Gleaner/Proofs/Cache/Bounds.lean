import Gleaner.Proofs.Cache.Recency

/-! # Caches of different bounds

    The same plain calls are made to two caches, of which the larger one has the larger
    bound, or none. Every URL that has an entry in the smaller cache has one in the
    larger one, whatever else happens to the two: the smaller cache may read a URL again
    that the larger one still has, and may find nothing then.

    With two bounds the URLs of the smaller cache stand in the larger one in the same
    order, and the larger one has at least as much room left. So it never evicts a URL
    unless the smaller one evicts a URL at the same time, and what goes first from the
    larger one does not stay in the smaller one.
-/

namespace Gleaner.Cache

variable {small large : Cache} {few many : List Text} {url : Text} {n m : Nat}
  {bound other : Option Nat} {call : Call} {value : Document} {entry : Entry}
  {result : Except Fault Document}

/-! ## The URLs -/

/-- How the URLs in a cache with the first bound are among those in a cache with the
    second. -/
def Among : Option Nat → Option Nat → List Text → List Text → Prop
  | _, none, few, many => few ⊆ many
  | some n, some m, few, many => n ≤ m ∧ few.Sublist many ∧ many.length + n ≤ few.length + m
  | none, some _, _, _ => False

theorem among_none : Among bound none few many ↔ few ⊆ many := by
  cases bound <;> exact Iff.rfl

/-- The larger cache has no bound, or both have one. -/
theorem Among.cases (h : Among bound other few many) :
    (other = none ∧ few ⊆ many) ∨ ∃ n m, bound = some n ∧ other = some m ∧ n ≤ m ∧
      few.Sublist many ∧ many.length + n ≤ few.length + m := by
  cases other with
  | none => exact .inl ⟨rfl, among_none.mp h⟩
  | some m =>
    cases bound with
    | none => exact False.elim h
    | some n => exact .inr ⟨n, m, rfl, rfl, h⟩

theorem Among.subset (h : Among bound other few many) : few ⊆ many := by
  rcases h.cases with ⟨-, hsubset⟩ | ⟨n, m, -, -, -, hsublist, -⟩
  · exact hsubset
  · exact hsublist.subset

theorem length_touch (n : Nat) (url : Text) (urls : List Text) :
    (touch n url urls).length = min n (urls.erase url ++ [url]).length := by
  simp only [touch, List.rtake, List.length_drop]
  omega

theorem eq_or_mem_of_mem_afterUse {urls : List Text} {found : Text}
    (h : found ∈ afterUse bound url urls) : found = url ∨ found ∈ urls := by
  cases bound with
  | none =>
    rw [afterUse] at h
    split at h
    · exact .inr h
    · simpa [or_comm] using h
  | some n =>
    rcases List.mem_append.mp ((touch_sublist n url urls).subset h) with h | h
    · exact .inr (List.mem_of_mem_erase h)
    · exact .inl (List.mem_singleton.mp h)

theorem mem_afterUse_none {urls : List Text} {found : Text} :
    found ∈ afterUse none url urls ↔ found = url ∨ found ∈ urls := by
  refine ⟨eq_or_mem_of_mem_afterUse, ?_⟩
  intro h
  rw [afterUse]
  split
  · next hmem => exact h.elim (fun heq => heq ▸ hmem) id
  · simpa [or_comm] using h

/-- The longer list loses no less. -/
theorem length_erase_le_length_erase (h : few ⊆ many) (url : Text) :
    (many.erase url).length + few.length ≤ (few.erase url).length + many.length := by
  rw [List.length_erase, List.length_erase]
  by_cases hfew : url ∈ few
  · have hpos := List.length_pos_of_mem hfew
    have hmany := List.length_pos_of_mem (h hfew)
    rw [if_pos hfew, if_pos (h hfew)]
    omega
  · rw [if_neg hfew]
    split <;> omega

/-- The URLs that go when one is used, counted. -/
def lost (bound : Option Nat) (url : Text) (urls : List Text) : Nat :=
  match bound with
  | none => 0
  | some n => (urls.erase url ++ [url]).length - n

/-- The larger cache makes room only if the smaller one makes as much. -/
theorem Among.lost_le (h : Among bound other few many) (url : Text) :
    lost other url many ≤ lost bound url few := by
  rcases h.cases with ⟨rfl, -⟩ | ⟨n, m, rfl, rfl, hle, hsublist, hroom⟩
  · exact Nat.zero_le _
  · have hlength := length_erase_le_length_erase hsublist.subset url
    simp only [lost, List.length_append, List.length_singleton]
    omega

/-- The URLs that go are the first ones in both. -/
theorem Among.use (h : Among bound other few many) (url : Text) :
    Among bound other (afterUse bound url few) (afterUse other url many) := by
  have hlost := h.lost_le url
  rcases h.cases with ⟨rfl, hsubset⟩ | ⟨n, m, rfl, rfl, hle, hsublist, hroom⟩
  · rw [among_none]
    intro found hfound
    exact mem_afterUse_none.mpr ((eq_or_mem_of_mem_afterUse hfound).imp_right (@hsubset found))
  · have hlength := length_erase_le_length_erase hsublist.subset url
    have hwhole : (few.erase url ++ [url]).Sublist (many.erase url ++ [url]) :=
      (hsublist.erase url).append (List.Sublist.refl _)
    refine ⟨hle, ?_, ?_⟩
    -- cutting no more from the longer list keeps the shorter one inside
    · exact (List.drop_sublist_drop_left _ hlost).trans (hwhole.drop _)
    · simp only [afterUse, length_touch, List.length_append, List.length_singleton]
      omega

/-- A use of a URL that only the larger cache has. -/
theorem Among.use_of_not_mem (h : Among bound other few many)
    (size : ∀ m, other = some m → many.length ≤ m) (hfew : url ∉ few) (hmany : url ∈ many) :
    Among bound other few (afterUse other url many) := by
  rcases h.cases with ⟨rfl, -⟩ | ⟨n, m, rfl, rfl, hle, hsublist, hroom⟩
  · rwa [afterUse, if_pos hmany]
  · rw [afterUse, touch_of_mem (size m rfl) hmany]
    refine ⟨hle, ?_, ?_⟩
    -- the URL moves to the end, and the others stand as they did
    · have herase := hsublist.erase url
      rw [List.erase_of_not_mem hfew] at herase
      exact herase.trans (List.sublist_append_left _ _)
    · have hlength := List.length_erase_of_mem hmany
      have hpos := List.length_pos_of_mem hmany
      simp only [List.length_append, List.length_singleton]
      omega

theorem Among.erase (h : Among bound other few many) (distinct : few.Nodup) (url : Text) :
    Among bound other (few.erase url) (many.erase url) := by
  rcases h.cases with ⟨rfl, hsubset⟩ | ⟨n, m, rfl, rfl, hle, hsublist, hroom⟩
  · rw [among_none]
    intro found hfound
    obtain ⟨hne, hmem⟩ := distinct.mem_erase_iff.mp hfound
    exact (List.mem_erase_of_ne hne).mpr (hsubset hmem)
  · have hlength := length_erase_le_length_erase hsublist.subset url
    exact ⟨hle, hsublist.erase url, by omega⟩

theorem Among.nil (h : Among bound other few many) : Among bound other [] [] := by
  rcases h.cases with ⟨rfl, -⟩ | ⟨n, m, rfl, rfl, hle, -⟩
  · exact among_none.mpr (List.Subset.refl _)
  · exact ⟨hle, List.Sublist.refl _, by simpa using hle⟩

/-! ## The counters -/

/-- What a call other than `clear` leaves: the URLs, and what it adds to each counter. -/
structure Change (cache after : Cache) (urls : List Text) (hits misses failures evictions : Nat) :
    Prop where
  bound     : after.bound = cache.bound
  urls      : after.urls = urls
  hits      : after.hits = cache.hits + hits
  misses    : after.misses = cache.misses + misses
  failures  : after.failures = cache.failures + failures
  evictions : after.evictions = cache.evictions + evictions

section Change

variable {cache : Cache}

theorem change_rfl (cache : Cache) : Change cache cache cache.urls 0 0 0 0 :=
  ⟨rfl, rfl, rfl, rfl, rfl, rfl⟩

theorem change_looked (tidy : Tidy cache) (h : cache.entries.get? url = some entry) :
    Change cache (cache.lookupValue (.string url)).2 (afterUse cache.bound url cache.urls)
      0 0 0 0 := by
  have hurls := urls_lookupValue tidy h
  obtain ⟨entries, hlooked, _⟩ := lookupValue_snd (.string url) cache
  rw [hlooked] at hurls ⊢
  exact ⟨rfl, hurls, rfl, rfl, rfl, rfl⟩

theorem change_used (tidy : Tidy cache) (h : cache.entries.get? url = some entry) :
    Change cache (cache.used (.string url)) (afterUse cache.bound url cache.urls) 1 0 0 0 := by
  obtain ⟨hbound, hurls, _, hmisses, hfailures, hevictions⟩ := change_looked tidy h
  exact ⟨hbound, hurls, rfl, hmisses, hfailures, hevictions⟩

theorem change_stored (absent : cache.held? (.string entry.url) = none) :
    Change cache (cache.missed.store entry).state (afterUse cache.bound entry.url cache.urls)
      0 1 0 (lost cache.bound entry.url cache.urls) := by
  have hmissed : cache.missed.held? (.string entry.url) = none := absent
  have hurls := urls_store hmissed
  have hnot := not_mem_urls absent
  have hgone : (makeRoom cache.bound (cache.entries ++ [(entry.url, entry)])).1.length =
      lost cache.bound entry.url cache.urls := by
    cases cache.bound with
    | none => rfl
    | some n =>
      rw [lost, List.erase_of_not_mem hnot]
      simp [makeRoom, List.splitAt_eq, urls, Keyed.keys]
  rw [held?_string] at absent
  simp only [store, missed, absent, hgone] at hurls ⊢
  exact ⟨rfl, hurls, rfl, rfl, rfl, rfl⟩

theorem change_vain (cache : Cache) (failures : Nat) :
    Change cache { cache.missed with failures := cache.failures + failures } cache.urls
      0 1 failures 0 :=
  ⟨rfl, rfl, rfl, rfl, rfl, rfl⟩

theorem change_dropped (cache : Cache) (url : Text) :
    Change cache { cache with entries := cache.entries.erase url } (cache.urls.erase url)
      0 0 0 0 :=
  ⟨rfl, Keyed.keys_erase url cache.entries, rfl, rfl, rfl, rfl⟩

end Change

/-- The smaller cache has fewer URLs, and it has missed, failed and evicted more often. -/
structure Nested (small large : Cache) : Prop where
  among     : Among small.bound large.bound small.urls large.urls
  hits      : small.hits ≤ large.hits
  misses    : large.misses ≤ small.misses
  failures  : large.failures ≤ small.failures
  evictions : large.evictions ≤ small.evictions

namespace Nested

/-- A change of each of the two, by which the larger one gains no less. -/
theorem change {smaller larger : Cache} {few many : List Text}
    {hits misses failures evictions hits' misses' failures' evictions' : Nat}
    (h : Nested small large) (hsmall : Change small smaller few hits misses failures evictions)
    (hlarge : Change large larger many hits' misses' failures' evictions')
    (among : Among small.bound large.bound few many)
    (gain : hits ≤ hits' ∧ misses' ≤ misses ∧ failures' ≤ failures ∧ evictions' ≤ evictions) :
    Nested smaller larger := by
  obtain ⟨ghits, gmisses, gfailures, gevictions⟩ := gain
  constructor
  · rwa [hsmall.bound, hlarge.bound, hsmall.urls, hlarge.urls]
  · rw [hsmall.hits, hlarge.hits]
    exact Nat.add_le_add h.hits ghits
  · rw [hsmall.misses, hlarge.misses]
    exact Nat.add_le_add h.misses gmisses
  · rw [hsmall.failures, hlarge.failures]
    exact Nat.add_le_add h.failures gfailures
  · rw [hsmall.evictions, hlarge.evictions]
    exact Nat.add_le_add h.evictions gevictions

/-- What has an entry in the smaller cache has one in the larger one. -/
theorem exists_held (h : Nested small large) (held : small.held? value = some entry) :
    ∃ entry, large.held? value = some entry := by
  obtain ⟨url, rfl, hget⟩ := exists_text_of_held held
  have hmem := h.among.subset (mem_urls_of_get? hget)
  cases hlarge : large.held? (.string url) with
  | some entry => exact ⟨entry, rfl⟩
  | none => exact absurd hmem (not_mem_urls hlarge)

/-- The content is read for both caches. -/
theorem conclude (h : Nested small large) (hsmall : small.held? value = none)
    (hlarge : large.held? value = none) (result : Except Fault Document) :
    Nested (small.missed.conclude value result).state
      (large.missed.conclude value result).state := by
  by_cases hreply : ∃ entry, replyOf value result = .ok (some entry)
  · obtain ⟨entry, hreply⟩ := hreply
    obtain rfl := url_of_replyOf hreply
    have hsmaller : small.missed.held? (.string entry.url) = none := hsmall
    have hlarger : large.missed.held? (.string entry.url) = none := hlarge
    rw [conclude_of_entry hsmaller hreply, conclude_of_entry hlarger hreply]
    exact h.change (change_stored hsmall) (change_stored hlarge) (h.among.use entry.url)
      ⟨le_rfl, le_rfl, le_rfl, h.among.lost_le entry.url⟩
  · rw [not_exists] at hreply
    rw [conclude_of_no_entry hreply, conclude_of_no_entry hreply]
    exact h.change (change_vain small _) (change_vain large _) h.among
      ⟨le_rfl, le_rfl, le_rfl, le_rfl⟩

/-- The content is read for the smaller cache, while the larger one has an entry. -/
theorem conclude_used (h : Nested small large) (tidy : Tidy large)
    (hsmall : small.held? value = none) (hlarge : large.held? value = some entry)
    (result : Except Fault Document) :
    Nested (small.missed.conclude value result).state (large.used value) := by
  obtain ⟨url, rfl, hget⟩ := exists_text_of_held hlarge
  have hused := change_used tidy hget
  by_cases hreply : ∃ entry, replyOf (.string url) result = .ok (some entry)
  · obtain ⟨entry, hreply⟩ := hreply
    obtain rfl := Document.string.inj (url_of_replyOf hreply)
    have hmissed : small.missed.held? (.string entry.url) = none := hsmall
    rw [conclude_of_entry hmissed hreply]
    exact h.change (change_stored hsmall) hused (h.among.use entry.url)
      ⟨Nat.zero_le 1, Nat.zero_le 1, le_rfl, Nat.zero_le _⟩
  · rw [not_exists] at hreply
    rw [conclude_of_no_entry hreply]
    exact h.change (change_vain small _) hused
      (h.among.use_of_not_mem tidy.size (not_mem_urls hsmall) (mem_urls_of_get? hget))
      ⟨Nat.zero_le 1, Nat.zero_le 1, Nat.zero_le _, le_rfl⟩

theorem getOrParse (h : Nested small large) (hsmall : Tidy small) (hlarge : Tidy large)
    (value : Document) (result : Except Fault Document) :
    Nested (small.getOrParse value (.ended result)).state
      (large.getOrParse value (.ended result)).state := by
  by_cases hkey : isNoKey value = true
  · rw [getOrParse_of_isNoKey hkey, getOrParse_of_isNoKey hkey]
    exact h
  rw [Bool.not_eq_true] at hkey
  cases hs : small.held? value with
  | some entry =>
    obtain ⟨_, hl⟩ := h.exists_held hs
    rw [getOrParse_of_present hs, getOrParse_of_present hl]
    obtain ⟨url, rfl, hget⟩ := exists_text_of_held hs
    exact h.change (change_used hsmall hget) (change_used hlarge hl) (h.among.use url)
      ⟨le_rfl, le_rfl, le_rfl, le_rfl⟩
  | none =>
    rw [getOrParse_ended_of_absent hkey hs]
    cases hl : large.held? value with
    | some entry =>
      rw [getOrParse_of_present hl]
      exact h.conclude_used hlarge hs hl result
    | none =>
      rw [getOrParse_ended_of_absent hkey hl]
      exact h.conclude hs hl result

theorem get (h : Nested small large) (hsmall : Tidy small) (hlarge : Tidy large)
    (value : Document) : Nested (small.get value).state (large.get value).state := by
  by_cases hkey : isNoKey value = true
  · simpa only [Cache.get, hkey, if_true] using h
  simp only [Cache.get, if_neg hkey]
  cases hs : small.held? value with
  | some entry =>
    obtain ⟨_, hl⟩ := h.exists_held hs
    obtain ⟨url, rfl, hget⟩ := exists_text_of_held hs
    exact h.change (change_looked hsmall hget) (change_looked hlarge hl) (h.among.use url)
      ⟨le_rfl, le_rfl, le_rfl, le_rfl⟩
  | none =>
    rw [lookupValue_of_held?_eq_none hs]
    cases hl : large.held? value with
    | some entry =>
      obtain ⟨url, rfl, hget⟩ := exists_text_of_held hl
      exact h.change (change_rfl small) (change_looked hlarge hget)
        (h.among.use_of_not_mem hlarge.size (not_mem_urls hs) (mem_urls_of_get? hget))
        ⟨le_rfl, le_rfl, le_rfl, le_rfl⟩
    | none =>
      rw [lookupValue_of_held?_eq_none hl]
      exact h

theorem invalidate (h : Nested small large) (hsmall : Tidy small) (value : Document) :
    Nested (small.invalidate value).state (large.invalidate value).state := by
  cases value with
  | string url =>
    have hchange : ∀ cache : Cache, Change cache (cache.invalidate (.string url)).state
        (cache.urls.erase url) 0 0 0 0 := by
      intro cache
      by_cases hmem : url ∈ cache.urls
      · simpa [Cache.invalidate, isNoKey, hmem] using change_dropped cache url
      · simpa [Cache.invalidate, isNoKey, hmem, List.erase_of_not_mem] using change_rfl cache
    exact h.change (hchange small) (hchange large) (h.among.erase hsmall.distinct url)
      ⟨le_rfl, le_rfl, le_rfl, le_rfl⟩
  | _ => exact h

theorem run (h : Nested small large) (hsmall : Tidy small) (hlarge : Tidy large)
    (plain : call.Plain) : Nested (call.run small).state (call.run large).state := by
  cases call with
  | getOrParse value attempt =>
    obtain ⟨result, rfl⟩ := plain
    exact h.getOrParse hsmall hlarge value result
  | get value => exact h.get hsmall hlarge value
  | invalidate value => exact h.invalidate hsmall value
  | clear => exact ⟨h.among.nil, le_rfl, le_rfl, le_rfl, le_rfl⟩
  | contains value => exact h
  | size => exact h
  | stats => exact h

end Nested

/-! ## Whole runs -/

/-- One bound is at most the other; every bound is at most none. -/
def AtMost : Option Int → Option Int → Prop
  | _, none => True
  | some n, some m => n ≤ m
  | none, some _ => False

/-- A new cache has no bound or a positive one. -/
theorem ofBound_cases {bound : Option Int} {cache : Cache} (h : ofBound bound = .ok cache) :
    (bound = none ∧ cache = unbounded) ∨
      ∃ (n : Nat) (pos : 0 < n), bound = some (n : Int) ∧ cache = bounded n pos := by
  cases bound with
  | none => exact .inl ⟨rfl, (Except.ok.inj h).symm⟩
  | some k =>
    unfold ofBound at h
    by_cases pos : 0 < k.toNat
    · simp only [pos, dif_pos] at h
      exact .inr ⟨k.toNat, pos, congrArg some (by omega), (Except.ok.inj h).symm⟩
    · simp [pos] at h

theorem tidy_of_ofBound {bound : Option Int} {cache : Cache} (h : ofBound bound = .ok cache) :
    Tidy cache := by
  rcases ofBound_cases h with ⟨-, rfl⟩ | ⟨n, pos, -, rfl⟩ <;> exact tidy_of_empty rfl

theorem nested_start {bound other : Option Int} (hsmall : ofBound bound = .ok small)
    (hlarge : ofBound other = .ok large) (hle : AtMost bound other) : Nested small large := by
  have hamong : Among small.bound large.bound small.urls large.urls := by
    rcases ofBound_cases hlarge with ⟨rfl, rfl⟩ | ⟨m, hm, rfl, rfl⟩
    · rcases ofBound_cases hsmall with ⟨rfl, rfl⟩ | ⟨n, hn, rfl, rfl⟩ <;>
        exact among_none.mpr (List.Subset.refl _)
    · rcases ofBound_cases hsmall with ⟨rfl, rfl⟩ | ⟨n, hn, rfl, rfl⟩
      · exact False.elim hle
      · have hnm : n ≤ m := Int.ofNat_le.mp hle
        exact ⟨hnm, List.Sublist.refl _, Nat.add_le_add_left hnm 0⟩
  have hzero : ∀ {bound : Option Int} {cache : Cache}, ofBound bound = .ok cache →
      cache.hits = 0 ∧ cache.misses = 0 ∧ cache.failures = 0 ∧ cache.evictions = 0 := by
    intro bound cache h
    rcases ofBound_cases h with ⟨-, rfl⟩ | ⟨n, pos, -, rfl⟩ <;> exact ⟨rfl, rfl, rfl, rfl⟩
  obtain ⟨shits, smisses, sfailures, sevictions⟩ := hzero hsmall
  obtain ⟨lhits, lmisses, lfailures, levictions⟩ := hzero hlarge
  exact ⟨hamong, by omega, by omega, by omega, by omega⟩

/-- The induction is on the calls, of which the two caches carry out the same. -/
theorem Nested.runAll {calls : List Call} (h : Nested small large) (hsmall : Tidy small)
    (hlarge : Tidy large) (plain : ∀ call ∈ calls, call.Plain) :
    Nested (runAll calls small).state (runAll calls large).state := by
  induction calls generalizing small large with
  | nil => exact h
  | cons call calls ih =>
    have hcall : call.Plain := plain call (by simp)
    exact ih (h.run hsmall hlarge hcall) (hsmall.run hcall) (hlarge.run hcall)
      fun other hother => plain other (List.mem_cons_of_mem _ hother)

/-- The call is counted as a hit. -/
def Call.Hits (cache : Cache) (call : Call) : Prop := cache.hits < (call.run cache).state.hits

/-- Only a call that may read is a hit, and only if its URL has an entry. -/
theorem exists_held_of_hits {cache : Cache} (plain : call.Plain) (h : call.Hits cache) :
    ∃ value attempt entry, call = .getOrParse value attempt ∧ cache.held? value = some entry := by
  unfold Call.Hits at h
  have heffect := effect_of_plain plain cache
  generalize call.run cache = ran at heffect h
  cases heffect with
  | @hit value attempt entry held => exact ⟨value, attempt, entry, rfl, held⟩
  | stored absent reply =>
    obtain rfl := url_of_replyOf reply
    simp [(change_stored absent).hits] at h
  | vain key absent reply => exact absurd h (lt_irrefl cache.hits)
  | @found value entry held =>
    obtain ⟨entries, hlooked, _⟩ := lookupValue_snd value cache
    simp [hlooked] at h
  | dropped present => exact absurd h (lt_irrefl cache.hits)
  | cleared => exact absurd h (Nat.not_lt_zero cache.hits)
  | idle idle none => exact absurd h (lt_irrefl cache.hits)

theorem hits_of_held {cache : Cache} (held : cache.held? value = some entry) (attempt : Attempt) :
    (Call.getOrParse value attempt).Hits cache := by
  show cache.hits < (cache.getOrParse value attempt).state.hits
  rw [getOrParse_of_present held]
  exact Nat.lt_succ_self cache.hits

theorem Nested.hits_of_hits (h : Nested small large) (plain : call.Plain)
    (hits : call.Hits small) : call.Hits large := by
  obtain ⟨value, attempt, _, rfl, held⟩ := exists_held_of_hits plain hits
  obtain ⟨_, hlarge⟩ := h.exists_held held
  exact hits_of_held hlarge attempt

/-- **A larger bound is never worse.** After the same plain calls, every URL that has an
    entry in the cache with the smaller bound has one in the other, and the next call that
    is a hit for the first is a hit for the second. The larger cache has had no fewer hits,
    and no more misses, failures and evictions. -/
theorem nested_of_atMost {bound other : Option Int} (hsmall : ofBound bound = .ok small)
    (hlarge : ofBound other = .ok large) (hle : AtMost bound other) {calls : List Call}
    (plain : ∀ call ∈ calls, call.Plain) :
    let first := (runAll calls small).state
    let second := (runAll calls large).state
    first.urls ⊆ second.urls ∧
      (∀ call : Call, call.Plain → call.Hits first → call.Hits second) ∧
      first.hits ≤ second.hits ∧ second.misses ≤ first.misses ∧
      second.failures ≤ first.failures ∧ second.evictions ≤ first.evictions := by
  intro first second
  have hnested : Nested first second :=
    (nested_start hsmall hlarge hle).runAll (tidy_of_ofBound hsmall) (tidy_of_ofBound hlarge) plain
  exact ⟨hnested.among.subset, fun call hcall => hnested.hits_of_hits hcall, hnested.hits,
    hnested.misses, hnested.failures, hnested.evictions⟩

/-- A cache of one entry reads a URL again, whose content is not valid any more, while a
    cache of two still has its document. -/
theorem nested_of_atMost_read_again :
    let read (url : Text) (result : Except Fault Document) : Call :=
      .getOrParse (.string url) (.ended result)
    let calls := [read "a" (.ok .null), read "b" (.ok .null),
      read "a" (.error (.unreadable "no document"))]
    let first := (runAll calls (bounded 1 (by decide))).state
    let second := (runAll calls (bounded 2 (by decide))).state
    first.urls = ["b"] ∧ second.urls = ["b", "a"] ∧ first.urls ⊆ second.urls ∧
      first.hits ≤ second.hits ∧ second.failures ≤ first.failures ∧ first.failures = 1 := by
  intro read calls first second
  have hsmall : ofBound (some 1) = .ok (bounded 1 (by decide)) := rfl
  have hlarge : ofBound (some 2) = .ok (bounded 2 (by decide)) := rfl
  have hle : AtMost (some 1) (some 2) := by
    simp [AtMost]
  have plain : ∀ call ∈ calls, call.Plain := by
    simp [calls, read, Call.Plain]
  obtain ⟨hsubset, -, hhits, -, hfailures, -⟩ := nested_of_atMost hsmall hlarge hle plain
  exact ⟨by decide, by decide, hsubset, hhits, hfailures, by decide⟩

end Gleaner.Cache
