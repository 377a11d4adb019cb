import Gleaner.Proofs.Cache.Accesses
import Gleaner.Proofs.Cache.Bounds
import Gleaner.Proofs.Crowd.Steps

/-! # The first store wins

    A cache is sound if every URL has one entry at most, which is an entry of this URL,
    and if there are no more entries than the bound allows. Every access keeps this, and
    no access puts another entry in the place of one: what a URL has before and after an
    access is the same entry.

    So a caller whose content has been read, and who finds an entry of another writer at
    the end, is given that entry, and the cache is left as it is. -/

namespace Gleaner

theorem Keyed.get?_of_mem {α : Type u} {key : Text} {value : α} {pairs : Keyed α}
    (distinct : pairs.keys.Nodup) (h : (key, value) ∈ pairs) : pairs.get? key = some value := by
  induction pairs with
  | nil => cases h
  | cons pair rest ih =>
    obtain ⟨k, other⟩ := pair
    obtain ⟨hk, hrest⟩ := List.nodup_cons.mp distinct
    rcases List.mem_cons.mp h with heq | hmem
    · obtain ⟨rfl, rfl⟩ := Prod.mk.inj heq
      simp [get?]
    · have hne : k ≠ key := by
        rintro rfl
        exact hk (List.mem_map.mpr ⟨(k, value), hmem, rfl⟩)
      simpa [get?, hne] using ih hrest hmem

namespace Cache

variable {cache before : Cache} {access : Access} {url : Document} {text : Text}
  {entry present own : Entry} {result : Except Fault Document}

/-! ## Sound caches -/

/-- One entry for each URL, no more of them than the bound allows, and each of the URL
    that it stands under. -/
structure Sound (cache : Cache) : Prop extends Tidy cache where
  labelled : ∀ pair ∈ cache.entries, pair.2.url = pair.1

theorem sound_of_ofBound {bound : Option Int} (accepted : ofBound bound = .ok cache) :
    Sound cache := by
  refine ⟨tidy_of_ofBound accepted, ?_⟩
  rcases ofBound_cases accepted with ⟨-, rfl⟩ | ⟨n, pos, -, rfl⟩ <;> simp [unbounded, bounded]

/-- After a use there are no more URLs than the bound allows, whether the URL was there
    or has just been stored. -/
theorem tidy_of_afterUse {next : Cache} (bound : next.bound = cache.bound)
    (urls : next.urls = afterUse cache.bound text cache.urls) (distinct : next.urls.Nodup) :
    Tidy next := by
  refine ⟨?_, distinct⟩
  intro n hn
  rw [urls, ← bound, hn]
  exact length_touch_le n text cache.urls

theorem Tidy.lookupValue (tidy : Tidy cache) (url : Document) :
    Tidy (cache.lookupValue url).2 := by
  cases hheld : cache.held? url with
  | none => rwa [lookupValue_of_held?_eq_none hheld]
  | some entry =>
    obtain ⟨text, rfl, hget⟩ := exists_text_of_held hheld
    obtain ⟨entries, hlooked, _⟩ := lookupValue_snd (.string text) cache
    have hbound : (cache.lookupValue (.string text)).2.bound = cache.bound := by rw [hlooked]
    exact tidy_of_afterUse hbound (urls_lookupValue tidy hget)
      (nodup_urls_used (.string text) tidy.distinct)

theorem Tidy.used (tidy : Tidy cache) (url : Document) : Tidy (cache.used url) :=
  ⟨(tidy.lookupValue url).size, (tidy.lookupValue url).distinct⟩

theorem bound_store (entry : Entry) (cache : Cache) :
    (cache.store entry).state.bound = cache.bound := by
  simp only [store]
  split <;> rfl

theorem Tidy.store (tidy : Tidy cache) (entry : Entry) : Tidy (cache.store entry).state := by
  cases hheld : cache.held? (.string entry.url) with
  | some present => rwa [store_of_present hheld]
  | none =>
    exact tidy_of_afterUse (bound_store entry cache) (urls_store hheld)
      (nodup_urls_store entry tidy.distinct)

theorem Tidy.get (tidy : Tidy cache) (url : Document) : Tidy (cache.get url).state := by
  unfold Cache.get
  split
  · exact tidy
  · exact tidy.lookupValue url

theorem Tidy.invalidate (tidy : Tidy cache) (url : Document) :
    Tidy (cache.invalidate url).state := by
  have hplain : (Call.invalidate url).Plain := trivial
  exact tidy.run hplain

/-! ## What an access keeps -/

theorem Tidy.accessed (tidy : Tidy cache) (access : Access) : Tidy (access.run cache) := by
  cases access with
  | look url =>
    simp only [Access.run]
    split
    · exact tidy.used url
    · exact tidy
  | lookAgain url =>
    simp only [Access.run]
    split
    · exact tidy.used url
    · exact ⟨tidy.size, tidy.distinct⟩
  | countFailure => exact ⟨tidy.size, tidy.distinct⟩
  | store entry => exact tidy.store entry
  | get url => exact tidy.get url
  | invalidate url => exact tidy.invalidate url
  | clear => exact tidy_of_empty rfl
  | glance => exact tidy

/-- Only a store adds an entry, and only under a URL that has none. -/
theorem Access.mem_entries {pair : Text × Entry} (h : pair ∈ (access.run cache).entries) :
    pair ∈ cache.entries ∨ ∃ entry, access = .store entry ∧
      cache.held? (.string entry.url) = none ∧ pair = (entry.url, entry) := by
  cases access with
  | look url =>
    simp only [Access.run] at h
    split at h
    · exact .inl (mem_entries_used h)
    · exact .inl h
  | lookAgain url =>
    simp only [Access.run] at h
    split at h
    · exact .inl (mem_entries_used h)
    · exact .inl h
  | store entry =>
    cases hheld : cache.held? (.string entry.url) with
    | some present =>
      simp only [Access.run, store_of_present hheld] at h
      exact .inl h
    | none =>
      rcases mem_entries_store h with hold | hnew
      · exact .inl hold
      · exact .inr ⟨entry, rfl, hheld, hnew⟩
  | get url => exact .inl (@mem_entries_run cache (.get url) rfl pair h)
  | invalidate url => exact .inl (@mem_entries_run cache (.invalidate url) rfl pair h)
  | clear => exact .inl (@mem_entries_run cache .clear rfl pair h)
  | countFailure => exact .inl h
  | glance => exact .inl h

theorem Sound.accessed (sound : Sound cache) (access : Access) : Sound (access.run cache) := by
  refine ⟨sound.toTidy.accessed access, ?_⟩
  intro pair hpair
  rcases Access.mem_entries hpair with hold | ⟨entry, -, -, rfl⟩
  · exact sound.labelled pair hold
  · rfl

/-- The induction is on the accesses still to come. -/
theorem Sound.after (sound : Sound cache) (accesses : List Access) :
    Sound (after accesses cache) := by
  induction accesses generalizing cache with
  | nil => exact sound
  | cons access accesses ih => exact ih (sound.accessed access)

/-- A URL that has an entry in both caches has the same entry in both. -/
def Keeps (before next : Cache) : Prop :=
  ∀ text entry other, before.held? (.string text) = some entry →
    next.held? (.string text) = some other → other = entry

/-- No access puts an entry in the place of another one. -/
theorem Sound.keeps (sound : Sound cache) (access : Access) : cache.Keeps (access.run cache) := by
  intro text entry other hbefore hafter
  rcases Access.mem_entries (Keyed.mem_of_get?_eq_some hafter) with hold | ⟨new, -, habsent, heq⟩
  · -- the entry was there before, and a URL has only one
    have hsame := Keyed.get?_of_mem sound.distinct hold
    rw [held?_string] at hbefore
    exact Option.some.inj (hsame.symm.trans hbefore)
  · -- a new entry has a URL that had none, which this one is not
    obtain ⟨rfl, rfl⟩ := Prod.mk.inj heq
    rw [habsent] at hbefore
    cases hbefore

/-! ## What a store adds -/

/-- There is no room for another entry. -/
def Full (cache : Cache) : Prop := cache.bound = some cache.size

/-- What becomes of a cache by a new entry. -/
inductive Added (entry : Entry) (before : Cache) : Ran Cache (Entry × Bool) → Prop
  /-- There is room, and nothing has to go. -/
  | room (free : ¬ before.Full) :
      Added entry before ⟨(entry, true),
        { before with entries := before.entries ++ [(entry.url, entry)] }, []⟩
  /-- The oldest entry goes, and no other. -/
  | evicting {oldest : Text × Entry} {rest : Keyed Entry} (full : before.Full)
      (entries : before.entries = oldest :: rest) :
      Added entry before ⟨(entry, true),
        { before with entries := rest ++ [(entry.url, entry)], evictions := before.evictions + 1 },
        [.entryEvicted oldest.1]⟩

theorem added_of_store (tidy : Tidy before) (absent : before.held? (.string entry.url) = none) :
    Added entry before (before.store entry) := by
  have hget : before.entries.get? entry.url = none := absent
  cases hbound : before.bound with
  | none =>
    have hfree : ¬ before.Full := by simp [Full, hbound]
    have hstore : before.store entry = ⟨(entry, true),
        { before with entries := before.entries ++ [(entry.url, entry)] }, []⟩ := by
      simp [store, hget, makeRoom, hbound]
    rw [hstore]
    exact .room hfree
  | some n =>
    have hlength : before.entries.length ≤ n := by
      simpa [urls, Keyed.keys] using tidy.size n hbound
    have hpos : 0 < n := before.bound_pos n hbound
    by_cases hfull : before.entries.length = n
    · -- one entry too many, and that is the first one
      obtain ⟨oldest, rest, hentries⟩ := List.exists_cons_of_length_pos (by omega :
        0 < before.entries.length)
      have hcut : rest.length + 1 + 1 - n = 1 := by
        rw [hentries, List.length_cons] at hfull
        omega
      have hstore : before.store entry = ⟨(entry, true),
          { before with
            entries := rest ++ [(entry.url, entry)], evictions := before.evictions + 1 },
          [.entryEvicted oldest.1]⟩ := by
        rw [hentries] at hget
        simp [store, hentries, hget, makeRoom, hbound, List.splitAt_eq, hcut]
      rw [hstore]
      exact .evicting (by rw [Full, hbound, size, hfull]) hentries
    · have hfree : ¬ before.Full := by
        rw [Full, hbound, size, Option.some.injEq]
        omega
      have hcut : before.entries.length + 1 - n = 0 := by omega
      have hstore : before.store entry = ⟨(entry, true),
          { before with entries := before.entries ++ [(entry.url, entry)] }, []⟩ := by
        simp [store, hget, makeRoom, hbound, List.splitAt_eq, hcut]
      rw [hstore]
      exact .room hfree

/-! ## Another writer was first -/

theorem conclude_of_present (held : cache.held? url = some present)
    (reply : replyOf url result = .ok (some own)) :
    cache.conclude url result = ⟨.ok (some present), cache, []⟩ := by
  obtain rfl := url_of_replyOf reply
  obtain ⟨document, rfl, hentry⟩ := replyOf_eq_some_iff.mp reply
  simp [conclude, finish, hentry, store_of_present held]

/-- A caller who would store an entry of their own, and finds another one at the end of
    reading, gets the other one. Nothing is added to what the reading did and reported. -/
theorem getOrParse_of_overtaken {attempt : Attempt} (absent : cache.held? url = none)
    (overtaken : (attempt.run cache.missed).state.held? url = some present)
    (reply : replyOf url (attempt.run cache.missed).value = .ok (some own)) :
    cache.getOrParse url attempt =
      ⟨.ok (some present), (attempt.run cache.missed).state, (attempt.run cache.missed).events⟩ := by
  have hkey : isNoKey url = false := by
    rw [url_of_replyOf reply]
    rfl
  rw [getOrParse_of_absent hkey absent]
  simp [conclude_of_present overtaken reply]

/-! ## Callers at once -/

/-- A step of a crowd does nothing to the cache but what accesses do. -/
theorem Crowd.Step.exists_accesses {crowd next : Crowd} {action : Crowd.Action}
    (h : Crowd.Step crowd action next) :
    ∃ accesses, next.cache = Cache.after accesses crowd.cache := by
  cases h with
  | @answer i call hcaller hcall =>
    exact ⟨call.accesses crowd.cache, (after_call call crowd.cache).symm⟩
  | @hit i url attempt entry hcaller hheld =>
    exact ⟨[.look url], by simp [Access.run, hheld, Crowd.moveTo]⟩
  | register hcaller hname habsent => exact ⟨[], by simp⟩
  | @hitAgain i url name attempt lock entry hcaller hheld =>
    exact ⟨[.lookAgain url], by simp [Access.run, hheld, Crowd.moveTo]⟩
  | @miss i url name attempt lock hcaller habsent =>
    exact ⟨[.lookAgain url], by simp [Access.run, habsent, Crowd.moveTo]⟩
  | @read i url name attempt lock hcaller =>
    exact ⟨attempt.accesses crowd.cache, (after_attempt attempt crowd.cache).symm⟩
  | @conclude i url name result lock hcaller =>
    exact ⟨closing url result, (after_closing url result crowd.cache).symm⟩
  | leave hcaller => exact ⟨[], by simp⟩
  | _ => exact ⟨[], rfl⟩

theorem Crowd.exists_accesses_of_reachable {crowd : Crowd} (h : Crowd.Reachable cache crowd) :
    ∃ accesses, crowd.cache = Cache.after accesses cache := by
  induction h with
  | start => exact ⟨[], rfl⟩
  | step action _ hact ih =>
    obtain ⟨earlier, hearlier⟩ := ih
    obtain ⟨accesses, hnext⟩ := (Crowd.step_of_act? hact).exists_accesses
    exact ⟨earlier ++ accesses, by rw [hnext, hearlier, after_append]⟩

/-- **The first store wins.** Whatever is done to a new cache, access by access, it is sound
    at every moment, and no entry is ever put in the place of another. A store of a URL that
    has an entry changes nothing. A store of a new URL evicts the oldest entry if the cache
    is full, and none otherwise.

    The runs of calls, with all that deserializers and other writers do to the cache on the
    way, are accesses one after the other, and so is all that callers at once can do.

    Who finds the entry of another writer after reading gets this entry, and nothing is
    stored or reported for their own. -/
theorem first_store_wins {bound : Option Int} {start : Cache}
    (accepted : ofBound bound = .ok start) :
    (∀ (earlier : List Access) (access : Access),
      let before := after earlier start
      let next := access.run before
      Sound before ∧ Sound next ∧ before.Keeps next ∧
        ∀ entry, access = .store entry → next = (before.store entry).state ∧
          (∀ present, before.held? (.string entry.url) = some present →
            before.store entry = ⟨(present, false), before, []⟩) ∧
          (before.held? (.string entry.url) = none → Added entry before (before.store entry))) ∧
    (∀ calls, after (accessesOf calls start) start = (runAll calls start).state) ∧
    (∀ crowd, Crowd.Reachable start crowd → ∃ accesses, crowd.cache = after accesses start) ∧
    (∀ (cache : Cache) (url : Document) (attempt : Attempt) (present own : Entry),
      let reading := attempt.run cache.missed
      cache.held? url = none → reading.state.held? url = some present →
      replyOf url reading.value = .ok (some own) →
      cache.getOrParse url attempt = ⟨.ok (some present), reading.state, reading.events⟩) := by
  refine ⟨?_, fun calls => after_accessesOf calls start, fun crowd h =>
    Crowd.exists_accesses_of_reachable h, ?_⟩
  · intro earlier access before next
    have hsound : Sound before := (sound_of_ofBound accepted).after earlier
    refine ⟨hsound, hsound.accessed access, hsound.keeps access, ?_⟩
    rintro entry rfl
    exact ⟨rfl, fun present => store_of_present, added_of_store hsound.toTidy⟩
  · intro cache url attempt present own reading absent overtaken reply
    exact getOrParse_of_overtaken absent overtaken reply

/-- The deserializer of a URL asks for another one, for which the oldest entry goes, and
    then another writer stores an entry of the URL, for which the next one goes. -/
theorem first_store_wins_overtaken :
    let read (url : Text) : Call := .getOrParse (.string url) (.ended (.ok .null))
    let cache := (runAll [read "a", read "b"] (bounded 2 (by decide))).state
    let theirs : Entry := ⟨"c", .int 1⟩
    let attempt : Attempt := .nested (.string "d") (.ended (.ok .null)) fun _ =>
      .rival theirs (.ended (.ok (.int 2)))
    let ran := cache.getOrParse (.string "c") attempt
    Sound cache ∧ ran.value = .ok (some theirs) ∧ ran.state.urls = ["d", "c"] ∧
      ran.state.evictions = 2 := by
  intro read cache theirs attempt ran
  let start := bounded 2 (by decide)
  have accepted : ofBound (some 2) = .ok start := rfl
  obtain ⟨hsound, hruns, -, hovertaken⟩ := first_store_wins accepted
  have hcache : Sound cache := by
    have h := (hsound (accessesOf [read "a", read "b"] start) .glance).1
    rwa [hruns] at h
  -- the other writer comes when the entry of the inner call has been stored
  let inner := (cache.missed.getOrParse (.string "d") (.ended (.ok .null))).state
  have absent : cache.held? (.string "c") = none := Keyed.get?_eq_none_iff.mpr (by decide)
  have hinner : inner.held? (.string "c") = none := Keyed.get?_eq_none_iff.mpr (by decide)
  have overtaken : (attempt.run cache.missed).state.held? (.string "c") = some theirs :=
    @held?_store_self inner theirs hinner
  have reply : replyOf (.string "c") (attempt.run cache.missed).value =
      .ok (some ⟨"c", .int 2⟩) :=
    replyOf_eq_some_iff.mpr
      ⟨.int 2, rfl, Entry.ofValues_eq_ok_iff.mpr ⟨"c", rfl, rfl⟩⟩
  have hran := hovertaken cache (.string "c") attempt theirs ⟨"c", .int 2⟩ absent overtaken reply
  exact ⟨hcache, congrArg Ran.value hran, by decide, by decide⟩

end Cache

end Gleaner
