import Gleaner.Cache.Call
import Gleaner.Proofs.Keyed

/-! # What the operations do to the entries

    Every operation of a cache looks up, moves, adds or drops entries. The lemmas
    say for each of them which entry a URL has afterwards, and where the entries
    that are there afterwards come from. Later modules use these lemmas and do not
    open the operations again.
-/

namespace Gleaner

/-! ## Making an entry -/

@[simp] theorem Entry.ofValues_string (text : Text) (document : Document) :
    Entry.ofValues (.string text) document = .ok ⟨text, document⟩ := rfl

/-- Only a text is the URL of an entry. -/
theorem Entry.ofValues_eq_ok_iff {url document : Document} {entry : Entry} :
    Entry.ofValues url document = .ok entry ↔
      ∃ text : Text, url = .string text ∧ entry = ⟨text, document⟩ := by
  cases url with
  | string text => simp [@eq_comm _ entry]
  | _ => simp [Entry.ofValues, Validation.text]

namespace Cache

variable {cache : Cache} {url : Document} {entry : Entry}

/-! ## Looking up -/

/-- The entry of a value; only texts have entries. -/
def held? (url : Document) (cache : Cache) : Option Entry :=
  match url with
  | .string text => cache.entries.get? text
  | _ => none

@[simp] theorem held?_string (text : Text) (cache : Cache) :
    cache.held? (.string text) = cache.entries.get? text := rfl

theorem held?_eq_none_iff :
    cache.held? url = none ↔ ∀ pair ∈ cache.entries, url ≠ .string pair.1 := by
  cases url with
  | string text => simp [Keyed.get?_eq_none_iff_forall, @eq_comm _ text]
  | _ => simp [held?]

/-- What has no entry has none after a change that adds no entry. -/
theorem held?_eq_none_of_subset {after : Cache} (h : ∀ pair ∈ after.entries, pair ∈ cache.entries)
    (absent : cache.held? url = none) : after.held? url = none :=
  held?_eq_none_iff.mpr fun pair hpair => held?_eq_none_iff.mp absent pair (h pair hpair)

/-- A call for the URL has to read the content. -/
def Misses (url : Document) (cache : Cache) : Prop :=
  isNoKey url = false ∧ cache.held? url = none

instance (url : Document) (cache : Cache) : Decidable (cache.Misses url) :=
  inferInstanceAs (Decidable (_ ∧ _ = none))

@[simp] theorem lookupValue_fst (url : Document) (cache : Cache) :
    (cache.lookupValue url).1 = cache.held? url := by
  cases url with
  | string text =>
    unfold lookupValue lookup
    cases h : cache.entries.get? text <;> simp [h]
  | _ => rfl

theorem lookupValue_of_held?_eq_none (absent : cache.held? url = none) :
    cache.lookupValue url = (none, cache) := by
  cases url with
  | string text =>
    unfold lookupValue lookup
    simp only [held?_string] at absent
    simp [absent]
  | _ => rfl

/-- A look-up changes nothing but the order of the entries. -/
theorem lookupValue_snd (url : Document) (cache : Cache) :
    ∃ entries, (cache.lookupValue url).2 = { cache with entries } ∧
      (entries = cache.entries ∨
        ∃ text, cache.bound.isSome ∧ entries = cache.entries.toEnd text) := by
  cases url with
  | string text =>
    cases h : cache.entries.get? text with
    | none => exact ⟨cache.entries, by simp [lookupValue, lookup, h], .inl rfl⟩
    | some entry =>
      by_cases hb : cache.bound.isSome
      · exact ⟨cache.entries.toEnd text, by simp [lookupValue, lookup, h, hb], .inr ⟨text, hb, rfl⟩⟩
      · exact ⟨cache.entries, by simp [lookupValue, lookup, h, hb], .inl rfl⟩
  | _ => exact ⟨cache.entries, rfl, .inl rfl⟩

/-- Without a bound a look-up changes nothing. -/
theorem lookupValue_snd_of_unbounded (unbounded : cache.bound = none) (url : Document) :
    (cache.lookupValue url).2 = cache := by
  obtain ⟨entries, h, rfl | ⟨text, hb, _⟩⟩ := lookupValue_snd url cache
  · exact h
  · simp [unbounded] at hb

theorem mem_entries_lookupValue {pair : Text × Entry}
    (h : pair ∈ (cache.lookupValue url).2.entries) : pair ∈ cache.entries := by
  obtain ⟨entries, heq, rfl | ⟨text, _, rfl⟩⟩ := lookupValue_snd url cache
  · rwa [heq] at h
  · rw [heq] at h
    exact Keyed.mem_toEnd h

/-! ## Storing -/

/-- What stays is the end of the list, and a bound leaves at least one entry. -/
theorem makeRoom_snd {bound : Option Nat} (pos : ∀ n, bound = some n → 0 < n)
    (entries : Keyed Entry) (newest : Text × Entry) :
    ∃ fewer : Keyed Entry, fewer.Sublist entries ∧
      (makeRoom bound (entries ++ [newest])).2 = fewer ++ [newest] := by
  cases bound with
  | none => exact ⟨entries, List.Sublist.refl _, rfl⟩
  | some n =>
    -- As `n` is at least one, the newest entry is not among those that are dropped.
    have hn := pos n rfl
    refine ⟨entries.drop (entries.length + 1 - n), List.drop_sublist _ _, ?_⟩
    have hle : entries.length + 1 - n ≤ entries.length := by omega
    simp [makeRoom, List.splitAt_eq, List.drop_append_of_le_length hle]

theorem store_of_present {present : Entry}
    (h : cache.held? (.string entry.url) = some present) :
    cache.store entry = ⟨(present, false), cache, []⟩ := by
  rw [held?_string] at h
  simp [store, h]

/-- A new entry is the last one, and nothing but older entries make room for it. -/
theorem store_of_absent (absent : cache.held? (.string entry.url) = none) :
    (cache.store entry).value = (entry, true) ∧
      ∃ fewer : Keyed Entry, fewer.Sublist cache.entries ∧
        (cache.store entry).state.entries = fewer ++ [(entry.url, entry)] := by
  rw [held?_string] at absent
  obtain ⟨fewer, hfewer, hkept⟩ := makeRoom_snd cache.bound_pos cache.entries (entry.url, entry)
  constructor
  · simp [store, absent]
  · exact ⟨fewer, hfewer, by simp [store, absent, hkept]⟩

theorem store_state_of_unbounded (unbounded : cache.bound = none)
    (absent : cache.held? (.string entry.url) = none) :
    (cache.store entry).state =
      { cache with entries := cache.entries ++ [(entry.url, entry)] } := by
  rw [held?_string] at absent
  simp [store, absent, unbounded, makeRoom]

theorem held?_store_self (absent : cache.held? (.string entry.url) = none) :
    (cache.store entry).state.held? (.string entry.url) = some entry := by
  obtain ⟨_, fewer, hfewer, hentries⟩ := store_of_absent absent
  -- No older entry has this URL, so the look-up gets to the last one.
  have hgone : fewer.get? entry.url = none := by
    rw [held?_string, Keyed.get?_eq_none_iff_forall] at absent
    exact Keyed.get?_eq_none_iff_forall.mpr fun pair hpair => absent pair (hfewer.subset hpair)
  simp [hentries, Keyed.get?_append, hgone, Keyed.get?]

theorem mem_entries_store {pair : Text × Entry} (h : pair ∈ (cache.store entry).state.entries) :
    pair ∈ cache.entries ∨ pair = (entry.url, entry) := by
  cases hstored : cache.held? (.string entry.url) with
  | some present =>
    rw [store_of_present hstored] at h
    exact .inl h
  | none =>
    obtain ⟨_, fewer, hfewer, hentries⟩ := store_of_absent hstored
    rw [hentries] at h
    rcases List.mem_append.mp h with h | h
    · exact .inl (hfewer.subset h)
    · exact .inr (List.mem_singleton.mp h)

/-! ## Concluding -/

/-- What a caller gets whose content was read with this result, if the URL has no
    entry meanwhile. -/
def replyOf (url : Document) : Except Fault Document → Except Fault (Option Entry)
  | .ok document => (Entry.ofValues url document).map some
  | .error (.unreadable _) => .ok none
  | .error fault => .error fault

theorem replyOf_eq_some_iff {result : Except Fault Document} :
    replyOf url result = .ok (some entry) ↔
      ∃ document, result = .ok document ∧ Entry.ofValues url document = .ok entry := by
  cases result with
  | ok document =>
    cases h : Entry.ofValues url document <;> simp [replyOf, h, Except.map]
  | error fault => cases fault <;> simp [replyOf]

theorem url_of_replyOf {result : Except Fault Document}
    (h : replyOf url result = .ok (some entry)) : url = .string entry.url := by
  obtain ⟨document, _, hentry⟩ := replyOf_eq_some_iff.mp h
  obtain ⟨text, rfl, rfl⟩ := Entry.ofValues_eq_ok_iff.mp hentry
  rfl

/-- Everything that the end of a miss can do to a cache: it stores the entry of the
    reply, or changes no entry. -/
theorem conclude_state (url : Document) (result : Except Fault Document) (cache : Cache) :
    (∃ entry, replyOf url result = .ok (some entry) ∧
        (cache.conclude url result).state = (cache.store entry).state) ∨
      ((∀ entry, replyOf url result ≠ .ok (some entry)) ∧
        ∃ failures, (cache.conclude url result).state = { cache with failures }) := by
  cases result with
  | ok document =>
    cases h : Entry.ofValues url document with
    | ok entry =>
      exact .inl ⟨entry, by simp [replyOf, h, Except.map], by simp [conclude, finish, h]⟩
    | error fault =>
      exact .inr ⟨by simp [replyOf, h, Except.map], cache.failures, by simp [conclude, finish, h]⟩
  | error fault =>
    right
    refine ⟨by cases fault <;> simp [replyOf], ?_⟩
    cases fault with
    | unreadable reason => exact ⟨cache.failures + 1, rfl⟩
    | _ => exact ⟨cache.failures, rfl⟩

theorem conclude_value (absent : cache.held? url = none) (result : Except Fault Document) :
    (cache.conclude url result).value = replyOf url result := by
  cases result with
  | ok document =>
    cases h : Entry.ofValues url document with
    | ok entry =>
      obtain ⟨text, rfl, rfl⟩ := Entry.ofValues_eq_ok_iff.mp h
      have hstored : (cache.store ⟨text, document⟩).value = (⟨text, document⟩, true) :=
        (store_of_absent absent).1
      simp [conclude, finish, h, replyOf, Except.map, hstored]
    | error fault => simp [conclude, finish, h, replyOf, Except.map]
  | error fault => cases fault <;> rfl

/-- After the end of a miss the URL has the entry of the reply. -/
theorem held?_conclude_self (absent : cache.held? url = none) (result : Except Fault Document) :
    (cache.conclude url result).state.held? url = (replyOf url result).toOption.join := by
  rcases conclude_state url result cache with ⟨entry, hreply, hstate⟩ | ⟨hreply, failures, hstate⟩
  · -- The entry of the reply has the URL that was asked for.
    obtain rfl := url_of_replyOf hreply
    rw [hstate, held?_store_self absent, hreply]
    rfl
  · rw [hstate]
    have hnone : (replyOf url result).toOption.join = none := by
      cases h : replyOf url result with
      | error fault => rfl
      | ok found =>
        cases found with
        | none => rfl
        | some entry => exact absurd h (hreply entry)
    rw [hnone]
    exact absent

theorem mem_entries_conclude {result : Except Fault Document} {pair : Text × Entry}
    (h : pair ∈ (cache.conclude url result).state.entries) :
    pair ∈ cache.entries ∨
      ∃ entry, replyOf url result = .ok (some entry) ∧ pair = (entry.url, entry) := by
  rcases conclude_state url result cache with ⟨entry, hreply, hstate⟩ | ⟨_, failures, hstate⟩
  · rw [hstate] at h
    rcases mem_entries_store h with h | h
    · exact .inl h
    · exact .inr ⟨entry, hreply, h⟩
  · rw [hstate] at h
    exact .inl h

theorem held?_conclude_eq_none {other : Document} (ne : other ≠ url)
    (absent : cache.held? other = none) (result : Except Fault Document) :
    (cache.conclude url result).state.held? other = none := by
  rw [held?_eq_none_iff] at absent ⊢
  intro pair hpair
  rcases mem_entries_conclude hpair with hold | ⟨entry, hreply, rfl⟩
  · exact absent pair hold
  · rwa [← url_of_replyOf hreply]

/-! ## Reading through the cache -/

/-- The cache when a hit on a URL has been counted. -/
def used (url : Document) (cache : Cache) : Cache :=
  { (cache.lookupValue url).2 with hits := cache.hits + 1 }

theorem used_of_unbounded (unbounded : cache.bound = none) (url : Document) :
    cache.used url = { cache with hits := cache.hits + 1 } := by
  unfold used
  rw [lookupValue_snd_of_unbounded unbounded]

/-- The two parts of a look-up that finds an entry. -/
theorem lookupValue_of_present (h : cache.held? url = some entry) :
    cache.lookupValue url = (some entry, (cache.lookupValue url).2) ∧
      { (cache.lookupValue url).2 with hits := (cache.lookupValue url).2.hits + 1 } =
        cache.used url := by
  obtain ⟨entries, hafter, _⟩ := lookupValue_snd url cache
  refine ⟨?_, ?_⟩
  · rw [← h, ← lookupValue_fst]
  · simp [used, hafter]

theorem mem_entries_used {pair : Text × Entry} (h : pair ∈ (cache.used url).entries) :
    pair ∈ cache.entries :=
  mem_entries_lookupValue h

/-- The cache when a miss has been counted. -/
def missed (cache : Cache) : Cache := { cache with misses := cache.misses + 1 }

theorem held?_of_isNoKey (h : isNoKey url = true) (cache : Cache) : cache.held? url = none := by
  cases url <;> simp_all [isNoKey, held?]

theorem getOrParse_of_isNoKey (h : isNoKey url = true) (attempt : Attempt) (cache : Cache) :
    cache.getOrParse url attempt = ⟨.error .wrongKind, cache, []⟩ := by
  simp [getOrParse, getOrParseWith, h]

/-- An entry is handed out, and no content is read. -/
theorem getOrParseWith_of_present (h : cache.held? url = some entry)
    (read : Cache → Ran Cache (Except Fault Document)) :
    cache.getOrParseWith read url = ⟨.ok (some entry), cache.used url, []⟩ := by
  have hkey : isNoKey url = false := by
    cases hkey : isNoKey url with
    | false => rfl
    | true => simp [held?_of_isNoKey hkey] at h
  obtain ⟨hlooked, hused⟩ := lookupValue_of_present h
  unfold getOrParseWith
  rw [hlooked, ← hused]
  simp [hkey]

theorem getOrParse_of_present (h : cache.held? url = some entry) (attempt : Attempt) :
    cache.getOrParse url attempt = ⟨.ok (some entry), cache.used url, []⟩ :=
  getOrParseWith_of_present h attempt.run

theorem getOrParse_of_absent (hkey : isNoKey url = false) (absent : cache.held? url = none)
    (attempt : Attempt) :
    cache.getOrParse url attempt =
      let ran := attempt.run cache.missed
      let done := ran.state.conclude url ran.value
      { done with events := ran.events ++ done.events } := by
  simp [getOrParse, getOrParseWith, hkey, lookupValue_of_held?_eq_none absent, missed]

/-- A miss of a caller whose deserializer leaves the cache alone. -/
theorem getOrParse_ended_of_absent (hkey : isNoKey url = false) (absent : cache.held? url = none)
    (result : Except Fault Document) :
    cache.getOrParse url (.ended result) = cache.missed.conclude url result := by
  rw [getOrParse_of_absent hkey absent]
  rfl

/-! ## The other calls -/

/-- A call that may read a content. -/
def Call.isParse : Call → Bool
  | .getOrParse _ _ => true
  | _ => false

/-- Only a call that may read adds entries. -/
theorem mem_entries_run {call : Call} (h : call.isParse = false) {pair : Text × Entry}
    (hpair : pair ∈ (call.run cache).state.entries) : pair ∈ cache.entries := by
  cases call with
  | getOrParse url attempt => simp [Call.isParse] at h
  | get url =>
    by_cases hkey : isNoKey url = true
    · simpa [Call.run, get, hkey, Ran.map] using hpair
    · exact mem_entries_lookupValue (by simpa [Call.run, get, hkey, Ran.map] using hpair)
  | contains url => exact hpair
  | size => exact hpair
  | invalidate url =>
    cases url with
    | string text =>
      by_cases hmem : text ∈ cache.urls
      · refine (Keyed.erase_sublist text cache.entries).subset ?_
        simpa [Call.run, invalidate, isNoKey, hmem, Ran.map] using hpair
      · simpa [Call.run, invalidate, isNoKey, hmem, Ran.map] using hpair
    | _ => exact hpair
  | clear => simp [Call.run, clear, Ran.map] at hpair
  | stats => exact hpair

end Cache

end Gleaner
