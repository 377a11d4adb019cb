import Gleaner.Proofs.Cache.Flattening
import Gleaner.Proofs.Cache.FirstStore

/-! # What the events tell

    A reader who sees only the events of a cache, and never the cache, can keep a list of
    the URLs that have an entry: a URL comes to the list when a document is cached, and goes
    when its entry is evicted or invalidated. `Expects` says which events make sense to such
    a reader. A cache that is read and cleaned by calls, one after the other, reports no
    other ones, and the reader is never wrong about it.

    What the list cannot show is the order of the entries in a cache with a bound, as a hit
    moves its entry and reports nothing.
-/

namespace Gleaner

theorem Keyed.keys_concat {α : Type u} (pairs : Keyed α) (key : Text) (value : α) :
    Keyed.keys (pairs ++ [(key, value)]) = pairs.keys ++ [key] :=
  List.map_append

namespace Cache

/-- What a reader of events knows of a cache. -/
structure Reader where
  urls    : List Text := []
  /-- The evictions since the cache was last cleared. -/
  evicted : Nat := 0

namespace Reader

variable {reader : Reader}

/-- Takes in one event. -/
def next (reader : Reader) : Event → Reader
  | .documentCached url => { reader with urls := reader.urls ++ [url] }
  | .entryEvicted url => { urls := reader.urls.erase url, evicted := reader.evicted + 1 }
  | .entryInvalidated url => { reader with urls := reader.urls.erase url }
  | .cacheCleared _ => {}
  | _ => reader

/-- The event fits what the reader knows: only a URL without an entry gets one, only a URL
    with an entry loses it, and of a cleared cache the number of entries is known. -/
def Expects (reader : Reader) : Event → Prop
  | .documentCached url => url ∉ reader.urls
  | .entryEvicted url => url ∈ reader.urls
  | .entryInvalidated url => url ∈ reader.urls
  | .cacheCleared dropped => dropped = reader.urls.length
  | _ => True

/-- Takes in events, the first one first. -/
def read (events : List Event) (reader : Reader) : Reader := events.foldl next reader

/-- Every event fits what the reader knows when it comes. -/
def Coherent : List Event → Reader → Prop
  | [], _ => True
  | event :: events, reader => reader.Expects event ∧ Coherent events (reader.next event)

theorem read_append (first rest : List Event) (reader : Reader) :
    reader.read (first ++ rest) = (reader.read first).read rest :=
  List.foldl_append

theorem coherent_append {first rest : List Event} :
    reader.Coherent (first ++ rest) ↔ reader.Coherent first ∧ (reader.read first).Coherent rest := by
  induction first generalizing reader with
  | nil => simp [Coherent, read]
  | cons event first ih =>
    simp only [List.cons_append, Coherent, ih, and_assoc, read, List.foldl_cons]

end Reader

variable {cache next : Cache} {reader : Reader} {call : Call} {ran : Ran Cache Reply}
  {url : Document} {entry : Entry}

/-! ## Finding an entry -/

theorem perm_urls_lookupValue (tidy : Tidy cache) (held : cache.held? url = some entry) :
    (cache.lookupValue url).2.urls.Perm cache.urls := by
  obtain ⟨text, rfl, hget⟩ := exists_text_of_held held
  have hmem : text ∈ cache.urls := mem_urls_of_get? hget
  rw [urls_lookupValue tidy hget]
  cases hbound : cache.bound with
  | none => rw [afterUse, if_pos hmem]
  | some n =>
    rw [afterUse, touch_of_mem (tidy.size n hbound) hmem]
    exact (List.perm_append_singleton text _).trans (List.perm_cons_erase hmem).symm

/-! ## What the reader knows -/

/-- The reader knows which URLs have an entry, and how many entries were evicted. Without a
    bound it also knows the order. -/
structure Tracks (reader : Reader) (cache : Cache) : Prop where
  urls    : reader.urls.Perm cache.urls
  order   : cache.bound = none → reader.urls = cache.urls
  evicted : reader.evicted = cache.evictions

theorem Tracks.mem_iff (tracks : Tracks reader cache) {text : Text} :
    text ∈ reader.urls ↔ text ∈ cache.urls :=
  tracks.urls.mem_iff

/-- A look-up that finds an entry moves it at most. -/
theorem Tracks.lookupValue (tracks : Tracks reader cache) (tidy : Tidy cache)
    (held : cache.held? url = some entry) : Tracks reader (cache.lookupValue url).2 := by
  obtain ⟨entries, hlooked, -⟩ := lookupValue_snd url cache
  refine ⟨tracks.urls.trans (perm_urls_lookupValue tidy held).symm, ?_, ?_⟩
  · intro hbound
    have hunbounded : cache.bound = none := by rwa [hlooked] at hbound
    rw [lookupValue_snd_of_unbounded hunbounded]
    exact tracks.order hunbounded
  · rw [hlooked]
    exact tracks.evicted

/-- A new entry is reported after the one that made room for it. -/
theorem Tracks.store (tracks : Tracks reader cache) (tidy : Tidy cache)
    (absent : cache.held? (.string entry.url) = none) :
    let events := (cache.store entry).events ++ [.documentCached entry.url]
    reader.Coherent events ∧ Tracks (reader.read events) (cache.store entry).state := by
  have hnew : entry.url ∉ reader.urls := by
    rw [tracks.mem_iff]
    exact not_mem_urls absent
  generalize hstored : cache.store entry = stored
  have hadded := added_of_store tidy absent
  rw [hstored] at hadded
  cases hadded with
  | room free =>
    -- one event, and the URL comes to the end of both lists
    refine ⟨⟨hnew, trivial⟩, ?_, ?_, tracks.evicted⟩
    · exact (tracks.urls.append_right [entry.url]).trans (.of_eq (Keyed.keys_concat _ _ _).symm)
    · intro hbound
      exact (congrArg (· ++ [entry.url]) (tracks.order hbound)).trans (Keyed.keys_concat _ _ _).symm
  | @evicting oldest rest full entries =>
    have hurls : cache.urls = oldest.1 :: rest.keys := by
      rw [Cache.urls, entries]
      rfl
    -- two events: the oldest URL goes first, and it is one that the reader has
    have hgone : oldest.1 ∈ reader.urls := by
      rw [tracks.mem_iff, hurls]
      exact List.mem_cons_self
    have hkept : (reader.urls.erase oldest.1).Perm rest.keys := by
      have hperm := tracks.urls.erase oldest.1
      rwa [hurls, List.erase_cons_head] at hperm
    refine ⟨⟨hgone, fun hmem => hnew (List.mem_of_mem_erase hmem), trivial⟩, ?_, ?_, ?_⟩
    · exact (hkept.append_right [entry.url]).trans (.of_eq (Keyed.keys_concat _ _ _).symm)
    · intro hbound
      rw [Full, hbound] at full
      cases full
    · simp [Reader.read, Reader.next, tracks.evicted]

theorem Tracks.erase (tracks : Tracks reader cache) (text : Text) :
    Tracks { reader with urls := reader.urls.erase text }
      { cache with entries := cache.entries.erase text } := by
  have hurls : Cache.urls { cache with entries := cache.entries.erase text } =
      cache.urls.erase text := Keyed.keys_erase text cache.entries
  refine ⟨?_, ?_, tracks.evicted⟩
  · rw [hurls]
    exact tracks.urls.erase text
  · intro hbound
    rw [hurls, tracks.order hbound]

/-- One plain call, by what it does. -/
theorem Tracks.effect (tracks : Tracks reader cache) (tidy : Tidy cache)
    (h : Effect cache call ran) :
    reader.Coherent ran.events ∧ Tracks (reader.read ran.events) ran.state := by
  cases h with
  | hit held =>
    have hlooked := tracks.lookupValue tidy held
    exact ⟨trivial, hlooked.urls, hlooked.order, hlooked.evicted⟩
  | stored absent reply =>
    obtain rfl := url_of_replyOf reply
    have hmissed : Tracks reader cache.missed := ⟨tracks.urls, tracks.order, tracks.evicted⟩
    exact hmissed.store ⟨tidy.size, tidy.distinct⟩ absent
  | @vain url result key absent reply =>
    have hreport : reader.Coherent (failureReport url result) ∧
        reader.read (failureReport url result) = reader := by
      unfold failureReport
      split <;> exact ⟨by simp [Reader.Coherent, Reader.Expects], rfl⟩
    rw [hreport.2]
    exact ⟨hreport.1, tracks.urls, tracks.order, tracks.evicted⟩
  | found held => exact ⟨trivial, tracks.lookupValue tidy held⟩
  | dropped present => exact ⟨⟨tracks.mem_iff.mpr present, trivial⟩, tracks.erase _⟩
  | cleared =>
    have hsize : cache.size = reader.urls.length := by
      rw [tracks.urls.length_eq, Cache.urls, Keyed.keys, List.length_map, size]
    exact ⟨⟨hsize, trivial⟩, .refl _, fun _ => rfl, rfl⟩
  | idle idle none => exact ⟨trivial, tracks⟩

/-- Plain calls one after the other. The induction is on the calls still to come. -/
theorem Tracks.runAll (tracks : Tracks reader cache) (tidy : Tidy cache) {calls : List Call}
    (plain : ∀ call ∈ calls, call.Plain) :
    let ran := runAll calls cache
    reader.Coherent ran.events ∧ Tracks (reader.read ran.events) ran.state ∧
      ran.state.bound = cache.bound := by
  induction calls generalizing cache reader with
  | nil => exact ⟨trivial, tracks, rfl⟩
  | cons call calls ih =>
    obtain ⟨hcall, hcalls⟩ := List.forall_mem_cons.mp plain
    have heffect := effect_of_plain hcall cache
    obtain ⟨hcoherent, htracks⟩ := tracks.effect tidy heffect
    obtain ⟨hrest, hend, hbound⟩ := ih htracks (tidy.run hcall) hcalls
    simp only [Cache.runAll, Reader.coherent_append, Reader.read_append]
    exact ⟨⟨hcoherent, hrest⟩, hend, hbound.trans heffect.bound_eq⟩

theorem tracks_of_ofBound {bound : Option Int} (accepted : ofBound bound = .ok cache) :
    Tracks {} cache := by
  obtain ⟨hempty, -, -, -, hevictions⟩ := blank_of_ofBound accepted
  have hurls : cache.urls = [] := by rw [urls, hempty, Keyed.keys, List.map_nil]
  refine ⟨?_, fun _ => hurls.symm, hevictions.symm⟩
  rw [hurls]

/-- **The events tell which URLs have an entry.** After any calls to a new cache, whose
    deserializers may ask it for URLs that are not being read, a reader who has seen nothing
    but the events has each URL that has an entry, once and no other one; it has them in the
    order of the entries if the cache has no bound; and it knows the number of evictions.
    When it came, every event fitted what the reader had taken from the ones before. -/
theorem events_replay {bound : Option Int} {start : Cache} {calls : List Call}
    (accepted : ofBound bound = .ok start)
    (nested : ∀ turn ∈ turns calls start, turn.WellNested) :
    let ran := runAll calls start
    let reader := Reader.read ran.events {}
    reader.urls.Perm ran.state.urls ∧ reader.urls.Nodup ∧
      (bound = none → reader.urls = ran.state.urls) ∧
      reader.evicted = ran.state.evictions ∧
      ∀ before event after, ran.events = before ++ event :: after →
        (Reader.read before {}).Expects event := by
  intro ran reader
  -- the inner calls are made first, and then no call is nested any more
  obtain ⟨plain, hplain, hstate, hevents⟩ := exists_plain_of_run nested
  obtain ⟨hcoherent, htracks, hbound⟩ :=
    (tracks_of_ofBound accepted).runAll (tidy_of_ofBound accepted) hplain
  rw [hstate, hevents] at htracks
  rw [hstate] at hbound
  rw [hevents] at hcoherent
  have hsound : Sound ran.state := by
    rw [← after_accessesOf]
    exact (sound_of_ofBound accepted).after _
  refine ⟨htracks.urls, htracks.urls.nodup_iff.mpr hsound.distinct, ?_, htracks.evicted, ?_⟩
  · rintro rfl
    obtain rfl : unbounded = start := Except.ok.inj accepted
    exact htracks.order hbound
  · intro before event after hlog
    change Reader.Coherent ran.events {} at hcoherent
    rw [hlog, Reader.coherent_append] at hcoherent
    exact hcoherent.2.1

/-- In a cache for two entries a third URL is read inside the reading of a fourth one; then
    come a hit, which nobody reports, an invalidation, a clearing and a last document. -/
theorem events_replay_nested :
    let read (url : Text) : Call := .getOrParse (.string url) (.ended (.ok .null))
    let including : Call := .getOrParse (.string "d")
      (.nested (.string "c") (.ended (.ok .null)) fun _ => .ended (.ok .null))
    let calls := [read "a", read "b", including, read "c"]
    let more := calls ++ [.invalidate (.string "d"), .clear, read "e"]
    let start := bounded 2 (by decide)
    let reader (calls : List Call) := Reader.read (runAll calls start).events {}
    (reader calls).urls = ["c", "d"] ∧ (runAll calls start).state.urls = ["d", "c"] ∧
      (reader calls).evicted = 2 ∧
      (reader more).urls = ["e"] ∧ (reader more).urls.Perm (runAll more start).state.urls := by
  intro read including calls more start reader
  have accepted : ofBound (some 2) = .ok start := rfl
  have hother : Document.string "c" ∉ [Document.string "d"] := by
    rw [List.mem_singleton, Document.string.injEq]
    decide
  have nested : ∀ turn ∈ turns more start, turn.WellNested := by
    simp only [more, calls, List.cons_append, List.nil_append, turns, List.forall_mem_cons]
    exact ⟨fun _ => trivial, fun _ => trivial, fun _ => ⟨hother, fun _ => trivial, trivial⟩,
      fun _ => trivial, trivial, trivial, fun _ => trivial, List.forall_mem_nil _⟩
  exact ⟨by decide, by decide, by decide, by decide, (events_replay accepted nested).1⟩

end Cache

end Gleaner
