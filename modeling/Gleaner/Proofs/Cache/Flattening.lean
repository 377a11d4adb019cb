import Gleaner.Proofs.Cache.Ahead
import Gleaner.Proofs.Cache.Counters

/-! # Nested calls, one after the other

    A deserializer may ask the cache for other URLs while its own content is being read.
    The call that runs it has counted its miss by then, and it stores into a cache that is
    not the one it first saw. Yet all goes as if the inner calls had come first, one after
    the other, and then a call whose deserializer ends at once as this one did: the miss
    that is counted early makes no difference to the inner calls, and no inner call gives
    the URL an entry.

    `exchanges` are the calls that a deserializer makes itself, which may be nested in their
    turn; `flattened` are all calls at any depth in the order of their ends, each with its
    deserializer replaced by what that one ended with.
-/

namespace Gleaner

namespace Cache

/-- A call and what it got. -/
structure Exchange where
  call  : Call
  reply : Reply

end Cache

namespace Attempt

/-- The calls that an attempt makes when it is run on a cache. -/
def exchanges : Attempt → Cache → List Cache.Exchange
  | ended _, _ => []
  | nested url inner next, cache =>
    let reply := cache.getOrParse url inner
    ⟨.getOrParse url inner, .of .entry reply.value⟩ :: (next reply.value).exchanges reply.state
  | rival entry next, cache => next.exchanges (cache.store entry).state

/-- All calls that come to their end while an attempt is run on a cache, as plain calls. -/
def flattened : Attempt → Cache → List Cache.Exchange
  | ended _, _ => []
  | nested url inner next, cache =>
    let reply := cache.getOrParse url inner
    let result := (inner.run cache.missed).value
    (if cache.Misses url then inner.flattened cache.missed else []) ++
      ⟨.getOrParse url (.ended result), .of .entry reply.value⟩ ::
        (next reply.value).flattened reply.state
  | rival entry next, cache => next.flattened (cache.store entry).state

end Attempt

namespace Cache

variable {cache : Cache} {url : Document} {attempt : Attempt} {pending : List Document}
  {misses failures : Nat}

/-- The calls, carried out one after the other, get these replies, and leave and report the
    same. -/
def Replayed (exchanges : List Exchange) (cache : Cache) (ran : Ran Cache α) : Prop :=
  runAll (exchanges.map Exchange.call) cache =
    ⟨exchanges.map Exchange.reply, ran.state, ran.events⟩

theorem replayed_singleton (call : Call) (cache : Cache) :
    Replayed [⟨call, (call.run cache).value⟩] cache (call.run cache) := by
  simp [Replayed, runAll]

theorem Replayed.append {first rest : List Exchange} {ran : Ran Cache α} {more : Ran Cache β}
    (hfirst : Replayed first cache ran) (hrest : Replayed rest ran.state more) :
    Replayed (first ++ rest) cache { more with events := ran.events ++ more.events } := by
  simp only [Replayed, List.map_append, runAll_append] at hfirst hrest ⊢
  simp only [hfirst, hrest]

/-! ## A miss that is counted early -/

theorem misses_ahead : (cache.ahead misses failures).Misses url ↔ cache.Misses url := Iff.rfl

theorem ahead_missed (misses failures : Nat) (cache : Cache) :
    (cache.ahead misses failures).missed = cache.ahead (misses + 1) failures := by
  simp only [missed_eq_ahead, ahead_ahead, Nat.add_zero]

/-- If the reading leaves the URL without an entry, the miss may as well be counted after
    it. -/
theorem getOrParse_of_absent_after (h : cache.Misses url)
    (absent : (attempt.run cache).state.held? url = none) :
    cache.getOrParse url attempt =
      let reading := attempt.run cache
      let own := reading.state.getOrParse url (.ended reading.value)
      ⟨own.value, own.state, reading.events ++ own.events⟩ := by
  rw [getOrParse_of_absent h.1 h.2, missed_eq_ahead, attempt.run_ahead]
  simp only [Ran.onState, getOrParse_ended_of_absent h.1 absent, missed_eq_ahead]

/-- Without a miss no content is read, whatever the deserializer would do. -/
theorem getOrParse_of_not_misses (h : ¬ cache.Misses url) (attempt other : Attempt) :
    cache.getOrParse url attempt = cache.getOrParse url other := by
  by_cases hkey : isNoKey url = true
  · rw [getOrParse_of_isNoKey hkey, getOrParse_of_isNoKey hkey]
  · rw [Bool.not_eq_true] at hkey
    obtain ⟨entry, hheld⟩ := Option.ne_none_iff_exists'.mp fun hnone => h ⟨hkey, hnone⟩
    rw [getOrParse_of_present hheld, getOrParse_of_present hheld]

/-! ## The calls of a deserializer -/

/-- The induction is on the attempt. It is run on a cache that has counted misses already,
    and its calls are made again to one that has not. -/
theorem replayed_exchanges (nested : attempt.WellNested pending (cache.ahead misses failures)) :
    Replayed (attempt.exchanges (cache.ahead misses failures)) cache (attempt.run cache) := by
  induction attempt generalizing cache with
  | ended result => rfl
  | rival entry next ih => exact False.elim nested
  | nested url inner next ihInner ihNext =>
    obtain ⟨-, -, hnext⟩ := nested
    have hreply := getOrParse_ahead (inner.run_ahead misses failures) url cache
    simp only [Attempt.exchanges, hreply, Ran.onState] at hnext ⊢
    exact (replayed_singleton (.getOrParse url inner) cache).append (ihNext _ hnext)

/-- A call with everything that goes on inside, if this can be made beforehand. -/
theorem replayed_getOrParse {inside : List Exchange}
    (hinside : cache.Misses url → Replayed inside cache (attempt.run cache))
    (absent : cache.Misses url → (attempt.run cache).state.held? url = none) :
    Replayed ((if cache.Misses url then inside else []) ++
        [⟨.getOrParse url (.ended (attempt.run cache).value),
          .of .entry (cache.getOrParse url attempt).value⟩])
      cache (cache.getOrParse url attempt) := by
  by_cases h : cache.Misses url
  · have hown := replayed_singleton (.getOrParse url (.ended (attempt.run cache).value))
      (attempt.run cache).state
    have hboth := (hinside h).append hown
    rw [if_pos h, getOrParse_of_absent_after h (absent h)]
    exact hboth
  · rw [if_neg h, getOrParse_of_not_misses h attempt (.ended (attempt.run cache).value)]
    exact replayed_singleton (.getOrParse url (.ended (attempt.run cache).value)) cache

/-- The same for the calls at any depth. With every inner attempt one more miss has been
    counted. -/
theorem replayed_flattened (nested : attempt.WellNested pending (cache.ahead misses failures)) :
    Replayed (attempt.flattened (cache.ahead misses failures)) cache (attempt.run cache) := by
  induction attempt generalizing cache pending misses with
  | ended result => rfl
  | rival entry next ih => exact False.elim nested
  | nested url inner next ihInner ihNext =>
    obtain ⟨-, hinner, hnext⟩ := nested
    have hreply := getOrParse_ahead (inner.run_ahead misses failures) url cache
    have hmissed := ahead_missed misses failures cache
    have hread := inner.run_ahead (misses + 1) failures cache
    rw [misses_ahead, hmissed] at hinner
    simp only [Attempt.flattened, hreply, hmissed, hread, misses_ahead, Ran.onState] at hnext ⊢
    have habsent : cache.Misses url → (inner.run cache).state.held? url = none := by
      intro h
      have hahead : (cache.ahead (misses + 1) failures).held? url = none := h.2
      have hafter := held?_run_of_wellNested (hinner h) List.mem_cons_self hahead
      rwa [hread] at hafter
    have hcall := replayed_getOrParse (fun h => ihInner (hinner h)) habsent
    have hall := hcall.append (ihNext _ hnext)
    rw [List.append_assoc] at hall
    exact hall

theorem plain_flattened (attempt : Attempt) (cache : Cache) :
    ∀ exchange ∈ attempt.flattened cache, exchange.call.Plain := by
  induction attempt generalizing cache with
  | ended result => simp [Attempt.flattened]
  | rival entry next ih => exact ih _
  | nested url inner next ihInner ihNext =>
    simp only [Attempt.flattened, List.mem_append, List.mem_cons]
    rintro exchange (hinside | rfl | hrest)
    · split at hinside
      · exact ihInner _ exchange hinside
      · cases hinside
    · exact ⟨_, rfl⟩
    · exact ihNext _ _ exchange hrest

/-! ## Whole calls -/

/-- The calls of a deserializer that is run when its miss has been counted. -/
theorem replayed_of_missed (nested : attempt.WellNested pending cache.missed) :
    Replayed (attempt.exchanges cache.missed) cache (attempt.run cache) ∧
      Replayed (attempt.flattened cache.missed) cache (attempt.run cache) := by
  rw [missed_eq_ahead] at nested ⊢
  exact ⟨replayed_exchanges nested, replayed_flattened nested⟩

/-- Once its content has been read, the URL of a call still has no entry. -/
theorem held?_run_of_misses (nested : attempt.WellNested [url] cache.missed)
    (h : cache.Misses url) : (attempt.run cache).state.held? url = none := by
  have hafter := held?_run_of_wellNested nested (List.mem_singleton.mpr rfl) h.2
  rwa [missed_eq_ahead, attempt.run_ahead] at hafter

/-- A call whose deserializer asks for no URL that is still being read goes as plain calls
    do. -/
theorem exists_plain_of_wellNested {turn : Turn} (nested : turn.WellNested) :
    ∃ exchanges, (∀ exchange ∈ exchanges, exchange.call.Plain) ∧
      Replayed exchanges turn.before (turn.call.run turn.before) := by
  obtain ⟨cache, call⟩ := turn
  by_cases hcall : call.Plain
  · refine ⟨[⟨call, (call.run cache).value⟩], ?_, replayed_singleton call cache⟩
    simpa using hcall
  · cases call with
    | getOrParse url attempt =>
      have hinside : cache.Misses url →
          Replayed (attempt.flattened cache.missed) cache (attempt.run cache) :=
        fun h => (replayed_of_missed (nested h)).2
      have hcall := replayed_getOrParse hinside fun h => held?_run_of_misses (nested h) h
      refine ⟨_, ?_, hcall⟩
      simp only [List.mem_append, List.mem_singleton]
      rintro exchange (hmem | rfl)
      · split at hmem
        · exact plain_flattened attempt _ exchange hmem
        · cases hmem
      · exact ⟨_, rfl⟩
    | _ => exact absurd trivial hcall

/-- So does every run of such calls. -/
theorem exists_plain_of_run {calls : List Call}
    (nested : ∀ turn ∈ turns calls cache, turn.WellNested) :
    ∃ plain : List Call, (∀ call ∈ plain, call.Plain) ∧
      (runAll plain cache).state = (runAll calls cache).state ∧
      (runAll plain cache).events = (runAll calls cache).events := by
  induction calls generalizing cache with
  | nil => exact ⟨[], List.forall_mem_nil _, rfl, rfl⟩
  | cons call calls ih =>
    rw [turns, List.forall_mem_cons] at nested
    obtain ⟨exchanges, hplain, hfirst⟩ := exists_plain_of_wellNested nested.1
    obtain ⟨rest, hrest, hstate, hevents⟩ := ih nested.2
    rw [Replayed] at hfirst
    refine ⟨exchanges.map Exchange.call ++ rest, ?_, ?_, ?_⟩
    · rw [List.forall_mem_append, List.forall_mem_map]
      exact ⟨hplain, hrest⟩
    · rw [runAll_append, hfirst]
      exact hstate
    · rw [runAll_append, hfirst, runAll, ← hevents]

/-- **Nested calls flatten.** A deserializer that asks for other URLs, but for none that is
    still being read, leaves the same entries in the same order, the same counters and the
    same events as if its calls had been made before, one after the other, and then the call
    for the URL with a deserializer that ends at once with the same result; and every call gets
    the same reply. The calls made beforehand may themselves be nested, or be all the calls at
    any depth, none of them nested any more. Where the URL has an entry, no content is read
    and no inner call is made. -/
theorem getOrParse_flattens (cache : Cache) (url : Document) (attempt : Attempt) :
    (cache.Misses url → attempt.WellNested [url] cache.missed →
      let whole := (Call.getOrParse url attempt).run cache
      let own := Call.getOrParse url (.ended (attempt.run cache.missed).value)
      let asked := attempt.exchanges cache.missed
      let all := attempt.flattened cache.missed
      runAll (asked.map Exchange.call ++ [own]) cache =
        ⟨asked.map Exchange.reply ++ [whole.value], whole.state, whole.events⟩ ∧
      runAll (all.map Exchange.call ++ [own]) cache =
        ⟨all.map Exchange.reply ++ [whole.value], whole.state, whole.events⟩ ∧
      ∀ exchange ∈ all, exchange.call.Plain) ∧
    ∀ entry, cache.held? url = some entry → ∀ read,
      cache.getOrParseWith read url = ⟨.ok (some entry), cache.used url, []⟩ := by
  constructor
  · intro misses nested whole own asked all
    have absent := held?_run_of_misses nested misses
    have hread : (attempt.run cache.missed).value = (attempt.run cache).value := by
      rw [missed_eq_ahead, attempt.run_ahead]
      rfl
    -- what is made beforehand is settled, and the own call comes at its end
    have hwhole : ∀ inside, Replayed inside cache (attempt.run cache) →
        runAll (inside.map Exchange.call ++ [own]) cache =
          ⟨inside.map Exchange.reply ++ [whole.value], whole.state, whole.events⟩ := by
      intro inside hinside
      have hcall := replayed_getOrParse (fun _ => hinside) fun _ => absent
      rw [if_pos misses, Replayed, List.map_append, List.map_append, ← hread] at hcall
      exact hcall
    obtain ⟨hasked, hall⟩ := replayed_of_missed nested
    exact ⟨hwhole asked hasked, hwhole all hall, plain_flattened attempt _⟩
  · intro entry held read
    exact getOrParseWith_of_present held read

/-- Three URLs, each read while another one is, in a cache for one entry: every store evicts
    the entry of the inner call. Once there, the outer URL is not read again. -/
theorem getOrParse_flattens_evicting :
    let read (url : Text) : Call := .getOrParse (.string url) (.ended (.ok .null))
    let cache := bounded 1 (by decide)
    let inner : Attempt := .nested (.string "c") (.ended (.ok .null)) fun _ => .ended (.ok .null)
    let attempt : Attempt := .nested (.string "b") inner fun _ => .ended (.ok .null)
    let whole := (Call.getOrParse (.string "a") attempt).run cache
    (runAll [.getOrParse (.string "b") inner, read "a"] cache).state = whole.state ∧
      (runAll [read "c", read "b", read "a"] cache).state = whole.state ∧
      (runAll [read "c", read "b", read "a"] cache).events = whole.events ∧
      whole.state.urls = ["a"] ∧ whole.state.evictions = 2 ∧
      whole.state.getOrParse (.string "a") attempt =
        ⟨.ok (some ⟨"a", .null⟩), whole.state.used (.string "a"), []⟩ := by
  intro read cache inner attempt whole
  have misses : cache.Misses (.string "a") := ⟨rfl, rfl⟩
  have hb : Document.string "b" ∉ [Document.string "a"] := by
    rw [List.mem_singleton, Document.string.injEq]
    decide
  have hc : Document.string "c" ∉ [Document.string "b", Document.string "a"] := by
    simp only [List.mem_cons, List.not_mem_nil, Document.string.injEq, or_false]
    decide
  have nested : attempt.WellNested [.string "a"] cache.missed :=
    ⟨hb, fun _ => ⟨hc, fun _ => trivial, trivial⟩, trivial⟩
  obtain ⟨hasked, hall, -⟩ := (getOrParse_flattens cache (.string "a") attempt).1 misses nested
  have held : whole.state.held? (.string "a") = some ⟨"a", .null⟩ := rfl
  have hagain := (getOrParse_flattens whole.state (.string "a") attempt).2 _ held attempt.run
  exact ⟨congrArg Ran.state hasked, congrArg Ran.state hall, congrArg Ran.events hall,
    by decide, by decide, hagain⟩

end Cache

end Gleaner
