import Gleaner.Proofs.Engine.Requests

/-! # The cache is transparent

    As long as every URL carries one content, an engine with the built-in formats
    answers as if it had no cache: each parse has the outcome that it would have as
    the only request to a new engine. Hits, evictions and new tries after failures
    are not to be seen, whatever the bound.

    The invariant ties every entry to the reading of the content of its URL. Entries
    only come from readings, so all that the other operations could do is to lose
    some, and a lost entry is read again.
-/

namespace Gleaner

namespace Cache

variable {cache : Cache} {url : Document} {result : Except Fault Document}

theorem entries_of_ofBound {bound : Option Int} (h : ofBound bound = .ok cache) :
    cache.entries = [] := by
  cases bound with
  | none =>
    obtain rfl := Except.ok.inj h
    rfl
  | some n =>
    unfold ofBound at h
    by_cases hn : 0 < n.toNat
    · simp only [hn, dif_pos] at h
      obtain rfl := Except.ok.inj h
      rfl
    · simp [hn] at h

/-- If the entry of a URL is the one that the reading gives, the reply is that of the
    reading whether there is an entry or not. -/
theorem getOrParse_value_of_held
    (h : ∀ entry, cache.held? url = some entry → replyOf url result = .ok (some entry)) :
    (cache.getOrParse url (.ended result)).value =
      if isNoKey url then .error .wrongKind else replyOf url result := by
  by_cases hkey : isNoKey url = true
  · rw [getOrParse_of_isNoKey hkey, if_pos hkey]
  · rw [if_neg hkey]
    rw [Bool.not_eq_true] at hkey
    cases hheld : cache.held? url with
    | some entry => rw [getOrParse_of_present hheld, h entry hheld]
    | none =>
      have hmissed : cache.missed.held? url = none := hheld
      rw [getOrParse_ended_of_absent hkey hheld, conclude_value hmissed]

/-- A reading adds no entry but its own. -/
theorem mem_entries_getOrParse {pair : Text × Entry}
    (h : pair ∈ (cache.getOrParse url (.ended result)).state.entries) :
    pair ∈ cache.entries ∨
      ∃ entry, replyOf url result = .ok (some entry) ∧ pair = (entry.url, entry) := by
  by_cases hkey : isNoKey url = true
  · rw [getOrParse_of_isNoKey hkey] at h
    exact .inl h
  · rw [Bool.not_eq_true] at hkey
    cases hheld : cache.held? url with
    | some entry =>
      rw [getOrParse_of_present hheld] at h
      exact .inl (mem_entries_used h)
    | none =>
      rw [getOrParse_ended_of_absent hkey hheld] at h
      have hadded := mem_entries_conclude h
      exact hadded

end Cache

namespace Engine

/-! ## Contents and their readings -/

/-- What the built-in deserializer makes of a content. -/
def readingOf (content : Document) : Except Fault Document :=
  (Json.readContent content).mapError Deserializer.unreadable

/-- Some request parses this content for a URL. -/
def Carries (requests : List Request) (url : Text) (content : Document) : Prop :=
  ∃ selector format, .parse (.string url) content selector format ∈ requests

/-- Every URL carries at most one content. -/
def Consistent (requests : List Request) : Prop :=
  ∀ url content other, Carries requests url content → Carries requests url other →
    content = other

variable {requests : List Request} {engine : Engine} {label : Text} {url content format : Document}
  {selector : SelectorArgument} {dispatch : Dispatch}

theorem attempt_of_builtIn
    (h : dispatch? (.builtIn label) url content selector format = some dispatch) :
    dispatch.attempt = .ended (readingOf content) := by
  unfold dispatch? at h
  split at h
  · obtain ⟨deserialize, hparser, rfl⟩ := Option.map_eq_some_iff.mp h
    obtain ⟨parser, hget, hdeserialize⟩ := Option.bind_eq_some_iff.mp hparser
    obtain ⟨_, rfl⟩ := Prod.mk.inj (List.mem_singleton.mp (Keyed.mem_of_get?_eq_some hget))
    obtain rfl := Option.some.inj hdeserialize
    rfl
  · cases h

/-! ## Entries are readings -/

/-- Every entry is what the reading of each content of its URL gives. -/
structure Faithful (label : Text) (requests : List Request) (engine : Engine) : Prop where
  registry : engine.registry = .builtIn label
  entries  : ∀ pair ∈ engine.cache.entries, ∀ content, Carries requests pair.1 content →
    Cache.replyOf (.string pair.1) (readingOf content) = .ok (some pair.2)

theorem faithful_of_empty {cache : Cache} (h : cache.entries = []) :
    Faithful label requests ⟨.builtIn label, cache⟩ := by
  refine ⟨rfl, ?_⟩
  intro pair hpair
  simp [h] at hpair

/-- The entry that a request finds is that of its own reading. -/
theorem Faithful.held (h : Faithful label requests engine)
    (hmem : .parse url content selector format ∈ requests) (entry : Entry)
    (hheld : engine.cache.held? url = some entry) :
    Cache.replyOf url (readingOf content) = .ok (some entry) := by
  cases url with
  | string text =>
    exact h.entries _ (Keyed.mem_of_get?_eq_some hheld) content ⟨selector, format, hmem⟩
  | _ => cases hheld

theorem Faithful.step (consistent : Consistent requests) (h : Faithful label requests engine)
    {request : Request} (hmem : request ∈ requests) :
    Faithful label requests (request.run engine).state := by
  obtain ⟨registry, cache⟩ := engine
  obtain rfl := h.registry
  cases request with
  | parse url content selector format =>
    cases hdispatch : dispatch? (.builtIn label) url content selector format with
    | none =>
      obtain ⟨result, hresult⟩ :=
        parseOutcome_of_no_dispatch (Registry.builtIn_shared label) hdispatch
      have hrun : (Request.run (.parse url content selector format) ⟨.builtIn label, cache⟩).state =
          ⟨.builtIn label, cache⟩ := (hresult cache).2
      rwa [hrun]
    | some dispatch =>
      have hstate : (Request.run (.parse url content selector format)
          ⟨.builtIn label, cache⟩).state =
            ⟨.builtIn label, (cache.getOrParse url dispatch.attempt).state⟩ :=
        (parseOutcome_of_dispatch hdispatch).2
      rw [hstate, attempt_of_builtIn hdispatch]
      refine ⟨rfl, ?_⟩
      intro pair hpair other hother
      rcases Cache.mem_entries_getOrParse hpair with hold | ⟨entry, hreply, rfl⟩
      · exact h.entries pair hold other hother
      · -- the new entry: its URL carries no other content than the one that was read
        obtain rfl := Cache.url_of_replyOf hreply
        obtain rfl := consistent _ _ _ hother ⟨selector, format, hmem⟩
        exact hreply
  | get url => exact ⟨rfl, fun pair hpair => h.entries pair (Cache.mem_entries_run rfl hpair)⟩
  | invalidate url =>
    exact ⟨rfl, fun pair hpair => h.entries pair (Cache.mem_entries_run rfl hpair)⟩
  | clear => exact ⟨rfl, fun pair hpair => h.entries pair (Cache.mem_entries_run rfl hpair)⟩

/-- Faithful engines give the same outcome. -/
theorem Faithful.outcome_eq {other : Engine} (h : Faithful label requests engine)
    (hother : Faithful label requests other)
    (hmem : .parse url content selector format ∈ requests) :
    (engine.parseOutcome url content selector format).value =
      (other.parseOutcome url content selector format).value := by
  obtain ⟨registry, cache⟩ := engine
  obtain ⟨otherRegistry, otherCache⟩ := other
  obtain rfl := h.registry
  obtain rfl := hother.registry
  -- The cache only matters to a parse that is dispatched, and there the entry agrees with
  -- the reading.
  cases hdispatch : dispatch? (.builtIn label) url content selector format with
  | none =>
    obtain ⟨result, hresult⟩ :=
      parseOutcome_of_no_dispatch (Registry.builtIn_shared label) hdispatch
    rw [(hresult cache).1, (hresult otherCache).1]
  | some dispatch =>
    rw [(parseOutcome_of_dispatch hdispatch).1, (parseOutcome_of_dispatch hdispatch).1,
      attempt_of_builtIn hdispatch, Cache.getOrParse_value_of_held (h.held hmem),
      Cache.getOrParse_value_of_held (hother.held hmem)]

/-- The induction is on the requests still to come; the contents that count are those
    of all requests. -/
theorem Faithful.after (consistent : Consistent requests) (h : Faithful label requests engine)
    {some : List Request} (hsome : ∀ request ∈ some, request ∈ requests) :
    Faithful label requests (Engine.after some engine) := by
  induction some generalizing engine with
  | nil => exact h
  | cons request rest ih =>
    exact ih (h.step consistent (hsome request (by simp)))
      fun other hother => hsome other (List.mem_cons_of_mem _ hother)

/-- **Transparency.** If no URL carries two contents, every parse has the outcome that it
    has as the only request to a new engine, of whatever bound. -/
theorem outcome_eq_alone {bound otherBound : Option Int} {cache fresh : Cache}
    (hcache : Cache.ofBound bound = .ok cache) (hfresh : Cache.ofBound otherBound = .ok fresh)
    (consistent : Consistent requests) (i : Nat)
    (hrequest : requests[i]? = some (.parse url content selector format)) :
    (answers requests (.ofCache cache))[i]? =
      some (.outcome ((Engine.ofCache fresh).parseOutcome url content selector format).value) := by
  have hmem := List.mem_of_getElem? hrequest
  have hbefore : Faithful builtInLabel requests (Engine.after (requests.take i) (.ofCache cache)) :=
    (faithful_of_empty (Cache.entries_of_ofBound hcache)).after consistent
      fun request => List.mem_of_mem_take
  have hfresh : Faithful builtInLabel requests (.ofCache fresh) :=
    faithful_of_empty (Cache.entries_of_ofBound hfresh)
  rw [answers_getElem?, hrequest, Option.map_some]
  show some (Answer.outcome (Engine.parseOutcome _ _ _ _ _).value) = _
  rw [hbefore.outcome_eq hfresh hmem]

/-- A cache of one entry that reads two URLs in turn: the third parse finds the entry of its
    URL evicted, reads it again, and nobody sees it. -/
theorem outcome_eq_alone_evicted :
    let parse (url content : Text) : Request :=
      .parse (.string url) (.string content) (.selector (.function .ok)) (.string "json")
    let requests := [parse "u" "1", .get (.string "u"), parse "v" "2", parse "u" "1"]
    (answers requests (.ofCache (.bounded 1 (by decide))))[3]? =
      some (.outcome (.ok { status := .found, value := .int 1, format := some "json" })) := by
  intro parse requests
  have hcache : Cache.ofBound (some 1) = .ok (.bounded 1 (by decide)) := rfl
  have hfresh : Cache.ofBound none = .ok .unbounded := rfl
  have hdistinct : ("u" : Text) ≠ "v" := by decide
  have carried : ∀ url content, Carries requests url content →
      (url = "u" ∧ content = .string "1") ∨ (url = "v" ∧ content = .string "2") := by
    intro url content hcarries
    obtain ⟨selector, format, h⟩ := hcarries
    simp only [requests, parse, List.mem_cons, List.not_mem_nil, or_false,
      Request.parse.injEq, Document.string.injEq, reduceCtorEq, false_or] at h
    rcases h with ⟨hurl, hcontent, -⟩ | ⟨hurl, hcontent, -⟩ | ⟨hurl, hcontent, -⟩
    · exact .inl ⟨hurl, hcontent⟩
    · exact .inr ⟨hurl, hcontent⟩
    · exact .inl ⟨hurl, hcontent⟩
  have consistent : Consistent requests := by
    intro url content other h hother
    rcases carried url content h with ⟨rfl, rfl⟩ | ⟨rfl, rfl⟩
    · rcases carried _ other hother with ⟨-, rfl⟩ | ⟨hurl, -⟩
      · rfl
      · exact absurd hurl hdistinct
    · rcases carried _ other hother with ⟨hurl, -⟩ | ⟨-, rfl⟩
      · exact absurd hurl.symm hdistinct
      · rfl
  exact (outcome_eq_alone hcache hfresh consistent 3 rfl).trans rfl

end Engine

end Gleaner
