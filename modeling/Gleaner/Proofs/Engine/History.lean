import Gleaner.Proofs.Cache.Attempts
import Gleaner.Proofs.Engine.Requests

/-! # The history of a URL

    Without a bound an entry stays until it is dropped. So the outcome of a parse is
    that of the earliest parse of the same URL whose content was accepted since the
    URL was last dropped: its document counts, whatever content came later and under
    whatever format.

    A deserializer may use the cache itself. What it does under other URLs does not
    matter to a URL; a deserializer that asks for the URL, or another writer that
    stores under it, breaks the law.
-/

namespace Gleaner

namespace Cache

/-! ## Caches without a bound -/

/-- A cache without a bound whose URLs are distinct. -/
structure Unbounded (cache : Cache) : Prop where
  bound    : cache.bound = none
  distinct : cache.entries.keys.Nodup

variable {cache : Cache}

theorem Unbounded.store (h : cache.Unbounded) (entry : Entry) :
    (cache.store entry).state.Unbounded := by
  cases hheld : cache.held? (.string entry.url) with
  | some present =>
    rw [store_of_present hheld]
    exact h
  | none =>
    rw [store_state_of_unbounded h.bound hheld]
    refine ⟨h.bound, ?_⟩
    rw [held?_string, Keyed.get?_eq_none_iff] at hheld
    have hkeys : Keyed.keys (cache.entries ++ [(entry.url, entry)]) =
        cache.entries.keys ++ [entry.url] := by
      simp [Keyed.keys]
    rw [hkeys]
    exact h.distinct.append (List.nodup_singleton _) (by simpa using hheld)

/-- A URL keeps what it has as long as only other URLs are used. -/
theorem kept_held (url : Document) (found : Option Entry) :
    Kept (· ≠ url) fun cache => cache.Unbounded ∧ cache.held? url = found where
  used := by
    intro cache url _ hkept
    obtain ⟨h, hheld⟩ := hkept
    rw [used_of_unbounded h.bound]
    exact ⟨⟨h.bound, h.distinct⟩, hheld⟩
  missed := fun ⟨h, hheld⟩ => ⟨⟨h.bound, h.distinct⟩, hheld⟩
  store := by
    intro cache entry hne hkept
    obtain ⟨h, hheld⟩ := hkept
    refine ⟨h.store entry, ?_⟩
    cases hstored : cache.held? (.string entry.url) with
    | some present => rwa [store_of_present hstored]
    | none =>
      rw [store_state_of_unbounded h.bound hstored]
      cases url with
      | string text =>
        have hother : entry.url ≠ text := fun heq => hne (by rw [heq])
        simpa [Keyed.get?_append, Keyed.get?, hother] using hheld
      | _ => exact hheld
  failed := fun _ ⟨h, hheld⟩ => ⟨⟨h.bound, h.distinct⟩, hheld⟩

/-- Without a bound, only taking an entry away changes which entries there are. -/
theorem Unbounded.get (h : cache.Unbounded) (url : Document) : (cache.get url).state = cache := by
  unfold Cache.get
  split
  · rfl
  · exact lookupValue_snd_of_unbounded h.bound url

theorem Unbounded.invalidate (h : cache.Unbounded) (url : Document) (text : Text) :
    (cache.invalidate url).state.Unbounded ∧
      (cache.invalidate url).state.held? (.string text) =
        if url.text? = some text then none else cache.held? (.string text) := by
  cases url with
  | string other =>
    by_cases hmem : other ∈ cache.urls
    · simp only [Cache.invalidate, isNoKey, hmem, if_true, Bool.false_eq_true, if_false,
        held?_string, Document.text?, Option.some.injEq]
      refine ⟨⟨h.bound, Keyed.nodup_keys_of_sublist (Keyed.erase_sublist _ _) h.distinct⟩, ?_⟩
      by_cases heq : other = text
      · rw [if_pos heq, ← heq]
        exact Keyed.get?_erase_self h.distinct
      · rw [if_neg heq]
        exact Keyed.get?_erase_of_ne (Ne.symm heq) _
    · simp only [Cache.invalidate, isNoKey, hmem, if_false, Bool.false_eq_true,
        held?_string, Document.text?, Option.some.injEq]
      refine ⟨h, ?_⟩
      by_cases heq : other = text
      · rw [if_pos heq, ← heq]
        exact Keyed.get?_eq_none_iff.mpr hmem
      · rw [if_neg heq]
  | _ => exact ⟨h, by simp [Cache.invalidate, isNoKey, Document.text?]⟩

end Cache

namespace Engine

/-! ## Histories -/

/-- A request and the engine that it finds. -/
structure Moment where
  engine  : Engine
  request : Request

/-- Whether a request takes away what is kept under a URL. -/
def Request.drops (url : Text) : Request → Bool
  | .invalidate other => other.text? == some url
  | .clear => true
  | _ => false

/-- The document that a parse of a URL gives if its content is read. -/
def Moment.accepted? (url : Text) (moment : Moment) : Option Document :=
  match moment.request with
  | .parse other content selector format =>
    if other.text? = some url then
      (dispatch? moment.engine.registry other content selector format).bind fun dispatch =>
        (dispatch.attempt.run moment.engine.cache.missed).value.toOption
    else none
  | _ => none

/-- The document of the earliest accepted parse of a URL since the URL was last dropped. -/
def document? (url : Text) (history : List Moment) : Option Document :=
  let since := (history.reverse.takeWhile fun moment => !moment.request.drops url).reverse
  since.findSome? (Moment.accepted? url)

theorem document?_append_singleton (url : Text) (history : List Moment) (moment : Moment) :
    document? url (history ++ [moment]) =
      if moment.request.drops url then none
      else (document? url history).or (moment.accepted? url) := by
  unfold document?
  cases h : moment.request.drops url <;> simp [h, List.findSome?_append]

/-- No deserializer that runs at this moment uses the cache under a URL. None runs unless
    there is a dispatched parse, and this parse finds no entry. -/
def Moment.Apart (url : Text) (moment : Moment) : Prop :=
  match moment.request with
  | .parse other content selector format =>
    ∀ dispatch, dispatch? moment.engine.registry other content selector format = some dispatch →
      moment.engine.cache.Misses other →
        dispatch.attempt.Within (· ≠ .string url) moment.engine.cache.missed
  | _ => True

/-- The outcome of a dispatched parse whose reading ends in a fault. -/
def Dispatch.failed (dispatch : Dispatch) : Fault → Except Fault Outcome
  | .unreadable _ => .ok { status := .contentUnreadable, format := some dispatch.key }
  | fault => .error fault

/-! ## The entry of a URL records its history -/

/-- What the entry of a URL has to do with the history of an engine. -/
structure Recorded (registry : Registry) (url : Text) (engine : Engine)
    (history : List Moment) : Prop where
  registry  : engine.registry = registry
  unbounded : engine.cache.Unbounded
  held      : engine.cache.held? (.string url) = (document? url history).map (Entry.mk url)

variable {registry : Registry} {url : Text} {engine : Engine} {history : List Moment}
  {content format : Document} {selector : SelectorArgument} {dispatch : Dispatch}

/-- The reading of a URL that has no entry finds none at its end either, so it settles
    both the reply and the entry. -/
theorem getOrParse_of_apart {attempt : Attempt} {cache : Cache} (h : cache.Unbounded)
    (hheld : cache.held? (.string url) = none)
    (apart : attempt.Within (· ≠ .string url) cache.missed) :
    let reply := Cache.replyOf (.string url) (attempt.run cache.missed).value
    (cache.getOrParse (.string url) attempt).value = reply ∧
      (cache.getOrParse (.string url) attempt).state.Unbounded ∧
      (cache.getOrParse (.string url) attempt).state.held? (.string url) =
        reply.toOption.join := by
  obtain ⟨hran, hnone⟩ := (Cache.kept_held (.string url) none).run apart
    ((Cache.kept_held (.string url) none).missed ⟨h, hheld⟩)
  rw [Cache.getOrParse_of_absent rfl hheld]
  refine ⟨Cache.conclude_value hnone _, ?_, Cache.held?_conclude_self hnone _⟩
  rcases Cache.conclude_state (.string url) (attempt.run cache.missed).value
    (attempt.run cache.missed).state with ⟨entry, _, hstate⟩ | ⟨_, failures, hstate⟩
  · show (Cache.conclude _ _ _).state.Unbounded
    rw [hstate]
    exact hran.store entry
  · show (Cache.conclude _ _ _).state.Unbounded
    rw [hstate]
    exact ⟨hran.bound, hran.distinct⟩

theorem accepted?_of_dispatch
    (hdispatch : dispatch? engine.registry (.string url) content selector format = some dispatch) :
    Moment.accepted? url ⟨engine, .parse (.string url) content selector format⟩ =
      (dispatch.attempt.run engine.cache.missed).value.toOption := by
  simp [Moment.accepted?, Document.text?, hdispatch]

/-- The entry of a reply is made of the document that was accepted. -/
theorem replyOf_toOption (url : Text) (reading : Except Fault Document) :
    (Cache.replyOf (.string url) reading).toOption.join =
      reading.toOption.map (Entry.mk url) := by
  cases reading with
  | ok document => rfl
  | error fault => cases fault <;> rfl

/-- What the caller gets for a reading, if the URL has no entry. -/
theorem outcome_replyOf (dispatch : Dispatch) (url : Text) (reading : Except Fault Document) :
    dispatch.outcome (Cache.replyOf (.string url) reading) =
      match reading with
      | .ok document => dispatch.select document
      | .error fault => dispatch.failed fault := by
  cases reading with
  | ok document => rfl
  | error fault => cases fault <;> rfl

/-- A dispatched parse of the URL itself: what is there stays, and what is accepted is
    there afterwards. -/
theorem Recorded.parse_self (h : Recorded registry url engine history)
    (hdispatch : dispatch? registry (.string url) content selector format = some dispatch)
    (apart : Moment.Apart url ⟨engine, .parse (.string url) content selector format⟩) :
    let request := Request.parse (.string url) content selector format
    let found := document? url (history ++ [⟨engine, request⟩])
    ((∀ document, found = some document →
        (request.run engine).value = .outcome (dispatch.select document)) ∧
      (found = none → ∃ fault, (dispatch.attempt.run engine.cache.missed).value = .error fault ∧
        (request.run engine).value = .outcome (dispatch.failed fault))) ∧
      Recorded registry url (request.run engine).state (history ++ [⟨engine, request⟩]) := by
  intro request found
  obtain rfl := h.registry
  obtain ⟨hvalue, hstate⟩ := parseOutcome_of_dispatch hdispatch
  have hrun : (request.run engine).state = { engine with
    cache := (engine.cache.getOrParse (.string url) dispatch.attempt).state } := hstate
  have hfound : found = (document? url history).or
      (dispatch.attempt.run engine.cache.missed).value.toOption := by
    rw [← accepted?_of_dispatch hdispatch]
    exact document?_append_singleton url history ⟨engine, request⟩
  have hheld := h.held
  cases hrecorded : document? url history with
  | some document =>
    -- The URL has an entry, so the content is not read at all.
    rw [hrecorded] at hheld hfound
    rw [Option.some_or] at hfound
    rw [Cache.getOrParse_of_present hheld, Cache.used_of_unbounded h.unbounded.bound]
      at hvalue hrun
    refine ⟨⟨fun other hother => ?_, fun hnone => ?_⟩, ?_⟩
    · obtain rfl : document = other := Option.some.inj (hfound.symm.trans hother)
      exact congrArg Answer.outcome hvalue
    · rw [hnone] at hfound
      cases hfound
    · rw [hrun]
      exact ⟨rfl, ⟨h.unbounded.bound, h.unbounded.distinct⟩, hheld.trans (by rw [← hfound])⟩
  | none =>
    -- The reading decides: a document becomes the entry, a failure leaves none.
    rw [hrecorded] at hheld hfound
    rw [Option.none_or] at hfound
    obtain ⟨hreply, hunbounded, hentry⟩ :=
      getOrParse_of_apart h.unbounded hheld (apart dispatch hdispatch ⟨rfl, hheld⟩)
    rw [hreply, outcome_replyOf] at hvalue
    rw [replyOf_toOption, ← hfound] at hentry
    refine ⟨⟨fun document hdocument => ?_, fun hnone => ?_⟩, ?_⟩
    · cases hread : (dispatch.attempt.run engine.cache.missed).value with
      | ok own =>
        rw [hdocument, hread] at hfound
        rw [hread] at hvalue
        obtain rfl : document = own := Option.some.inj hfound
        exact congrArg Answer.outcome hvalue
      | error fault =>
        rw [hdocument, hread] at hfound
        cases hfound
    · cases hread : (dispatch.attempt.run engine.cache.missed).value with
      | ok own =>
        rw [hnone, hread] at hfound
        cases hfound
      | error fault =>
        rw [hread] at hvalue
        exact ⟨fault, rfl, congrArg Answer.outcome hvalue⟩
    · rw [hrun]
      exact ⟨rfl, hunbounded, hentry⟩

/-- A dispatched parse of another URL leaves this one alone. -/
theorem Recorded.parse_other {other : Document} (h : Recorded registry url engine history)
    (hother : other ≠ .string url)
    (hdispatch : dispatch? registry other content selector format = some dispatch)
    (apart : Moment.Apart url ⟨engine, .parse other content selector format⟩) :
    let request := Request.parse other content selector format
    Recorded registry url (request.run engine).state (history ++ [⟨engine, request⟩]) := by
  intro request
  obtain rfl := h.registry
  obtain ⟨_, hstate⟩ := parseOutcome_of_dispatch hdispatch
  have hrun : (request.run engine).state = { engine with
    cache := (engine.cache.getOrParse other dispatch.attempt).state } := hstate
  -- Neither the parse nor anything that its deserializer asks for is under the URL.
  have kept := Cache.kept_held (.string url) ((document? url history).map (Entry.mk url))
  obtain ⟨hunbounded, hheld⟩ := kept.getOrParse hother ⟨h.unbounded, h.held⟩ fun hmisses =>
    kept.run (apart dispatch hdispatch hmisses) (kept.missed ⟨h.unbounded, h.held⟩)
  have htext : other.text? ≠ some url := by
    intro htext
    cases other with
    | string text => exact hother (by rw [Option.some.inj htext])
    | _ => cases htext
  rw [hrun]
  refine ⟨rfl, hunbounded, ?_⟩
  rw [document?_append_singleton]
  simpa [request, Request.drops, Moment.accepted?, htext] using hheld

/-- Every request keeps the record of a URL that no deserializer uses. -/
theorem Recorded.step (shared : registry.Shared) (h : Recorded registry url engine history)
    (request : Request) (apart : Moment.Apart url ⟨engine, request⟩) :
    Recorded registry url (request.run engine).state (history ++ [⟨engine, request⟩]) := by
  cases request with
  | parse other content selector format =>
    cases hdispatch : dispatch? registry other content selector format with
    | none =>
      obtain ⟨result, hresult⟩ := parseOutcome_of_no_dispatch shared hdispatch
      obtain ⟨registry, cache⟩ := engine
      obtain rfl := h.registry
      have hrun : (Request.run (.parse other content selector format) ⟨registry, cache⟩).state =
          ⟨registry, cache⟩ := (hresult cache).2
      rw [hrun]
      refine ⟨rfl, h.unbounded, ?_⟩
      rw [document?_append_singleton]
      simpa [Request.drops, Moment.accepted?, hdispatch] using h.held
    | some dispatch =>
      by_cases hother : other = .string url
      · subst hother
        exact (h.parse_self hdispatch apart).2
      · exact h.parse_other hother hdispatch apart
  | get other =>
    have hrun : (Request.run (.get other) engine).state = engine := by
      show { engine with cache := (engine.cache.get other).state } = engine
      rw [h.unbounded.get]
    rw [hrun]
    refine ⟨h.registry, h.unbounded, ?_⟩
    rw [document?_append_singleton]
    simpa [Request.drops, Moment.accepted?] using h.held
  | invalidate other =>
    obtain ⟨hunbounded, hheld⟩ := h.unbounded.invalidate other url
    refine ⟨h.registry, hunbounded, hheld.trans ?_⟩
    rw [document?_append_singleton]
    by_cases htext : other.text? = some url
    · simp [Request.drops, htext]
    · simpa [Request.drops, Moment.accepted?, htext] using h.held
  | clear =>
    refine ⟨h.registry, ⟨h.unbounded.bound, List.nodup_nil⟩, ?_⟩
    rw [document?_append_singleton]
    rfl

/-- A parse by the selector that picks the whole document. -/
def Request.whole (url content format : Text) : Request :=
  .parse (.string url) (.string content) (.selector (.function .ok)) (.string format)

end Engine

end Gleaner
