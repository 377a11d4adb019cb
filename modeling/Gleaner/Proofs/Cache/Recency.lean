import Gleaner.Proofs.Cache.Attempts
import Mathlib.Data.List.Dedup

/-! # Entries and their last use

    A call uses a URL if it gets the entry of the URL. `Shift` says what a plain call
    does to the URLs of a cache, by the URL that it uses. In a cache with a bound `n`
    every use takes its URL to the end, and the last `n` URLs are kept; so the history
    of uses settles which URLs have an entry, and in which order they stand. Only an
    invalidation takes a URL out of turn.

    In a cache without a bound a use of a URL that is there leaves no trace, and the
    URLs stand in the order in which they were stored.
-/

namespace Gleaner.Cache

variable {cache : Cache} {call : Call} {ran : Ran Cache Reply} {reply : Reply} {entry : Entry}
  {urls uses : List Text} {url other : Text} {n : Nat}

/-! ## Taking a URL to the end -/

/-- The URL at the end, and of all URLs only the last `n`. -/
def touch (n : Nat) (url : Text) (urls : List Text) : List Text :=
  (urls.erase url ++ [url]).rtake n

/-- A URL that is there already needs no room. -/
theorem touch_of_mem (size : urls.length ≤ n) (h : url ∈ urls) :
    touch n url urls = urls.erase url ++ [url] := by
  have hlength := List.length_erase_of_mem h
  have hpos := List.length_pos_of_mem h
  have hroom : (urls.erase url).length + 1 - n = 0 := by omega
  simp [touch, List.rtake, hroom]

theorem touch_of_not_mem (h : url ∉ urls) : touch n url urls = (urls ++ [url]).rtake n := by
  rw [touch, List.erase_of_not_mem h]

theorem touch_sublist (n : Nat) (url : Text) (urls : List Text) :
    (touch n url urls).Sublist (urls.erase url ++ [url]) :=
  List.drop_sublist _ _

theorem length_touch_le (n : Nat) (url : Text) (urls : List Text) :
    (touch n url urls).length ≤ n := by
  simp only [touch, List.rtake, List.length_drop]
  omega

/-- The URLs when one of them has been used, or stored. -/
def afterUse (bound : Option Nat) (url : Text) (urls : List Text) : List Text :=
  match bound with
  | none => if url ∈ urls then urls else urls ++ [url]
  | some n => touch n url urls

/-! ## Uses -/

/-- The URL whose entry a call gets. -/
def Call.used? : Call → Reply → Option Text
  | .getOrParse (.string url) _, .entry (some _) => some url
  | .get (.string url), .entry (some _) => some url
  | _, _ => none

theorem used?_eq_none (h : ∀ entry, reply ≠ .entry (some entry)) : call.used? reply = none := by
  unfold Call.used?
  split
  · exact absurd rfl (h _)
  · exact absurd rfl (h _)
  · rfl

/-- Only texts have entries. -/
theorem exists_text_of_held {value : Document} (h : cache.held? value = some entry) :
    ∃ text, value = .string text ∧ cache.entries.get? text = some entry := by
  cases value with
  | string text => exact ⟨text, rfl, h⟩
  | _ => simp [held?] at h

theorem mem_urls_of_get? (h : cache.entries.get? url = some entry) : url ∈ cache.urls := by
  by_contra hmem
  rw [urls, ← Keyed.get?_eq_none_iff, h] at hmem
  cases hmem

theorem not_mem_urls (h : cache.held? (.string url) = none) : url ∉ cache.urls :=
  Keyed.get?_eq_none_iff.mp h

/-- No more entries than the bound allows, and one for each URL. -/
structure Tidy (cache : Cache) : Prop where
  size     : ∀ n, cache.bound = some n → cache.urls.length ≤ n
  distinct : cache.urls.Nodup

theorem tidy_of_empty (h : cache.urls = []) : Tidy cache :=
  ⟨fun n _ => by simp [h], by simp [h]⟩

theorem urls_lookupValue (tidy : Tidy cache) (h : cache.entries.get? url = some entry) :
    (cache.lookupValue (.string url)).2.urls = afterUse cache.bound url cache.urls := by
  have hmem : url ∈ cache.entries.keys := mem_urls_of_get? h
  cases hbound : cache.bound with
  | none => simp [lookupValue, lookup, h, hbound, urls, afterUse, hmem]
  | some n =>
    rw [afterUse, touch_of_mem (tidy.size n hbound) hmem]
    simp [lookupValue, lookup, h, hbound, urls, Keyed.keys_toEnd h]

theorem urls_store (absent : cache.held? (.string entry.url) = none) :
    (cache.store entry).state.urls = afterUse cache.bound entry.url cache.urls := by
  have hmem := not_mem_urls absent
  rw [held?_string] at absent
  cases hbound : cache.bound with
  | none =>
    rw [afterUse, if_neg hmem]
    simp [store, absent, urls, hbound, makeRoom, Keyed.keys]
  | some n =>
    rw [afterUse, touch_of_not_mem hmem]
    simp [store, absent, urls, hbound, makeRoom, List.splitAt_eq, List.rtake, Keyed.keys]

/-! ## What a call does to the URLs -/

/-- What a plain call does to the URLs of a cache. -/
inductive Shift (bound : Option Nat) (urls : List Text) (call : Call) (reply : Reply) :
    List Text → Prop
  | use {url : Text} (used : call.used? reply = some url) :
      Shift bound urls call reply (afterUse bound url urls)
  | drop {url : Text} (unused : call.used? reply = none)
      (drops : call = .invalidate (.string url)) :
      Shift bound urls call reply (urls.erase url)
  | clear (unused : call.used? reply = none) (clears : call = .clear) :
      Shift bound urls call reply []
  | rest (unused : call.used? reply = none) (keeps : call ≠ .clear) :
      Shift bound urls call reply urls

/-- A use is the same whether the URL was there or has just been stored. -/
theorem Effect.shift (h : Effect cache call ran) (tidy : Tidy cache) :
    Shift cache.bound cache.urls call ran.value ran.state.urls := by
  cases h with
  | hit held =>
    obtain ⟨text, rfl, hget⟩ := exists_text_of_held held
    have hurls : (cache.used (.string text)).urls = afterUse cache.bound text cache.urls :=
      urls_lookupValue tidy hget
    rw [hurls]
    exact .use rfl
  | @stored _ _ entry absent reply =>
    obtain rfl := url_of_replyOf reply
    have hmissed : cache.missed.held? (.string entry.url) = none := absent
    have hurls := urls_store hmissed
    rw [hurls]
    exact .use rfl
  | vain key absent reply =>
    -- without an entry in the reply there is no use
    refine .rest (used?_eq_none ?_) (by simp)
    intro entry
    cases h : replyOf _ _ with
    | error fault => simp [Reply.of]
    | ok found =>
      simp only [Reply.of, ne_eq, Reply.entry.injEq]
      intro hfound
      exact reply entry (by rw [h, hfound])
  | found held =>
    obtain ⟨text, rfl, hget⟩ := exists_text_of_held held
    rw [urls_lookupValue tidy hget]
    exact .use rfl
  | @dropped text present =>
    have hurls : (Keyed.erase text cache.entries).keys = cache.urls.erase text :=
      Keyed.keys_erase text cache.entries
    show Shift _ cache.urls _ _ (Keyed.erase text cache.entries).keys
    rw [hurls]
    exact .drop rfl rfl
  | cleared => exact .clear rfl rfl
  | idle idle none =>
    refine .rest (used?_eq_none none) ?_
    intro hclear
    simp [hclear, Call.Idle] at idle

theorem Effect.bound_eq (h : Effect cache call ran) : ran.state.bound = cache.bound := by
  cases h with
  | @hit url _ _ held =>
    obtain ⟨entries, hlooked, _⟩ := lookupValue_snd url cache
    simp [used, hlooked]
  | stored absent reply =>
    simp only [store]
    split <;> rfl
  | vain key absent reply => rfl
  | @found url _ held =>
    obtain ⟨entries, hlooked, _⟩ := lookupValue_snd url cache
    simp [hlooked]
  | dropped present => rfl
  | cleared => rfl
  | idle idle none => rfl

theorem Shift.size {after : List Text} (h : Shift (some n) urls call reply after)
    (size : urls.length ≤ n) : after.length ≤ n := by
  cases h with
  | use used => exact length_touch_le n _ _
  | drop unused drops => exact List.length_erase_le.trans size
  | clear unused clears => exact Nat.zero_le n
  | rest unused keeps => exact size

theorem Tidy.run (tidy : Tidy cache) (plain : call.Plain) : Tidy (call.run cache).state := by
  have heffect := effect_of_plain plain cache
  have hshift := heffect.shift tidy
  constructor
  · intro n hn
    rw [heffect.bound_eq] at hn
    rw [hn] at hshift
    exact hshift.size (tidy.size n hn)
  · exact nodup_urls_run call tidy.distinct

/-! ## Histories -/

/-- A call and the cache that it finds. -/
structure Turn where
  before : Cache
  call   : Call

namespace Turn

def after (turn : Turn) : Cache := (turn.call.run turn.before).state

def used? (turn : Turn) : Option Text := turn.call.used? (turn.call.run turn.before).value

/-- The call uses the URL. -/
def Uses (url : Text) (turn : Turn) : Prop := turn.used? = some url

/-- The URL has an entry that was not there before. -/
def Stores (url : Text) (turn : Turn) : Prop :=
  url ∉ turn.before.urls ∧ url ∈ turn.after.urls

instance (url : Text) (turn : Turn) : Decidable (turn.Uses url) :=
  inferInstanceAs (Decidable (_ = _))

instance (url : Text) (turn : Turn) : Decidable (turn.Stores url) :=
  inferInstanceAs (Decidable (_ ∧ _))

end Turn

/-- The turns of calls that are carried out one after the other. -/
def turns : List Call → Cache → List Turn
  | [], _ => []
  | call :: calls, cache => ⟨cache, call⟩ :: turns calls (call.run cache).state

theorem turns_append_singleton (calls : List Call) (call : Call) (cache : Cache) :
    turns (calls ++ [call]) cache = turns calls cache ++ [⟨(runAll calls cache).state, call⟩] := by
  induction calls generalizing cache with
  | nil => rfl
  | cons first calls ih => simp [turns, runAll, ih]

/-- The number of the last turn at which something happened. -/
def lastTime? (happened : Turn → Prop) [DecidablePred happened] (history : List Turn) :
    Option Nat :=
  (history.reverse.findIdx? fun turn => happened turn).map (history.length - 1 - ·)

section LastTime

variable {happened : Turn → Prop} [DecidablePred happened] {history : List Turn} {turn : Turn}

theorem lastTime?_append_singleton (history : List Turn) (turn : Turn) :
    lastTime? happened (history ++ [turn]) =
      if happened turn then some history.length else lastTime? happened history := by
  unfold lastTime?
  rw [List.reverse_append, List.reverse_singleton, List.singleton_append, List.findIdx?_cons]
  by_cases h : happened turn
  · simp [h]
  · simp only [h, decide_false, Bool.false_eq_true, if_false, Option.map_map, List.length_append,
      List.length_singleton]
    congr 1
    funext i
    simp only [Function.comp_apply]
    omega

theorem lt_of_lastTime? {i : Nat} (h : lastTime? happened history = some i) :
    i < history.length := by
  unfold lastTime? at h
  obtain ⟨back, hback, rfl⟩ := Option.map_eq_some_iff.mp h
  have hlt := (List.findIdx?_eq_some_iff_findIdx_eq.mp hback).1
  rw [List.length_reverse] at hlt
  omega

end LastTime

/-- What happened to the second URL last happened after what happened to the first. -/
def Earlier (happened : Text → Turn → Prop) [∀ url, DecidablePred (happened url)]
    (history : List Turn) (first second : Text) : Prop :=
  ∃ i j, lastTime? (happened first) history = some i ∧
    lastTime? (happened second) history = some j ∧ i < j

/-- It has happened to all URLs, and they stand in the order in which it last did. -/
structure InOrder (happened : Text → Turn → Prop) [∀ url, DecidablePred (happened url)]
    (history : List Turn) (urls : List Text) : Prop where
  dated   : ∀ url ∈ urls, (lastTime? (happened url) history).isSome
  ordered : urls.Pairwise (Earlier happened history)

section InOrder

variable {happened : Text → Turn → Prop} [∀ url, DecidablePred (happened url)]
  {history : List Turn} {turn : Turn}

theorem inOrder_nil (history : List Turn) : InOrder happened history [] :=
  ⟨by simp, List.Pairwise.nil⟩

theorem InOrder.sublist {fewer : List Text} (h : InOrder happened history urls)
    (hfewer : fewer.Sublist urls) : InOrder happened history fewer :=
  ⟨fun url hurl => h.dated url (hfewer.subset hurl), h.ordered.sublist hfewer⟩

/-- A turn at which it happens to none of the URLs. -/
theorem InOrder.rest (h : InOrder happened history urls) (hrest : ∀ url ∈ urls, ¬ happened url turn) :
    InOrder happened (history ++ [turn]) urls := by
  have hsame : ∀ url ∈ urls,
      lastTime? (happened url) (history ++ [turn]) = lastTime? (happened url) history := by
    intro url hurl
    rw [lastTime?_append_singleton, if_neg (hrest url hurl)]
  constructor
  · intro url hurl
    rw [hsame url hurl]
    exact h.dated url hurl
  · refine h.ordered.imp_of_mem ?_
    intro a b ha hb hearlier
    unfold Earlier
    rwa [hsame a ha, hsame b hb]

/-- A turn at which it happens to one more URL, which goes to the end. -/
theorem InOrder.concat (h : InOrder happened history urls)
    (hrest : ∀ url ∈ urls, ¬ happened url turn) (hurl : happened url turn) :
    InOrder happened (history ++ [turn]) (urls ++ [url]) := by
  have hbefore := h.rest hrest
  have hnow : lastTime? (happened url) (history ++ [turn]) = some history.length := by
    rw [lastTime?_append_singleton, if_pos hurl]
  constructor
  · intro other hother
    rcases List.mem_append.mp hother with hother | hother
    · exact hbefore.dated other hother
    · obtain rfl := List.mem_singleton.mp hother
      simp [hnow]
  · rw [List.pairwise_append]
    refine ⟨hbefore.ordered, List.pairwise_singleton _ _, ?_⟩
    intro other hother last hlast
    obtain rfl := List.mem_singleton.mp hlast
    -- the other URL was last met at an earlier turn
    obtain ⟨i, hi⟩ := Option.isSome_iff_exists.mp (h.dated other hother)
    refine ⟨i, history.length, ?_, hnow, lt_of_lastTime? hi⟩
    rw [lastTime?_append_singleton, if_neg (hrest other hother), hi]

end InOrder

/-! ## The order of the entries -/

/-- A cache with the bound `n` whose entries stand in the order of their last use. -/
structure Ordered (n : Nat) (cache : Cache) (history : List Turn) : Prop where
  bound   : cache.bound = some n
  tidy    : Tidy cache
  inOrder : InOrder Turn.Uses history cache.urls

variable {history : List Turn}

theorem Ordered.shift (h : Ordered n cache history) (plain : call.Plain) :
    Shift (some n) cache.urls call (call.run cache).value (call.run cache).state.urls := by
  have hshift := (effect_of_plain plain cache).shift h.tidy
  rwa [h.bound] at hshift

/-- The URLs in the order of their last use, before any of them has to go. -/
theorem Ordered.inOrder_of_use (h : Ordered n cache history)
    (used : call.used? (call.run cache).value = some url) :
    InOrder Turn.Uses (history ++ [⟨cache, call⟩]) (cache.urls.erase url ++ [url]) := by
  refine (h.inOrder.sublist List.erase_sublist).concat ?_ used
  intro other hother huses
  obtain rfl : url = other := Option.some.inj (used.symm.trans huses)
  exact h.tidy.distinct.not_mem_erase hother

theorem Ordered.step (h : Ordered n cache history) (plain : call.Plain) :
    Ordered n (call.run cache).state (history ++ [⟨cache, call⟩]) := by
  have hbound : (call.run cache).state.bound = some n := by
    rw [(effect_of_plain plain cache).bound_eq, h.bound]
  refine ⟨hbound, h.tidy.run plain, ?_⟩
  have hunused : call.used? (call.run cache).value = none →
      ∀ url, ¬ Turn.Uses url ⟨cache, call⟩ := by
    intro hnone url huses
    simp only [Turn.Uses, Turn.used?, hnone] at huses
    cases huses
  have hshift := h.shift plain
  generalize (call.run cache).state.urls = after at hshift
  cases hshift with
  | @use url used => exact (h.inOrder_of_use used).sublist (touch_sublist n url cache.urls)
  | drop unused drops =>
    exact (h.inOrder.sublist List.erase_sublist).rest fun url _ => hunused unused url
  | clear unused clears => exact inOrder_nil _
  | rest unused keeps => exact h.inOrder.rest fun url _ => hunused unused url

def Call.clears : Call → Bool
  | .clear => true
  | _ => false

theorem Call.clears_eq_false (keeps : call ≠ .clear) : call.clears = false := by
  cases call with
  | clear => exact absurd rfl keeps
  | _ => rfl

theorem Effect.evictions_of_unbounded (h : Effect cache call ran) (unbounded : cache.bound = none)
    (start : cache.evictions = 0) : ran.state.evictions = 0 := by
  cases h with
  | hit held => rwa [used_of_unbounded unbounded]
  | @stored _ _ entry absent reply =>
    obtain rfl := url_of_replyOf reply
    have hmissed : cache.missed.held? (.string entry.url) = none := absent
    have hbound : cache.missed.bound = none := unbounded
    rwa [store_state_of_unbounded hbound hmissed]
  | vain key absent reply => exact start
  | found held => rwa [lookupValue_snd_of_unbounded unbounded]
  | dropped present => exact start
  | cleared => rfl
  | idle idle none => exact start

/-- A cache without a bound whose entries stand in the order of their storing. -/
structure Lasting (cache : Cache) (history : List Turn) : Prop where
  bound     : cache.bound = none
  evictions : cache.evictions = 0
  tidy      : Tidy cache
  inOrder   : InOrder Turn.Stores history cache.urls

/-- What is there already is not stored. -/
theorem Lasting.inOrder_rest (h : Lasting cache history) {fewer : List Text}
    (hfewer : fewer.Sublist cache.urls) :
    InOrder Turn.Stores (history ++ [⟨cache, call⟩]) fewer := by
  refine (h.inOrder.sublist hfewer).rest ?_
  intro url hurl hstores
  exact hstores.1 (hfewer.subset hurl)

theorem Lasting.step (h : Lasting cache history) (plain : call.Plain) :
    Lasting (call.run cache).state (history ++ [⟨cache, call⟩]) := by
  have heffect := effect_of_plain plain cache
  refine ⟨heffect.bound_eq.trans h.bound, heffect.evictions_of_unbounded h.bound h.evictions,
    h.tidy.run plain, ?_⟩
  have hshift := heffect.shift h.tidy
  rw [h.bound] at hshift
  generalize hafter : (call.run cache).state.urls = after at hshift
  cases hshift with
  | @use url used =>
    rw [afterUse] at hafter ⊢
    by_cases hmem : url ∈ cache.urls
    · rw [if_pos hmem]
      exact h.inOrder_rest (List.Sublist.refl _)
    · rw [if_neg hmem] at hafter ⊢
      refine h.inOrder.concat (fun other hother hstores => hstores.1 hother) ⟨hmem, ?_⟩
      show url ∈ (call.run cache).state.urls
      simp [hafter]
  | drop unused drops => exact h.inOrder_rest List.erase_sublist
  | clear unused clears => exact inOrder_nil _
  | rest unused keeps => exact h.inOrder_rest (List.Sublist.refl _)

end Gleaner.Cache
