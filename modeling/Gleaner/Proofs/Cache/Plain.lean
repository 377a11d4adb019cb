import Gleaner.Proofs.Cache.Entries
import Mathlib.Data.List.DropRight

/-! # Plain calls

    A call is plain if its deserializer leaves the cache alone. Then it does one of
    seven things: it hits, it stores what it read, it reads in vain, it finds an entry,
    it drops an entry, it clears the cache, or it changes nothing. `Effect` says of
    each what the call gets and what it leaves, and all that is proved of runs of
    plain calls is proved by these cases.
-/

namespace Gleaner

/-! ## The keys of changed entries -/

namespace Keyed

variable {α : Type u}

theorem keys_erase (key : Text) (pairs : Keyed α) :
    (erase key pairs).keys = pairs.keys.erase key := by
  induction pairs with
  | nil => rfl
  | cons pair rest ih =>
    obtain ⟨k, value⟩ := pair
    by_cases h : k = key
    · simp [erase, keys, h]
    · simpa [erase, keys, h, List.erase_cons] using ih

theorem keys_toEnd {key : Text} {value : α} {pairs : Keyed α}
    (h : pairs.get? key = some value) : (toEnd key pairs).keys = pairs.keys.erase key ++ [key] := by
  rw [← keys_erase]
  simp [toEnd, h, keys]

theorem nodup_keys_toEnd {pairs : Keyed α} (key : Text) (distinct : pairs.keys.Nodup) :
    (toEnd key pairs).keys.Nodup := by
  cases h : pairs.get? key with
  | none => simpa [toEnd, h] using distinct
  | some value =>
    rw [keys_toEnd h]
    exact (distinct.erase key).append (List.nodup_singleton key)
      (by simp [distinct.mem_erase_iff])

end Keyed

namespace Cache

variable {cache : Cache} {url : Document} {text : Text} {entry : Entry}
  {result : Except Fault Document} {call : Call} {ran : Ran Cache Reply}

/-! ## The end of a miss -/

/-- How many failures a reading counts for. -/
def failureCount : Except Fault Document → Nat
  | .error (.unreadable _) => 1
  | _ => 0

/-- What is reported of a reading that gives no document. -/
def failureReport (url : Document) : Except Fault Document → List Event
  | .error (.unreadable reason) => [.documentUnreadable url reason]
  | _ => []

theorem conclude_of_entry (absent : cache.held? url = none)
    (h : replyOf url result = .ok (some entry)) :
    cache.conclude url result = ⟨.ok (some entry), (cache.store entry).state,
      (cache.store entry).events ++ [.documentCached entry.url]⟩ := by
  obtain ⟨document, rfl, hentry⟩ := replyOf_eq_some_iff.mp h
  obtain ⟨text, rfl, rfl⟩ := Entry.ofValues_eq_ok_iff.mp hentry
  have hstored : (cache.store ⟨text, document⟩).value = (⟨text, document⟩, true) :=
    (store_of_absent absent).1
  simp [conclude, finish, hentry, hstored]

theorem conclude_of_no_entry (h : ∀ entry, replyOf url result ≠ .ok (some entry)) :
    cache.conclude url result = ⟨replyOf url result,
      { cache with failures := cache.failures + failureCount result },
      failureReport url result⟩ := by
  cases result with
  | ok document =>
    cases hentry : Entry.ofValues url document with
    | ok entry => exact absurd (by simp [replyOf, hentry, Except.map]) (h entry)
    | error fault =>
      simp [conclude, finish, hentry, replyOf, Except.map, failureCount, failureReport]
  | error fault => cases fault <;> rfl

/-! ## What a plain call does -/

/-- The deserializer of the call leaves the cache alone. -/
def Call.Plain : Call → Prop
  | .getOrParse _ attempt => ∃ result, attempt = .ended result
  | _ => True

/-- The call finds nothing that it could hand out, drop or read. -/
def Call.Idle (cache : Cache) : Call → Prop
  | .getOrParse url _ => isNoKey url = true
  | .get url => cache.held? url = none
  | .invalidate url => ∀ text, url = .string text → text ∉ cache.urls
  | .clear => False
  | _ => True

/-- What a plain call gets and what it leaves. -/
inductive Effect (cache : Cache) : Call → Ran Cache Reply → Prop
  /-- The URL has an entry, and no content is read. -/
  | hit {url : Document} {attempt : Attempt} {entry : Entry}
      (held : cache.held? url = some entry) :
      Effect cache (.getOrParse url attempt) ⟨.entry (some entry), cache.used url, []⟩
  /-- The content is read and stored. -/
  | stored {url : Document} {result : Except Fault Document} {entry : Entry}
      (absent : cache.held? url = none) (reply : replyOf url result = .ok (some entry)) :
      Effect cache (.getOrParse url (.ended result))
        ⟨.entry (some entry), (cache.missed.store entry).state,
          (cache.missed.store entry).events ++ [.documentCached entry.url]⟩
  /-- The content is read, and there is nothing to store. -/
  | vain {url : Document} {result : Except Fault Document} (key : isNoKey url = false)
      (absent : cache.held? url = none) (reply : ∀ entry, replyOf url result ≠ .ok (some entry)) :
      Effect cache (.getOrParse url (.ended result))
        ⟨.of .entry (replyOf url result),
          { cache.missed with failures := cache.failures + failureCount result },
          failureReport url result⟩
  | found {url : Document} {entry : Entry} (held : cache.held? url = some entry) :
      Effect cache (.get url) ⟨.entry (some entry), (cache.lookupValue url).2, []⟩
  | dropped {text : Text} (present : text ∈ cache.urls) :
      Effect cache (.invalidate (.string text))
        ⟨.flag true, { cache with entries := cache.entries.erase text },
          [.entryInvalidated text]⟩
  | cleared :
      Effect cache .clear ⟨.done, cache.clear.state, [.cacheCleared cache.size]⟩
  | idle {call : Call} {reply : Reply} (idle : call.Idle cache)
      (none : ∀ entry, reply ≠ .entry (some entry)) : Effect cache call ⟨reply, cache, []⟩

theorem effect_of_parse (cache : Cache) (url : Document) (result : Except Fault Document) :
    Effect cache (.getOrParse url (.ended result))
      ((Call.getOrParse url (.ended result)).run cache) := by
  simp only [Call.run]
  by_cases hkey : isNoKey url = true
  · rw [getOrParse_of_isNoKey hkey]
    exact .idle hkey (by simp [Reply.of])
  · rw [Bool.not_eq_true] at hkey
    cases hheld : cache.held? url with
    | some entry =>
      rw [getOrParse_of_present hheld]
      exact .hit hheld
    | none =>
      have hmissed : cache.missed.held? url = none := hheld
      rw [getOrParse_ended_of_absent hkey hheld]
      by_cases h : ∃ entry, replyOf url result = .ok (some entry)
      · obtain ⟨entry, hentry⟩ := h
        rw [conclude_of_entry hmissed hentry]
        exact .stored hheld hentry
      · rw [not_exists] at h
        rw [conclude_of_no_entry h]
        exact .vain hkey hheld h

theorem effect_of_get (cache : Cache) (url : Document) :
    Effect cache (.get url) ((Call.get url).run cache) := by
  simp only [Call.run, Cache.get]
  by_cases hkey : isNoKey url = true
  · rw [if_pos hkey]
    exact .idle (held?_of_isNoKey hkey cache) (by simp [Reply.of])
  · rw [if_neg hkey]
    cases hheld : cache.held? url with
    | some entry =>
      rw [(lookupValue_of_present hheld).1]
      exact .found hheld
    | none =>
      rw [lookupValue_of_held?_eq_none hheld]
      exact .idle hheld (by simp [Reply.of])

theorem effect_of_invalidate (cache : Cache) (url : Document) :
    Effect cache (.invalidate url) ((Call.invalidate url).run cache) := by
  simp only [Call.run, Cache.invalidate]
  by_cases hkey : isNoKey url = true
  · rw [if_pos hkey]
    refine .idle ?_ (by simp [Reply.of])
    intro text htext
    simp [htext, isNoKey] at hkey
  · rw [if_neg hkey]
    cases url with
    | string text =>
      by_cases hmem : text ∈ cache.urls
      · simp only [hmem, if_true]
        exact .dropped hmem
      · simp only [hmem, if_false]
        refine .idle ?_ (by simp [Reply.of])
        intro other hother
        rwa [← Document.string.inj hother]
    | _ => exact .idle (by simp [Call.Idle]) (by simp [Reply.of])

/-- A plain call does one of these things. -/
theorem effect_of_plain (plain : call.Plain) (cache : Cache) :
    Effect cache call (call.run cache) := by
  cases call with
  | getOrParse url attempt =>
    obtain ⟨result, rfl⟩ := plain
    exact effect_of_parse cache url result
  | get url => exact effect_of_get cache url
  | contains url => exact .idle trivial (by cases h : cache.contains url <;> simp [Reply.of])
  | size => exact .idle trivial (by simp)
  | invalidate url => exact effect_of_invalidate cache url
  | clear => exact .cleared
  | stats => exact .idle trivial (by simp)

/-! ## Some calls after others -/

theorem runAll_append (first rest : List Call) (cache : Cache) :
    runAll (first ++ rest) cache =
      let ran := runAll first cache
      let more := runAll rest ran.state
      ⟨ran.value ++ more.value, more.state, ran.events ++ more.events⟩ := by
  induction first generalizing cache with
  | nil => rfl
  | cons call first ih => simp [runAll, ih]

theorem runAll_append_singleton (calls : List Call) (call : Call) (cache : Cache) :
    (runAll (calls ++ [call]) cache).value =
        (runAll calls cache).value ++ [(call.run (runAll calls cache).state).value] ∧
      (runAll (calls ++ [call]) cache).state = (call.run (runAll calls cache).state).state := by
  rw [runAll_append]
  exact ⟨rfl, rfl⟩

end Cache

end Gleaner
