import Gleaner.Proofs.Cache.Plain

/-! # What a deserializer can do to the cache

    A deserializer may use the cache while it runs, to any depth, and another writer
    may store entries meanwhile. All that this can do is look up, count a miss, store
    an entry and count a failure, under the URLs that come up in the run. So what each
    of these keeps, the whole run keeps.
-/

namespace Gleaner

/-- Run on a cache, an attempt asks for allowed URLs only, and nothing else is stored. What
    it would do after other replies, and what would be read for a URL that has an entry,
    does not count. -/
def Attempt.Within (allowed : Document → Prop) : Attempt → Cache → Prop
  | ended _, _ => True
  | nested url inner next, cache =>
    let reply := cache.getOrParse url inner
    allowed url ∧ (cache.Misses url → inner.Within allowed cache.missed) ∧
      (next reply.value).Within allowed reply.state
  | rival entry next, cache =>
    allowed (.string entry.url) ∧ next.Within allowed (cache.store entry).state

namespace Cache

variable {allowed : Document → Prop} {P : Cache → Prop} {cache : Cache} {url : Document}

/-- A property that every single operation under an allowed URL keeps. -/
structure Kept (allowed : Document → Prop) (P : Cache → Prop) : Prop where
  used : ∀ {cache url}, allowed url → P cache → P (cache.used url)
  missed : ∀ {cache}, P cache → P cache.missed
  store : ∀ {cache entry}, allowed (.string entry.url) → P cache → P (cache.store entry).state
  failed : ∀ {cache} failures, P cache → P { cache with failures }

namespace Kept

theorem conclude (kept : Kept allowed P) (hurl : allowed url) (hcache : P cache)
    (result : Except Fault Document) : P (cache.conclude url result).state := by
  rcases conclude_state url result cache with ⟨entry, hreply, hstate⟩ | ⟨_, failures, hstate⟩
  · rw [hstate]
    exact kept.store (url_of_replyOf hreply ▸ hurl) hcache
  · rw [hstate]
    exact kept.failed failures hcache

/-- What the reading keeps, the call keeps that reads on a miss. -/
theorem getOrParse (kept : Kept allowed P) {attempt : Attempt} (hurl : allowed url)
    (hcache : P cache) (hread : cache.Misses url → P (attempt.run cache.missed).state) :
    P (cache.getOrParse url attempt).state := by
  by_cases hkey : isNoKey url = true
  · rw [getOrParse_of_isNoKey hkey]
    exact hcache
  · rw [Bool.not_eq_true] at hkey
    cases hheld : cache.held? url with
    | some entry =>
      rw [getOrParse_of_present hheld]
      exact kept.used hurl hcache
    | none =>
      rw [getOrParse_of_absent hkey hheld]
      exact kept.conclude hurl (hread ⟨hkey, hheld⟩) _

/-- The induction is on the attempt; a nested call is one call whose reading is the
    inner attempt. -/
theorem run (kept : Kept allowed P) {attempt : Attempt} (within : attempt.Within allowed cache)
    (hcache : P cache) : P (attempt.run cache).state := by
  induction attempt generalizing cache with
  | ended result => exact hcache
  | nested url inner next ihInner ihNext =>
    obtain ⟨hurl, hinner, hnext⟩ := within
    have hreply : P (cache.getOrParse url inner).state :=
      kept.getOrParse hurl hcache fun hmisses => ihInner (hinner hmisses) (kept.missed hcache)
    exact ihNext _ hnext hreply
  | rival entry next ih =>
    obtain ⟨hurl, hnext⟩ := within
    exact ih hnext (kept.store hurl hcache)

end Kept

/-! ## One entry for each URL -/

theorem nodup_urls_used (url : Document) (distinct : cache.urls.Nodup) :
    (cache.used url).urls.Nodup := by
  obtain ⟨entries, hlooked, rfl | ⟨text, _, rfl⟩⟩ := lookupValue_snd url cache
  · rw [used, hlooked]
    exact distinct
  · rw [used, hlooked]
    exact Keyed.nodup_keys_toEnd text distinct

theorem nodup_urls_store (entry : Entry) (distinct : cache.urls.Nodup) :
    (cache.store entry).state.urls.Nodup := by
  cases hheld : cache.held? (.string entry.url) with
  | some present => rwa [store_of_present hheld]
  | none =>
    obtain ⟨_, fewer, hfewer, hentries⟩ := store_of_absent hheld
    have hnew : entry.url ∉ Keyed.keys fewer := fun hmem =>
      Keyed.get?_eq_none_iff.mp hheld ((hfewer.map Prod.fst).subset hmem)
    have hkeys : Keyed.keys (fewer ++ [(entry.url, entry)]) = fewer.keys ++ [entry.url] :=
      List.map_append
    rw [urls, hentries, hkeys]
    exact (Keyed.nodup_keys_of_sublist hfewer distinct).append (List.nodup_singleton _)
      (by simpa using hnew)

/-- No operation gives a URL a second entry. -/
theorem kept_distinct : Kept (fun _ => True) fun cache => cache.urls.Nodup where
  used := fun _ distinct => nodup_urls_used _ distinct
  missed := id
  store := fun _ distinct => nodup_urls_store _ distinct
  failed := fun _ => id

theorem within_true (attempt : Attempt) (cache : Cache) :
    attempt.Within (fun _ => True) cache := by
  induction attempt generalizing cache with
  | ended result => trivial
  | nested url inner next ihInner ihNext => exact ⟨trivial, fun _ => ihInner _, ihNext _ _⟩
  | rival entry next ih => exact ⟨trivial, ih _⟩

theorem nodup_urls_run (call : Call) (distinct : cache.urls.Nodup) :
    (call.run cache).state.urls.Nodup := by
  cases call with
  | getOrParse url attempt =>
    exact kept_distinct.getOrParse trivial distinct fun _ =>
      kept_distinct.run (within_true attempt _) distinct
  | get url =>
    simp only [Call.run, Cache.get, Ran.map]
    split
    · exact distinct
    · exact nodup_urls_used url distinct
  | invalidate url =>
    cases url with
    | string text =>
      by_cases hmem : text ∈ cache.urls
      · simp only [Call.run, Cache.invalidate, Ran.map, isNoKey, hmem]
        exact Keyed.nodup_keys_of_sublist (Keyed.erase_sublist text cache.entries) distinct
      · simpa [Call.run, Cache.invalidate, Ran.map, isNoKey, hmem] using distinct
    | _ => exact distinct
  | clear => exact List.nodup_nil
  | contains url => exact distinct
  | size => exact distinct
  | stats => exact distinct

end Cache

end Gleaner
