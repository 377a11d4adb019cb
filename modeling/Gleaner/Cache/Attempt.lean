import Gleaner.Cache.Basic

/-! # Reading through the cache

    `Cache.getOrParse` hands out the entry of a URL, and on a miss reads the content
    first. What a deserializer does with a content is an `Attempt`: it may ask the
    same cache for other URLs on its way, and another writer may store an entry
    meanwhile; at its end there is a document or a fault.

    Content that is not valid is a failure that is counted and reported, and no
    fault of the call. Every other fault is passed on. Nothing is stored then.
-/

namespace Gleaner

/-- What a deserializer does with a content. -/
inductive Attempt
  /-- It ends with a document or a fault. -/
  | ended (result : Except Fault Document)
  /-- It asks the cache for a URL, whose content is read as `inner` says, and goes on
      with the reply. -/
  | nested (url : Document) (inner : Attempt)
      (next : Except Fault (Option Entry) → Attempt)
  /-- Another writer stores an entry before it goes on. -/
  | rival (entry : Entry) (next : Attempt)

/-- A deserializer maps contents, which need not be texts, to attempts. -/
abbrev Deserializer := Document → Attempt

namespace Cache

/-- Stores what was read and reports it, unless another entry was first. -/
def finish (url document : Document) (cache : Cache) : Ran Cache (Except Fault (Option Entry)) :=
  match Entry.ofValues url document with
  | .error fault => ⟨.error fault, cache, []⟩
  | .ok entry =>
    let ran := cache.store entry
    ⟨.ok (some ran.value.1), ran.state,
      ran.events ++ (if ran.value.2 then [.documentCached entry.url] else [])⟩

/-- The end of a miss, when the content has been read with this result. -/
def conclude (url : Document) (result : Except Fault Document) (cache : Cache) :
    Ran Cache (Except Fault (Option Entry)) :=
  match result with
  | .ok document => cache.finish url document
  | .error (.unreadable reason) =>
    ⟨.ok none, { cache with failures := cache.failures + 1 }, [.documentUnreadable url reason]⟩
  | .error fault => ⟨.error fault, cache, []⟩

/-- The entry of a URL; on a miss the content is read by `read`. -/
def getOrParseWith (read : Cache → Ran Cache (Except Fault Document)) (url : Document)
    (cache : Cache) : Ran Cache (Except Fault (Option Entry)) :=
  if isNoKey url then ⟨.error .wrongKind, cache, []⟩
  else
    match cache.lookupValue url with
    | (some entry, after) => ⟨.ok (some entry), { after with hits := after.hits + 1 }, []⟩
    | (none, after) =>
      let ran := read { after with misses := after.misses + 1 }
      let done := ran.state.conclude url ran.value
      { done with events := ran.events ++ done.events }

end Cache

/-- An attempt carried out on a cache. -/
def Attempt.run : Attempt → Cache → Ran Cache (Except Fault Document)
  | ended result, cache => ⟨result, cache, []⟩
  | nested url inner next, cache =>
    let reply := cache.getOrParseWith inner.run url
    let rest := (next reply.value).run reply.state
    { rest with events := reply.events ++ rest.events }
  | rival entry next, cache =>
    let stored := cache.store entry
    let rest := next.run stored.state
    { rest with events := stored.events ++ rest.events }

namespace Cache

/-- The entry of a URL; on a miss the content is read by an attempt. -/
def getOrParse (url : Document) (attempt : Attempt) (cache : Cache) :
    Ran Cache (Except Fault (Option Entry)) :=
  cache.getOrParseWith attempt.run url

end Cache

end Gleaner
