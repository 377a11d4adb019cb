import Gleaner.Event
import Gleaner.Fault
import Gleaner.Keyed
import Gleaner.Validation.Model
import Gleaner.Validation.Integer

/-! # A cache of documents

    Documents are kept by the URL of the content that they were read from, until they
    are invalidated. A cache may have a bound; then the entry that has not been used
    for the longest time makes room for a new one.

    The entries stand in order: with a bound by their last use, the oldest first,
    and without one by their storing. An entry is never replaced: what is stored
    first under a URL stays.
-/

namespace Gleaner

/-- The document of one URL. The time at which it was read is left out, since nothing looks
    at it. So entries that were made at different times are equal here if their documents
    are, and to hand out "the same entry" is to hand out one with the same values. -/
structure Entry where
  url      : Text
  document : Document

/-- The entry of values that need not fit. The URL must be a text. -/
def Entry.ofValues (url document : Document) : Except Fault Entry :=
  match Validation.text url with
  | .ok text => .ok ⟨text, document⟩
  | .error problem => .error (.invalid [⟨["url"], problem⟩])

/-- A cache with its counters. -/
structure Cache where
  bound     : Option Nat
  entries   : Keyed Entry := []
  hits      : Nat := 0
  misses    : Nat := 0
  /-- Contents that could not be read. -/
  failures  : Nat := 0
  evictions : Nat := 0
  bound_pos : ∀ n, bound = some n → 0 < n

namespace Cache

/-- An empty cache without a bound. -/
def unbounded : Cache where
  bound := none
  bound_pos := by simp

instance : Inhabited Cache := ⟨unbounded⟩

/-- An empty cache of at most `n` entries. -/
def bounded (n : Nat) (h : 0 < n) : Cache where
  bound := some n
  bound_pos := fun m hm => by
    cases hm
    exact h

/-- An empty cache. A bound must be at least one. -/
def ofBound : Option Int → Except Fault Cache
  | none => .ok unbounded
  | some n =>
    if h : 0 < n.toNat then .ok (bounded n.toNat h) else .error .boundTooSmall

/-- The URLs of the entries in order. -/
def urls (cache : Cache) : List Text := cache.entries.keys

/-! ## Looking up -/

/-- A value that cannot be looked up at all. -/
def isNoKey : Document → Bool
  | .array _ => true
  | .object _ => true
  | _ => false

/-- The entry of a URL. With a bound, finding it counts as a use. -/
def lookup (url : Text) (cache : Cache) : Option Entry × Cache :=
  match cache.entries.get? url with
  | none => (none, cache)
  | some entry =>
    (some entry,
      if cache.bound.isSome then { cache with entries := cache.entries.toEnd url } else cache)

/-- The entry of a value that need not be a URL; only texts have entries. -/
def lookupValue (url : Document) (cache : Cache) : Option Entry × Cache :=
  match url with
  | .string text => cache.lookup text
  | _ => (none, cache)

/-- The entry of a URL. -/
def get (url : Document) (cache : Cache) : Ran Cache (Except Fault (Option Entry)) :=
  if isNoKey url then ⟨.error .wrongKind, cache, []⟩
  else
    let (found, after) := cache.lookupValue url
    ⟨.ok found, after, []⟩

/-- Whether a URL has an entry. This is no use of the entry. -/
def contains (url : Document) (cache : Cache) : Except Fault Bool :=
  if isNoKey url then .error .wrongKind
  else .ok (cache.lookupValue url).1.isSome

def size (cache : Cache) : Nat := cache.entries.length

/-! ## Storing -/

/-- The entries that have to go, and those that stay. -/
def makeRoom (bound : Option Nat) (entries : Keyed Entry) : Keyed Entry × Keyed Entry :=
  match bound with
  | none => ([], entries)
  | some n => entries.splitAt (entries.length - n)

/-- Stores an entry unless its URL has one. The value is the entry that is there
    afterwards, and whether it is the new one. -/
def store (entry : Entry) (cache : Cache) : Ran Cache (Entry × Bool) :=
  match cache.entries.get? entry.url with
  | some present => ⟨(present, false), cache, []⟩
  | none =>
    let (gone, kept) := makeRoom cache.bound (cache.entries ++ [(entry.url, entry)])
    ⟨(entry, true),
      { cache with entries := kept, evictions := cache.evictions + gone.length },
      gone.map fun (url, _) => .entryEvicted url⟩

/-- Stores a document under a URL. -/
def storeValues (url document : Document) (cache : Cache) : Ran Cache (Except Fault Entry) :=
  match Entry.ofValues url document with
  | .error fault => ⟨.error fault, cache, []⟩
  | .ok entry => (cache.store entry).map fun (kept, _) => .ok kept

/-! ## Maintenance -/

/-- Drops the entry of a URL, if there is one. -/
def invalidate (url : Document) (cache : Cache) : Ran Cache (Except Fault Bool) :=
  if isNoKey url then ⟨.error .wrongKind, cache, []⟩
  else
    match url with
    | .string text =>
      if text ∈ cache.urls then
        ⟨.ok true, { cache with entries := cache.entries.erase text }, [.entryInvalidated text]⟩
      else ⟨.ok false, cache, []⟩
    | _ => ⟨.ok false, cache, []⟩

/-- Drops all entries and sets the counters to zero. -/
def clear (cache : Cache) : Ran Cache Unit :=
  ⟨(), { bound := cache.bound, bound_pos := cache.bound_pos }, [.cacheCleared cache.size]⟩

/-- What a cache tells about itself. -/
structure Stats where
  entries    : Int
  maxEntries : Option Int
  hits       : Int := 0
  misses     : Int := 0
  failures   : Int := 0
  evictions  : Int := 0
  deriving DecidableEq, Repr

/-- The figures that an object gives; fields of other names are left out of account. -/
def Stats.ofFields (fields : Keyed Document) : Validation.Checked Stats :=
  open Validation in
  let count (name : String) : Checked Int := field name (.ofProblem ∘ integer) (.ok 0) fields
  let entries := required "entries" (.ofProblem ∘ integer) fields
  let maxEntries := required "max_entries" (orNull (.ofProblem ∘ integer)) fields
  let parses := (count "hits").both (count "misses")
  let losses := (count "failures").both (count "evictions")
  ((entries.both maxEntries).both (parses.both losses)).map
    fun ((entries, maxEntries), (hits, misses), (failures, evictions)) =>
      { entries, maxEntries, hits, misses, failures, evictions }

/-- The figures as named fields. -/
def Stats.toFields (stats : Stats) : Keyed Document :=
  [("entries", .int stats.entries),
    ("max_entries", (stats.maxEntries.map .int).getD .null),
    ("hits", .int stats.hits),
    ("misses", .int stats.misses),
    ("failures", .int stats.failures),
    ("evictions", .int stats.evictions)]

def stats (cache : Cache) : Stats where
  entries := cache.size
  maxEntries := cache.bound.map (↑·)
  hits := cache.hits
  misses := cache.misses
  failures := cache.failures
  evictions := cache.evictions

end Cache

end Gleaner
