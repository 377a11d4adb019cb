import Gleaner.Cache.Attempt

/-! # Calls to a cache

    Everything that can be asked of a cache, as data: calls can be put in lists,
    run one after the other, and handed to callers who come at any time.
-/

namespace Gleaner.Cache

/-- What can be asked of a cache. -/
inductive Call
  | getOrParse (url : Document) (attempt : Attempt)
  | get (url : Document)
  | contains (url : Document)
  | size
  | invalidate (url : Document)
  | clear
  | stats

/-- What a call gets. -/
inductive Reply
  | entry (found : Option Entry)
  | flag (value : Bool)
  | count (n : Nat)
  | done
  | stats (stats : Stats)
  | fault (fault : Fault)

/-- The reply to a call that may end in a fault. -/
def Reply.of (reply : α → Reply) : Except Fault α → Reply
  | .ok a => reply a
  | .error cause => .fault cause

/-- Carries a call out. -/
def Call.run : Call → Cache → Ran Cache Reply
  | .getOrParse url attempt, cache => (cache.getOrParse url attempt).map (.of .entry)
  | .get url, cache => (cache.get url).map (.of .entry)
  | .contains url, cache => ⟨.of .flag (cache.contains url), cache, []⟩
  | .size, cache => ⟨.count cache.size, cache, []⟩
  | .invalidate url, cache => (cache.invalidate url).map (.of .flag)
  | .clear, cache => cache.clear.map fun _ => .done
  | .stats, cache => ⟨.stats cache.stats, cache, []⟩

/-- Carries calls out one after the other. -/
def runAll : List Call → Cache → Ran Cache (List Reply)
  | [], cache => ⟨[], cache, []⟩
  | call :: calls, cache =>
    let first := call.run cache
    let others := runAll calls first.state
    ⟨first.value :: others.value, others.state, first.events ++ others.events⟩

end Gleaner.Cache
