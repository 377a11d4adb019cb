import Gleaner.Cache.Crowd
import Gleaner.Proofs.Cache.Plain
import Mathlib.Data.Finset.Card

/-! # The steps of a crowd

    `Step` has one constructor for each thing that can happen in a crowd: a caller
    comes, answers at once, registers with a lock, takes it, looks a second time,
    reads, concludes, gives the lock back and leaves. Every action is one of these,
    and all invariants of crowds are proved by these cases.

    A step moves at most one caller. So the callers in a given stage, which `those`
    collects, gain or lose at most that one.
-/

namespace Gleaner.Cache

/-- The reply of a caller who has one, be they done or not. -/
def Stage.decided? : Stage → Option Reply
  | releasing _ reply _ => some reply
  | leaving _ reply _ => some reply
  | finished reply => some reply
  | _ => none

namespace Crowd

/-- A call that comes is plain. -/
def Action.Plain : Action → Prop
  | .arrive call => call.Plain
  | .advance _ => True

/-- Takes actions one after the other, if they can happen. -/
def actAll? : List Action → Crowd → Option Crowd
  | [], crowd => some crowd
  | action :: actions, crowd => (crowd.act? action).bind (actAll? actions)

theorem actAll?_append (first rest : List Action) (crowd : Crowd) :
    actAll? (first ++ rest) crowd = (actAll? first crowd).bind (actAll? rest) := by
  induction first generalizing crowd with
  | nil => rfl
  | cons action first ih =>
    simp only [List.cons_append, actAll?]
    cases crowd.act? action with
    | none => rfl
    | some next => exact ih next

/-- A run ends with its last action. -/
theorem actAll?_append_singleton {actions : List Action} {action : Action} {crowd next : Crowd} :
    actAll? (actions ++ [action]) crowd = some next ↔
      ∃ before, actAll? actions crowd = some before ∧ before.act? action = some next := by
  rw [actAll?_append, Option.bind_eq_some_iff]
  simp [actAll?]

/-! ## Steps -/

/-- What a step does to a cache and its events, by what it ran. -/
def withRan (ran : Ran Cache α) (crowd : Crowd) : Crowd :=
  { crowd with cache := ran.state, events := crowd.events ++ ran.events }

/-- What can happen in a crowd. -/
inductive Step (crowd : Crowd) : Action → Crowd → Prop
  | arrive (call : Call) : Step crowd (.arrive call) (crowd.arrive call)
  /-- A call that needs no lock. -/
  | answer {i : Nat} {call : Call} (hcaller : crowd.callers i = some (.arrived call))
    (hcall : call.isParse = false) :
    Step crowd (.advance i) ((crowd.withRan (call.run crowd.cache)).moveTo i
      (.finished (call.run crowd.cache).value))
  /-- The URL is a value that cannot be looked up. -/
  | refuse {i : Nat} {url : Document} {attempt : Attempt}
    (hcaller : crowd.callers i = some (.arrived (.getOrParse url attempt)))
    (hname : lockName? url = none) :
    Step crowd (.advance i) (crowd.moveTo i (.finished (.fault .wrongKind)))
  | hit {i : Nat} {url : Document} {attempt : Attempt} {entry : Entry}
    (hcaller : crowd.callers i = some (.arrived (.getOrParse url attempt)))
    (hheld : crowd.cache.held? url = some entry) :
    Step crowd (.advance i) ({ crowd with cache := crowd.cache.used url }.moveTo i
      (.finished (.entry (some entry))))
  | register {i : Nat} {url : Document} {name : LockName} {attempt : Attempt}
    (hcaller : crowd.callers i = some (.arrived (.getOrParse url attempt)))
    (hname : lockName? url = some name) (habsent : crowd.cache.held? url = none) :
    Step crowd (.advance i) (crowd.register i url name attempt)
  | take {i : Nat} {url : Document} {name : LockName} {attempt : Attempt} {lock : Nat}
    (hcaller : crowd.callers i = some (.waiting url name attempt lock))
    (hfree : (crowd.made lock).holder = none) :
    Step crowd (.advance i)
      ((crowd.withLock lock { crowd.made lock with holder := some i }).moveTo i
        (.holding url name attempt lock))
  | hitAgain {i : Nat} {url : Document} {name : LockName} {attempt : Attempt} {lock : Nat}
    {entry : Entry} (hcaller : crowd.callers i = some (.holding url name attempt lock))
    (hheld : crowd.cache.held? url = some entry) :
    Step crowd (.advance i) ({ crowd with cache := crowd.cache.used url }.moveTo i
      (.releasing name (.entry (some entry)) lock))
  | miss {i : Nat} {url : Document} {name : LockName} {attempt : Attempt} {lock : Nat}
    (hcaller : crowd.callers i = some (.holding url name attempt lock))
    (habsent : crowd.cache.held? url = none) :
    Step crowd (.advance i) ({ crowd with cache := crowd.cache.missed }.moveTo i
      (.reading url name attempt lock))
  | read {i : Nat} {url : Document} {name : LockName} {attempt : Attempt} {lock : Nat}
    (hcaller : crowd.callers i = some (.reading url name attempt lock)) :
    Step crowd (.advance i) (crowd.read i url name attempt lock)
  | conclude {i : Nat} {url : Document} {name : LockName} {result : Except Fault Document}
    {lock : Nat} (hcaller : crowd.callers i = some (.concluding url name result lock)) :
    Step crowd (.advance i) ((crowd.withRan (crowd.cache.conclude url result)).moveTo i
      (.releasing name (.of .entry (crowd.cache.conclude url result).value) lock))
  | release {i : Nat} {name : LockName} {reply : Reply} {lock : Nat}
    (hcaller : crowd.callers i = some (.releasing name reply lock)) :
    Step crowd (.advance i) (crowd.release i name reply lock)
  | leave {i : Nat} {name : LockName} {reply : Reply} {lock : Nat}
    (hcaller : crowd.callers i = some (.leaving name reply lock)) :
    Step crowd (.advance i) (crowd.leave i name reply lock)

theorem lockName?_eq_none_iff {url : Document} : lockName? url = none ↔ isNoKey url = true := by
  cases url <;> simp [lockName?, isNoKey]

/-- Every action is one of the steps. -/
theorem step_of_act? {action : Action} {crowd next : Crowd} (h : crowd.act? action = some next) :
    Step crowd action next := by
  cases action with
  | arrive call =>
    obtain rfl := Option.some.inj h
    exact .arrive call
  | advance i =>
    simp only [act?, advance?] at h
    split at h
    · cases h
    · next call hcaller =>
      obtain rfl := Option.some.inj h
      cases hcall : call.isParse with
      | false =>
        cases call with
        | getOrParse url attempt => simp [Call.isParse] at hcall
        | _ => exact .answer hcaller hcall
      | true =>
        cases call with
        | getOrParse url attempt =>
          simp only [start, look]
          cases hname : lockName? url with
          | none => exact .refuse hcaller hname
          | some name =>
            cases hheld : crowd.cache.held? url with
            | none =>
              rw [lookupValue_of_held?_eq_none hheld]
              exact .register hcaller hname hheld
            | some entry =>
              obtain ⟨hlooked, hused⟩ := lookupValue_of_present hheld
              rw [hlooked]
              simp only [hused]
              exact .hit hcaller hheld
        | _ => simp [Call.isParse] at hcall
    · next url name attempt lock hcaller =>
      simp only [Option.isNone_iff_eq_none] at h
      split at h
      · next hfree =>
        obtain rfl := Option.some.inj h
        exact .take hcaller hfree
      · cases h
    · next url name attempt lock hcaller =>
      obtain rfl := Option.some.inj h
      simp only [lookAgain]
      cases hheld : crowd.cache.held? url with
      | none =>
        rw [lookupValue_of_held?_eq_none hheld]
        exact .miss hcaller hheld
      | some entry =>
        obtain ⟨hlooked, hused⟩ := lookupValue_of_present hheld
        rw [hlooked]
        simp only [hused]
        exact .hitAgain hcaller hheld
    · next url name attempt lock hcaller =>
      obtain rfl := Option.some.inj h
      exact .read hcaller
    · next url name result lock hcaller =>
      obtain rfl := Option.some.inj h
      exact .conclude hcaller
    · next name reply lock hcaller =>
      obtain rfl := Option.some.inj h
      exact .release hcaller
    · next name reply lock hcaller =>
      obtain rfl := Option.some.inj h
      exact .leave hcaller
    · cases h

/-! ## Callers -/

/-- Exactly the callers who have come have a stage. -/
def Numbered (crowd : Crowd) : Prop := ∀ i, (crowd.callers i).isSome ↔ i < crowd.arrived

/-- One caller went from a stage to another; everyone else is where they were. -/
structure Moved (i : Nat) (old new : Stage) (crowd next : Crowd) : Prop where
  before  : crowd.callers i = some old
  callers : next.callers = set crowd.callers i (some new)
  arrived : next.arrived = crowd.arrived

section Moved

variable {i j : Nat} {old new stage : Stage} {crowd next : Crowd}

theorem Moved.after (moved : Moved i old new crowd next) : next.callers i = some new := by
  rw [moved.callers, set_self]

theorem Moved.other (moved : Moved i old new crowd next) (hne : j ≠ i) :
    next.callers j = crowd.callers j := by
  rw [moved.callers, set_ne _ _ hne]

/-- Who has a stage is the caller who moved, or had it before. -/
theorem Moved.cases (moved : Moved i old new crowd next) (hj : next.callers j = some stage) :
    (j = i ∧ stage = new) ∨ (j ≠ i ∧ crowd.callers j = some stage) := by
  by_cases h : j = i
  · subst h
    rw [moved.after] at hj
    exact .inl ⟨rfl, (Option.some.inj hj).symm⟩
  · rw [moved.other h] at hj
    exact .inr ⟨h, hj⟩

theorem Numbered.lt (numbered : Numbered crowd) (hi : crowd.callers i = some stage) :
    i < crowd.arrived :=
  (numbered i).mp (by rw [hi]; rfl)

theorem Numbered.callers_arrived (numbered : Numbered crowd) :
    crowd.callers crowd.arrived = none := by
  have h := numbered crowd.arrived
  simpa using h

theorem Numbered.moved (numbered : Numbered crowd) (moved : Moved i old new crowd next) :
    Numbered next := by
  intro j
  rw [moved.arrived, ← numbered j]
  by_cases h : j = i
  · subst h
    rw [moved.after, moved.before]
    rfl
  · rw [moved.other h]

/-- Who has a stage is the caller who came, or had it before. -/
theorem Numbered.arrive_cases (numbered : Numbered crowd) {call : Call}
    (hj : (crowd.arrive call).callers j = some stage) :
    (j = crowd.arrived ∧ stage = .arrived call) ∨
      (j < crowd.arrived ∧ crowd.callers j = some stage) := by
  by_cases h : j = crowd.arrived
  · subst h
    have hnew : (crowd.arrive call).callers crowd.arrived = some (.arrived call) := set_self _ _ _
    rw [hnew] at hj
    exact .inl ⟨rfl, (Option.some.inj hj).symm⟩
  · have hbefore : crowd.callers j = some stage := (set_ne _ _ h).symm.trans hj
    exact .inr ⟨numbered.lt hbefore, hbefore⟩

theorem Numbered.arrive (numbered : Numbered crowd) (call : Call) :
    Numbered (crowd.arrive call) := by
  intro j
  by_cases h : j = crowd.arrived
  · subst h
    simp [Crowd.arrive, moveTo]
  · simp only [Crowd.arrive, moveTo, set_ne _ _ h]
    rw [numbered j]
    omega

@[simp] theorem cache_register (i : Nat) (url : Document) (name : LockName) (attempt : Attempt)
    (crowd : Crowd) : (crowd.register i url name attempt).cache = crowd.cache := by
  unfold register
  cases crowd.locks name <;> rfl

@[simp] theorem cache_leave (i : Nat) (name : LockName) (reply : Reply) (lock : Nat)
    (crowd : Crowd) : (crowd.leave i name reply lock).cache = crowd.cache := by
  unfold leave
  simp only
  split <;> rfl

theorem moved_register {call : Call} {url : Document} {name : LockName} {attempt : Attempt}
    (hcaller : crowd.callers i = some (.arrived call)) :
    Moved i (.arrived call)
      (.waiting url name attempt ((crowd.locks name).getD crowd.count)) crowd
      (crowd.register i url name attempt) := by
  unfold register
  cases crowd.locks name <;> exact ⟨hcaller, rfl, rfl⟩

theorem moved_leave {name : LockName} {reply : Reply} {lock : Nat}
    (hcaller : crowd.callers i = some (.leaving name reply lock)) :
    Moved i (.leaving name reply lock) (.finished reply) crowd
      (crowd.leave i name reply lock) := by
  unfold leave
  simp only
  split <;> exact ⟨hcaller, rfl, rfl⟩

/-- A step of a caller moves this caller. -/
theorem Step.moved (h : Step crowd (.advance i) next) : ∃ old new, Moved i old new crowd next := by
  cases h with
  | answer hcaller _ => exact ⟨_, _, hcaller, rfl, rfl⟩
  | refuse hcaller _ => exact ⟨_, _, hcaller, rfl, rfl⟩
  | hit hcaller _ => exact ⟨_, _, hcaller, rfl, rfl⟩
  | register hcaller _ _ => exact ⟨_, _, moved_register hcaller⟩
  | take hcaller _ => exact ⟨_, _, hcaller, rfl, rfl⟩
  | hitAgain hcaller _ => exact ⟨_, _, hcaller, rfl, rfl⟩
  | miss hcaller _ => exact ⟨_, _, hcaller, rfl, rfl⟩
  | read hcaller => exact ⟨_, _, hcaller, rfl, rfl⟩
  | conclude hcaller => exact ⟨_, _, hcaller, rfl, rfl⟩
  | release hcaller => exact ⟨_, _, hcaller, rfl, rfl⟩
  | leave hcaller => exact ⟨_, _, moved_leave hcaller⟩

theorem numbered_start (cache : Cache) : Numbered { cache } := by
  intro i
  simp

theorem Numbered.step {action : Action} (numbered : Numbered crowd)
    (h : Step crowd action next) : Numbered next := by
  cases action with
  | arrive call =>
    cases h
    exact numbered.arrive call
  | advance i =>
    obtain ⟨old, new, moved⟩ := h.moved
    exact numbered.moved moved

/-- Something is true of everyone in a crowd. -/
def Everyone (P : Nat → Stage → Prop) (crowd : Crowd) : Prop :=
  ∀ i stage, crowd.callers i = some stage → P i stage

variable {P : Nat → Stage → Prop}

theorem Everyone.moved (everyone : Everyone P crowd) (moved : Moved i old new crowd next)
    (hnew : P i new) : Everyone P next := by
  intro j stage hj
  rcases moved.cases hj with ⟨rfl, rfl⟩ | ⟨_, hj⟩
  · exact hnew
  · exact everyone j stage hj

theorem Everyone.arrive (everyone : Everyone P crowd) (numbered : Numbered crowd) {call : Call}
    (hnew : P crowd.arrived (.arrived call)) : Everyone P (crowd.arrive call) := by
  intro j stage hj
  rcases numbered.arrive_cases hj with ⟨rfl, rfl⟩ | ⟨_, hj⟩
  · exact hnew
  · exact everyone j stage hj

/-! ## Replies -/

/-- The reply of a caller, as soon as there is one. -/
def decided? (i : Nat) (crowd : Crowd) : Option Reply := (crowd.callers i).bind Stage.decided?

theorem Moved.decided_self (moved : Moved i old new crowd next) :
    next.decided? i = new.decided? := by
  unfold decided?
  rw [moved.after]
  rfl

theorem Moved.decided_before (moved : Moved i old new crowd next) :
    crowd.decided? i = old.decided? := by
  unfold decided?
  rw [moved.before]
  rfl

theorem Moved.decided_other (moved : Moved i old new crowd next) (hne : j ≠ i) :
    next.decided? j = crowd.decided? j := by
  unfold decided?
  rw [moved.other hne]

theorem Moved.decided_same (moved : Moved i old new crowd next)
    (h : new.decided? = old.decided?) (j : Nat) : next.decided? j = crowd.decided? j := by
  by_cases hj : j = i
  · subst hj
    rw [moved.decided_self, moved.decided_before, h]
  · exact moved.decided_other hj

theorem Numbered.decided_arrive (numbered : Numbered crowd) (call : Call) (j : Nat) :
    (crowd.arrive call).decided? j = crowd.decided? j := by
  unfold decided?
  by_cases h : j = crowd.arrived
  · subst h
    have hnew : (crowd.arrive call).callers crowd.arrived = some (.arrived call) := set_self _ _ _
    rw [hnew, numbered.callers_arrived]
    rfl
  · have hsame : (crowd.arrive call).callers j = crowd.callers j := set_ne _ _ h
    rw [hsame]

/-- Who has a reply keeps it. -/
theorem Step.decided {action : Action} {reply : Reply} (h : Step crowd action next)
    (numbered : Numbered crowd) (hj : crowd.decided? j = some reply) :
    next.decided? j = some reply := by
  cases action with
  | arrive call =>
    cases h
    rw [numbered.decided_arrive]
    exact hj
  | advance i =>
    by_cases hne : j = i
    · subst hne
      unfold decided? at hj
      -- Of the steps of a caller with a reply only two are left.
      cases h with
      | @release _ name reply' lock hcaller =>
        have moved : Moved j _ (.leaving name reply' lock) crowd
            (crowd.release j name reply' lock) := ⟨hcaller, rfl, rfl⟩
        rw [hcaller] at hj
        rw [moved.decided_self]
        exact hj
      | leave hcaller =>
        rw [hcaller] at hj
        rw [(moved_leave hcaller).decided_self]
        exact hj
      | _ hcaller =>
        rw [hcaller] at hj
        cases hj
    · obtain ⟨old, new, moved⟩ := h.moved
      rw [moved.decided_other hne]
      exact hj

/-! ## Counting callers -/

/-- The callers whose stage is of a kind. -/
def those (kind : Stage → Bool) (crowd : Crowd) : Finset Nat :=
  (Finset.range crowd.arrived).filter fun i => (crowd.callers i).any kind

variable {kind : Stage → Bool}

theorem mem_those (numbered : Numbered crowd) :
    i ∈ those kind crowd ↔ ∃ stage, crowd.callers i = some stage ∧ kind stage = true := by
  unfold those
  rw [Finset.mem_filter, Finset.mem_range, Option.any_eq_true]
  constructor
  · intro h
    exact h.2
  · intro h
    obtain ⟨stage, hi, hkind⟩ := h
    exact ⟨numbered.lt hi, stage, hi, hkind⟩

theorem card_those_pos (numbered : Numbered crowd) :
    0 < (those kind crowd).card ↔ ∃ i stage, crowd.callers i = some stage ∧ kind stage = true := by
  rw [Finset.card_pos]
  constructor
  · intro h
    obtain ⟨i, hi⟩ := h
    exact ⟨i, (mem_those numbered).mp hi⟩
  · intro h
    obtain ⟨i, hi⟩ := h
    exact ⟨i, (mem_those numbered).mpr hi⟩

/-- The callers of a kind without one, and that one. -/
theorem card_those_erase (kind : Stage → Bool) (numbered : Numbered crowd)
    (hi : crowd.callers i = some stage) :
    ((those kind crowd).erase i).card + (kind stage).toNat = (those kind crowd).card := by
  have hmem : i ∈ those kind crowd ↔ kind stage = true := by
    rw [mem_those numbered, hi]
    simp
  cases hkind : kind stage with
  | true => exact Finset.card_erase_add_one (hmem.mpr hkind)
  | false =>
    have hnot : i ∉ those kind crowd := by simp [hmem, hkind]
    rw [Finset.erase_eq_of_notMem hnot]
    rfl

/-- A caller who moves leaves the callers of a kind, or joins them. -/
theorem card_those_moved (kind : Stage → Bool) (numbered : Numbered crowd)
    (moved : Moved i old new crowd next) :
    (those kind next).card + (kind old).toNat = (those kind crowd).card + (kind new).toNat := by
  -- Without the one who moves the two sets are the same.
  have hothers : (those kind next).erase i = (those kind crowd).erase i := by
    ext j
    rw [Finset.mem_erase, Finset.mem_erase, mem_those (numbered.moved moved), mem_those numbered]
    by_cases h : j = i
    · simp [h]
    · rw [moved.other h]
  have hbefore := card_those_erase kind numbered moved.before
  have hafter := card_those_erase kind (numbered.moved moved) moved.after
  rw [hothers] at hafter
  omega

theorem card_those_same (kind : Stage → Bool) (numbered : Numbered crowd)
    (moved : Moved i old new crowd next) (hkind : kind new = kind old) :
    (those kind next).card = (those kind crowd).card := by
  have h := card_those_moved kind numbered moved
  rw [hkind] at h
  omega

theorem card_those_join (kind : Stage → Bool) (numbered : Numbered crowd)
    (moved : Moved i old new crowd next) (hold : kind old = false) (hnew : kind new = true) :
    (those kind next).card = (those kind crowd).card + 1 := by
  have h := card_those_moved kind numbered moved
  rw [hold, hnew] at h
  exact h

theorem card_those_quit (kind : Stage → Bool) (numbered : Numbered crowd)
    (moved : Moved i old new crowd next) (hold : kind old = true) (hnew : kind new = false) :
    (those kind next).card + 1 = (those kind crowd).card := by
  have h := card_those_moved kind numbered moved
  rw [hold, hnew] at h
  exact h

theorem card_those_arrive (numbered : Numbered crowd) {call : Call}
    (hkind : kind (.arrived call) = false) :
    (those kind (crowd.arrive call)).card = (those kind crowd).card := by
  congr 1
  ext j
  rw [mem_those numbered, mem_those (numbered.arrive call)]
  by_cases h : j = crowd.arrived
  · subst h
    rw [numbered.callers_arrived]
    simp [Crowd.arrive, moveTo, hkind]
  · simp [Crowd.arrive, moveTo, set_ne _ _ h]

end Moved

end Crowd

end Gleaner.Cache
