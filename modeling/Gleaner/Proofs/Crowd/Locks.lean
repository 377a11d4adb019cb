import Gleaner.Proofs.Crowd.Steps

/-! # The locks of a crowd

    While a caller is registered under a name, the table has a lock for the name, all
    callers registered under it share this lock, and the lock counts them. So
    whoever holds it is the only one who looks again, reads or concludes under the
    name: between its miss and its end no other caller of the URL reads, and no
    other caller stores an entry for it.

    `Locked` says this of a crowd. It speaks of stages and locks alone, so the steps
    that only touch the cache keep it at once, and five steps are left: a caller
    comes, registers, takes the lock, gives it back, leaves.
-/

namespace Gleaner.Cache

/-! ## Stages with a lock -/

namespace Stage

/-- The name and the lock that a caller is registered with. -/
def place? : Stage → Option (LockName × Nat)
  | waiting _ name _ lock => some (name, lock)
  | holding _ name _ lock => some (name, lock)
  | reading _ name _ lock => some (name, lock)
  | concluding _ name _ lock => some (name, lock)
  | releasing name _ lock => some (name, lock)
  | leaving name _ lock => some (name, lock)
  | arrived _ => none
  | finished _ => none

/-- Whether a caller is registered under a name. -/
def registered (name : LockName) (stage : Stage) : Bool :=
  stage.place?.any fun place => place.1 == name

/-- Whether a caller holds the lock. -/
def holds : Stage → Bool
  | holding _ _ _ _ => true
  | reading _ _ _ _ => true
  | concluding _ _ _ _ => true
  | releasing _ _ _ => true
  | _ => false

/-- The URL that a caller has missed, and whose content has not been stored or
    given up yet. -/
def parsing? : Stage → Option Document
  | reading url _ _ _ => some url
  | concluding url _ _ _ => some url
  | _ => none

/-- Whether a caller has missed, and the miss has not come to its end. -/
def parsing (stage : Stage) : Bool := stage.parsing?.isSome

/-- Whether a caller has begun and is not done. -/
def inProgress : Stage → Bool
  | arrived _ => false
  | finished _ => false
  | _ => true

variable {stage : Stage} {name : LockName} {lock : Nat} {url : Document}

theorem registered_eq_true_iff :
    stage.registered name = true ↔ ∃ lock, stage.place? = some (name, lock) := by
  simp [registered, Option.any_eq_true]

theorem registered_eq_false {other : LockName}
    (h : ∀ place, stage.place? = some place → place = (name, lock)) (hne : other ≠ name) :
    stage.registered other = false := by
  rw [← Bool.not_eq_true, registered_eq_true_iff]
  intro hother
  obtain ⟨lock', hat⟩ := hother
  cases h _ hat
  exact hne rfl

theorem holds_of_parsing? (h : stage.parsing? = some url) : stage.holds = true := by
  cases stage <;> first | rfl | cases h

theorem holds_eq_false (h : stage.place? = none) : stage.holds = false := by
  cases stage <;> first | rfl | cases h

end Stage

namespace Crowd

/-! ## The invariant -/

/-- The locks of a crowd are in order. -/
structure Locked (crowd : Crowd) : Prop where
  /-- A registered caller is registered with the lock in the table. -/
  joined : ∀ i stage name lock, crowd.callers i = some stage → stage.place? = some (name, lock) →
    crowd.locks name = some lock
  /-- The table has locks that were made. -/
  known  : ∀ name lock, crowd.locks name = some lock → lock < crowd.count
  /-- No two names have one lock. -/
  apart  : ∀ name other lock, crowd.locks name = some lock → crowd.locks other = some lock →
    name = other
  users  : ∀ name lock, crowd.locks name = some lock →
    (crowd.made lock).users = (those (Stage.registered name) crowd).card
  inUse  : ∀ name lock, crowd.locks name = some lock → 0 < (crowd.made lock).users
  /-- Whoever holds the lock is the one that it names. -/
  holder : ∀ i stage name lock, crowd.callers i = some stage → stage.holds = true →
    stage.place? = some (name, lock) → (crowd.made lock).holder = some i
  /-- The one that it names holds it. -/
  held   : ∀ i name lock, crowd.locks name = some lock → (crowd.made lock).holder = some i →
    ∃ stage, crowd.callers i = some stage ∧ stage.holds = true ∧ stage.place? = some (name, lock)

variable {i j : Nat} {old new stage : Stage} {crowd next : Crowd} {name : LockName} {lock : Nat}

theorem locked_start (cache : Cache) : Locked { cache } where
  joined := by simp
  known := by simp
  apart := by simp
  users := by simp
  inUse := by simp
  holder := by simp
  held := by simp

/-- A caller who moves to a place of the table leaves everyone at places of the table. -/
theorem Locked.joined_moved (locked : Locked crowd) (moved : Moved i old new crowd next)
    (hlocks : next.locks = crowd.locks)
    (hplace : ∀ name lock, new.place? = some (name, lock) → crowd.locks name = some lock) :
    ∀ j stage name lock, next.callers j = some stage → stage.place? = some (name, lock) →
      next.locks name = some lock := by
  intro j stage name lock hj hat
  rw [hlocks]
  rcases moved.cases hj with ⟨rfl, rfl⟩ | ⟨_, hj⟩
  · exact hplace name lock hat
  · exact locked.joined j stage name lock hj hat

/-- A caller who stays at the same place leaves the counts right. -/
theorem Locked.users_moved (locked : Locked crowd) (numbered : Numbered crowd)
    (moved : Moved i old new crowd next) (hlocks : next.locks = crowd.locks)
    (hplace : new.place? = old.place?)
    (husers : ∀ lock, (next.made lock).users = (crowd.made lock).users) :
    ∀ name lock, next.locks name = some lock →
      (next.made lock).users = (those (Stage.registered name) next).card := by
  intro name lock hlock
  rw [hlocks] at hlock
  have hsame : new.registered name = old.registered name := by
    unfold Stage.registered
    rw [hplace]
  rw [husers, locked.users name lock hlock]
  exact (card_those_same _ numbered moved hsame).symm

/-- A caller who does not take a lock leaves all holders where they are. -/
theorem Locked.holder_moved (locked : Locked crowd) (moved : Moved i old new crowd next)
    (hholder : ∀ lock, (next.made lock).holder = (crowd.made lock).holder)
    (hnew : new.holds = true → old.holds = true ∧ new.place? = old.place?) :
    ∀ j stage name lock, next.callers j = some stage → stage.holds = true →
      stage.place? = some (name, lock) → (next.made lock).holder = some j := by
  intro j stage name lock hj hholds hat
  rw [hholder]
  rcases moved.cases hj with ⟨rfl, rfl⟩ | ⟨_, hj⟩
  · obtain ⟨hold, hplace⟩ := hnew hholds
    exact locked.holder j old name lock moved.before hold (hplace ▸ hat)
  · exact locked.holder j stage name lock hj hholds hat

/-- Who holds a lock that the moving caller does not hold goes on to hold it. -/
theorem Locked.held_moved (locked : Locked crowd) (moved : Moved i old new crowd next)
    (hlock : crowd.locks name = some lock) (hholder : (crowd.made lock).holder = some j)
    (hold : old.holds = false ∨ old.place? ≠ some (name, lock)) :
    ∃ stage, next.callers j = some stage ∧ stage.holds = true ∧
      stage.place? = some (name, lock) := by
  obtain ⟨stage, hj, hholds, hat⟩ := locked.held j name lock hlock hholder
  have hne : j ≠ i := by
    intro heq
    subst heq
    obtain rfl : stage = old := Option.some.inj (hj.symm.trans moved.before)
    rcases hold with hold | hold
    · simp [hold] at hholds
    · exact hold hat
  exact ⟨stage, (moved.other hne).trans hj, hholds, hat⟩

/-! ## The steps that leave the locks alone -/

/-- A caller whose lock and hold on it stay as they are changes nothing. -/
theorem Locked.moved (locked : Locked crowd) (numbered : Numbered crowd)
    (moved : Moved i old new crowd next) (hplace : new.place? = old.place?)
    (hholds : new.holds = old.holds) (hlocks : next.locks = crowd.locks)
    (hmade : next.made = crowd.made) (hcount : next.count = crowd.count) : Locked next where
  joined := locked.joined_moved moved hlocks fun name lock hat =>
    locked.joined i old name lock moved.before (hplace ▸ hat)
  known := by
    rw [hlocks, hcount]
    exact locked.known
  apart := by
    rw [hlocks]
    exact locked.apart
  users := by
    refine locked.users_moved numbered moved hlocks hplace ?_
    intro lock
    rw [hmade]
  inUse := by
    rw [hlocks, hmade]
    exact locked.inUse
  holder := by
    refine locked.holder_moved moved ?_ ?_
    · intro lock
      rw [hmade]
    · intro hnew
      exact ⟨hholds.symm.trans hnew, hplace⟩
  held := by
    intro j name lock hlock hholder
    rw [hlocks] at hlock
    rw [hmade] at hholder
    obtain ⟨stage, hj, hstage, hat⟩ := locked.held j name lock hlock hholder
    by_cases h : j = i
    · subst h
      obtain rfl : stage = old := Option.some.inj (hj.symm.trans moved.before)
      exact ⟨new, moved.after, hholds ▸ hstage, hplace ▸ hat⟩
    · exact ⟨stage, (moved.other h).trans hj, hstage, hat⟩

theorem Locked.arrive (locked : Locked crowd) (numbered : Numbered crowd) (call : Call) :
    Locked (crowd.arrive call) := by
  constructor
  case known => exact locked.known
  case apart => exact locked.apart
  case inUse => exact locked.inUse
  case joined =>
    intro j stage name lock hj hstage
    rcases numbered.arrive_cases hj with ⟨_, rfl⟩ | ⟨_, hj⟩
    · cases hstage
    · exact locked.joined j stage name lock hj hstage
  case users =>
    intro name lock hlock
    rw [card_those_arrive numbered rfl]
    exact locked.users name lock hlock
  case holder =>
    intro j stage name lock hj hstage hat
    rcases numbered.arrive_cases hj with ⟨_, rfl⟩ | ⟨_, hj⟩
    · cases hstage
    · exact locked.holder j stage name lock hj hstage hat
  case held =>
    intro j name lock hlock hholder
    obtain ⟨stage, hj, hstage, hat⟩ := locked.held j name lock hlock hholder
    -- The number of the one who comes is new, so the holder is someone else.
    have hne : j ≠ crowd.arrived := Nat.ne_of_lt (numbered.lt hj)
    exact ⟨stage, (set_ne _ _ hne).trans hj, hstage, hat⟩

/-! ## Taking a lock and giving it back -/

/-- A registered caller takes its lock, which nobody holds, or gives it back. -/
theorem Locked.turned (locked : Locked crowd) (numbered : Numbered crowd)
    (moved : Moved i old new crowd next) (hold : old.place? = some (name, lock))
    (hnew : new.place? = some (name, lock))
    (hfree : ∀ j, (crowd.made lock).holder = some j → j = i) (hlocks : next.locks = crowd.locks)
    (hcount : next.count = crowd.count)
    (hmade : next.made = set crowd.made lock
      { crowd.made lock with holder := if new.holds then some i else none }) :
    Locked next := by
  -- No lock changes but this one, and that only in its holder.
  have husers : ∀ other, (next.made other).users = (crowd.made other).users := by
    intro other
    rw [hmade]
    by_cases h : other = lock
    · subst h
      rw [set_self]
    · rw [set_ne _ _ h]
  constructor
  case joined =>
    refine locked.joined_moved moved hlocks ?_
    intro name' lock' hat
    exact locked.joined i old name' lock' moved.before (hold.trans (hnew.symm.trans hat))
  case known =>
    rw [hlocks, hcount]
    exact locked.known
  case apart =>
    rw [hlocks]
    exact locked.apart
  case users => exact locked.users_moved numbered moved hlocks (hnew.trans hold.symm) husers
  case inUse =>
    intro name' lock' hlock
    rw [hlocks] at hlock
    rw [husers]
    exact locked.inUse name' lock' hlock
  case holder =>
    intro j stage name' lock' hj hholds hat
    rcases moved.cases hj with ⟨rfl, rfl⟩ | ⟨hne, hj⟩
    · obtain ⟨rfl, rfl⟩ : name = name' ∧ lock = lock' := by simpa [hnew] using hat
      simp [hmade, hholds]
    · have hbefore := locked.holder j stage name' lock' hj hholds hat
      -- Another holder has another lock, since this one is free or held by the one who moves.
      have hother : lock' ≠ lock := by
        intro heq
        subst heq
        exact hne (hfree j hbefore)
      rw [hmade, set_ne _ _ hother]
      exact hbefore
  case held =>
    intro j name' lock' hlock hholder
    rw [hlocks] at hlock
    by_cases h : lock' = lock
    · subst h
      -- The lock of the one who moves is the lock of no other name.
      have hlock' := locked.joined i old name lock' moved.before hold
      obtain rfl := locked.apart name' name lock' hlock hlock'
      rw [hmade, set_self] at hholder
      cases hholds : new.holds with
      | false => simp [hholds] at hholder
      | true =>
        obtain rfl : i = j := by simpa [hholds] using hholder
        exact ⟨new, moved.after, hholds, hnew⟩
    · rw [hmade, set_ne _ _ h] at hholder
      refine locked.held_moved moved hlock hholder (.inr ?_)
      rw [hold]
      intro hplace
      cases hplace
      exact h rfl

/-! ## Registering and leaving -/

/-- A caller registers with a lock of the table, or leaves one that others use. -/
theorem Locked.counted (locked : Locked crowd) (numbered : Numbered crowd)
    (moved : Moved i old new crowd next) (hlock : crowd.locks name = some lock)
    (hold : old.holds = false) (hnew : new.holds = false)
    (hplaceOld : ∀ place, old.place? = some place → place = (name, lock))
    (hplaceNew : ∀ place, new.place? = some place → place = (name, lock))
    (hlocks : next.locks = crowd.locks) (hcount : next.count = crowd.count) {users : Nat}
    (hmade : next.made = set crowd.made lock { crowd.made lock with users })
    (husers : users = (those (Stage.registered name) next).card) (hpos : 0 < users) :
    Locked next := by
  -- No lock changes but this one, and that only in its users.
  have hholder : ∀ other, (next.made other).holder = (crowd.made other).holder := by
    intro other
    rw [hmade]
    by_cases h : other = lock
    · subst h
      rw [set_self]
    · rw [set_ne _ _ h]
  constructor
  case joined =>
    refine locked.joined_moved moved hlocks ?_
    intro name' lock' hat
    cases hplaceNew _ hat
    exact hlock
  case known =>
    rw [hlocks, hcount]
    exact locked.known
  case apart =>
    rw [hlocks]
    exact locked.apart
  case users =>
    intro name' lock' hlock'
    rw [hlocks] at hlock'
    by_cases h : lock' = lock
    · subst h
      obtain rfl := locked.apart name name' lock' hlock hlock'
      rw [hmade, set_self]
      exact husers
    · -- Another lock has another name, under which the moving caller never is.
      have hne : name' ≠ name := by
        intro heq
        subst heq
        exact h (Option.some.inj (hlock'.symm.trans hlock))
      have hsame : new.registered name' = old.registered name' := by
        rw [Stage.registered_eq_false hplaceOld hne, Stage.registered_eq_false hplaceNew hne]
      rw [hmade, set_ne _ _ h, locked.users name' lock' hlock']
      exact (card_those_same _ numbered moved hsame).symm
  case inUse =>
    intro name' lock' hlock'
    rw [hlocks] at hlock'
    rw [hmade]
    by_cases h : lock' = lock
    · subst h
      rw [set_self]
      exact hpos
    · rw [set_ne _ _ h]
      exact locked.inUse name' lock' hlock'
  case holder =>
    refine locked.holder_moved moved hholder ?_
    intro hholds
    rw [hnew] at hholds
    cases hholds
  case held =>
    intro j name' lock' hlock' hj
    rw [hlocks] at hlock'
    rw [hholder] at hj
    exact locked.held_moved moved hlock' hj (.inl hold)

/-- Nobody is registered under a name that the table does not have. -/
theorem Locked.card_registered (locked : Locked crowd) (numbered : Numbered crowd)
    (hname : crowd.locks name = none) : (those (Stage.registered name) crowd).card = 0 := by
  by_contra hcard
  obtain ⟨i, stage, hi, hregistered⟩ := (card_those_pos numbered).mp (Nat.pos_of_ne_zero hcard)
  obtain ⟨lock, hat⟩ := Stage.registered_eq_true_iff.mp hregistered
  have hlock := locked.joined i stage name lock hi hat
  rw [hname] at hlock
  cases hlock

/-- The first one who registers under a name makes its lock. -/
theorem Locked.made (locked : Locked crowd) (numbered : Numbered crowd)
    (moved : Moved i old new crowd next) (hname : crowd.locks name = none)
    (hold : old.place? = none) (hnew : new.place? = some (name, crowd.count))
    (hholds : new.holds = false) (hlocks : next.locks = set crowd.locks name (some crowd.count))
    (hmade : next.made = set crowd.made crowd.count { users := 1 })
    (hcount : next.count = crowd.count + 1) : Locked next := by
  -- The table gets one lock, and that is newer than all locks that it has.
  have hcases : ∀ name' lock', next.locks name' = some lock' →
      (name' = name ∧ lock' = crowd.count) ∨
        (name' ≠ name ∧ lock' ≠ crowd.count ∧ crowd.locks name' = some lock') := by
    intro name' lock' hlock
    rw [hlocks] at hlock
    by_cases h : name' = name
    · subst h
      rw [set_self] at hlock
      exact .inl ⟨rfl, (Option.some.inj hlock).symm⟩
    · rw [set_ne _ _ h] at hlock
      exact .inr ⟨h, Nat.ne_of_lt (locked.known name' lock' hlock), hlock⟩
  constructor
  case joined =>
    intro j stage name' lock' hj hat
    rw [hlocks]
    rcases moved.cases hj with ⟨rfl, rfl⟩ | ⟨_, hj⟩
    · rw [hnew] at hat
      cases hat
      exact set_self _ _ _
    · have hlock := locked.joined j stage name' lock' hj hat
      have hne : name' ≠ name := by
        intro heq
        subst heq
        rw [hname] at hlock
        cases hlock
      rw [set_ne _ _ hne]
      exact hlock
  case known =>
    intro name' lock' hlock
    rw [hcount]
    rcases hcases name' lock' hlock with ⟨_, rfl⟩ | ⟨_, _, hlock⟩
    · omega
    · have h := locked.known name' lock' hlock
      omega
  case apart =>
    intro name' other lock' hlock hother
    rcases hcases name' lock' hlock with ⟨rfl, rfl⟩ | ⟨_, hne, hlock⟩
    · rcases hcases other _ hother with ⟨rfl, _⟩ | ⟨_, hne, _⟩
      · rfl
      · exact absurd rfl hne
    · rcases hcases other lock' hother with ⟨_, rfl⟩ | ⟨_, _, hother⟩
      · exact absurd rfl hne
      · exact locked.apart name' other lock' hlock hother
  case users =>
    intro name' lock' hlock
    rw [hmade]
    rcases hcases name' lock' hlock with ⟨rfl, rfl⟩ | ⟨hne, hlock', hlock⟩
    · have hcard := card_those_join (Stage.registered name') numbered moved
        (by simp [Stage.registered, hold]) (by simp [Stage.registered, hnew])
      rw [set_self, hcard, locked.card_registered numbered hname]
    · have hcard := card_those_same (Stage.registered name') numbered moved
        (by simp [Stage.registered, hold, hnew, Ne.symm hne])
      rw [set_ne _ _ hlock', locked.users name' lock' hlock, hcard]
  case inUse =>
    intro name' lock' hlock
    rw [hmade]
    rcases hcases name' lock' hlock with ⟨rfl, rfl⟩ | ⟨_, hlock', hlock⟩
    · rw [set_self]
      exact Nat.one_pos
    · rw [set_ne _ _ hlock']
      exact locked.inUse name' lock' hlock
  case holder =>
    intro j stage name' lock' hj hstage hat
    rcases moved.cases hj with ⟨rfl, rfl⟩ | ⟨_, hj⟩
    · simp [hholds] at hstage
    · have hlock := locked.known name' lock' (locked.joined j stage name' lock' hj hat)
      rw [hmade, set_ne _ _ (Nat.ne_of_lt hlock)]
      exact locked.holder j stage name' lock' hj hstage hat
  case held =>
    intro j name' lock' hlock hholder
    rw [hmade] at hholder
    rcases hcases name' lock' hlock with ⟨rfl, rfl⟩ | ⟨_, hlock', hlock⟩
    · rw [set_self] at hholder
      cases hholder
    · rw [set_ne _ _ hlock'] at hholder
      exact locked.held_moved moved hlock hholder (.inl (Stage.holds_eq_false hold))

/-- Who registers shares the lock of the table, or makes it. -/
theorem Locked.register (locked : Locked crowd) (numbered : Numbered crowd) {call : Call}
    {url : Document} {attempt : Attempt} (hcaller : crowd.callers i = some (.arrived call)) :
    Locked (crowd.register i url name attempt) := by
  unfold Crowd.register
  cases hlock : crowd.locks name with
  | some lock =>
    let state := { crowd.made lock with users := (crowd.made lock).users + 1 }
    have moved : Moved i _ (.waiting url name attempt lock) crowd
        ((crowd.withLock lock state).moveTo i (.waiting url name attempt lock)) :=
      ⟨hcaller, rfl, rfl⟩
    have hcard := card_those_join (Stage.registered name) numbered moved rfl (beq_self_eq_true name)
    refine locked.counted numbered moved hlock rfl rfl ?_ ?_ rfl rfl rfl ?_ ?_
    · intro place hplace
      cases hplace
    · intro place hplace
      cases hplace
      rfl
    · rw [hcard, locked.users name lock hlock]
    · omega
  | none =>
    have moved : Moved i _ (.waiting url name attempt crowd.count) crowd
        { (crowd.withLock crowd.count { users := 1 }).moveTo i
            (.waiting url name attempt crowd.count) with
          locks := set crowd.locks name (some crowd.count), count := crowd.count + 1 } :=
      ⟨hcaller, rfl, rfl⟩
    exact locked.made numbered moved hlock rfl rfl rfl rfl rfl rfl

/-- The last one who leaves takes the lock away. -/
theorem Locked.removed (locked : Locked crowd) (numbered : Numbered crowd)
    (moved : Moved i old new crowd next) (hlock : crowd.locks name = some lock)
    (hlast : (those (Stage.registered name) next).card = 0) (hold : old.place? = some (name, lock))
    (holds : old.holds = false) (hnew : new.place? = none)
    (hlocks : next.locks = set crowd.locks name none)
    (hmade : ∀ other, other ≠ lock → next.made other = crowd.made other)
    (hcount : next.count = crowd.count) : Locked next := by
  -- The table loses one lock, which is the lock of no other name.
  have hcases : ∀ name' lock', next.locks name' = some lock' →
      name' ≠ name ∧ lock' ≠ lock ∧ crowd.locks name' = some lock' := by
    intro name' lock' h
    rw [hlocks] at h
    have hne : name' ≠ name := by
      intro heq
      subst heq
      rw [set_self] at h
      cases h
    rw [set_ne _ _ hne] at h
    refine ⟨hne, ?_, h⟩
    intro heq
    subst heq
    exact hne (locked.apart name' name lock' h hlock)
  -- Whoever is still registered is registered under another name.
  have hothers : ∀ j stage name' lock', next.callers j = some stage →
      stage.place? = some (name', lock') → crowd.callers j = some stage ∧ name' ≠ name := by
    intro j stage name' lock' hj hat
    have hne : name' ≠ name := by
      intro heq
      subst heq
      have hpos := (card_those_pos (numbered.moved moved)).mpr
        ⟨j, stage, hj, Stage.registered_eq_true_iff.mpr ⟨lock', hat⟩⟩
      omega
    rcases moved.cases hj with ⟨rfl, rfl⟩ | ⟨_, hj⟩
    · rw [hnew] at hat
      cases hat
    · exact ⟨hj, hne⟩
  constructor
  case joined =>
    intro j stage name' lock' hj hat
    obtain ⟨hj, hne⟩ := hothers j stage name' lock' hj hat
    rw [hlocks, set_ne _ _ hne]
    exact locked.joined j stage name' lock' hj hat
  case known =>
    intro name' lock' h
    rw [hcount]
    exact locked.known name' lock' (hcases name' lock' h).2.2
  case apart =>
    intro name' other lock' h hother
    exact locked.apart name' other lock' (hcases name' lock' h).2.2 (hcases other lock' hother).2.2
  case users =>
    intro name' lock' h
    obtain ⟨hne, hlock', h⟩ := hcases name' lock' h
    have hcard := card_those_same (Stage.registered name') numbered moved
      (by simp [Stage.registered, hold, hnew, Ne.symm hne])
    rw [hmade lock' hlock', locked.users name' lock' h, hcard]
  case inUse =>
    intro name' lock' h
    obtain ⟨_, hlock', h⟩ := hcases name' lock' h
    rw [hmade lock' hlock']
    exact locked.inUse name' lock' h
  case holder =>
    intro j stage name' lock' hj hholds hat
    obtain ⟨hj, hne⟩ := hothers j stage name' lock' hj hat
    have hlock' : lock' ≠ lock := by
      intro heq
      subst heq
      exact hne (locked.apart name' name lock' (locked.joined j stage name' lock' hj hat) hlock)
    rw [hmade lock' hlock']
    exact locked.holder j stage name' lock' hj hholds hat
  case held =>
    intro j name' lock' h hholder
    obtain ⟨_, hlock', h⟩ := hcases name' lock' h
    rw [hmade lock' hlock'] at hholder
    exact locked.held_moved moved h hholder (.inl holds)

/-- Who leaves takes the lock away exactly if nobody else is registered with it. -/
theorem Locked.leave (locked : Locked crowd) (numbered : Numbered crowd) {reply : Reply}
    (hcaller : crowd.callers i = some (.leaving name reply lock)) :
    Locked (crowd.leave i name reply lock) := by
  have hlock : crowd.locks name = some lock := locked.joined i _ name lock hcaller rfl
  have husers := locked.users name lock hlock
  let left := (crowd.withLock lock
    { crowd.made lock with users := (crowd.made lock).users - 1 }).moveTo i (.finished reply)
  have moved : Moved i (.leaving name reply lock) (.finished reply) crowd left :=
    ⟨hcaller, rfl, rfl⟩
  have hcard := card_those_quit (Stage.registered name) numbered moved (beq_self_eq_true name) rfl
  -- One caller less is what the lock counts and what the table sees.
  have hleft : (crowd.made lock).users - 1 = (those (Stage.registered name) left).card := by omega
  unfold Crowd.leave
  by_cases hlast : (crowd.made lock).users - 1 = 0
  · simp only [hlast, hlock, and_self, if_true]
    refine locked.removed numbered ⟨hcaller, rfl, rfl⟩ hlock ?_ rfl rfl rfl rfl ?_ rfl
    · exact hleft.symm.trans hlast
    · intro other hne
      exact set_ne _ _ hne
  · simp only [hlast, false_and, if_false]
    refine locked.counted numbered moved hlock rfl rfl ?_ ?_ rfl rfl rfl hleft ?_
    · intro place hplace
      cases hplace
      rfl
    · intro place hplace
      cases hplace
    · omega

/-! ## Every step -/

/-- Every step keeps the locks in order. -/
theorem Locked.step {action : Action} (locked : Locked crowd) (numbered : Numbered crowd)
    (h : Step crowd action next) : Locked next := by
  cases h with
  | arrive call => exact locked.arrive numbered call
  | answer hcaller _ => exact locked.moved numbered ⟨hcaller, rfl, rfl⟩ rfl rfl rfl rfl rfl
  | refuse hcaller _ => exact locked.moved numbered ⟨hcaller, rfl, rfl⟩ rfl rfl rfl rfl rfl
  | hit hcaller _ => exact locked.moved numbered ⟨hcaller, rfl, rfl⟩ rfl rfl rfl rfl rfl
  | register hcaller _ _ => exact locked.register numbered hcaller
  | @take i url name attempt lock hcaller hfree =>
    refine locked.turned numbered ⟨hcaller, rfl, rfl⟩ rfl rfl ?_ rfl rfl rfl
    -- Nobody holds a lock that can be taken.
    intro j hj
    rw [hfree] at hj
    cases hj
  | hitAgain hcaller _ => exact locked.moved numbered ⟨hcaller, rfl, rfl⟩ rfl rfl rfl rfl rfl
  | miss hcaller _ => exact locked.moved numbered ⟨hcaller, rfl, rfl⟩ rfl rfl rfl rfl rfl
  | read hcaller => exact locked.moved numbered ⟨hcaller, rfl, rfl⟩ rfl rfl rfl rfl rfl
  | conclude hcaller => exact locked.moved numbered ⟨hcaller, rfl, rfl⟩ rfl rfl rfl rfl rfl
  | @release i name reply lock hcaller =>
    refine locked.turned numbered ⟨hcaller, rfl, rfl⟩ rfl rfl ?_ rfl rfl rfl
    -- Who gives the lock back is the one that it names.
    intro j hj
    rw [locked.holder i _ name lock hcaller rfl rfl] at hj
    exact (Option.some.inj hj).symm
  | leave hcaller => exact locked.leave numbered hcaller

end Crowd

end Gleaner.Cache
