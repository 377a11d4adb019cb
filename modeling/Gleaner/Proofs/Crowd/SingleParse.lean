import Gleaner.Proofs.Crowd.Arrivals

/-! # One reading at a time

    Callers come at any time and their steps interleave in any order, and yet of all
    callers of one URL at most one is between its miss and the end of this miss. The
    URL stays without an entry meanwhile, so what this caller has read is what is
    stored and what the caller gets. The table has a lock for a URL exactly while
    someone is registered with it.

    Deserializers must leave the cache to the crowd. Then the lock of a URL is what
    keeps others out: a caller parses only with the lock in hand, and `Locked` says
    that a lock has one holder.
-/

namespace Gleaner.Cache

namespace Crowd

variable {i j : Nat} {old new stage : Stage} {crowd next : Crowd} {action : Action}
  {actions : List Action}

/-! ## Who parses -/

/-- Two callers who parse one URL are the same caller. -/
theorem Locked.eq_of_parsing {other : Stage} {url : Document} (locked : Locked crowd)
    (accounted : Accounted actions crowd) (hi : crowd.callers i = some stage)
    (hj : crowd.callers j = some other) (hstage : stage.parsing? = some url)
    (hother : other.parsing? = some url) : i = j := by
  obtain ⟨call, _, hbelongs⟩ := accounted.belongs i stage hi
  obtain ⟨call', _, hbelongs'⟩ := accounted.belongs j other hj
  obtain ⟨name, lock, hat, hname⟩ := hbelongs.place? hstage
  obtain ⟨name', lock', hat', hname'⟩ := hbelongs'.place? hother
  -- One URL has one name, and one name has one lock in the table.
  obtain rfl : name = name' := Option.some.inj (hname.symm.trans hname')
  have hlock := locked.joined i stage name lock hi hat
  have hlock' := locked.joined j other name lock' hj hat'
  obtain rfl : lock = lock' := Option.some.inj (hlock.symm.trans hlock')
  have hholder := locked.holder i stage name lock hi (Stage.holds_of_parsing? hstage) hat
  have hholder' := locked.holder j other name lock hj (Stage.holds_of_parsing? hother) hat'
  exact Option.some.inj (hholder.symm.trans hholder')

/-- No URL that a caller parses has an entry. -/
def Uncached (crowd : Crowd) : Prop :=
  ∀ i stage url, crowd.callers i = some stage → stage.parsing? = some url →
    crowd.cache.held? url = none

theorem uncached_start (cache : Cache) : Uncached { cache } := by
  intro i stage url hi
  cases hi

/-- A step that adds no entry. -/
theorem Uncached.moved (uncached : Uncached crowd) (moved : Moved i old new crowd next)
    (hentries : ∀ pair ∈ next.cache.entries, pair ∈ crowd.cache.entries)
    (hnew : ∀ url, new.parsing? = some url → crowd.cache.held? url = none) : Uncached next := by
  intro j stage url hj hurl
  refine held?_eq_none_of_subset hentries ?_
  rcases moved.cases hj with ⟨_, rfl⟩ | ⟨_, hj⟩
  · exact hnew url hurl
  · exact uncached j stage url hj hurl

/-- A step that adds no entry, of a caller who does not parse after it. -/
theorem Uncached.quiet (uncached : Uncached crowd) (moved : Moved i old new crowd next)
    (hentries : ∀ pair ∈ next.cache.entries, pair ∈ crowd.cache.entries)
    (hnew : new.parsing? = none) : Uncached next := by
  refine uncached.moved moved hentries ?_
  intro url hurl
  rw [hnew] at hurl
  cases hurl

theorem Uncached.step (uncached : Uncached crowd) (locked : Locked crowd)
    (numbered : Numbered crowd) (accounted : Accounted actions crowd)
    (plain : ∀ action ∈ actions, action.Plain) (h : Step crowd action next) :
    Uncached next := by
  -- Two steps need more than that no entry is added: `miss`, after which a caller parses,
  -- and `conclude`, which may add one.
  cases h with
  | arrive call =>
    intro j stage url hj hurl
    rcases numbered.arrive_cases hj with ⟨_, rfl⟩ | ⟨_, hj⟩
    · cases hurl
    · exact uncached j stage url hj hurl
  | answer hcaller hcall =>
    refine uncached.quiet ⟨hcaller, rfl, rfl⟩ ?_ rfl
    intro pair hpair
    exact mem_entries_run hcall hpair
  | refuse hcaller _ =>
    exact uncached.quiet ⟨hcaller, rfl, rfl⟩ (fun _ hpair => hpair) rfl
  | hit hcaller _ =>
    exact uncached.quiet ⟨hcaller, rfl, rfl⟩ (fun _ hpair => mem_entries_used hpair) rfl
  | register hcaller _ _ =>
    refine uncached.quiet (moved_register hcaller) ?_ rfl
    rw [cache_register]
    intro pair hpair
    exact hpair
  | take hcaller _ =>
    exact uncached.quiet ⟨hcaller, rfl, rfl⟩ (fun _ hpair => hpair) rfl
  | hitAgain hcaller _ =>
    exact uncached.quiet ⟨hcaller, rfl, rfl⟩ (fun _ hpair => mem_entries_used hpair) rfl
  | miss hcaller habsent =>
    refine uncached.moved ⟨hcaller, rfl, rfl⟩ (fun _ hpair => hpair) ?_
    intro url hurl
    cases hurl
    exact habsent
  | @read i url name attempt lock hcaller =>
    -- The deserializer is done with nothing but a result.
    obtain ⟨result, rfl⟩ := accounted.attempt_eq plain hcaller
    refine uncached.moved ⟨hcaller, rfl, rfl⟩ (fun _ hpair => hpair) ?_
    intro url hurl
    cases hurl
    exact uncached i _ url hcaller rfl
  | @conclude i url name result lock hcaller =>
    have moved : Moved i _ _ crowd ((crowd.withRan (crowd.cache.conclude url result)).moveTo i
      (.releasing name (.of .entry (crowd.cache.conclude url result).value) lock)) :=
      ⟨hcaller, rfl, rfl⟩
    intro j stage other hj hother
    rcases moved.cases hj with ⟨_, rfl⟩ | ⟨hne, hbefore⟩
    · cases hother
    · -- The only entry that may be new is that of the URL that this caller parses.
      have hurl : other ≠ url := by
        intro heq
        subst heq
        exact hne (locked.eq_of_parsing accounted hbefore hcaller hother rfl)
      exact held?_conclude_eq_none hurl (uncached j stage other hbefore hother) result
  | release hcaller =>
    exact uncached.quiet ⟨hcaller, rfl, rfl⟩ (fun _ hpair => hpair) rfl
  | leave hcaller =>
    refine uncached.quiet (moved_leave hcaller) ?_ rfl
    rw [cache_leave]
    intro pair hpair
    exact hpair

/-! ## Runs -/

/-- What holds after plain actions. -/
structure Guarded (actions : List Action) (crowd : Crowd) : Prop where
  plain     : ∀ action ∈ actions, action.Plain
  numbered  : Numbered crowd
  locked    : Locked crowd
  accounted : Accounted actions crowd
  uncached  : Uncached crowd

theorem guarded_start (cache : Cache) : Guarded [] { cache } where
  plain := by simp
  numbered := numbered_start cache
  locked := locked_start cache
  accounted := accounted_start cache
  uncached := uncached_start cache

theorem Guarded.step (guarded : Guarded actions crowd) (plain : action.Plain)
    (h : Step crowd action next) : Guarded (actions ++ [action]) next where
  plain := by
    intro other hother
    rcases List.mem_append.mp hother with hother | hother
    · exact guarded.plain other hother
    · obtain rfl := List.mem_singleton.mp hother
      exact plain
  numbered := guarded.numbered.step h
  locked := guarded.locked.step guarded.numbered h
  accounted := guarded.accounted.step guarded.numbered guarded.plain h
  uncached := guarded.uncached.step guarded.locked guarded.numbered guarded.accounted
    guarded.plain h

/-- The induction is on the actions from the last one back. -/
theorem guarded_of_run {cache : Cache} (plain : ∀ action ∈ actions, action.Plain)
    (run : actAll? actions { cache } = some crowd) : Guarded actions crowd := by
  induction actions using List.reverseRecOn generalizing crowd with
  | nil =>
    obtain rfl := Option.some.inj run
    exact guarded_start cache
  | append_singleton actions action ih =>
    obtain ⟨before, hbefore, hact⟩ := actAll?_append_singleton.mp run
    have hguarded : Guarded actions before := by
      refine ih ?_ hbefore
      intro other hother
      exact plain other (List.mem_append_left _ hother)
    exact hguarded.step (plain action (by simp)) (step_of_act? hact)

/-- Whoever is not done can go on, or waits for a lock whose holder can. -/
theorem Locked.advances (locked : Locked crowd) (hi : crowd.callers i = some stage)
    (hreply : stage.reply? = none) :
    (crowd.advance? i).isSome ∨
      ∃ j holder place, stage.place? = some place ∧ crowd.callers j = some holder ∧
        holder.place? = some place ∧ (crowd.advance? j).isSome := by
  cases stage with
  | waiting url name attempt lock =>
    cases hholder : (crowd.made lock).holder with
    | none =>
      left
      simp [advance?, hi, hholder]
    | some j =>
      -- The lock has a holder, and a holder never waits.
      right
      have hlock := locked.joined i _ name lock hi rfl
      obtain ⟨holder, hj, hholds, hat⟩ := locked.held j name lock hlock hholder
      refine ⟨j, holder, (name, lock), rfl, hj, hat, ?_⟩
      unfold advance?
      rw [hj]
      cases holder <;> first | rfl | cases hholds
  | finished reply => cases hreply
  | _ =>
    left
    simp [advance?, hi]

/-- The end of a miss of a URL that has no entry stores what was read, and the caller
    gets it. -/
theorem advance?_concluding {url document : Document} {name : LockName} {lock : Nat}
    {entry : Entry} (hi : crowd.callers i = some (.concluding url name (.ok document) lock))
    (absent : crowd.cache.held? url = none) (hentry : Entry.ofValues url document = .ok entry) :
    ∃ next, crowd.advance? i = some next ∧ next.cache.held? url = some entry ∧
      next.decided? i = some (.entry (some entry)) := by
  have hreply : replyOf url (.ok document) = .ok (some entry) :=
    replyOf_eq_some_iff.mpr ⟨document, rfl, hentry⟩
  refine ⟨crowd.conclude i url name (.ok document) lock, by simp [advance?, hi], ?_, ?_⟩
  · have hheld := held?_conclude_self absent (.ok document)
    rw [hreply] at hheld
    exact hheld
  · have hvalue := conclude_value absent (.ok document)
    rw [hreply] at hvalue
    simp [decided?, Crowd.conclude, moveTo, hvalue, Stage.decided?, Reply.of]

/-- Who has a reply keeps it whatever else happens. -/
theorem decided_of_run {reply : Reply} (numbered : Numbered crowd)
    (run : actAll? actions crowd = some next)
    (hi : crowd.decided? i = some reply) :
    next.decided? i = some reply := by
  induction actions generalizing crowd with
  | nil =>
    obtain rfl := Option.some.inj run
    exact hi
  | cons action actions ih =>
    obtain ⟨middle, hact, hrest⟩ := Option.bind_eq_some_iff.mp run
    have h := step_of_act? hact
    exact ih (numbered.step h) hrest (h.decided numbered hi)

/-! ## The crowd in order -/

/-- How a crowd that comes of some actions reads contents and shares locks. -/
structure Orderly (actions : List Action) (crowd : Crowd) : Prop where
  /-- Everyone goes on with the own call, and is registered under the name of its URL. -/
  own : ∀ i stage, crowd.callers i = some stage →
    ∃ call, (arrivals actions)[i]? = some call ∧ stage.Belongs call
  /-- At most one caller of a URL is between its miss and the end of this miss. -/
  single : ∀ i j stage other url, crowd.callers i = some stage → crowd.callers j = some other →
    stage.parsing? = some url → other.parsing? = some url → i = j
  /-- The URL has no entry meanwhile. -/
  uncached : ∀ i stage url, crowd.callers i = some stage → stage.parsing? = some url →
    crowd.cache.held? url = none
  /-- So a document that was read is stored, and is what the caller gets, whatever
      else happens. -/
  stored : ∀ i url name document lock entry,
    crowd.callers i = some (.concluding url name (.ok document) lock) →
    Entry.ofValues url document = .ok entry →
    ∃ next, crowd.advance? i = some next ∧ next.cache.held? url = some entry ∧
      ∀ later after, actAll? later next = some after →
        after.decided? i = some (.entry (some entry))
  /-- There is a lock for a name exactly while someone is registered under it. -/
  inUse : ∀ name, (crowd.locks name).isSome ↔
    ∃ i stage, crowd.callers i = some stage ∧ stage.registered name = true
  /-- All who are registered under a name share its lock. -/
  shared : ∀ i stage name lock, crowd.callers i = some stage →
    stage.place? = some (name, lock) → crowd.locks name = some lock
  /-- No other name has this lock. -/
  apart : ∀ name other lock, crowd.locks name = some lock → crowd.locks other = some lock →
    name = other
  /-- The lock counts them. -/
  users : ∀ name lock, crowd.locks name = some lock →
    (crowd.made lock).users = (those (Stage.registered name) crowd).card
  /-- There is no lock when no call is in progress. -/
  empty : (∀ i stage, crowd.callers i = some stage → stage.inProgress = false) →
    ∀ name, crowd.locks name = none
  /-- Whoever is not done can go on, or waits for a lock whose holder can. -/
  handOver : ∀ i stage, crowd.callers i = some stage → stage.reply? = none →
    (crowd.advance? i).isSome ∨
      ∃ j holder place, stage.place? = some place ∧ crowd.callers j = some holder ∧
        holder.place? = some place ∧ (crowd.advance? j).isSome

theorem Guarded.locks_isSome (guarded : Guarded actions crowd) (name : LockName) :
    (crowd.locks name).isSome ↔
      ∃ i stage, crowd.callers i = some stage ∧ stage.registered name = true := by
  constructor
  · intro h
    obtain ⟨lock, hlock⟩ := Option.isSome_iff_exists.mp h
    rw [← card_those_pos guarded.numbered, ← guarded.locked.users name lock hlock]
    exact guarded.locked.inUse name lock hlock
  · intro h
    obtain ⟨i, stage, hi, hregistered⟩ := h
    obtain ⟨lock, hat⟩ := Stage.registered_eq_true_iff.mp hregistered
    rw [guarded.locked.joined i stage name lock hi hat]
    rfl

theorem Guarded.locks_eq_none (guarded : Guarded actions crowd) (name : LockName)
    (done : ∀ i stage, crowd.callers i = some stage → stage.inProgress = false) :
    crowd.locks name = none := by
  rw [← Option.not_isSome_iff_eq_none, guarded.locks_isSome name]
  intro h
  obtain ⟨i, stage, hi, hregistered⟩ := h
  -- Only a call in progress is registered.
  have hdone := done i stage hi
  cases stage with
  | arrived call => cases hregistered
  | finished reply => cases hregistered
  | _ => cases hdone

/-- **One reading at a time.** Whatever the cache was, and in whatever order callers come
    and go on: as long as deserializers leave the cache alone, the crowd is in order. -/
theorem orderly_of_run {cache : Cache} (plain : ∀ action ∈ actions, action.Plain)
    (run : actAll? actions { cache } = some crowd) : Orderly actions crowd := by
  have guarded := guarded_of_run plain run
  constructor
  case own => exact guarded.accounted.belongs
  case single =>
    intro i j stage other url hi hj hstage hother
    exact guarded.locked.eq_of_parsing guarded.accounted hi hj hstage hother
  case uncached => exact guarded.uncached
  case stored =>
    intro i url name document lock entry hi hentry
    have absent := guarded.uncached i _ url hi rfl
    obtain ⟨next, hnext, hheld, hdecided⟩ := advance?_concluding hi absent hentry
    have hstep : Step crowd (.advance i) next := step_of_act? hnext
    refine ⟨next, hnext, hheld, ?_⟩
    intro later after hlater
    exact decided_of_run (guarded.numbered.step hstep) hlater hdecided
  case inUse => exact guarded.locks_isSome
  case shared => exact guarded.locked.joined
  case apart => exact guarded.locked.apart
  case users => exact guarded.locked.users
  case empty =>
    intro done name
    exact guarded.locks_eq_none name done
  case handOver =>
    intro i stage hi hreply
    exact guarded.locked.advances hi hreply

/-- The first caller fails while the second waits, and the third comes before the
    first has left; the second is about to read. -/
def failureWhileWaiting : List Action :=
  let url : Document := .string "a"
  [.arrive (.getOrParse url (.ended (.error (.unreadable "broken")))),
    .arrive (.getOrParse url (.ended (.ok (.int 1)))),
    .advance 0, .advance 1, .advance 0, .advance 0, .advance 0, .advance 0,
    .arrive (.getOrParse url (.ended (.ok (.int 2)))),
    .advance 0, .advance 2, .advance 1, .advance 0, .advance 1]

theorem orderly_of_run_failure_while_waiting :
    ∃ crowd, actAll? failureWhileWaiting { cache := unbounded } = some crowd ∧
      (crowd.callers 1).bind Stage.parsing? = some (.string "a") ∧
      Orderly failureWhileWaiting crowd := by
  have plain : ∀ action ∈ failureWhileWaiting, action.Plain := by
    simp [failureWhileWaiting, Action.Plain, Call.Plain]
  have hreads : ((actAll? failureWhileWaiting { cache := unbounded }).bind fun crowd =>
      (crowd.callers 1).bind Stage.parsing?) = some (.string "a") := by rfl
  obtain ⟨crowd, run, hparsing⟩ := Option.bind_eq_some_iff.mp hreads
  exact ⟨crowd, run, hparsing, orderly_of_run plain run⟩

end Crowd

end Gleaner.Cache
