import Gleaner.Proofs.Cache.Ahead
import Gleaner.Proofs.Crowd.SingleParse

/-! # One caller after the other

    However the steps of callers interleave, they get the replies of some order in
    which they come one after the other, and leave the same cache.

    A caller takes effect when the reply is known: at once, at the second look, or at
    the end of the miss. A miss is counted before that. So between steps the cache is
    that of the callers with a reply, taken in this order, with one miss more for each
    caller who parses.
-/

namespace Gleaner

namespace Cache

variable {cache : Cache} {url : Document}

/-! ## Misses that are counted early -/

/-- The call neither shows the counters nor sets them back. -/
def Call.Blind : Call → Prop
  | .clear => False
  | .stats => False
  | _ => True

/-- Who does not see the counters does not see that misses were counted early. -/
theorem Call.Blind.run_ahead {call : Call} (blind : call.Blind) (n : Nat) (cache : Cache) :
    call.run (cache.ahead n 0) = (call.run cache).onState (ahead n 0) := by
  cases call with
  | clear => cases blind
  | stats => cases blind
  | size => rfl
  | _ =>
    rw [Call.run_ahead (by simp)]
    simp [Call.run, Ran.map, Ran.onState]

/-- A call that misses, when the miss has been counted already. -/
theorem run_of_absent (hkey : isNoKey url = false) (absent : cache.held? url = none)
    (result : Except Fault Document) (n : Nat) :
    ((Call.getOrParse url (.ended result)).run cache).value =
        .of .entry ((cache.ahead (n + 1) 0).conclude url result).value ∧
      ((cache.ahead (n + 1) 0).conclude url result).state =
        ((Call.getOrParse url (.ended result)).run cache).state.ahead n 0 := by
  have hearly : cache.ahead (n + 1) 0 = cache.missed.ahead n 0 := by
    rw [missed_eq_ahead, ahead_ahead, Nat.add_comm]
  simp only [Call.run]
  rw [getOrParse_ended_of_absent hkey absent, hearly, conclude_ahead]
  exact ⟨rfl, rfl⟩

/-! ## Calls and callers -/

/-- Whether a caller has made a step. -/
def Stage.begun : Stage → Bool
  | arrived _ => false
  | _ => true

namespace Crowd

variable {i j : Nat} {old new stage : Stage} {crowd next : Crowd} {action : Action}
  {actions : List Action}

/-- A call that comes is blind to the counters. -/
def Action.Blind : Action → Prop
  | .arrive call => call.Blind
  | .advance _ => True

/-! ## The serial order of a run -/

/-- The callers who have a reply, in an order in which they could have come one
    after the other. -/
structure Serial (cache : Cache) (actions : List Action) (crowd : Crowd)
    (order : List (Call × Nat)) : Prop where
  nodup   : (order.map (·.2)).Nodup
  calls   : ∀ entry ∈ order, (arrivals actions)[entry.2]? = some entry.1
  decided : ∀ i, i ∈ order.map (·.2) ↔ (crowd.decided? i).isSome
  replies : (runAll (order.map (·.1)) cache).value.map some =
    order.map fun entry => crowd.decided? entry.2
  /-- Who parses has counted the miss already. -/
  state   : crowd.cache =
    (runAll (order.map (·.1)) cache).state.ahead (those Stage.parsing crowd).card 0

variable {cache : Cache} {order : List (Call × Nat)}

theorem serial_start (cache : Cache) : Serial cache [] { cache } [] where
  nodup := List.nodup_nil
  calls := by simp
  decided := by simp [decided?]
  replies := rfl
  state := rfl

/-- A step that gives nobody a reply, and may count misses of callers who parse. -/
theorem Serial.quiet (serial : Serial cache actions crowd order)
    (hdecided : ∀ i, next.decided? i = crowd.decided? i) {n : Nat}
    (hcache : next.cache = crowd.cache.ahead n 0)
    (hparsing : (those Stage.parsing next).card = (those Stage.parsing crowd).card + n) :
    Serial cache (actions ++ [action]) next order where
  nodup := serial.nodup
  calls := by
    intro entry hentry
    exact getElem?_arrivals (serial.calls entry hentry) _
  decided := by
    intro i
    rw [hdecided]
    exact serial.decided i
  replies := by
    simp only [hdecided]
    exact serial.replies
  state := by
    rw [hcache, hparsing, serial.state, ahead_ahead]

/-- A caller moves on without a reply, or with the one that there was. -/
theorem Serial.moved (serial : Serial cache actions crowd order) (numbered : Numbered crowd)
    (moved : Moved i old new crowd next) (hdecided : new.decided? = old.decided?)
    (hparsing : new.parsing = old.parsing) (hcache : next.cache = crowd.cache) :
    Serial cache (actions ++ [.advance i]) next order := by
  refine serial.quiet ?_ (n := 0) hcache (card_those_same _ numbered moved hparsing)
  exact moved.decided_same hdecided

/-- A caller gets the reply that it would get if it came now, after all who have one. -/
theorem Serial.decide (serial : Serial cache actions crowd order)
    (accounted : Accounted actions crowd) (moved : Moved i old new crowd next) {reply : Reply}
    (hold : old.decided? = none) (hnew : new.decided? = some reply)
    (hrun : ∀ call before, call ∈ arrivals actions → old.Belongs call →
      crowd.cache = ahead (those Stage.parsing crowd).card 0 before →
      (call.run before).value = reply ∧
        next.cache = (call.run before).state.ahead (those Stage.parsing next).card 0) :
    ∃ more, Serial cache (actions ++ [.advance i]) next (order ++ more) := by
  obtain ⟨call, hcall, hbelongs⟩ := accounted.belongs i old moved.before
  obtain ⟨hvalue, hstate⟩ := hrun call _ (List.mem_of_getElem? hcall) hbelongs serial.state
  obtain ⟨hvalues, hstates⟩ := runAll_append_singleton (order.map (·.1)) call cache
  -- The caller had no reply, so the order does not have it yet.
  have hfresh : i ∉ order.map (·.2) := by
    rw [serial.decided i, moved.decided_before, hold]
    simp
  have hothers : ∀ entry ∈ order, entry.2 ≠ i := by
    intro entry hentry heq
    exact hfresh (heq ▸ List.mem_map_of_mem hentry)
  refine ⟨[(call, i)], ?_⟩
  constructor
  case nodup =>
    rw [List.map_append, List.nodup_append]
    refine ⟨serial.nodup, List.nodup_singleton i, ?_⟩
    intro j hj k hk heq
    obtain rfl : k = i := List.mem_singleton.mp hk
    exact hfresh (heq ▸ hj)
  case calls =>
    intro entry hentry
    rcases List.mem_append.mp hentry with hentry | hentry
    · exact getElem?_arrivals (serial.calls entry hentry) _
    · obtain rfl := List.mem_singleton.mp hentry
      exact getElem?_arrivals hcall _
  case decided =>
    intro j
    rw [List.map_append, List.mem_append, serial.decided j]
    by_cases h : j = i
    · subst h
      rw [moved.decided_self, hnew]
      simp
    · rw [moved.decided_other h]
      simp [h]
  case replies =>
    -- The replies of the others are those that they had.
    have hsame : (order.map fun entry => next.decided? entry.2) =
        order.map fun entry => crowd.decided? entry.2 := by
      refine List.map_congr_left ?_
      intro entry hentry
      exact moved.decided_other (hothers entry hentry)
    rw [List.map_append, List.map_append, hsame, ← serial.replies]
    simp only [List.map_cons, List.map_nil]
    rw [hvalues, hvalue, moved.decided_self, hnew]
    simp
  case state =>
    rw [hstate, List.map_append]
    simp only [List.map_cons, List.map_nil]
    rw [hstates]

/-- A call that finds an entry. -/
theorem now_of_present {url : Document} {attempt : Attempt} {entry : Entry}
    (hheld : crowd.cache.held? url = some entry) :
    ((Call.getOrParse url attempt).run crowd.cache).value = .entry (some entry) ∧
      ((Call.getOrParse url attempt).run crowd.cache).state = crowd.cache.used url := by
  have hcall := getOrParse_of_present hheld attempt
  simp only [Call.run, hcall]
  exact ⟨rfl, rfl⟩

/-- The reply is that of the whole call, carried out now. -/
theorem Serial.decide_now (serial : Serial cache actions crowd order)
    (accounted : Accounted actions crowd) (numbered : Numbered crowd)
    (blind : ∀ action ∈ actions, action.Blind) (moved : Moved i old new crowd next)
    {reply : Reply} (hold : old.decided? = none) (hnew : new.decided? = some reply)
    (hparsing : new.parsing = old.parsing)
    (hrun : ∀ call, old.Belongs call →
      (call.run crowd.cache).value = reply ∧ (call.run crowd.cache).state = next.cache) :
    ∃ more, Serial cache (actions ++ [.advance i]) next (order ++ more) := by
  refine serial.decide accounted moved hold hnew ?_
  intro call before hcame hbelongs hbefore
  obtain ⟨hvalue, hstate⟩ := hrun call hbelongs
  have hblind : call.Blind := blind _ (mem_arrivals hcame)
  rw [hbefore, hblind.run_ahead] at hvalue hstate
  rw [card_those_same _ numbered moved hparsing]
  exact ⟨hvalue, hstate.symm⟩

/-- Every step keeps the order, and may add one caller at its end. -/
theorem Serial.step (serial : Serial cache actions crowd order)
    (guarded : Guarded actions crowd) (blind : ∀ action ∈ actions, action.Blind)
    (h : Step crowd action next) :
    ∃ more, Serial cache (actions ++ [action]) next (order ++ more) := by
  have numbered := guarded.numbered
  have accounted := guarded.accounted
  -- A step that gives no reply adds nobody.
  have stays : Serial cache (actions ++ [action]) next order →
      ∃ more, Serial cache (actions ++ [action]) next (order ++ more) := by
    intro hserial
    refine ⟨[], ?_⟩
    rw [List.append_nil]
    exact hserial
  cases h with
  | arrive call =>
    apply stays
    exact serial.quiet (numbered.decided_arrive call) (n := 0) rfl (card_those_arrive numbered rfl)
  | @answer i call hcaller hcall =>
    refine serial.decide_now accounted numbered blind ⟨hcaller, rfl, rfl⟩ rfl rfl rfl ?_
    intro came hsame
    cases hsame
    exact ⟨rfl, rfl⟩
  | @refuse i url attempt hcaller hname =>
    refine serial.decide_now accounted numbered blind ⟨hcaller, rfl, rfl⟩ rfl rfl rfl ?_
    intro came hsame
    cases hsame
    have hkey := lockName?_eq_none_iff.mp hname
    have hcall := getOrParse_of_isNoKey hkey attempt crowd.cache
    simp only [Call.run, hcall]
    exact ⟨rfl, rfl⟩
  | @hit i url attempt entry hcaller hheld =>
    refine serial.decide_now accounted numbered blind ⟨hcaller, rfl, rfl⟩ rfl rfl rfl ?_
    intro came hsame
    cases hsame
    exact now_of_present hheld
  | register hcaller _ _ =>
    -- A look that finds nothing leaves no trace.
    apply stays
    exact serial.moved numbered (moved_register hcaller) rfl rfl (cache_register ..)
  | take hcaller _ =>
    apply stays
    exact serial.moved numbered ⟨hcaller, rfl, rfl⟩ rfl rfl rfl
  | @hitAgain i url name attempt lock entry hcaller hheld =>
    -- The second look finds the entry, so the call is a hit as if it came now.
    refine serial.decide_now accounted numbered blind ⟨hcaller, rfl, rfl⟩ rfl rfl rfl ?_
    intro came hsame
    obtain ⟨rfl, _⟩ := hsame
    exact now_of_present hheld
  | @miss i url name attempt lock hcaller _ =>
    -- The miss is counted early, and there is one caller more who parses.
    apply stays
    have moved : Moved i _ (.reading url name attempt lock) crowd
        ({ crowd with cache := crowd.cache.missed }.moveTo i (.reading url name attempt lock)) :=
      ⟨hcaller, rfl, rfl⟩
    refine serial.quiet ?_ (n := 1) rfl (card_those_join _ numbered moved rfl rfl)
    exact moved.decided_same rfl
  | @read i url name attempt lock hcaller =>
    apply stays
    obtain ⟨result, rfl⟩ := accounted.attempt_eq guarded.plain hcaller
    exact serial.moved numbered ⟨hcaller, rfl, rfl⟩ rfl rfl rfl
  | @conclude i url name result lock hcaller =>
    have moved : Moved i _ _ crowd ((crowd.withRan (crowd.cache.conclude url result)).moveTo i
      (.releasing name (.of .entry (crowd.cache.conclude url result).value) lock)) :=
      ⟨hcaller, rfl, rfl⟩
    have hcard := card_those_quit Stage.parsing numbered moved rfl rfl
    have absent := guarded.uncached i _ url hcaller rfl
    refine serial.decide accounted moved rfl rfl ?_
    intro came before _ hsame hbefore
    obtain ⟨rfl, hname⟩ := hsame
    have hkey : isNoKey url = false := by
      rw [← Bool.not_eq_true, ← lockName?_eq_none_iff, hname]
      simp
    -- The miss of this caller is one of those that were counted early, and it is no
    -- longer early now.
    rw [← hcard] at hbefore
    rw [hbefore, held?_ahead] at absent
    obtain ⟨hvalue, hstate⟩ := run_of_absent hkey absent result _
    rw [← hbefore] at hvalue hstate
    exact ⟨hvalue, hstate⟩
  | release hcaller =>
    apply stays
    exact serial.moved numbered ⟨hcaller, rfl, rfl⟩ rfl rfl rfl
  | leave hcaller =>
    apply stays
    exact serial.moved numbered (moved_leave hcaller) rfl rfl (cache_leave ..)

/-! ## Runs -/

/-- At some time of a run exactly the callers of a part of the order have a reply. -/
def Marked (cache : Cache) (actions : List Action) (order : List (Call × Nat)) : Prop :=
  ∀ before middle, before <+: actions → actAll? before { cache } = some middle →
    ∃ done, done <+: order ∧ ∀ i, i ∈ done.map (·.2) ↔ (middle.decided? i).isSome

/-- Every run has a serial order, which grows at its end as the run goes on. -/
theorem exists_serial (plain : ∀ action ∈ actions, action.Plain)
    (blind : ∀ action ∈ actions, action.Blind)
    (run : actAll? actions { cache } = some crowd) :
    ∃ order, Serial cache actions crowd order ∧ Marked cache actions order := by
  induction actions using List.reverseRecOn generalizing crowd with
  | nil =>
    obtain rfl := Option.some.inj run
    refine ⟨[], serial_start cache, ?_⟩
    intro before middle hbefore hmiddle
    obtain rfl := List.prefix_nil.mp hbefore
    obtain rfl := Option.some.inj hmiddle
    exact ⟨[], List.prefix_refl _, (serial_start cache).decided⟩
  | append_singleton actions action ih =>
    obtain ⟨before, hbefore, hact⟩ := actAll?_append_singleton.mp run
    have plain' : ∀ action ∈ actions, action.Plain := by
      intro other hother
      exact plain other (List.mem_append_left _ hother)
    have blind' : ∀ action ∈ actions, action.Blind := by
      intro other hother
      exact blind other (List.mem_append_left _ hother)
    have guarded := guarded_of_run plain' hbefore
    obtain ⟨order, serial, marked⟩ := ih plain' blind' hbefore
    obtain ⟨more, hserial⟩ := serial.step guarded blind' (step_of_act? hact)
    refine ⟨order ++ more, hserial, ?_⟩
    intro early middle hearly hmiddle
    -- The time in question is now, or the order of the shorter run has been marked for it.
    rcases List.prefix_concat_iff.mp hearly with rfl | hearly
    · obtain rfl : crowd = middle := Option.some.inj (run.symm.trans hmiddle)
      exact ⟨order ++ more, List.prefix_refl _, hserial.decided⟩
    · obtain ⟨done, hdone, hmarked⟩ := marked early middle hearly hmiddle
      exact ⟨done, hdone.trans (List.prefix_append _ _), hmarked⟩

/-! ## Calls that follow one another -/

/-- The first caller was done before the second began. -/
def Precedes (cache : Cache) (actions : List Action) (i j : Nat) : Prop :=
  ∃ before middle, before <+: actions ∧ actAll? before { cache } = some middle ∧
    ((middle.callers i).bind Stage.reply?).isSome ∧ (middle.callers j).any Stage.begun = false

theorem decided_of_reply {reply : Reply} (h : (crowd.callers i).bind Stage.reply? = some reply) :
    crowd.decided? i = some reply := by
  unfold decided?
  obtain ⟨stage, hi, hreply⟩ := Option.bind_eq_some_iff.mp h
  rw [hi]
  cases stage with
  | finished reply => exact hreply
  | _ => cases hreply

theorem not_decided_of_not_begun (h : (crowd.callers i).any Stage.begun = false) :
    crowd.decided? i = none := by
  unfold decided?
  cases hi : crowd.callers i with
  | none => rfl
  | some stage =>
    rw [hi] at h
    cases stage with
    | arrived call => rfl
    | _ => cases h

/-- What is in the first part of a list comes before what is not. -/
theorem idxOf_lt_of_prefix {done all : List Nat} (hdone : done <+: all) (hi : i ∈ done)
    (hj : j ∉ done) : all.idxOf i < all.idxOf j := by
  obtain ⟨rest, rfl⟩ := hdone
  rw [List.idxOf_append_of_mem hi, List.idxOf_append_of_notMem hj]
  have hlt := List.idxOf_lt_length_iff.mpr hi
  omega

theorem Marked.idxOf_lt (marked : Marked cache actions order) (h : Precedes cache actions i j) :
    (order.map (·.2)).idxOf i < (order.map (·.2)).idxOf j := by
  obtain ⟨before, middle, hbefore, hmiddle, hdone, hbegun⟩ := h
  obtain ⟨done, hpart, hmarked⟩ := marked before middle hbefore hmiddle
  obtain ⟨reply, hreply⟩ := Option.isSome_iff_exists.mp hdone
  -- Who is done has a reply at this time, and who has not begun has none.
  have hi : i ∈ done.map (·.2) := by
    rw [hmarked i, decided_of_reply hreply]
    rfl
  have hj : j ∉ done.map (·.2) := by
    rw [hmarked j, not_decided_of_not_begun hbegun]
    simp
  exact idxOf_lt_of_prefix (hpart.map _) hi hj

/-! ## The serial order of a finished run -/

/-- When everyone has a reply, nobody parses. -/
theorem card_parsing_of_done (numbered : Numbered crowd)
    (done : ∀ i < crowd.arrived, ((crowd.callers i).bind Stage.reply?).isSome) :
    (those Stage.parsing crowd).card = 0 := by
  rw [Finset.card_eq_zero, Finset.eq_empty_iff_forall_notMem]
  intro i hi
  obtain ⟨stage, hcaller, hparsing⟩ := (mem_those numbered).mp hi
  have hreply := done i (numbered.lt hcaller)
  rw [hcaller] at hreply
  cases stage with
  | finished reply => cases hparsing
  | _ => cases hreply

/-- Then the order is one of all callers. -/
theorem Serial.perm (serial : Serial cache actions crowd order)
    (accounted : Accounted actions crowd)
    (done : ∀ i < crowd.arrived, ((crowd.callers i).bind Stage.reply?).isSome) :
    order.Perm (arrivals actions).zipIdx := by
  -- Both lists are without repetition, so it is enough that they have the same members.
  have hnodup : order.Nodup := List.Nodup.of_map _ serial.nodup
  have hnumbers : ((arrivals actions).zipIdx.map (·.2)).Nodup := by
    rw [List.zipIdx_map_snd]
    exact List.nodup_range'
  rw [List.perm_ext_iff_of_nodup hnodup (List.Nodup.of_map _ hnumbers)]
  intro entry
  obtain ⟨call, i⟩ := entry
  rw [List.mem_zipIdx_iff_getElem?]
  constructor
  · intro hentry
    exact serial.calls (call, i) hentry
  · intro hcall
    have hlt : i < crowd.arrived := by
      rw [← accounted.arrived]
      exact (List.getElem?_eq_some_iff.mp hcall).1
    obtain ⟨reply, hreply⟩ := Option.isSome_iff_exists.mp (done i hlt)
    have hmem : i ∈ order.map (·.2) := by
      rw [serial.decided i, decided_of_reply hreply]
      rfl
    obtain ⟨⟨came, _⟩, hentry, rfl⟩ := List.mem_map.mp hmem
    have hcame := serial.calls _ hentry
    obtain rfl : call = came := Option.some.inj (hcall.symm.trans hcame)
    exact hentry

/-- An order of the calls in which they come one after the other, with the replies and
    the cache of the crowd. -/
structure SerialOrder (cache : Cache) (actions : List Action) (crowd : Crowd)
    (order : List (Call × Nat)) : Prop where
  /-- It has all calls that came, each with its number. -/
  perm : order.Perm (arrivals actions).zipIdx
  /-- A call that was done before another began comes before it. -/
  precedes : ∀ i j, Precedes cache actions i j →
    (order.map (·.2)).idxOf i < (order.map (·.2)).idxOf j
  /-- Each caller has got the reply that it gets in this order. -/
  replies : (runAll (order.map (·.1)) cache).value.map some =
    order.map fun entry => (crowd.callers entry.2).bind Stage.reply?
  /-- Entries, their order and all counters are those that this order leaves. -/
  state : (runAll (order.map (·.1)) cache).state = crowd.cache

/-- **Serial equivalence.** However the steps of callers interleave, there is a serial
    order when all are done. -/
theorem exists_serialOrder (plain : ∀ action ∈ actions, action.Plain)
    (blind : ∀ action ∈ actions, action.Blind)
    (run : actAll? actions { cache } = some crowd)
    (done : ∀ i < crowd.arrived, ((crowd.callers i).bind Stage.reply?).isSome) :
    ∃ order, SerialOrder cache actions crowd order := by
  have guarded := guarded_of_run plain run
  obtain ⟨order, serial, marked⟩ := exists_serial plain blind run
  refine ⟨order, serial.perm guarded.accounted done, ?_, ?_, ?_⟩
  · intro i j h
    exact marked.idxOf_lt h
  · rw [serial.replies]
    refine List.map_congr_left ?_
    intro entry hentry
    have hlt : entry.2 < crowd.arrived := by
      rw [← guarded.accounted.arrived]
      exact (List.getElem?_eq_some_iff.mp (serial.calls entry hentry)).1
    obtain ⟨reply, hreply⟩ := Option.isSome_iff_exists.mp (done entry.2 hlt)
    rw [hreply]
    exact decided_of_reply hreply
  · have hstate := serial.state
    rw [card_parsing_of_done guarded.numbered done, ahead_zero] at hstate
    exact hstate.symm

/-- The run goes on: another URL is stored while the second caller reads, and evicted
    when this caller is done. -/
def evictedWhileReading : List Action :=
  failureWhileWaiting ++
    [.arrive (.getOrParse (.string "b") (.ended (.ok .null))),
      .advance 3, .advance 3, .advance 3, .advance 1, .advance 3, .advance 3, .advance 1,
      .arrive .size, .advance 4, .advance 3, .advance 3, .advance 1, .advance 1,
      .advance 2, .advance 2, .advance 2, .advance 2]

theorem exists_serialOrder_evicted_while_reading :
    ∃ crowd, actAll? evictedWhileReading { cache := bounded 1 Nat.one_pos } = some crowd ∧
      crowd.cache.evictions = 1 ∧
      ∃ order, SerialOrder (bounded 1 Nat.one_pos) evictedWhileReading crowd order := by
  have plain : ∀ action ∈ evictedWhileReading, action.Plain := by
    simp [evictedWhileReading, failureWhileWaiting, Action.Plain, Call.Plain]
  have blind : ∀ action ∈ evictedWhileReading, action.Blind := by
    simp [evictedWhileReading, failureWhileWaiting, Action.Blind, Call.Blind]
  have hends : ((actAll? evictedWhileReading { cache := bounded 1 Nat.one_pos }).map
      fun crowd => (crowd.cache.evictions, (List.range crowd.arrived).all fun i =>
        ((crowd.callers i).bind Stage.reply?).isSome)) = some (1, true) := by rfl
  obtain ⟨crowd, run, hcrowd⟩ := Option.map_eq_some_iff.mp hends
  obtain ⟨hevictions, hall⟩ := Prod.mk.inj hcrowd
  refine ⟨crowd, run, hevictions, exists_serialOrder plain blind run ?_⟩
  intro i hi
  exact List.all_eq_true.mp hall i (List.mem_range.mpr hi)

end Crowd

end Cache

end Gleaner
