import Gleaner.Proofs.Crowd.Locks

/-! # Callers and their calls

    The callers of a crowd are numbered as they come, so the calls that came can be
    read off the actions. Every caller goes on with the call that it came with, and
    registers under the name of the URL of this call.
-/

namespace Gleaner.Cache

namespace Crowd

variable {actions : List Action} {call : Call} {i : Nat}

/-- The call that comes. -/
def Action.call? : Action → Option Call
  | .arrive call => some call
  | .advance _ => none

/-- The calls that came, in the order of their coming. -/
def arrivals (actions : List Action) : List Call := actions.filterMap Action.call?

theorem arrivals_arrive (actions : List Action) (call : Call) :
    arrivals (actions ++ [.arrive call]) = arrivals actions ++ [call] := by
  simp [arrivals, Action.call?]

theorem arrivals_advance (actions : List Action) (i : Nat) :
    arrivals (actions ++ [.advance i]) = arrivals actions := by
  simp [arrivals, Action.call?]

theorem mem_arrivals (h : call ∈ arrivals actions) : .arrive call ∈ actions := by
  obtain ⟨action, haction, hcall⟩ := List.mem_filterMap.mp h
  cases action with
  | arrive call' =>
    obtain rfl : call' = call := Option.some.inj hcall
    exact haction
  | advance i => cases hcall

/-- A call that came keeps its number. -/
theorem getElem?_arrivals (h : (arrivals actions)[i]? = some call) (later : List Action) :
    (arrivals (actions ++ later))[i]? = some call := by
  have hlt : i < (arrivals actions).length := (List.getElem?_eq_some_iff.mp h).1
  unfold arrivals at hlt h ⊢
  rw [List.filterMap_append, List.getElem?_append_left hlt]
  exact h

end Crowd

/-! ## The stages of a call -/

/-- The stages of a caller who came with a call. -/
def Stage.Belongs (call : Call) : Stage → Prop
  | arrived call' => call = call'
  | waiting url name attempt _ => call = .getOrParse url attempt ∧ lockName? url = some name
  | holding url name attempt _ => call = .getOrParse url attempt ∧ lockName? url = some name
  | reading url name attempt _ => call = .getOrParse url attempt ∧ lockName? url = some name
  | concluding url name result _ =>
    call = .getOrParse url (.ended result) ∧ lockName? url = some name
  | releasing name _ _ => ∃ url attempt, call = .getOrParse url attempt ∧ lockName? url = some name
  | leaving name _ _ => ∃ url attempt, call = .getOrParse url attempt ∧ lockName? url = some name
  | finished _ => True

/-- Who parses a URL is registered under the name of this URL. -/
theorem Stage.Belongs.place? {call : Call} {stage : Stage} {url : Document}
    (belongs : stage.Belongs call) (h : stage.parsing? = some url) :
    ∃ name lock, stage.place? = some (name, lock) ∧ lockName? url = some name := by
  cases stage with
  | reading _ name _ lock =>
    cases h
    exact ⟨name, lock, rfl, belongs.2⟩
  | concluding _ name _ lock =>
    cases h
    exact ⟨name, lock, rfl, belongs.2⟩
  | _ => cases h

namespace Crowd

variable {i : Nat} {old new : Stage} {crowd next : Crowd} {action : Action}
  {actions : List Action}

/-- Everyone in a crowd goes on with the own call. -/
structure Accounted (actions : List Action) (crowd : Crowd) : Prop where
  arrived : (arrivals actions).length = crowd.arrived
  belongs : Everyone (fun i stage => ∃ call, (arrivals actions)[i]? = some call ∧
    stage.Belongs call) crowd

theorem accounted_start (cache : Cache) : Accounted [] { cache } := by
  constructor
  · rfl
  · intro i stage hi
    cases hi

/-- A caller who moves on with the own call. -/
theorem Accounted.moved (accounted : Accounted actions crowd) (moved : Moved i old new crowd next)
    (hbelongs : ∀ call, old.Belongs call → new.Belongs call) :
    Accounted (actions ++ [.advance i]) next := by
  constructor
  · rw [arrivals_advance, moved.arrived]
    exact accounted.arrived
  · rw [arrivals_advance]
    obtain ⟨call, hcall, hold⟩ := accounted.belongs i old moved.before
    exact accounted.belongs.moved moved ⟨call, hcall, hbelongs call hold⟩

theorem Accounted.arrive (accounted : Accounted actions crowd) (numbered : Numbered crowd)
    (call : Call) : Accounted (actions ++ [.arrive call]) (crowd.arrive call) := by
  have hlength := accounted.arrived
  constructor
  · rw [arrivals_arrive, List.length_append, hlength]
    rfl
  · have others : Everyone (fun i stage => ∃ own,
        (arrivals (actions ++ [.arrive call]))[i]? = some own ∧ stage.Belongs own) crowd := by
      intro j stage hj
      obtain ⟨own, hown, hstage⟩ := accounted.belongs j stage hj
      exact ⟨own, getElem?_arrivals hown _, hstage⟩
    refine others.arrive numbered ⟨call, ?_, rfl⟩
    -- The number of the one who comes is how many came before.
    rw [arrivals_arrive, ← hlength]
    exact List.getElem?_concat_length

/-- A plain caller has a deserializer that ends with a result. -/
theorem Accounted.attempt_eq {url : Document} {name : LockName} {attempt : Attempt} {lock : Nat}
    (accounted : Accounted actions crowd) (plain : ∀ action ∈ actions, action.Plain)
    (hi : crowd.callers i = some (.reading url name attempt lock)) :
    ∃ result, attempt = .ended result := by
  obtain ⟨call, hcall, hbelongs⟩ := accounted.belongs i _ hi
  obtain ⟨rfl, _⟩ := hbelongs
  exact plain _ (mem_arrivals (List.mem_of_getElem? hcall))

/-- Every step of a plain crowd keeps everyone at the own call. -/
theorem Accounted.step (accounted : Accounted actions crowd) (numbered : Numbered crowd)
    (plain : ∀ action ∈ actions, action.Plain) (h : Step crowd action next) :
    Accounted (actions ++ [action]) next := by
  cases h with
  | arrive call => exact accounted.arrive numbered call
  | answer hcaller _ => exact accounted.moved ⟨hcaller, rfl, rfl⟩ (fun _ _ => trivial)
  | refuse hcaller _ => exact accounted.moved ⟨hcaller, rfl, rfl⟩ (fun _ _ => trivial)
  | hit hcaller _ => exact accounted.moved ⟨hcaller, rfl, rfl⟩ (fun _ _ => trivial)
  | register hcaller hname _ =>
    exact accounted.moved (moved_register hcaller) (fun _ h => ⟨h, hname⟩)
  | take hcaller _ => exact accounted.moved ⟨hcaller, rfl, rfl⟩ (fun _ h => h)
  | hitAgain hcaller _ =>
    exact accounted.moved ⟨hcaller, rfl, rfl⟩ (fun _ h => ⟨_, _, h.1, h.2⟩)
  | miss hcaller _ => exact accounted.moved ⟨hcaller, rfl, rfl⟩ (fun _ h => h)
  | read hcaller =>
    obtain ⟨result, rfl⟩ := accounted.attempt_eq plain hcaller
    exact accounted.moved ⟨hcaller, rfl, rfl⟩ (fun _ h => h)
  | conclude hcaller =>
    exact accounted.moved ⟨hcaller, rfl, rfl⟩ (fun _ h => ⟨_, _, h.1, h.2⟩)
  | release hcaller => exact accounted.moved ⟨hcaller, rfl, rfl⟩ (fun _ h => h)
  | leave hcaller => exact accounted.moved (moved_leave hcaller) (fun _ _ => trivial)

end Crowd

end Gleaner.Cache
