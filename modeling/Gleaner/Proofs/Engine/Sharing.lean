import Gleaner.SharedEngine
import Gleaner.Proofs.Cache.Counters

/-! # Sharing one engine

    Between two resets all callers of the shared engine are served by one engine, as if
    they had called it themselves. If an engine was handed over it is that one, in the state
    in which it was left. If none was, the first use for which settings can be put together
    builds it from these settings, and what the settings become later does not matter. A use
    for which none can be put together gets the fault, and that is all that happens.
-/

namespace Gleaner

/-! ## Engines by number -/

namespace Engines

variable {engines : Engines} {engine : Engine} {number other : Nat}
  {number_lt : number < engines.length}

theorem get_set_self {h : number < (engines.set number number_lt engine).length} :
    (engines.set number number_lt engine).get number h = engine := by
  simp [get, set, seat]

/-- Another engine keeps its registry, and its cache unless it has the same one. -/
theorem get_set_of_ne (hne : other ≠ number) (other_lt : other < engines.length)
    {h : other < (engines.set number number_lt engine).length} :
    (engines.set number number_lt engine).get other h =
      { engines.get other other_lt with
        cache :=
          if (engines.seat number number_lt).cache = (engines.seat other other_lt).cache then
            engine.cache
          else (engines.get other other_lt).cache } := by
  have hseat : (engines.set number number_lt engine).seat other h =
      engines.seat other other_lt := by
    simp [seat, set, Ne.symm hne]
  have hcaches : (engines.set number number_lt engine).caches =
      engines.caches.set (engines.seat number number_lt).cache engine.cache := rfl
  simp only [get, hseat, hcaches, List.get_eq_getElem, List.getElem_set]

theorem set_set {first last : Engine}
    {h : number < (engines.set number number_lt first).length} :
    (engines.set number number_lt first).set number h last =
      engines.set number number_lt last := by
  simp [set, seat]

theorem set_get : engines.set number number_lt (engines.get number number_lt) = engines := by
  have hseats : engines.seats.set number (engines.seat number number_lt) = engines.seats :=
    List.set_getElem_self _
  simp only [set, get, List.get_eq_getElem, List.set_getElem_self, hseats]

theorem get_add {h : engines.length < (engines.add engine).length} :
    (engines.add engine).get engines.length h = engine := by
  simp [get, add, seat, length]

theorem set_add {first last : Engine} {h : engines.length < (engines.add first).length} :
    (engines.add first).set engines.length h last = engines.add last := by
  simp [set, add, seat, length]

theorem get_addOver {registry : Registry}
    {h : engines.length < (engines.addOver number number_lt registry).length} :
    (engines.addOver number number_lt registry).get engines.length h =
      ⟨registry, (engines.get number number_lt).cache⟩ := by
  simp [get, addOver, seat, length]

end Engines

/-! ## The engine in its place -/

namespace Ready

variable {ready : Ready} {engine : Engine} {others : Engines} {number : Nat}

@[simp] theorem number_leave (engine : Engine) (ready : Ready) :
    (ready.leave engine).number = ready.number := rfl

@[simp] theorem engine_leave (engine : Engine) (ready : Ready) :
    (ready.leave engine).engine = engine :=
  Engines.get_set_self

@[simp] theorem leave_leave (first last : Engine) (ready : Ready) :
    (ready.leave first).leave last = ready.leave last := by
  simp [leave, Engines.set_set]

@[simp] theorem leave_engine (ready : Ready) : ready.leave ready.engine = ready := by
  simp [leave, Ready.engine, Engines.set_get]

/-- An engine with a cache of its own does not notice that another one is used. -/
theorem get_leave_of_apart {other : Nat} (hne : other ≠ ready.number)
    (other_lt : other < ready.all.length)
    (apart : (ready.all.seat ready.number ready.number_lt).cache ≠
      (ready.all.seat other other_lt).cache) :
    (ready.leave engine).all.get other (by simpa [leave] using other_lt) =
      ready.all.get other other_lt := by
  unfold leave
  rw [Engines.get_set_of_ne hne other_lt, if_neg apart]

theorem engine_ofNew (engine : Engine) (others : Engines) :
    (ofNew engine others).engine = engine :=
  Engines.get_add

/-- A new engine may as well come in the state in which it is left. -/
theorem leave_ofNew (first last : Engine) (others : Engines) :
    (ofNew first others).leave last = ofNew last others := by
  simp [leave, ofNew, Engines.set_add]

/-- The cache is the one that the other engine has. -/
theorem engine_ofOver (registry : Registry) (number_lt : number < others.length) :
    (ofOver registry others number number_lt).engine =
      ⟨registry, (others.get number number_lt).cache⟩ :=
  Engines.get_addOver

end Ready

/-! ## A new engine -/

/-- The engine is as settings say and has not been used: its cache is empty and has the
    bound that is set, and its formats are the built-in ones. -/
structure Engine.Fresh (settings : Settings) (engine : Engine) : Prop where
  blank    : engine.cache.Blank
  bound    : engine.cache.bound = settings.cache.maxEntries.map Subtype.val
  registry : engine.registry = .builtIn Engine.builtInLabel

theorem Engine.fresh_ofSettings (settings : Settings) :
    Engine.Fresh settings (.ofSettings settings) := by
  obtain ⟨⟨maxEntries⟩, logging⟩ := settings
  cases maxEntries with
  | none => exact ⟨⟨rfl, rfl, rfl, rfl, rfl⟩, rfl, rfl⟩
  | some bound => exact ⟨⟨rfl, rfl, rfl, rfl, rfl⟩, rfl, rfl⟩

namespace SharedEngine

variable {shared : SharedEngine} {sources : Settings.Sources} {settings : Settings}
  {fault : Fault}

/-- Uses of one engine, one after the other, by a caller who has hold of it. -/
def directly (number : Nat) : List Use → Engine → Ran Engine (List (Except Fault Answer))
  | [], engine => ⟨[], engine, []⟩
  | use :: uses, engine =>
    let first := use.run number engine
    let others := directly number uses first.state
    ⟨first.value :: others.value, others.state, first.events ++ others.events⟩

/-- A use of the shared engine, and what settings would come from at its time. -/
abbrev TimedUse := Settings.Sources × Use

def TimedUse.call (use : TimedUse) : Settings.Sources × Call := (use.1, .use use.2)

/-! ## An engine that is there -/

theorem run_use_of_ready (ready : Ready) (sources : Settings.Sources) (use : Use) :
    (Call.use use).run sources ready.shared =
      let ran := use.run ready.number ready.engine
      ⟨ran.value, (ready.leave ran.state).shared, ran.events⟩ := rfl

/-- The induction is on the uses still to come. Each finds the engine as the one before has
    left it, and does not ask for the settings. -/
theorem runAll_of_ready (ready : Ready) (uses : List TimedUse) :
    runAll (uses.map TimedUse.call) ready.shared =
      let direct := directly ready.number (uses.map Prod.snd) ready.engine
      ⟨direct.value, (ready.leave direct.state).shared, direct.events⟩ := by
  induction uses generalizing ready with
  | nil => simp [runAll, directly]
  | cons use uses ih => simp [runAll, TimedUse.call, run_use_of_ready, directly, ih]

theorem eq_shared_of_present {number : Nat} (present : shared.number = some number) :
    shared = (⟨shared.all, number, shared.number_lt number present⟩ : Ready).shared := by
  obtain ⟨all, _ | other, number_lt⟩ := shared
  · cases present
  · cases present
    rfl

theorem runAll_append (first rest : List (Settings.Sources × Call)) (shared : SharedEngine) :
    runAll (first ++ rest) shared =
      let ran := runAll first shared
      let more := runAll rest ran.state
      ⟨ran.value ++ more.value, more.state, ran.events ++ more.events⟩ := by
  induction first generalizing shared with
  | nil => rfl
  | cons call first ih => simp [runAll, ih]

/-! ## No engine yet -/

theorem ready_of_none (absent : shared.number = none) :
    shared.ready sources = (Settings.load sources).map fun settings =>
      .ofNew (.ofSettings settings) shared.all := by
  obtain ⟨all, number, number_lt⟩ := shared
  subst absent
  rw [ready]
  cases Settings.load sources <;> rfl

theorem run_use_of_refused (absent : shared.number = none)
    (refused : Settings.load sources = .error fault) (use : Use) :
    (Call.use use).run sources shared = ⟨.error fault, shared, []⟩ := by
  simp [Call.run, useNumbered, ready_of_none absent, refused, Except.map]

/-- The first use is as the same use of an engine that was handed over. -/
theorem run_use_of_loaded (absent : shared.number = none)
    (loaded : Settings.load sources = .ok settings) (use : Use) :
    (Call.use use).run sources shared =
      (Call.use use).run sources (shared.install (.ofSettings settings)) := by
  simp only [Call.run, useNumbered, ready_of_none absent, loaded, Except.map]
  rfl

/-- A use at a time when no settings can be put together. -/
structure RefusedUse where
  sources : Settings.Sources
  use     : Use
  fault   : Fault
  refused : Settings.load sources = .error fault

def RefusedUse.timed (refusal : RefusedUse) : TimedUse := (refusal.sources, refusal.use)

/-- Refused uses, and then others, which find what was there before. -/
theorem runAll_of_refused (absent : shared.number = none) (refused : List RefusedUse)
    (calls : List (Settings.Sources × Call)) :
    runAll ((refused.map RefusedUse.timed).map TimedUse.call ++ calls) shared =
      let rest := runAll calls shared
      ⟨refused.map (.error ·.fault) ++ rest.value, rest.state, rest.events⟩ := by
  induction refused with
  | nil => rfl
  | cons refusal refused ih =>
    have hfirst := run_use_of_refused absent refusal.refused refusal.use
    simp only [List.map_cons, List.cons_append, runAll, TimedUse.call, RefusedUse.timed,
      hfirst] at ih ⊢
    rw [ih]
    rfl

/-- From the first use on for which settings can be put together. -/
theorem runAll_of_loaded (absent : shared.number = none)
    (loaded : Settings.load sources = .ok settings) (use : Use) (uses : List TimedUse) :
    runAll (((sources, use) :: uses).map TimedUse.call) shared =
      let direct := directly shared.all.length (use :: uses.map Prod.snd) (.ofSettings settings)
      ⟨direct.value, shared.install direct.state, direct.events⟩ := by
  have hready := runAll_of_ready (.ofNew (.ofSettings settings) shared.all) ((sources, use) :: uses)
  simp only [Ready.engine_ofNew, Ready.leave_ofNew] at hready
  -- both runs begin with the same use, and are the same from then on
  have hfirst := run_use_of_loaded absent loaded use
  simp only [List.map_cons, runAll, TimedUse.call, hfirst]
  exact hready

/-- At any time either all uses were refused, or there was a first one that was not. -/
theorem refused_or_loaded (uses : List TimedUse) :
    (∃ refused : List RefusedUse, uses = refused.map RefusedUse.timed) ∨
      ∃ (refused : List RefusedUse) (sources : Settings.Sources) (use : Use) (rest : List TimedUse)
        (settings : Settings),
        uses = refused.map RefusedUse.timed ++ (sources, use) :: rest ∧
          Settings.load sources = .ok settings := by
  induction uses with
  | nil => exact .inl ⟨[], rfl⟩
  | cons first uses ih =>
    cases hload : Settings.load first.1 with
    | ok settings => exact .inr ⟨[], first.1, first.2, uses, settings, rfl, hload⟩
    | error fault =>
      let refusal : RefusedUse := ⟨first.1, first.2, fault, hload⟩
      obtain ⟨refused, rfl⟩ | ⟨refused, sources, use, rest, settings, rfl, loaded⟩ := ih
      · exact .inl ⟨refusal :: refused, rfl⟩
      · exact .inr ⟨refusal :: refused, sources, use, rest, settings, rfl, loaded⟩

/-- **The shared engine is one engine.** Some calls have been made, with settings that may
    have changed between any two of them, and there is no reset for a while.

    If there is an engine then, all goes as if the callers had used this engine themselves,
    in the state in which it was left: they get the same answers and reports, and the engine
    is left in the same state. What settings would come from does not matter, and another engine
    is as before unless the two have their cache in common.

    If there is none, each use for which no settings can be put together gets the fault, and
    nothing else happens. The first other use builds a fresh engine from the settings of its
    own time, and from then on all goes as if the callers had used this engine themselves.

    A reset makes the engine that is handed over the one that is there, whether it is new, has
    been here before, or is made with the cache of another engine, and leaves all engines as
    they are. -/
theorem runAll_eq_directly (start : SharedEngine) (earlier : List (Settings.Sources × Call))
    (uses : List TimedUse) :
    let before := (runAll earlier start).state
    let ran := runAll (uses.map TimedUse.call) before
    (∀ number (present : before.number = some number),
      let ready : Ready := ⟨before.all, number, before.number_lt number present⟩
      let direct := directly ready.number (uses.map Prod.snd) ready.engine
      ran = ⟨direct.value, (ready.leave direct.state).shared, direct.events⟩ ∧
      ∀ other (other_lt : other < before.all.length), other ≠ number →
        (before.all.seat number ready.number_lt).cache ≠ (before.all.seat other other_lt).cache →
        ∃ h, ran.state.all.get other h = before.all.get other other_lt) ∧
    (before.number = none →
      (∃ refused : List RefusedUse, uses = refused.map RefusedUse.timed ∧
        ran = ⟨refused.map (.error ·.fault), before, []⟩) ∨
      ∃ (refused : List RefusedUse) (sources : Settings.Sources) (use : Use) (rest : List TimedUse)
        (settings : Settings) (built : Engine),
        uses = refused.map RefusedUse.timed ++ (sources, use) :: rest ∧
        Settings.load sources = .ok settings ∧ built.Fresh settings ∧
        let direct := directly before.all.length (use :: rest.map Prod.snd) built
        ran = ⟨refused.map (.error ·.fault) ++ direct.value, before.install direct.state,
          direct.events⟩) ∧
    ∀ sources,
      let after (replacement : Replacement) :=
        (runAll (earlier ++ [(sources, .reset replacement)]) start).state
      (∀ number h, after (.known number) = (⟨before.all, number, h⟩ : Ready).shared) ∧
      (∀ engine, after (.new engine) = (Ready.ofNew engine before.all).shared) ∧
      (∀ registry number h,
        let ready := Ready.ofOver registry before.all number h
        after (.over registry number) = ready.shared ∧
          ready.engine = ⟨registry, (before.all.get number h).cache⟩) ∧
      after .nothing = { all := before.all } := by
  intro before ran
  -- an engine that is there, none, and the resets
  refine ⟨?_, ?_, ?_⟩
  · intro number present ready
    have hbefore : before = ready.shared := eq_shared_of_present present
    have hran : ran = _ := (congrArg _ hbefore).trans (runAll_of_ready ready uses)
    refine ⟨hran, fun other other_lt hne apart => ?_⟩
    rw [hran]
    exact ⟨_, Ready.get_leave_of_apart hne other_lt apart⟩
  · intro absent
    obtain ⟨refused, hrefused⟩ | ⟨refused, sources, use, rest, settings, huses, loaded⟩ :=
      refused_or_loaded uses
    · have hall := runAll_of_refused absent refused []
      simp only [runAll, List.append_nil, ← hrefused] at hall
      exact .inl ⟨refused, hrefused, hall⟩
    · have hall := runAll_of_refused absent refused (((sources, use) :: rest).map TimedUse.call)
      rw [← List.map_append, ← huses, runAll_of_loaded absent loaded] at hall
      exact .inr ⟨refused, sources, use, rest, settings, .ofSettings settings, huses, loaded,
        Engine.fresh_ofSettings settings, hall⟩
  · intro sources after
    have hafter : ∀ replacement, after replacement = before.reset replacement := by
      intro replacement
      simp only [after, runAll_append]
      rfl
    refine ⟨fun number h => ?_, fun engine => hafter (.new engine), fun registry number h => ?_,
      hafter .nothing⟩
    · rw [hafter, reset, dif_pos h]
    · refine ⟨?_, Ready.engine_ofOver registry h⟩
      rw [hafter, reset, dif_pos h]

/-- An engine is handed over, used at a time when no settings can be put together, and let
    go. The next use is refused, the one after it builds an engine, and the last one finds it,
    though no settings could be put together again. -/
theorem runAll_eq_directly_rebuilt :
    let broken : Settings.Sources := { environment := [("REMOTEVALUE__CACHE", "x")] }
    let own := Engine.ofCache (.bounded 2 (by decide))
    let parse : Use := .parse (.string "http://h/a.json") (.string "[1]") (.value (.string "$")) .null
    let handed : List (Settings.Sources × Call) := [(broken, .reset (.new own))]
    let uses : List TimedUse := [(broken, .get), ({}, .get), (broken, .get)]
    let before := (runAll (handed ++ [(broken, .reset .nothing)]) {}).state
    (runAll [(broken, .use parse), (broken, .use .get)] (runAll handed {}).state).value =
        (directly 0 [parse, .get] own).value ∧
      ∃ (fault : Fault) (built : Engine), built.Fresh {} ∧
        runAll (uses.map TimedUse.call) before =
          ⟨[.error fault, .ok (.engine 1), .ok (.engine 1)], before.install built, []⟩ := by
  intro broken own parse handed uses before
  obtain ⟨hpresent, -, -⟩ := runAll_eq_directly {} handed [(broken, parse), (broken, .get)]
  refine ⟨congrArg Ran.value (hpresent 0 rfl).1, ?_⟩
  obtain ⟨-, habsent, -⟩ := runAll_eq_directly {} (handed ++ [(broken, .reset .nothing)]) uses
  have hbroken : Settings.load broken = .error (.unreadableVariable "cache") := rfl
  -- the use in the middle is not refused
  have hloads : ∀ refusal : RefusedUse, refusal.timed ≠ ({}, .get) := by
    intro refusal h
    have hrefused := refusal.refused
    rw [show refusal.sources = {} from congrArg Prod.fst h] at hrefused
    cases hrefused
  obtain ⟨refused, huses, -⟩ | ⟨refused, sources, use, rest, settings, built, huses, loaded, fresh,
    hran⟩ := habsent rfl
  · have hmem : ({}, .get) ∈ refused.map RefusedUse.timed := by simp [← huses, uses]
    obtain ⟨refusal, -, h⟩ := List.mem_map.mp hmem
    exact absurd h (hloads refusal)
  · cases refused with
    | nil =>
      obtain ⟨hfirst, -⟩ := List.cons.inj huses
      obtain rfl : broken = sources := congrArg Prod.fst hfirst
      cases hbroken.symm.trans loaded
    | cons refusal more =>
      cases more with
      | nil =>
        obtain ⟨-, hrest⟩ := List.cons.inj huses
        cases hrest
        cases loaded
        exact ⟨refusal.fault, built, fresh, hran⟩
      | cons other more =>
        obtain ⟨-, hrest⟩ := List.cons.inj huses
        exact absurd (List.cons.inj hrest).1.symm (hloads other)

end SharedEngine

end Gleaner
