import Mathlib.Data.List.Induction
import Gleaner.Registry
import Gleaner.Proofs.Keyed
import Gleaner.Proofs.Text.Lowercase
import Gleaner.Proofs.Text.Order

/-! # The history of a registry

    A registry is asked to register and to unregister parsers, to look them up, to tell
    whether a format has one, and to list its formats, in any order and under any spelling.

    What it answers depends on the calls that took effect on the lower case of a format: the
    last of them, if it was a registration, is what the format stands for. The four views of a
    registry agree on that, because the keys are in lower case, putting a key into lower case
    once more changes nothing, and no key is there twice.
-/

namespace Gleaner.Registry

/-! ## Calls -/

/-- What can be asked of a registry. -/
inductive Call
  | register (format : Document) (candidate : Candidate)
  | unregister (format : Document)
  | lookup (format : Document)
  | contains (value : Document)
  | formats

/-- What a call gets. -/
inductive Reply
  | done
  | parser (found : Option Parser)
  | flag (value : Bool)
  | formats (formats : List Text)
  | fault (fault : Fault)

/-- Carries a call out. A call that ends in a fault leaves the registry as it is. -/
def Call.run : Call → Registry → Reply × Registry
  | .register format candidate, registry =>
    match registry.register format candidate with
    | .ok registered => (.done, registered)
    | .error fault => (.fault fault, registry)
  | .unregister format, registry =>
    match registry.unregister format with
    | .ok (found, left) => (.parser found, left)
    | .error fault => (.fault fault, registry)
  | .lookup format, registry =>
    match registry.lookup format with
    | .ok found => (.parser found, registry)
    | .error fault => (.fault fault, registry)
  | .contains value, registry => (.flag (registry.contains value), registry)
  | .formats, registry => (.formats registry.formats, registry)

/-- The registry after some calls. -/
def after (calls : List Call) (registry : Registry) : Registry :=
  calls.foldl (fun registry call => (call.run registry).2) registry

@[simp] theorem put_parsers (key : Text) (parser : Parser) (registry : Registry) :
    (registry.put key parser).parsers = registry.parsers.put key parser := rfl

@[simp] theorem erase_parsers (key : Text) (registry : Registry) :
    (registry.erase key).parsers = registry.parsers.erase key := rfl

variable {calls : List Call} {call : Call} {registry : Registry} {key format : Text}
  {parser : Parser}

theorem after_append_singleton (calls : List Call) (call : Call) (registry : Registry) :
    after (calls ++ [call]) registry = (call.run (after calls registry)).2 := by
  simp [after, List.foldl_append]

/-! ## Effects -/

/-- The call registers a parser under a spelling of a format in lower case. -/
inductive Call.Registers (key : Text) (parser : Parser) : Call → Prop
  | intro (spelling : Text) (notEmpty : spelling ≠ []) (lower : Text.lowercase spelling = key) :
    Registers key parser (.register (.string spelling) (.parser parser))

/-- The call unregisters a spelling of a format in lower case. -/
inductive Call.Unregisters (key : Text) : Call → Prop
  | intro (spelling : Text) (lower : Text.lowercase spelling = key) :
    Unregisters key (.unregister (.string spelling))

/-- The call neither registers nor unregisters a spelling of a format in lower case. -/
def Call.Spares (key : Text) (call : Call) : Prop :=
  (∀ parser, ¬ call.Registers key parser) ∧ ¬ call.Unregisters key

/-- Of the calls that took effect on a format in lower case, the last one registered this
    parser. -/
def Stands (calls : List Call) (key : Text) (parser : Parser) : Prop :=
  ∃ before call since, calls = before ++ call :: since ∧ call.Registers key parser ∧
    ∀ later ∈ since, later.Spares key

theorem register_string (spelling : Text) (parser : Parser) (registry : Registry) :
    registry.register (.string spelling) (.parser parser) =
      if spelling = [] then .error .emptyFormat
      else .ok (registry.put (Text.lowercase spelling) parser) := by
  cases spelling <;> rfl

/-- Only texts have a lower case, and only parsers are registered. -/
theorem run_register_of_refused {format : Document} {candidate : Candidate}
    (h : ∀ spelling parser, format = .string spelling → candidate = .parser parser →
      spelling = []) : ((Call.register format candidate).run registry).2 = registry := by
  simp only [Call.run, register]
  by_cases hvoid : format.isVoid = true
  · simp [hvoid]
  · cases candidate with
    | other kind => simp [hvoid]
    | parser parser =>
      cases format with
      | string spelling =>
        obtain rfl := h spelling parser rfl rfl
        exact absurd rfl hvoid
      | _ => simp [hvoid, keyOf, Except.map]

/-- All that a call can do to a registry. -/
theorem Call.run_cases (call : Call) (registry : Registry) :
    (∃ spelling parser, spelling ≠ [] ∧ call = .register (.string spelling) (.parser parser) ∧
        (call.run registry).2 = registry.put (Text.lowercase spelling) parser) ∨
      (∃ spelling, call = .unregister (.string spelling) ∧
        (call.run registry).2 = registry.erase (Text.lowercase spelling)) ∨
      ((∀ key, call.Spares key) ∧ (call.run registry).2 = registry) := by
  cases call with
  | register format candidate =>
    by_cases h : ∃ spelling parser, spelling ≠ [] ∧ format = .string spelling ∧
        candidate = .parser parser
    · obtain ⟨spelling, parser, hne, rfl, rfl⟩ := h
      refine .inl ⟨spelling, parser, hne, rfl, ?_⟩
      simp only [Call.run, register_string, if_neg hne]
    · refine .inr (.inr ⟨fun key => ⟨?_, nofun⟩, run_register_of_refused ?_⟩)
      · rintro parser ⟨spelling, hne, -⟩
        exact h ⟨spelling, parser, hne, rfl, rfl⟩
      · intro spelling parser hformat hcandidate
        by_contra hne
        exact h ⟨spelling, parser, hne, hformat, hcandidate⟩
  | unregister format =>
    cases format with
    | string spelling => exact .inr (.inl ⟨spelling, rfl, rfl⟩)
    | _ => exact .inr (.inr ⟨fun _ => ⟨nofun, nofun⟩, rfl⟩)
  | lookup format =>
    refine .inr (.inr ⟨fun _ => ⟨nofun, nofun⟩, ?_⟩)
    simp only [Call.run]
    split <;> rfl
  | contains value => exact .inr (.inr ⟨fun _ => ⟨nofun, nofun⟩, rfl⟩)
  | formats => exact .inr (.inr ⟨fun _ => ⟨nofun, nofun⟩, rfl⟩)

/-! ## What every registry keeps -/

/-- The keys are in lower case, and none is there twice. -/
structure Folded (registry : Registry) : Prop where
  distinct : registry.parsers.keys.Nodup
  lower    : ∀ key ∈ registry.parsers.keys, Text.lowercase key = key

theorem folded_new : Folded {} := ⟨List.nodup_nil, nofun⟩

theorem Folded.run (h : registry.Folded) (call : Call) : (call.run registry).2.Folded := by
  rcases call.run_cases registry with ⟨spelling, parser, -, -, hrun⟩ | ⟨spelling, -, hrun⟩ |
    ⟨-, hrun⟩
  · rw [hrun]
    by_cases hmem : Text.lowercase spelling ∈ registry.parsers.keys
    · have hkeys : (registry.parsers.put (Text.lowercase spelling) parser).keys =
          registry.parsers.keys := by rw [Keyed.keys_put, if_pos hmem]
      exact ⟨hkeys ▸ h.distinct, hkeys ▸ h.lower⟩
    · have hkeys : (registry.parsers.put (Text.lowercase spelling) parser).keys =
          registry.parsers.keys ++ [Text.lowercase spelling] := by
        rw [Keyed.keys_put, if_neg hmem]
      refine ⟨?_, fun key hkey => ?_⟩
      · rw [put_parsers, hkeys]
        exact h.distinct.append (List.nodup_singleton _) (by simpa using hmem)
      · rw [put_parsers, hkeys, List.mem_append, List.mem_singleton] at hkey
        rcases hkey with hold | rfl
        · exact h.lower key hold
        · exact Text.lowercase_lowercase spelling
  · rw [hrun]
    have hfewer := Keyed.erase_sublist (Text.lowercase spelling) registry.parsers
    exact ⟨Keyed.nodup_keys_of_sublist hfewer h.distinct,
      fun key hkey => h.lower key ((hfewer.map Prod.fst).subset hkey)⟩
  · rwa [hrun]

theorem Folded.after (h : registry.Folded) (calls : List Call) : (after calls registry).Folded := by
  induction calls using List.reverseRecOn with
  | nil => exact h
  | append_singleton calls call ih =>
    rw [after_append_singleton]
    exact ih.run call

/-! ## What a format stands for -/

/-- What a call makes of the parser under a key. -/
theorem Folded.get?_run (h : registry.Folded) (call : Call) (key : Text) :
    (∃ parser, call.Registers key parser ∧
        (call.run registry).2.parsers.get? key = some parser) ∨
      (call.Unregisters key ∧ (call.run registry).2.parsers.get? key = none) ∨
      (call.Spares key ∧
        (call.run registry).2.parsers.get? key = registry.parsers.get? key) := by
  rcases call.run_cases registry with ⟨spelling, parser, hne, rfl, hrun⟩ | ⟨spelling, rfl, hrun⟩ |
    ⟨hspares, hrun⟩
  · rw [hrun]
    by_cases hkey : Text.lowercase spelling = key
    · exact .inl ⟨parser, .intro spelling hne hkey, by rw [hkey, put_parsers, Keyed.get?_put_self]⟩
    · refine .inr (.inr ⟨⟨?_, nofun⟩, Keyed.get?_put_of_ne (Ne.symm hkey) _ _⟩)
      rintro _ ⟨_, -, hlower⟩
      exact hkey hlower
  · rw [hrun]
    by_cases hkey : Text.lowercase spelling = key
    · exact .inr (.inl ⟨.intro spelling hkey, by rw [hkey, erase_parsers, Keyed.get?_erase_self h.distinct]⟩)
    · refine .inr (.inr ⟨⟨nofun, ?_⟩, Keyed.get?_erase_of_ne (Ne.symm hkey) _⟩)
      rintro ⟨_, hlower⟩
      exact hkey hlower
  · exact .inr (.inr ⟨hspares key, by rw [hrun]⟩)

theorem not_stands_nil : ¬ Stands [] key parser := by
  rintro ⟨before, call, since, heq, -⟩
  exact absurd heq (by simp)

/-- What a format stands for after one more call. -/
theorem stands_append_singleton : Stands (calls ++ [call]) key parser ↔
    call.Registers key parser ∨ (call.Spares key ∧ Stands calls key parser) := by
  constructor
  · rintro ⟨before, last, since, heq, hlast, hsince⟩
    cases since using List.reverseRecOn with
    | nil =>
      obtain ⟨-, hcall⟩ := List.append_inj' heq rfl
      obtain rfl := (List.cons.inj hcall).1
      exact .inl hlast
    | append_singleton since later =>
      rw [← List.cons_append, ← List.append_assoc] at heq
      obtain ⟨rfl, hlater⟩ := List.append_inj' heq rfl
      obtain rfl := (List.cons.inj hlater).1
      refine .inr ⟨hsince _ (by simp), before, last, since, rfl, hlast, fun other hother => ?_⟩
      exact hsince other (List.mem_append_left _ hother)
  · rintro (hregisters | ⟨hspares, before, last, since, rfl, hlast, hsince⟩)
    · exact ⟨calls, call, [], rfl, hregisters, nofun⟩
    · refine ⟨before, last, since ++ [call], by simp, hlast, fun later hlater => ?_⟩
      rcases List.mem_append.mp hlater with hold | hnew
      · exact hsince later hold
      · rwa [List.mem_singleton.mp hnew]

theorem Call.Registers.not_unregisters (h : call.Registers key parser) :
    ¬ call.Unregisters key := by
  cases h
  nofun

/-- Under a key there is what the calls make it stand for. -/
theorem get?_after_eq_some_iff :
    (after calls {}).parsers.get? key = some parser ↔ Stands calls key parser := by
  induction calls using List.reverseRecOn with
  | nil => exact ⟨nofun, fun h => absurd h not_stands_nil⟩
  | append_singleton calls call ih =>
    rw [after_append_singleton, stands_append_singleton]
    rcases (folded_new.after calls).get?_run call key with ⟨other, hregisters, hget⟩ |
      ⟨hunregisters, hget⟩ | ⟨hspares, hget⟩
    · rw [hget]
      constructor
      · rintro ⟨⟩
        exact .inl hregisters
      · rintro (hsame | ⟨hspares, -⟩)
        · cases hregisters
          cases hsame
          rfl
        · exact absurd hregisters (hspares.1 other)
    · rw [hget]
      constructor
      · nofun
      · rintro (hregisters | ⟨hspares, -⟩)
        · exact absurd hunregisters hregisters.not_unregisters
        · exact absurd hunregisters hspares.2
    · rw [hget, ih]
      constructor
      · exact fun hstands => .inr ⟨hspares, hstands⟩
      · rintro (hregisters | ⟨-, hstands⟩)
        · exact absurd hregisters (hspares.1 parser)
        · exact hstands

/-! ## The views of a registry -/

theorem contains_iff_get?_ne_none : registry.contains (.string format) = true ↔
    registry.parsers.get? (Text.lowercase format) ≠ none :=
  Option.isSome_iff_ne_none

theorem mem_formats_iff : key ∈ registry.formats ↔ registry.parsers.get? key ≠ none := by
  rw [formats, List.mem_mergeSort, ne_eq, Keyed.get?_eq_none_iff, not_not]

/-- **The registry as a map.** After any calls to a new registry, a format stands for the
    parser of the last registration that took effect under any of its spellings, unless a
    spelling was unregistered since. The views agree on which formats there are: the look-up,
    the question whether there is a parser, and the list, which is strictly in order and holds
    formats in lower case. To unregister a format gets what its look-up gets. A registration
    under a void format, or of something that is no parser, is refused, the format being
    looked at first, and leaves the registry as it is. -/
theorem views_of_history (calls : List Call) :
    let registry := after calls {}
    (∀ format, ∃ found, registry.lookup (.string format) = .ok found ∧
      (∀ parser, found = some parser ↔ Stands calls (Text.lowercase format) parser) ∧
      (registry.contains (.string format) = true ↔ found ≠ none) ∧
      (Text.lowercase format ∈ registry.formats ↔ found ≠ none) ∧
      ((Call.unregister (.string format)).run registry).1 = .parser found) ∧
    registry.formats.Pairwise (fun a b => Text.compare a b = .lt) ∧
    (∀ format ∈ registry.formats, Text.lowercase format = format ∧
      ∃ parser, registry.lookup (.string format) = .ok (some parser)) ∧
    (∀ format candidate, format.isVoid = true →
      (Call.register format candidate).run registry = (.fault .emptyFormat, registry)) ∧
    (∀ format kind, format.isVoid = false →
      (Call.register format (.other kind)).run registry = (.fault (.notParser kind), registry)) := by
  intro registry
  have hfolded : registry.Folded := folded_new.after calls
  refine ⟨fun format => ?_, ?_, fun format hformat => ?_, fun format candidate hvoid => ?_,
    fun format kind hvoid => ?_⟩
  · exact ⟨registry.parsers.get? (Text.lowercase format), rfl,
      fun parser => get?_after_eq_some_iff, contains_iff_get?_ne_none, mem_formats_iff, rfl⟩
  · exact Text.pairwise_lt_mergeSort hfolded.distinct
  · have hlower : Text.lowercase format = format :=
      hfolded.lower format (List.mem_mergeSort.mp hformat)
    obtain ⟨parser, hparser⟩ := Option.ne_none_iff_exists'.mp (mem_formats_iff.mp hformat)
    refine ⟨hlower, parser, ?_⟩
    rw [lookup, keyOf, hlower, ← hparser]
    rfl
  · simp only [Call.run, register, hvoid, if_true]
  · simp only [Call.run, register, hvoid, if_false, Bool.false_eq_true]

end Gleaner.Registry
