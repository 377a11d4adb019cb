import Gleaner.Settings.Environment
import Gleaner.Proofs.Keyed
import Gleaner.Proofs.Settings.Overlay
import Gleaner.Proofs.Text.Lowercase
import Mathlib.Data.List.Induction
import Mathlib.Data.List.Nodup

/-! # What the variables of an environment say

    A variable named after a section and one key holds the text of one field. If all variables
    of the sections are of this kind, then what the environment says about a section is an
    object, and under each key stands the text of the variable of that name. The names come in
    any case, and what is cut out of a name in lower case is in lower case: so no key is taken
    for another one.
-/

namespace Gleaner

/-! ## Keyed lists -/

namespace Keyed

variable {α : Type u} {key : Text} {value : α} {pairs : Keyed α}

theorem nodup_keys_put (distinct : pairs.keys.Nodup) : (pairs.put key value).keys.Nodup := by
  rw [keys_put]
  split
  · exact distinct
  · next hnew => exact distinct.append (List.nodup_singleton key) (by simpa using hnew)

theorem put_of_not_mem (h : key ∉ pairs.keys) : pairs.put key value = pairs ++ [(key, value)] := by
  induction pairs with
  | nil => rfl
  | cons pair rest ih =>
    obtain ⟨k, old⟩ := pair
    obtain ⟨hk, hrest⟩ := not_or.mp (List.mem_cons.not.mp h)
    rw [put, if_neg (Ne.symm hk), ih hrest, List.cons_append]

theorem ofPairs_append_singleton (pairs : List (Text × α)) (key : Text) (value : α) :
    ofPairs (pairs ++ [(key, value)]) = (ofPairs pairs).put key value := by
  rw [ofPairs, List.foldl_append]
  rfl

theorem nodup_keys_ofPairs (pairs : List (Text × α)) : (ofPairs pairs).keys.Nodup := by
  induction pairs using List.reverseRecOn with
  | nil => exact List.nodup_nil
  | append_singleton pairs pair ih =>
    rw [ofPairs_append_singleton]
    exact nodup_keys_put ih

theorem mem_keys_ofPairs {pairs : List (Text × α)} :
    key ∈ (ofPairs pairs).keys ↔ key ∈ keys pairs := by
  induction pairs using List.reverseRecOn with
  | nil => rfl
  | append_singleton pairs pair ih =>
    rw [ofPairs_append_singleton, mem_keys_put, ih]
    simp [keys]

/-- Pairs of which no two have one key are written as they stand. -/
theorem ofPairs_of_nodup (distinct : pairs.keys.Nodup) : ofPairs pairs = pairs := by
  induction pairs using List.reverseRecOn with
  | nil => rfl
  | append_singleton pairs pair ih =>
    have hsplit : (pairs.map Prod.fst ++ [pair.1]).Nodup := by
      simpa [keys] using distinct
    have hnew : pair.1 ∉ keys pairs := by
      have hapart := List.disjoint_of_nodup_append hsplit
      exact fun hmem => hapart hmem (List.mem_singleton_self _)
    rw [ofPairs_append_singleton, ih hsplit.of_append_left, put_of_not_mem hnew]

end Keyed

/-! ## Texts -/

namespace Text

variable {p : CodePoint} {sep text piece : Text}

theorem splitOn_ne_nil (p : CodePoint) (sep text : Text) : splitOn p sep none text ≠ [] := by
  unfold splitOn
  split <;> simp

/-- A text in one piece is that piece. -/
theorem eq_of_splitOn_eq_singleton (h : splitOn p sep none text = [piece]) : text = piece := by
  unfold splitOn at h
  split at h
  · exact List.singleton_inj.mp h
  · obtain ⟨-, hrest⟩ := List.cons.inj h
    exact absurd hrest (splitOn_ne_nil p sep _)

/-- A part of a text in lower case is in lower case. -/
theorem lowercase_of_sublist {whole part : Text} (h : part.Sublist (lowercase whole)) :
    lowercase part = part :=
  lowercaseFrom_of_settled false fun _ hp =>
    settled_of_mem_lowercaseFrom false (h.subset hp)

end Text

namespace Environment

variable {environment : Environment} {fields : Keyed Document} {names : List Text}
  {name key full : Text} {keys : List Text}

/-! ## Names of variables -/

/-- The name of the variable of a key in a section, in lower case. -/
def variableUnder (name key : Text) : Text := variableOf name ++ Text.ofString "__" ++ key

/-- The text of the variable of a key in a section. Of variables whose names differ by case
    only, the last one counts. -/
def text? (name key : Text) (environment : Environment) : Option Text :=
  environment.lowered.get? (variableUnder name key)

/-- No variable holds a section as a whole, and every variable of a section has one key. -/
def Nested (environment : Environment) : Prop :=
  ∀ name ∈ Settings.sections, variableOf name ∉ environment.lowered.keys ∧
    ∀ full ∈ environment.lowered.keys, ∀ keys, keysUnder? name full = some keys →
      ∃ key, keys = [key]

/-- Whether all variables have one key is found by cutting their names. -/
instance : Decidable environment.Nested :=
  decidable_of_iff (∀ name ∈ Settings.sections, variableOf name ∉ environment.lowered.keys ∧
    ∀ full ∈ environment.lowered.keys, ∀ keys ∈ keysUnder? name full, keys.length = 1) (by
      simp only [Nested, Option.mem_def, List.length_eq_one_iff])

/-- What follows a section in the names of variables. -/
def keysOf (name : Text) (environment : Environment) : List Text :=
  environment.lowered.keys.filterMap (Text.dropStart? (variableOf name ++ Text.ofString "__"))

theorem mem_keysOf : key ∈ environment.keysOf name ↔ environment.text? name key ≠ none := by
  rw [keysOf, List.mem_filterMap, text?, ne_eq, Keyed.get?_eq_none_iff, not_not]
  simp only [Text.dropStart?_eq_some_iff]
  constructor
  · rintro ⟨full, hfull, rfl⟩
    exact hfull
  · exact fun h => ⟨_, h, rfl⟩

theorem variableUnder_injective {other : Text}
    (h : variableUnder name key = variableUnder name other) : key = other :=
  List.append_cancel_left h

theorem eq_variableUnder (h : keysUnder? name full = some [key]) :
    full = variableUnder name key := by
  obtain ⟨rest, hrest, hpieces⟩ := Option.map_eq_some_iff.mp h
  rw [Text.dropStart?_eq_some_iff.mp hrest, Text.eq_of_splitOn_eq_singleton hpieces]
  rfl

theorem keysUnder?_variableUnder_ne_none : keysUnder? name (variableUnder name key) ≠ none := by
  have hdrop : Text.dropStart? (variableOf name ++ Text.ofString "__") (variableUnder name key) =
      some key := Text.dropStart?_eq_some_iff.mpr rfl
  rw [keysUnder?, hdrop]
  exact Option.some_ne_none _

theorem lowercase_of_mem_lowered (h : variableUnder name key ∈ environment.lowered.keys) :
    Text.lowercase key = key := by
  rw [lowered, Keyed.mem_keys_ofPairs, Keyed.keys, List.map_map, List.mem_map] at h
  obtain ⟨⟨whole, value⟩, -, hwhole⟩ := h
  refine @Text.lowercase_of_sublist whole key ?_
  have hsuffix : key.Sublist (variableUnder name key) := List.sublist_append_right _ _
  rw [← hwhole] at hsuffix
  exact hsuffix

/-! ## The fields of a section -/

/-- What one variable adds to the fields of a section. -/
def written (name : Text) (fields : Keyed Document) : Text × Text → Keyed Document
  | (full, value) =>
    match keysUnder? name full with
    | some keys => write value keys fields
    | none => fields

/-- A variable of another section adds nothing, one with a single key writes its text there. -/
theorem written_cases (fields : Keyed Document)
    (single : ∀ keys, keysUnder? name full = some keys → ∃ key, keys = [key]) (value : Text) :
    (written name fields (full, value) = fields ∧ ∀ key, full ≠ variableUnder name key) ∨
      ∃ key, full = variableUnder name key ∧
        written name fields (full, value) = fields.put key (.string value) := by
  rw [written]
  cases hkeys : keysUnder? name full with
  | none =>
    refine .inl ⟨rfl, ?_⟩
    rintro key rfl
    exact keysUnder?_variableUnder_ne_none hkeys
  | some keys =>
    obtain ⟨key, rfl⟩ := single keys hkeys
    exact .inr ⟨key, eq_variableUnder hkeys, rfl⟩

/-- The induction goes on from the fields that are there before. -/
theorem get?_foldl_written (distinct : environment.keys.Nodup)
    (single : ∀ full ∈ environment.keys, ∀ keys, keysUnder? name full = some keys →
      ∃ key, keys = [key]) (fields : Keyed Document) :
    (environment.foldl (written name) fields).get? key =
      ((environment.get? (variableUnder name key)).map .string).or (fields.get? key) := by
  induction environment generalizing fields with
  | nil => rfl
  | cons pair rest ih =>
    obtain ⟨full, value⟩ := pair
    obtain ⟨hfull, hdistinct⟩ := List.nodup_cons.mp distinct
    have hsingle := List.forall_mem_cons.mp single
    rw [List.foldl_cons, ih hdistinct hsingle.2, Keyed.get?]
    rcases written_cases fields hsingle.1 value with ⟨hsame, hother⟩ | ⟨written, rfl, hput⟩
    · rw [hsame, if_neg (hother key)]
    -- the variable does not come again, so its text is not written over
    · rw [hput]
      by_cases hkey : written = key
      · subst hkey
        have hrest : Keyed.get? (variableUnder name written) rest = none :=
          Keyed.get?_eq_none_iff.mpr hfull
        rw [if_pos rfl, hrest, Keyed.get?_put_self]
        rfl
      · rw [if_neg fun heq => hkey (variableUnder_injective heq),
          Keyed.get?_put_of_ne (Ne.symm hkey)]

theorem nodup_keys_foldl_written (single : ∀ full ∈ environment.keys, ∀ keys,
    keysUnder? name full = some keys → ∃ key, keys = [key]) (distinct : fields.keys.Nodup) :
    (environment.foldl (written name) fields).keys.Nodup := by
  induction environment generalizing fields with
  | nil => exact distinct
  | cons pair rest ih =>
    obtain ⟨full, value⟩ := pair
    have hsingle := List.forall_mem_cons.mp single
    refine ih hsingle.2 ?_
    rcases written_cases fields hsingle.1 value with ⟨hsame, -⟩ | ⟨key, -, hput⟩
    · rwa [hsame]
    · rw [hput]
      exact Keyed.nodup_keys_put distinct

/-- Keys in lower case are under their names already. -/
theorem withNames_eq (lower : ∀ key ∈ fields.keys, Text.lowercase key = key)
    (names_lower : ∀ name ∈ names, Text.lowercase name = name) (distinct : fields.keys.Nodup) :
    withNames names fields = fields := by
  have hunder : ∀ key ∈ fields.keys,
      (names.find? fun name => Text.lowercase key == Text.lowercase name).getD key = key := by
    intro key hkey
    cases hfound : names.find? fun name => Text.lowercase key == Text.lowercase name with
    | none => rfl
    | some name =>
      have hfits := List.find?_some hfound
      rw [beq_iff_eq, lower key hkey, names_lower name (List.mem_of_find?_eq_some hfound)] at hfits
      rw [Option.getD_some, hfits]
  rw [withNames]
  refine (congrArg Keyed.ofPairs ?_).trans (Keyed.ofPairs_of_nodup distinct)
  refine (List.map_congr_left fun pair hpair => ?_).trans (List.map_id fields)
  exact congrArg (·, pair.2) (hunder pair.1 (List.mem_map_of_mem hpair))

/-! ## What is said about a section -/

/-- A section holds the texts of its variables, and is there only if one of them is. -/
structure Says (environment : Environment) (name : Text) (section? : Option Document) : Prop where
  isSection : Document.IsSection section?
  distinct  : (Document.members section?).keys.Nodup
  get?_eq   : ∀ key, (Document.members section?).get? key =
    (environment.text? name key).map .string

theorem members_unlessEmpty (fields : Keyed Document) :
    Document.members (if fields.isEmpty then none else some (.object fields)) = fields := by
  split
  · next h => exact (List.isEmpty_iff.mp h).symm
  · rfl

theorem isSection_unlessEmpty (fields : Keyed Document) :
    Document.IsSection (if fields.isEmpty then none else some (.object fields)) := by
  split
  · exact .inl rfl
  · exact .inr ⟨fields, rfl⟩

theorem sectionOf_of_nested (nested : environment.Nested) (known : name ∈ Settings.sections)
    (names_lower : ∀ name ∈ names, Text.lowercase name = name) :
    ∃ section?, environment.lowered.sectionOf name names = .ok section? ∧
      environment.Says name section? := by
  obtain ⟨hwhole, hsingle⟩ := nested name known
  have hdistinct : (Environment.nested name environment.lowered).keys.Nodup :=
    nodup_keys_foldl_written hsingle List.nodup_nil
  have hget : ∀ key, (Environment.nested name environment.lowered).get? key =
      (environment.text? name key).map .string := by
    intro key
    have hfold := @get?_foldl_written environment.lowered name key
      (Keyed.nodup_keys_ofPairs _) hsingle []
    rwa [show Keyed.get? key ([] : Keyed Document) = none from rfl, Option.or_none] at hfold
  have hlower : ∀ key ∈ (Environment.nested name environment.lowered).keys,
      Text.lowercase key = key := by
    intro key hkey
    refine @lowercase_of_mem_lowered environment name key ?_
    by_contra hnot
    have hnone := hget key
    rw [text?, Keyed.get?_eq_none_iff.mpr hnot] at hnone
    exact Keyed.get?_eq_none_iff.mp hnone hkey
  -- no variable holds the whole section, so there is no JSON to read
  have hnames := withNames_eq hlower names_lower hdistinct
  rw [sectionOf, Keyed.get?_eq_none_iff.mpr hwhole]
  simp only [hnames]
  have hmembers := members_unlessEmpty (Environment.nested name environment.lowered)
  refine ⟨_, rfl, isSection_unlessEmpty _, ?_, fun key => ?_⟩
  · rwa [hmembers]
  · rw [hmembers, hget key]

/-! ## Both sections -/

/-- Sections under their names. -/
def sheet (section? : Text → Option Document) (names : List Text) : Keyed Document :=
  names.flatMap fun name => given name (section? name)

theorem keys_sheet_sublist (section? : Text → Option Document) (names : List Text) :
    (sheet section? names).keys.Sublist names := by
  induction names with
  | nil => exact List.Sublist.refl _
  | cons name names ih =>
    rw [sheet, List.flatMap_cons, Keyed.keys, List.map_append]
    cases section? name with
    | none => exact ih.cons name
    | some value => exact ih.cons_cons name

theorem get?_given (name other : Text) (value : Option Document) :
    (given name value).get? other = if name = other then value else none := by
  cases value <;> simp [given, Keyed.get?]

theorem get?_sheet (section? : Text → Option Document) (name : Text) (names : List Text) :
    (sheet section? names).get? name = if name ∈ names then section? name else none := by
  induction names with
  | nil => rfl
  | cons other names ih =>
    rw [sheet, List.flatMap_cons, Keyed.get?_append, get?_given, ← sheet, ih]
    by_cases h : other = name
    · subst h
      cases section? other <;> simp
    · simp [h, Ne.symm h]

theorem given_append_given (cache logging : Option Document) :
    given "cache" cache ++ given "logging" logging =
      sheet (fun name => if name = "cache" then cache else logging) Settings.sections := by
  rw [sheet, Settings.sections, List.flatMap_cons, List.flatMap_cons, List.flatMap_nil,
    List.append_nil]
  rfl

/-- What can be read of an environment is about the two sections. -/
theorem settings_eq_sheet (said : environment.settings = .ok fields) :
    ∃ section? : Text → Option Document, fields = sheet section? Settings.sections := by
  simp only [settings, bind, Except.bind, pure, Except.pure, given_append_given] at said
  split at said
  · cases said
  · split at said
    · cases said
    · exact ⟨_, (Except.ok.inj said).symm⟩

/-- **Variables with one key.** What the environment says is said about the two sections, and
    can be read. -/
theorem settings_of_nested (nested : environment.Nested) :
    ∃ section? : Text → Option Document,
      environment.settings = .ok (sheet section? Settings.sections) ∧
        ∀ name ∈ Settings.sections, environment.Says name (section? name) := by
  obtain ⟨cache, hcache, htold⟩ := @sectionOf_of_nested environment CacheSettings.names "cache"
    nested (by decide) (by decide)
  obtain ⟨logging, hlogging, htold'⟩ := @sectionOf_of_nested environment LoggingSettings.names
    "logging" nested (by decide) (by decide)
  refine ⟨fun name => if name = "cache" then cache else logging, ?_,
    List.forall_mem_cons.mpr ⟨htold, List.forall_mem_singleton.mpr htold'⟩⟩
  simp only [settings, hcache, hlogging, bind, Except.bind, pure, Except.pure, given_append_given]

end Environment

end Gleaner
