import Gleaner.SharedEngine
import Gleaner.Proofs.Settings.Leaves
import Gleaner.Proofs.Settings.Variables
import Mathlib.Data.Option.Basic

/-! # Settings are put together leaf by leaf

    The caller, the environment and the file may each give any of the leaves. The one that
    counts is given by the first of the three, in this order, that gives the leaf at all; which
    of them give the other leaves of the section does not matter. Only the value that counts is
    checked, and without one the leaf has its default.

    No source can take a key away from a section of another one. So a key that no leaf stands
    under is found, wherever the caller or the file has it.
-/

namespace Gleaner.Settings

open Validation
open Document (layered members IsSection Alike overlay)
open Environment (sheet Says)

variable {name key : Text} {section? : Text → Option Document}
  {fields file caller : Keyed Document} {sources : Sources} {settings : Settings}

/-! ## Sections of a mapping -/

theorem lowercase_of_mem_sections : ∀ name ∈ sections, Text.lowercase name = name := by
  decide

theorem withSections_eq (fields : Keyed Document) : withSections fields =
    sheet (sectionIn · fields) sections ++
      fields.filter fun (key, _) => Text.lowercase key ∉ sections := rfl

theorem mem_keys_withSections_of_not_section (hkey : key ∈ fields.keys)
    (h : Text.lowercase key ∉ sections) : key ∈ (withSections fields).keys := by
  obtain ⟨⟨other, value⟩, hpair, rfl⟩ := List.mem_map.mp hkey
  rw [withSections_eq]
  refine List.mem_map.mpr ⟨(other, value), List.mem_append_right _ ?_, rfl⟩
  exact List.mem_filter.mpr ⟨hpair, by simpa using h⟩

/-- Keys behind the sections are those of the mapping that are spelled like no section. -/
theorem mem_keys_others : key ∈ Keyed.keys (fields.filter fun (key, _) =>
    Text.lowercase key ∉ sections) → key ∈ fields.keys ∧ Text.lowercase key ∉ sections := by
  intro h
  obtain ⟨⟨other, value⟩, hpair, rfl⟩ := List.mem_map.mp h
  obtain ⟨hmem, hother⟩ := List.mem_filter.mp hpair
  exact ⟨List.mem_map_of_mem hmem, by simpa using hother⟩

theorem mem_keys_withSections (h : key ∈ (withSections fields).keys) :
    key ∈ sections ∨ (key ∈ fields.keys ∧ Text.lowercase key ∉ sections) := by
  rw [withSections_eq, Keyed.keys, List.map_append, List.mem_append] at h
  rcases h with hsheet | hothers
  · exact .inl ((Environment.keys_sheet_sublist _ _).subset hsheet)
  · exact .inr (mem_keys_others hothers)

theorem not_mem_others (hname : name ∈ sections) :
    name ∉ Keyed.keys (fields.filter fun (key, _) => Text.lowercase key ∉ sections) := by
  intro h
  exact (mem_keys_others h).2 (by rwa [lowercase_of_mem_sections name hname])

theorem get?_withSections (hname : name ∈ sections) :
    (withSections fields).get? name = sectionIn name fields := by
  rw [withSections_eq, Keyed.get?_append, Environment.get?_sheet, if_pos hname,
    Keyed.get?_eq_none_iff.mpr (not_mem_others hname), Option.or_none]

theorem count_keys_sheet (section? : Text → Option Document) (name : Text) :
    (sheet section? sections).keys.count name ≤ 1 :=
  List.nodup_iff_count_le_one.mp
    (List.Nodup.sublist (Environment.keys_sheet_sublist section? sections) (by decide)) name

theorem count_keys_withSections (hname : name ∈ sections) :
    (withSections fields).keys.count name ≤ 1 := by
  rw [withSections_eq, Keyed.keys, List.map_append, List.count_append]
  have hothers := List.count_eq_zero_of_not_mem (@not_mem_others name fields hname)
  have hsheet := count_keys_sheet (sectionIn · fields) name
  rw [Keyed.keys] at hothers hsheet
  omega

/-! ## Three sources -/

/-- What the file, the environment and the caller make together. -/
def merge (file environment caller : Keyed Document) : Keyed Document :=
  overlay (withSections file) (overlay environment (withSections caller))

/-- A section is put together from the three, the caller on top. -/
theorem get?_merge (hname : name ∈ sections) :
    (merge file (sheet section? sections) caller).get? name =
      layered (sectionIn name file) (layered (section? name) (sectionIn name caller)) := by
  have hupper : ((overlay (sheet section? sections) (withSections caller)).keys).count name ≤ 1 :=
    Document.count_keys_overlay (count_keys_sheet section? name)
  rw [merge, Document.get?_overlay hupper, Document.get?_overlay (count_keys_withSections hname),
    get?_withSections hname, get?_withSections hname, Environment.get?_sheet, if_pos hname]

/-- Beside the sections stand the keys of the mappings that are spelled like none of them. -/
theorem mem_keys_merge (hother : key ∉ sections) :
    key ∈ (merge file (sheet section? sections) caller).keys ↔
      (key ∈ caller.keys ∨ key ∈ file.keys) ∧ Text.lowercase key ∉ sections := by
  simp only [merge, Document.mem_keys_overlay]
  constructor
  · rintro (hfile | henvironment | hcaller)
    · obtain hsection | ⟨hmem, hspelled⟩ := mem_keys_withSections hfile
      · exact absurd hsection hother
      · exact ⟨.inr hmem, hspelled⟩
    · exact absurd ((Environment.keys_sheet_sublist _ _).subset henvironment) hother
    · obtain hsection | ⟨hmem, hspelled⟩ := mem_keys_withSections hcaller
      · exact absurd hsection hother
      · exact ⟨.inl hmem, hspelled⟩
  · rintro ⟨hcaller | hfile, hspelled⟩
    · exact .inr (.inr (mem_keys_withSections_of_not_section hcaller hspelled))
    · exact .inl (mem_keys_withSections_of_not_section hfile hspelled)

/-- So what all keys beside the sections have is what all such keys of the mappings have. -/
theorem forall_mem_keys_merge {P : Text → Prop} :
    (∀ key ∈ (merge file (sheet section? sections) caller).keys, key ∉ sections → P key) ↔
      ∀ key, key ∈ caller.keys ∨ key ∈ file.keys → Text.lowercase key ∉ sections → P key := by
  constructor
  · intro hall key hkey hspelled
    have hother : key ∉ sections := by
      intro hsection
      exact hspelled (by rwa [lowercase_of_mem_sections key hsection])
    exact hall key ((mem_keys_merge hother).mpr ⟨hkey, hspelled⟩) hother
  · intro hall key hkey hother
    obtain ⟨hmem, hspelled⟩ := (mem_keys_merge hother).mp hkey
    exact hall key hmem hspelled

/-! ## What counts -/

/-- What a mapping gives under a key of a section. -/
def valueIn (name key : Text) (fields : Keyed Document) : Option Document :=
  (members (sectionIn name fields)).get? key

/-- The mapping in the settings file, an empty one without a file. -/
def Sources.mapping (sources : Sources) : Except Fault (Keyed Document) :=
  match sources.file with
  | some text => readFile text
  | none => .ok []

/-- The value that counts under a key of a section: that of the caller, else that of the
    environment, else that of the mapping in the file. -/
def Sources.value? (sources : Sources) (file : Keyed Document) (name key : Text) :
    Option Document :=
  ((valueIn name key sources.given).or ((sources.environment.text? name key).map .string)).or
    (valueIn name key file)

/-- Where the caller or the file gives a section, it is an object, and the caller gives no key
    in it twice. -/
structure Sources.Mapped (sources : Sources) (file : Keyed Document) : Prop where
  given    : ∀ name ∈ sections, IsSection (sectionIn name sources.given)
  file     : ∀ name ∈ sections, IsSection (sectionIn name file)
  distinct : ∀ name ∈ sections, (members (sectionIn name sources.given)).keys.Nodup

/-- Every key is known: the leaves in a section, and the sections outside of it. -/
structure Sources.Known (sources : Sources) (file : Keyed Document) : Prop where
  inside  : ∀ name ∈ sections, ∀ key, sources.value? file name key ≠ none → HasKey name key
  outside : ∀ key, key ∈ sources.given.keys ∨ key ∈ file.keys → Text.lowercase key ∈ sections

/-- Each key that is not known, be it in this section or outside of all, has an encoded form. It
    is so at once where all keys are known. -/
structure Sources.Reportable (sources : Sources) (file : Keyed Document) (name : Text) :
    Prop where
  inside  : ∀ key, sources.value? file name key ≠ none → ¬ HasKey name key →
    isEncodable key = true
  outside : ∀ key, key ∈ sources.given.keys ∨ key ∈ file.keys → Text.lowercase key ∉ sections →
    isEncodable key = true

/-! The first two conditions are found by looking at the keys that there are. -/

instance : Decidable (sources.Mapped file) :=
  decidable_of_iff ((∀ name ∈ sections, IsSection (sectionIn name sources.given)) ∧
      (∀ name ∈ sections, IsSection (sectionIn name file)) ∧
      ∀ name ∈ sections, (members (sectionIn name sources.given)).keys.Nodup)
    ⟨fun ⟨given, file, distinct⟩ => ⟨given, file, distinct⟩,
      fun ⟨given, file, distinct⟩ => ⟨given, file, distinct⟩⟩

/-- The keys of a section in all three sources. -/
def Sources.keysIn (sources : Sources) (file : Keyed Document) (name : Text) : List Text :=
  (members (sectionIn name sources.given)).keys ++ sources.environment.keysOf name ++
    (members (sectionIn name file)).keys

theorem Sources.mem_keysIn :
    key ∈ sources.keysIn file name ↔ sources.value? file name key ≠ none := by
  simp only [keysIn, List.mem_append, Environment.mem_keysOf, value?, valueIn, ne_eq,
    Option.or_eq_none_iff, Option.map_eq_none_iff, Keyed.get?_eq_none_iff, not_and_or, not_not]

instance : Decidable (sources.Known file) :=
  decidable_of_iff ((∀ name ∈ sections, ∀ key ∈ sources.keysIn file name, HasKey name key) ∧
      ∀ key ∈ sources.given.keys ++ file.keys, Text.lowercase key ∈ sections) (by
    simp only [Sources.mem_keysIn, List.mem_append]
    exact ⟨fun ⟨inside, outside⟩ => ⟨inside, outside⟩,
      fun ⟨inside, outside⟩ => ⟨inside, outside⟩⟩)

section

variable (mapped : sources.Mapped file)
  (told : ∀ name ∈ sections, sources.environment.Says name (section? name))

include mapped told

theorem sectioned_merge : Sectioned (merge file (sheet section? sections) sources.given) := by
  intro name hname
  rw [get?_merge hname]
  exact (mapped.file name hname).layered ((told name hname).isSection.layered
    (mapped.given name hname))

/-- In the sections that are put together stand the values that count, as far as a check can
    see. -/
theorem alike_merge (hname : name ∈ sections) :
    Alike ((membersIn name (merge file (sheet section? sections) sources.given)).get? key)
      (sources.value? file name key) := by
  have hgiven := mapped.given name hname
  have htold := told name hname
  have hgiven_once := List.nodup_iff_count_le_one.mp (mapped.distinct name hname) key
  have htold_once := List.nodup_iff_count_le_one.mp htold.distinct key
  -- the layers come off one by one; of two objects under the key, the members are not compared
  rw [membersIn, get?_merge hname,
    Document.get?_members_layered (mapped.file name hname) (htold.isSection.layered hgiven)
      (Document.count_members_layered htold.isSection hgiven htold_once hgiven_once),
    Document.get?_members_layered htold.isSection hgiven hgiven_once, htold.get?_eq]
  exact (Document.alike_layered _ _).layered _

theorem verdict_merge (leaf : Leaf) :
    leaf.verdict ((membersIn leaf.home
        (merge file (sheet section? sections) sources.given)).get? leaf.key) =
      leaf.verdict (sources.value? file leaf.home leaf.key) := by
  have hhome : leaf.home ∈ sections := by cases leaf <;> decide
  exact Leaf.verdict_eq_of_alike (alike_merge mapped told hhome)

theorem value?_ne_none_iff (hname : name ∈ sections) : sources.value? file name key ≠ none ↔
    key ∈ (membersIn name (merge file (sheet section? sections) sources.given)).keys := by
  rw [ne_eq, ← (alike_merge mapped told hname).eq_none_iff, Keyed.get?_eq_none_iff, not_not]

theorem known_iff : sources.Known file ↔
    (∀ name ∈ sections, ∀ key ∈
        (membersIn name (merge file (sheet section? sections) sources.given)).keys,
      HasKey name key) ∧
    ∀ key ∈ (merge file (sheet section? sections) sources.given).keys, key ∈ sections := by
  have houtside := @forall_mem_keys_merge section? file sources.given fun _ => False
  simp only [imp_false, not_not] at houtside
  rw [houtside]
  constructor
  · rintro ⟨inside, outside⟩
    exact ⟨fun name hname key hkey =>
      inside name hname key ((value?_ne_none_iff mapped told hname).mpr hkey), outside⟩
  · rintro ⟨inside, outside⟩
    exact ⟨fun name hname key hkey =>
      inside name hname key ((value?_ne_none_iff mapped told hname).mp hkey), outside⟩

theorem reportable_iff (hname : name ∈ sections) : sources.Reportable file name ↔
    (∀ key ∈ (membersIn name (merge file (sheet section? sections) sources.given)).keys,
      ¬ HasKey name key → isEncodable key = true) ∧
    ∀ key ∈ (merge file (sheet section? sections) sources.given).keys, key ∉ sections →
      isEncodable key = true := by
  simp only [forall_mem_keys_merge, ← value?_ne_none_iff mapped told hname]
  exact ⟨fun ⟨inside, outside⟩ => ⟨inside, outside⟩,
    fun ⟨inside, outside⟩ => ⟨inside, outside⟩⟩

end

/-! ## Loading -/

theorem Sources.fields_eq {environment : Keyed Document} (readable : sources.mapping = .ok file)
    (said : sources.environment.settings = .ok environment) :
    sources.fields = .ok (merge file environment sources.given) := by
  rw [Sources.mapping] at readable
  cases hfile : sources.file with
  | none =>
    rw [hfile] at readable
    obtain rfl := Except.ok.inj readable
    simp only [Sources.fields, hfile, said]
    rfl
  | some text =>
    rw [hfile] at readable
    simp only [Sources.fields, hfile, readable, said]
    rfl

theorem load_eq_ok_iff (h : sources.fields = .ok fields) :
    load sources = .ok settings ↔ ofFields fields = .ok settings := by
  simp only [load, h, bind, Except.bind]
  cases ofFields fields <;> simp [Except.mapError]

theorem load_eq_error_iff {details : List Detail} (h : sources.fields = .ok fields) :
    load sources = .error (.invalid details) ↔ ofFields fields = .error details := by
  simp only [load, h, bind, Except.bind]
  cases ofFields fields <;> simp [Except.mapError]

/-- No source takes a key of the caller or the file away. So where one of them gives a key that
    no leaf stands under, no settings come out. -/
theorem not_ok_of_unknown (hname : name ∈ sections) (unknown : ¬ HasKey name key)
    (h : valueIn name key caller ≠ none ∨ valueIn name key file ≠ none) (settings : Settings) :
    ofFields (merge file (sheet section? sections) caller) ≠ .ok settings := by
  intro hsettings
  have hsectioned := sectioned_of_ofFields hsettings
  have hkeys := ((ofFields_eq_ok_iff hsectioned).mp hsettings).2.1 name hname key
  -- the section is an object here, and so is each layer that is laid over another one
  have hall := hsectioned name hname
  rw [get?_merge hname] at hall
  rw [membersIn, get?_merge hname, Document.mem_keys_members_layered hall,
    Document.mem_keys_members_layered (Document.isSection_of_layered hall)] at hkeys
  simp only [valueIn, ne_eq, Keyed.get?_eq_none_iff, not_not] at h
  exact unknown (hkeys (h.elim (fun hcaller => .inr (.inr hcaller)) .inl))

/-- An environment that can be read does not make an unknown key known, whatever it holds. -/
theorem load_error_of_unknown {environment : Keyed Document}
    (readable : sources.mapping = .ok file)
    (said : sources.environment.settings = .ok environment) (hname : name ∈ sections)
    (unknown : ¬ HasKey name key)
    (h : valueIn name key sources.given ≠ none ∨ valueIn name key file ≠ none) :
    ∃ details, load sources = .error (.invalid details) := by
  have hfields := Sources.fields_eq readable said
  obtain ⟨section?, rfl⟩ := Environment.settings_eq_sheet said
  cases hchecked : ofFields (merge file (sheet section? sections) sources.given) with
  | error details => exact ⟨details, (load_eq_error_iff hfields).mpr hchecked⟩
  | ok settings => exact absurd hchecked (not_ok_of_unknown hname unknown h settings)

/-- The cache takes every bound that can be set. -/
theorem ofBound_ofSettings (settings : Settings) :
    Cache.ofBound (settings.cache.maxEntries.map fun n => (n.val : Int)) =
        .ok (Engine.ofSettings settings).cache ∧
      (Engine.ofSettings settings).cache.bound = settings.cache.maxEntries.map (·.val) := by
  obtain ⟨⟨maxEntries⟩, logging⟩ := settings
  cases maxEntries with
  | none => exact ⟨rfl, rfl⟩
  | some bound =>
    obtain ⟨n, hn⟩ := bound
    exact ⟨dif_pos hn, rfl⟩

/-- **Leaf by leaf.** Let the file be readable, and let the environment name one key in each
    variable of a section. If the sections are given as objects, then settings come out where
    each leaf passes its check with the value that counts, and hold what the checks return; a
    leaf is reported where it does not pass, but for one whose section has an unknown key that
    cannot be reported itself. A key that no leaf stands under, given by the caller or the file,
    is refused whatever else is given. And an engine can be built from all settings, with the
    bound that they say. -/
theorem load_leaf_by_leaf (readable : sources.mapping = .ok file)
    (nested : sources.environment.Nested) :
    (sources.Mapped file →
      (∀ settings, load sources = .ok settings ↔
        (∀ leaf : Leaf, leaf.verdict (sources.value? file leaf.home leaf.key) =
          .ok (leaf.of settings)) ∧ sources.Known file) ∧
      ∀ (leaf : Leaf) (problem : Problem),
        (∃ details, load sources = .error (.invalid details) ∧ ⟨leaf.place, problem⟩ ∈ details) ↔
          leaf.verdict (sources.value? file leaf.home leaf.key) = .error problem ∧
            sources.Reportable file leaf.home) ∧
    (∀ name ∈ sections, ∀ key, ¬ HasKey name key →
      valueIn name key sources.given ≠ none ∨ valueIn name key file ≠ none →
        ∃ details, load sources = .error (.invalid details)) ∧
    ∀ settings : Settings,
      Cache.ofBound (settings.cache.maxEntries.map fun n => (n.val : Int)) =
          .ok (Engine.ofSettings settings).cache ∧
        (Engine.ofSettings settings).cache.bound = settings.cache.maxEntries.map (·.val) := by
  obtain ⟨section?, hsaid, told⟩ := Environment.settings_of_nested nested
  have hfields := Sources.fields_eq readable hsaid
  refine ⟨fun mapped => ⟨fun settings => ?_, fun leaf problem => ?_⟩,
    fun name hname key unknown hgiven => ?_, ofBound_ofSettings⟩
  · rw [load_eq_ok_iff hfields, ofFields_eq_ok_iff (sectioned_merge mapped told),
      known_iff mapped told]
    simp only [verdict_merge mapped told]
  · have hhome : leaf.home ∈ sections := by cases leaf <;> decide
    simp only [load_eq_error_iff hfields]
    rw [← Checked.mem_details, mem_details_ofFields (sectioned_merge mapped told),
      verdict_merge mapped told, reportable_iff mapped told hhome]
  · exact load_error_of_unknown readable hsaid hname unknown hgiven

/-- Sources of which the file has a level that is none, below one in the environment, and a
    format that nothing stands above. -/
def covered : Sources where
  given := [("cache", .object [("max_entries", .int 3)])]
  environment := [("RemoteValue__Logging__Level", "ERROR")]
  file := some "logging:\n  level: loud\n  format: text"

def coveredFile : Keyed Document :=
  [("logging", .object [("level", .string "loud"), ("format", .string "text")])]

theorem mapping_covered : covered.mapping = .ok coveredFile := by
  have hlines : Yaml.lines "logging:\n  level: loud\n  format: text" =
    [⟨0, "logging:"⟩, ⟨2, "level: loud"⟩, ⟨2, "format: text"⟩] := rfl
  have hsection : Yaml.keyAndValue? "logging:" = some (Text.ofString "logging", []) := by
    decide +kernel
  have hlevel : Yaml.keyAndValue? "level: loud" =
    some (Text.ofString "level", Text.ofString "loud") := by decide +kernel
  have hformat : Yaml.keyAndValue? "format: text" =
    some (Text.ofString "format", Text.ofString "text") := by decide +kernel
  have hloud : Yaml.wholeValue "loud" = some (.string "loud") := rfl
  have htext : Yaml.wholeValue "text" = some (.string "text") := rfl
  have hsome : Text.ofString "loud" ≠ [] ∧ Text.ofString "text" ≠ [] := by decide
  have hkeys : Text.ofString "level" ≠ Text.ofString "format" := by decide
  have hread : Yaml.read "logging:\n  level: loud\n  format: text" =
      some (.object coveredFile) := by
    simp [Yaml.read, hlines, Yaml.Block.ofLines, Yaml.Block.text, Yaml.Block.aligned,
      Yaml.Block.indent, Yaml.Block.allTexts, Yaml.areEntries, Yaml.entries?, Yaml.Block.entry?,
      hsection, hlevel, hformat, hloud, htext, hsome, hkeys, Yaml.foldedValue, Text.join,
      Keyed.ofPairs, Keyed.put, coveredFile]
  simp only [Sources.mapping, covered, readFile, hread]

/-- Each leaf is won by another source. -/
theorem load_leaf_by_leaf_covered : load covered =
    .ok { cache := { maxEntries := some ⟨3, by decide⟩ },
          logging := { level := .error, format := .text } } := by
  have hlowered : covered.environment.lowered =
      [(Text.ofString "remotevalue__logging__level", Text.ofString "ERROR")] := by decide +kernel
  have hlevel : covered.environment.text? "logging" "level" = some "ERROR" := by
    rw [Environment.text?, hlowered]
    rfl
  have hformat : covered.environment.text? "logging" "format" = none := by
    rw [Environment.text?, hlowered]
    rfl
  have nested : covered.environment.Nested := by decide +kernel
  have mapped : covered.Mapped coveredFile := by decide +kernel
  have known : covered.Known coveredFile := by decide +kernel
  refine (((load_leaf_by_leaf mapping_covered nested).1 mapped).1 _).mpr ⟨fun leaf => ?_, known⟩
  cases leaf with
  | maxEntries => rfl
  | level =>
    rw [Sources.value?, Leaf.home, Leaf.key, hlevel]
    rfl
  | format =>
    rw [Sources.value?, Leaf.home, Leaf.key, hformat]
    rfl

end Gleaner.Settings
