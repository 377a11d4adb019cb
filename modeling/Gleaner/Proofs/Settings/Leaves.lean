import Gleaner.Settings.Basic
import Gleaner.Proofs.Settings.Overlay

/-! # The leaves of the settings

    Settings are made of three values: the bound of the cache, and the level and the format of
    the log. Each of them is a leaf: it stands under a key of a section, has a default, and has
    a check of its own.

    All leaves are checked, and none is checked by what stands under another key. So the
    settings that an object of sections gives are known leaf by leaf, and so is what is wrong
    with it.
-/

namespace Gleaner

open Validation

/-! ## Everything that does not fit -/

namespace Validation

namespace Checked

variable {α β : Type}

/-- All that is wrong with a value, which is nothing if it fits. -/
def details : Checked α → List Detail
  | .ok _ => []
  | .error details => details

theorem details_both (a : Checked α) (b : Checked β) :
    (both a b).details = a.details ++ b.details := by
  cases a <;> cases b <;> simp [both, details]

theorem details_inside (name : Text) (a : Checked α) :
    (inside name a).details = a.details.map (Detail.inside name) := by
  cases a <;> rfl

theorem details_map (f : α → β) (a : Checked α) : details (a.map f) = a.details := by
  cases a <;> rfl

theorem inside_eq_ok_iff {name : Text} {a : Checked α} {value : α} :
    inside name a = .ok value ↔ a = .ok value := by
  cases a <;> simp [inside]

theorem map_eq_ok_iff {f : α → β} {a : Checked α} {value : β} :
    a.map f = .ok value ↔ ∃ x, a = .ok x ∧ f x = value := by
  cases a <;> simp [Except.map]

theorem ofProblem_eq_ok_iff {a : Except Problem α} {value : α} :
    ofProblem a = .ok value ↔ a = .ok value := by
  cases a <;> simp [ofProblem]

theorem mem_details_ofProblem {a : Except Problem α} {detail : Detail} :
    detail ∈ (ofProblem a).details ↔ ∃ problem, a = .error problem ∧ detail = ⟨[], problem⟩ := by
  cases a <;> simp [ofProblem, details, eq_comm]

theorem mem_details {a : Checked α} {detail : Detail} :
    detail ∈ a.details ↔ ∃ all, a = .error all ∧ detail ∈ all := by
  cases a <;> simp [details]

theorem mem_details_both {a : Checked α} {b : Checked β} {detail : Detail} :
    detail ∈ (both a b).details ↔ detail ∈ a.details ∨ detail ∈ b.details := by
  rw [details_both, List.mem_append]

theorem mem_details_inside {name outer : Text} {place : List Text} {problem : Problem}
    {a : Checked α} : ⟨outer :: place, problem⟩ ∈ (inside name a).details ↔
      outer = name ∧ ⟨place, problem⟩ ∈ a.details := by
  rw [details_inside, List.mem_map]
  constructor
  · rintro ⟨inner, hinner, heq⟩
    obtain ⟨hplace, rfl⟩ := Detail.mk.inj heq
    obtain ⟨rfl, rfl⟩ := List.cons.inj hplace
    exact ⟨rfl, hinner⟩
  · rintro ⟨rfl, hinner⟩
    exact ⟨_, hinner, rfl⟩

end Checked

variable {α : Type} {names : List Text} {fields : Keyed Document}

theorem noOthers_eq_ok_iff :
    noOthers names fields = .ok () ↔ ∀ key ∈ fields.keys, key ∈ names := by
  have hnone : fields.keys.filter (· ∉ names) = [] ↔ ∀ key ∈ fields.keys, key ∈ names := by
    simp
  rw [← hnone, noOthers]
  cases fields.keys.filter (· ∉ names) <;> simp

/-- No key of a model is reported among the others. -/
theorem not_mem_details_noOthers {key : Text} {place : List Text} {problem : Problem}
    (hkey : key ∈ names) : ⟨key :: place, problem⟩ ∉ (noOthers names fields).details := by
  have hothers : key ∉ fields.keys.filter (· ∉ names) := by simp [hkey]
  rw [noOthers]
  cases hkeys : fields.keys.filter (· ∉ names) with
  | nil => exact List.not_mem_nil
  | cons other more =>
    rw [hkeys] at hothers
    intro hmem
    obtain ⟨reported, hreported, heq⟩ := List.mem_map.mp hmem
    obtain ⟨hplace, -⟩ := Detail.mk.inj heq
    obtain ⟨rfl, -⟩ := List.cons.inj hplace
    exact hothers hreported

theorem closed_congr {check other : Keyed Document → Checked α} (h : check fields = other fields) :
    closed names check fields = closed names other fields := by
  rw [closed, closed, h]

/-- What passes has no other keys, so these need not be reported. -/
theorem closed_eq_ok_iff {check : Keyed Document → Checked α} {value : α} :
    closed names check fields = .ok value ↔
      check fields = .ok value ∧ ∀ key ∈ fields.keys, key ∈ names := by
  rw [← noOthers_eq_ok_iff, ← Checked.both_eq_ok_iff, closed]
  by_cases h : Reportable names fields
  · rw [if_pos h, Checked.map_eq_ok_iff]
    constructor
    · rintro ⟨⟨found, ⟨⟩⟩, hboth, rfl⟩
      exact hboth
    · intro hboth
      exact ⟨_, hboth, rfl⟩
  · -- a key that cannot be reported is none of the model
    rw [if_neg h, Checked.both_eq_ok_iff, noOthers_eq_ok_iff]
    refine iff_of_false nofun fun ⟨_, hall⟩ => h ?_
    intro key hkey hother
    exact absurd (hall key hkey) hother

/-- A field of the model is reported as the check of the fields reports it, unless a key that
    cannot be reported is there. -/
theorem mem_details_closed {check : Keyed Document → Checked α} {key : Text} {place : List Text}
    {problem : Problem} (hkey : key ∈ names) :
    ⟨key :: place, problem⟩ ∈ (closed names check fields).details ↔
      ⟨key :: place, problem⟩ ∈ (check fields).details ∧ Reportable names fields := by
  rw [closed]
  by_cases h : Reportable names fields
  · rw [if_pos h, Checked.details_map, Checked.mem_details_both,
      or_iff_left (not_mem_details_noOthers hkey), and_iff_left h]
  · rw [if_neg h]
    simp [Checked.details, h]

end Validation

namespace Settings

/-! ## Leaves -/

inductive Leaf
  | maxEntries
  | level
  | format
  deriving DecidableEq

namespace Leaf

def all : List Leaf := [maxEntries, level, format]

theorem mem_all (leaf : Leaf) : leaf ∈ all := by
  cases leaf <;> decide

/-- The section of a leaf. -/
def home : Leaf → Text
  | maxEntries => "cache"
  | level => "logging"
  | format => "logging"

/-- The key of a leaf in its section. -/
def key : Leaf → Text
  | maxEntries => "max_entries"
  | level => "level"
  | format => "format"

/-- The place of a leaf, as it stands in details. -/
def place (leaf : Leaf) : List Text := [leaf.home, leaf.key]

/-- No two leaves have one place. -/
theorem eq_of_home_of_key {leaf other : Leaf} (hhome : leaf.home = other.home)
    (hkey : leaf.key = other.key) : leaf = other := by
  revert hhome hkey
  cases leaf <;> cases other <;> decide

abbrev Value : Leaf → Type
  | maxEntries => Option { n : Nat // 0 < n }
  | level => Level
  | format => LogFormat

/-- The value of a leaf in the settings. -/
def of : (leaf : Leaf) → Settings → leaf.Value
  | maxEntries, settings => settings.cache.maxEntries
  | level, settings => settings.logging.level
  | format, settings => settings.logging.format

/-- The check of a leaf. -/
def check : (leaf : Leaf) → Document → Except Problem leaf.Value
  | maxEntries, .null => .ok none
  | maxEntries, value => (positive value).map some
  | level, value => choice LoggingSettings.levels Level.settingName .notAmong value
  | format, value => choice LoggingSettings.formats LogFormat.name .notAmong value

/-- What becomes of a leaf that may be given: it is checked, or it is the default. -/
def verdict (leaf : Leaf) : Option Document → Except Problem leaf.Value
  | none => .ok (leaf.of {})
  | some value => leaf.check value

/-- No check looks at the members of an object. -/
theorem verdict_eq_of_alike {leaf : Leaf} {found given : Option Document}
    (h : Document.Alike found given) : leaf.verdict found = leaf.verdict given := by
  rcases h with rfl | ⟨a, b, rfl, rfl, ha, hb⟩
  · rfl
  · cases a <;> cases ha
    cases b <;> cases hb
    cases leaf <;> rfl

/-- The field of a leaf in its section. -/
def field (leaf : Leaf) (fields : Keyed Document) : Checked leaf.Value :=
  .inside leaf.key (.ofProblem (leaf.verdict (fields.get? leaf.key)))

theorem field_eq_ok_iff {leaf : Leaf} {fields : Keyed Document} {value : leaf.Value} :
    leaf.field fields = .ok value ↔ leaf.verdict (fields.get? leaf.key) = .ok value := by
  rw [field, Checked.inside_eq_ok_iff, Checked.ofProblem_eq_ok_iff]

theorem mem_details_field {leaf : Leaf} {key : Text} {fields : Keyed Document}
    {problem : Problem} : ⟨[key], problem⟩ ∈ (leaf.field fields).details ↔
      key = leaf.key ∧ leaf.verdict (fields.get? leaf.key) = .error problem := by
  rw [field, Checked.mem_details_inside, Checked.mem_details_ofProblem]
  simp

theorem field_eq {leaf : Leaf} {check : Document → Checked leaf.Value}
    (h : ∀ value, check value = .ofProblem (leaf.check value)) (fields : Keyed Document) :
    Validation.field leaf.key check (.ok (leaf.of {})) fields = leaf.field fields := by
  rw [Validation.field, field]
  cases Keyed.get? leaf.key fields with
  | none => rfl
  | some value => exact congrArg (Checked.inside leaf.key) (h value)

end Leaf

/-! ## Sections -/

/-- A section has a key if a leaf stands there. -/
def HasKey (name key : Text) : Prop := ∃ leaf : Leaf, leaf.place = [name, key]

variable {name key : Text} {fields members : Keyed Document} {settings : Settings}
  {leaf : Leaf} {problem : Problem}

theorem hasKey_iff :
    HasKey name key ↔ key ∈ (Leaf.all.filter (·.home = name)).map Leaf.key := by
  simp only [HasKey, Leaf.place, List.mem_map, List.mem_filter, decide_eq_true_eq, List.cons.injEq,
    and_true]
  constructor
  · rintro ⟨leaf, hhome, hkey⟩
    exact ⟨leaf, ⟨leaf.mem_all, hhome⟩, hkey⟩
  · rintro ⟨leaf, ⟨-, hhome⟩, hkey⟩
    exact ⟨leaf, hhome, hkey⟩

instance (name key : Text) : Decidable (HasKey name key) := decidable_of_iff _ hasKey_iff.symm

theorem hasKey_cache_iff : HasKey "cache" key ↔ key ∈ CacheSettings.names := hasKey_iff

theorem hasKey_logging_iff : HasKey "logging" key ↔ key ∈ LoggingSettings.names := hasKey_iff

theorem cacheOfFields_eq (fields : Keyed Document) : CacheSettings.ofFields fields =
    closed CacheSettings.names
      (fun fields => (Leaf.maxEntries.field fields).map fun maxEntries => { maxEntries }) fields := by
  have hcheck : ∀ value, orNull (.ofProblem ∘ positive) value =
      .ofProblem (Leaf.maxEntries.check value) := by
    intro value
    cases value with
    | null => rfl
    | _ =>
      simp only [orNull, Leaf.check, Function.comp_apply]
      cases positive _ <;> rfl
  refine closed_congr ?_
  rw [← Leaf.field_eq hcheck fields]
  rfl

theorem loggingOfFields_eq (fields : Keyed Document) : LoggingSettings.ofFields fields =
    closed LoggingSettings.names
      (fun fields => ((Leaf.level.field fields).both (Leaf.format.field fields)).map
        fun (level, format) => { level, format }) fields := by
  refine closed_congr ?_
  rw [← @Leaf.field_eq .level _ (fun _ => rfl) fields,
    ← @Leaf.field_eq .format _ (fun _ => rfl) fields]
  rfl

theorem cacheOfFields_eq_ok_iff {cache : CacheSettings} :
    CacheSettings.ofFields members = .ok cache ↔
      Leaf.maxEntries.verdict (members.get? Leaf.maxEntries.key) = .ok cache.maxEntries ∧
        ∀ key ∈ members.keys, HasKey "cache" key := by
  rw [cacheOfFields_eq, closed_eq_ok_iff, Checked.map_eq_ok_iff,
    ← @Leaf.field_eq_ok_iff .maxEntries members cache.maxEntries]
  simp only [hasKey_cache_iff]
  refine and_congr_left fun _ => ⟨?_, fun hfield => ⟨_, hfield, rfl⟩⟩
  rintro ⟨bound, hfield, rfl⟩
  exact hfield

theorem loggingOfFields_eq_ok_iff {logging : LoggingSettings} :
    LoggingSettings.ofFields members = .ok logging ↔
      (Leaf.level.verdict (members.get? Leaf.level.key) = .ok logging.level ∧
        Leaf.format.verdict (members.get? Leaf.format.key) = .ok logging.format) ∧
      ∀ key ∈ members.keys, HasKey "logging" key := by
  rw [loggingOfFields_eq, closed_eq_ok_iff, Checked.map_eq_ok_iff,
    ← @Leaf.field_eq_ok_iff .level members logging.level,
    ← @Leaf.field_eq_ok_iff .format members logging.format, ← Checked.both_eq_ok_iff]
  simp only [hasKey_logging_iff]
  refine and_congr_left fun _ => ⟨?_, fun hboth => ⟨_, hboth, rfl⟩⟩
  rintro ⟨⟨level, format⟩, hboth, rfl⟩
  exact hboth

/-- What is reported of a leaf of the cache section. -/
theorem mem_details_cache (hhome : leaf.home = "cache") :
    ⟨[leaf.key], problem⟩ ∈ (CacheSettings.ofFields members).details ↔
      leaf.verdict (members.get? leaf.key) = .error problem ∧
        ∀ key ∈ members.keys, ¬ HasKey "cache" key → isEncodable key = true := by
  have hkey : leaf.key ∈ CacheSettings.names := hasKey_cache_iff.mp ⟨leaf, by rw [Leaf.place, hhome]⟩
  simp only [hasKey_cache_iff]
  rw [cacheOfFields_eq, mem_details_closed hkey, Checked.details_map, Leaf.mem_details_field]
  refine and_congr_left fun _ => ?_
  obtain rfl : leaf = .maxEntries := Leaf.eq_of_home_of_key hhome (List.mem_singleton.mp hkey)
  exact and_iff_right rfl

/-- What is reported of a leaf of the log section. -/
theorem mem_details_logging (hhome : leaf.home = "logging") :
    ⟨[leaf.key], problem⟩ ∈ (LoggingSettings.ofFields members).details ↔
      leaf.verdict (members.get? leaf.key) = .error problem ∧
        ∀ key ∈ members.keys, ¬ HasKey "logging" key → isEncodable key = true := by
  have hkey : leaf.key ∈ LoggingSettings.names :=
    hasKey_logging_iff.mp ⟨leaf, by rw [Leaf.place, hhome]⟩
  have hne : Leaf.level.key ≠ Leaf.format.key := by decide
  simp only [hasKey_logging_iff]
  rw [loggingOfFields_eq, mem_details_closed hkey, Checked.details_map,
    Checked.mem_details_both, Leaf.mem_details_field, Leaf.mem_details_field]
  refine and_congr_left fun _ => ?_
  cases leaf with
  | maxEntries => exact absurd hhome (by decide)
  | level => simp [hne]
  | format => simp [hne.symm]

/-! ## All sections -/

/-- The members of a section in an object of sections. -/
def membersIn (name : Text) (fields : Keyed Document) : Keyed Document :=
  Document.members (fields.get? name)

/-- Both sections of an object are objects where they are there. -/
def Sectioned (fields : Keyed Document) : Prop :=
  ∀ name ∈ sections, Document.IsSection (fields.get? name)

/-- A section that is not there is one without members. -/
theorem field_section {α : Type} {check : Keyed Document → Checked α} (model : String)
    (h : Document.IsSection (fields.get? name)) {absent : Checked α} (habsent : check [] = absent) :
    field name (membersOf model · >>= check) absent fields =
      .inside name (check (membersIn name fields)) := by
  rw [field, membersIn]
  rcases h with hnone | ⟨members, hsome⟩
  · rw [hnone, ← habsent]
    rfl
  · rw [hsome]
    rfl

theorem isSection_of_field {α : Type} {check : Keyed Document → Checked α} {model : String}
    {absent : Checked α} {value : α}
    (h : field name (membersOf model · >>= check) absent fields = .ok value) :
    Document.IsSection (fields.get? name) := by
  rw [field, Checked.inside_eq_ok_iff] at h
  cases hget : fields.get? name with
  | none => exact .inl rfl
  | some found =>
    rw [hget] at h
    cases found with
    | object members => exact .inr ⟨members, rfl⟩
    | _ => cases h

theorem ofFields_eq (sectioned : Sectioned fields) : ofFields fields =
    closed sections (fun fields =>
      ((Checked.inside "cache" (CacheSettings.ofFields (membersIn "cache" fields))).both
        (.inside "logging" (LoggingSettings.ofFields (membersIn "logging" fields)))).map
          fun (cache, logging) => { cache, logging }) fields := by
  have hcache := @field_section "cache" fields _ CacheSettings.ofFields CacheSettings.model
    (sectioned "cache" (by decide)) (.ok {}) rfl
  have hlogging := @field_section "logging" fields _ LoggingSettings.ofFields
    LoggingSettings.model (sectioned "logging" (by decide)) (.ok {}) rfl
  refine closed_congr ?_
  simp only [hcache, hlogging]

/-- An object that settings can be made of has sections that are objects. -/
theorem sectioned_of_ofFields (h : ofFields fields = .ok settings) : Sectioned fields := by
  obtain ⟨hsections, -⟩ := closed_eq_ok_iff.mp h
  obtain ⟨⟨cache, logging⟩, hboth, -⟩ := Checked.map_eq_ok_iff.mp hsections
  obtain ⟨hcache, hlogging⟩ := Checked.both_eq_ok_iff.mp hboth
  exact List.forall_mem_cons.mpr
    ⟨isSection_of_field hcache, List.forall_mem_singleton.mpr (isSection_of_field hlogging)⟩

/-- **Leaf by leaf.** The settings that an object of sections gives. -/
theorem ofFields_eq_ok_iff (sectioned : Sectioned fields) : ofFields fields = .ok settings ↔
    (∀ leaf : Leaf,
      leaf.verdict ((membersIn leaf.home fields).get? leaf.key) = .ok (leaf.of settings)) ∧
    (∀ name ∈ sections, ∀ key ∈ (membersIn name fields).keys, HasKey name key) ∧
    ∀ key ∈ fields.keys, key ∈ sections := by
  have hparts : ofFields fields = .ok settings ↔
      (CacheSettings.ofFields (membersIn "cache" fields) = .ok settings.cache ∧
        LoggingSettings.ofFields (membersIn "logging" fields) = .ok settings.logging) ∧
      ∀ key ∈ fields.keys, key ∈ sections := by
    rw [ofFields_eq sectioned, closed_eq_ok_iff, Checked.map_eq_ok_iff]
    refine and_congr_left fun _ => ?_
    constructor
    · rintro ⟨⟨cache, logging⟩, hboth, rfl⟩
      simpa only [Checked.both_eq_ok_iff, Checked.inside_eq_ok_iff] using hboth
    · intro hboth
      refine ⟨(settings.cache, settings.logging), ?_, rfl⟩
      simpa only [Checked.both_eq_ok_iff, Checked.inside_eq_ok_iff] using hboth
  rw [hparts, cacheOfFields_eq_ok_iff, loggingOfFields_eq_ok_iff]
  constructor
  · rintro ⟨⟨⟨hmax, hcache⟩, ⟨hlevel, hformat⟩, hlogging⟩, hothers⟩
    refine ⟨fun leaf => ?_,
      List.forall_mem_cons.mpr ⟨hcache, List.forall_mem_singleton.mpr hlogging⟩, hothers⟩
    cases leaf with
    | maxEntries => exact hmax
    | level => exact hlevel
    | format => exact hformat
  · rintro ⟨hleaves, hkeys, hothers⟩
    exact ⟨⟨⟨hleaves .maxEntries, hkeys "cache" (by decide)⟩,
      ⟨hleaves .level, hleaves .format⟩, hkeys "logging" (by decide)⟩, hothers⟩

/-- What is wrong with a leaf is what its check finds. It is reported unless a key that cannot
    be reported ends the check of the section, or of all sections. -/
theorem mem_details_ofFields (sectioned : Sectioned fields) :
    ⟨leaf.place, problem⟩ ∈ (ofFields fields).details ↔
      leaf.verdict ((membersIn leaf.home fields).get? leaf.key) = .error problem ∧
      (∀ key ∈ (membersIn leaf.home fields).keys, ¬ HasKey leaf.home key → isEncodable key = true) ∧
      ∀ key ∈ fields.keys, key ∉ sections → isEncodable key = true := by
  have hhome : leaf.home ∈ sections := by cases leaf <;> decide
  have hne : ("cache" : Text) ≠ "logging" := by decide
  rw [ofFields_eq sectioned, Leaf.place, mem_details_closed hhome, Checked.details_map,
    Checked.mem_details_both, Checked.mem_details_inside, Checked.mem_details_inside, ← and_assoc]
  refine and_congr_left fun _ => ?_
  -- only the section of the leaf can report it
  obtain hcache | hlogging : leaf.home = "cache" ∨ leaf.home = "logging" := by
    simpa [sections] using hhome
  · rw [hcache, mem_details_cache hcache]
    simp [hne]
  · rw [hlogging, mem_details_logging hlogging]
    simp [hne.symm]

end Settings

end Gleaner
