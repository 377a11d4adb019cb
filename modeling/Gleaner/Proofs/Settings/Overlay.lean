import Gleaner.Document.Overlay
import Mathlib.Data.List.Count

/-! # What a look-up finds in an overlay

    An object laid over another one has the keys of both. Under a key of one of them stands
    its value, and under a key of both the upper value laid over the lower one. So the upper
    value stands there, unless both are objects, and then an object stands there as well: a
    check that looks at no member of an object cannot tell it from the upper value alone.

    A key that occurs only once in the upper object is looked up as in a map. This is all that
    is asked of it, since the lower object is only looked into.
-/

namespace Gleaner

theorem Keyed.keys_cons {α : Type u} (key : Text) (value : α) (rest : Keyed α) :
    Keyed.keys ((key, value) :: rest) = key :: rest.keys := rfl

theorem Keyed.mem_keys_put {α : Type u} {key other : Text} {value : α} {pairs : Keyed α} :
    other ∈ (pairs.put key value).keys ↔ other ∈ pairs.keys ∨ other = key := by
  rw [Keyed.keys_put]
  split
  · next h => exact ⟨.inl, fun hor => hor.elim id (· ▸ h)⟩
  · simp

namespace Document

variable {lower upper : Document} {below above : Keyed Document} {key : Text}

/-! ## Values -/

/-- A value that may be there, laid over one that may be there. -/
def layered : (lower upper : Option Document) → Option Document
  | lower, none => lower
  | none, some upper => some upper
  | some lower, some upper => some (cover lower upper)

@[simp] theorem layered_none_left (upper : Option Document) : layered none upper = upper := by
  cases upper <;> rfl

@[simp] theorem layered_none_right (lower : Option Document) : layered lower none = lower := by
  cases lower <;> rfl

theorem cover_of_not_object (h : upper.kind ≠ .object) : cover lower upper = upper := by
  cases upper <;> first | rfl | exact absurd rfl h

theorem kind_cover (lower upper : Document) : (cover lower upper).kind = upper.kind := by
  cases upper <;> cases lower <;> rfl

/-- Two values that may be there and are the same, except that two objects count as the same
    whatever their members are. -/
def Alike (found given : Option Document) : Prop :=
  found = given ∨ ∃ a b, found = some a ∧ given = some b ∧ a.kind = .object ∧ b.kind = .object

theorem Alike.eq_none_iff {found given : Option Document} (h : Alike found given) :
    found = none ↔ given = none := by
  rcases h with rfl | ⟨a, b, rfl, rfl, -, -⟩
  · rfl
  · simp

/-- Of two layers the upper one is seen, where it is there. -/
theorem alike_layered (lower upper : Option Document) :
    Alike (layered lower upper) (upper.or lower) := by
  match lower, upper with
  | lower, none => exact .inl (layered_none_right lower)
  | none, some upper => exact .inl rfl
  | some lower, some upper =>
    by_cases h : upper.kind = .object
    · exact .inr ⟨_, _, rfl, rfl, (kind_cover lower upper).trans h, h⟩
    · exact .inl (congrArg some (cover_of_not_object h))

theorem Alike.layered {found given : Option Document} (lower : Option Document)
    (h : Alike found given) : Alike (layered lower found) (given.or lower) := by
  rcases h with rfl | ⟨a, b, rfl, rfl, ha, hb⟩
  · exact alike_layered lower found
  · rcases alike_layered lower (some a) with hsame | ⟨c, d, hc, hd, hkind, -⟩
    · exact .inr ⟨a, b, hsame, rfl, ha, hb⟩
    · exact .inr ⟨c, b, hc, rfl, hkind, hb⟩

/-! ## Members -/

theorem overlay_cons (below rest : Keyed Document) (key : Text) (value : Document) :
    ∃ shown, layered (below.get? key) (some value) = some shown ∧
      overlay below ((key, value) :: rest) = overlay (below.put key shown) rest := by
  rw [overlay]
  cases below.get? key with
  | none => exact ⟨value, rfl, rfl⟩
  | some covered => exact ⟨cover covered value, rfl, rfl⟩

theorem mem_keys_overlay : key ∈ (overlay below above).keys ↔
    key ∈ below.keys ∨ key ∈ Keyed.keys above := by
  induction above generalizing below with
  | nil => simp [overlay, Keyed.keys]
  | cons pair rest ih =>
    obtain ⟨k, value⟩ := pair
    obtain ⟨shown, -, hoverlay⟩ := overlay_cons below rest k value
    rw [hoverlay, ih, Keyed.mem_keys_put, Keyed.keys_cons, List.mem_cons, or_assoc]

/-- A key that occurs once below is not written a second time. -/
theorem count_keys_overlay (once : below.keys.count key ≤ 1) :
    (overlay below above).keys.count key ≤ 1 := by
  induction above generalizing below with
  | nil => simpa [overlay] using once
  | cons pair rest ih =>
    obtain ⟨k, value⟩ := pair
    obtain ⟨shown, -, hoverlay⟩ := overlay_cons below rest k value
    rw [hoverlay]
    refine ih ?_
    rw [Keyed.keys_put]
    split
    · exact once
    · next hnew =>
      rw [List.count_append, List.count_singleton]
      split
      · next heq =>
        obtain rfl := beq_iff_eq.mp heq
        have hzero := List.count_eq_zero_of_not_mem hnew
        omega
      · exact once

theorem get?_overlay_of_not_mem (h : key ∉ Keyed.keys above) :
    (overlay below above).get? key = below.get? key := by
  induction above generalizing below with
  | nil => rw [overlay]
  | cons pair rest ih =>
    obtain ⟨k, value⟩ := pair
    obtain ⟨hk, hrest⟩ := not_or.mp (List.mem_cons.not.mp h)
    obtain ⟨shown, -, hoverlay⟩ := overlay_cons below rest k value
    rw [hoverlay, ih hrest, Keyed.get?_put_of_ne hk]

/-- **Looking up in an overlay.** -/
theorem get?_overlay (once : (Keyed.keys above).count key ≤ 1) :
    (overlay below above).get? key = layered (below.get? key) (Keyed.get? key above) := by
  induction above generalizing below with
  | nil => rw [overlay, Keyed.get?, layered_none_right]
  | cons pair rest ih =>
    obtain ⟨k, value⟩ := pair
    obtain ⟨shown, hshown, hoverlay⟩ := overlay_cons below rest k value
    rw [Keyed.keys_cons, List.count_cons] at once
    by_cases hk : k = key
    · subst hk
      -- the key does not come again, so what is written under it stays
      have hrest : k ∉ Keyed.keys rest := by
        rw [← List.count_eq_zero]
        simpa using once
      rw [hoverlay, get?_overlay_of_not_mem hrest, Keyed.get?_put_self, Keyed.get?, if_pos rfl,
        hshown]
    · have hrest : (Keyed.keys rest).count key ≤ 1 := by simpa [hk] using once
      rw [hoverlay, ih hrest, Keyed.get?_put_of_ne (Ne.symm hk), Keyed.get?, if_neg hk]

/-! ## Sections -/

/-- The members of a section, none if it is not there or no object. -/
def members : Option Document → Keyed Document
  | some (.object members) => members
  | _ => []

/-- A section is not there, or it is an object. -/
def IsSection (value : Option Document) : Prop :=
  value = none ∨ ∃ members, value = some (.object members)

instance (value : Option Document) : Decidable (IsSection value) :=
  decidable_of_iff (∀ found ∈ value, found.kind = .object) (by
    cases value with
    | none => simp [IsSection]
    | some found => cases found <;> simp [IsSection, kind])

theorem IsSection.layered {lower upper : Option Document} (hlower : IsSection lower)
    (hupper : IsSection upper) : IsSection (layered lower upper) := by
  rcases hupper with rfl | ⟨above, rfl⟩
  · rwa [layered_none_right]
  · rcases hlower with rfl | ⟨below, rfl⟩
    · exact .inr ⟨above, rfl⟩
    · exact .inr ⟨overlay below above, rfl⟩

/-- The members of a section laid over another one. -/
theorem get?_members_layered {lower upper : Option Document} (hlower : IsSection lower)
    (hupper : IsSection upper) (once : (members upper).keys.count key ≤ 1) :
    (members (layered lower upper)).get? key =
      layered ((members lower).get? key) ((members upper).get? key) := by
  rcases hupper with rfl | ⟨above, rfl⟩
  · rw [layered_none_right]
    exact (layered_none_right _).symm
  · rcases hlower with rfl | ⟨below, rfl⟩
    · exact (layered_none_left _).symm
    · exact get?_overlay once

theorem count_members_layered {lower upper : Option Document} (hlower : IsSection lower)
    (hupper : IsSection upper) (below_once : (members lower).keys.count key ≤ 1)
    (above_once : (members upper).keys.count key ≤ 1) :
    (members (layered lower upper)).keys.count key ≤ 1 := by
  rcases hupper with rfl | ⟨above, rfl⟩
  · rwa [layered_none_right]
  · rcases hlower with rfl | ⟨below, rfl⟩
    · exact above_once
    · exact count_keys_overlay below_once

/-- An object comes out only if the upper value is one, or is not there. -/
theorem isSection_of_layered {lower upper : Option Document} (h : IsSection (layered lower upper)) :
    IsSection upper := by
  match lower, upper with
  | _, none => exact .inl rfl
  | none, some upper => exact h
  | some lower, some upper =>
    rcases h with hnone | ⟨shown, hshown⟩
    · cases hnone
    · have hkind := kind_cover lower upper
      rw [Option.some.inj hshown] at hkind
      cases upper <;> first | exact .inr ⟨_, rfl⟩ | cases hkind

/-- A section that is put together has the keys of both, whatever the lower one is. -/
theorem mem_keys_members_layered {lower upper : Option Document}
    (h : IsSection (layered lower upper)) :
    key ∈ (members (layered lower upper)).keys ↔
      key ∈ (members lower).keys ∨ key ∈ (members upper).keys := by
  rcases isSection_of_layered h with rfl | ⟨above, rfl⟩
  · rw [layered_none_right]
    simp [members, Keyed.keys]
  · cases lower with
    | none => simp [layered, members, Keyed.keys]
    | some lower =>
      cases lower with
      | object below => exact mem_keys_overlay
      | _ => simp [layered, cover, members, Keyed.keys]

end Document

end Gleaner
