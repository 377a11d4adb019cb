import Gleaner.Keyed
import Mathlib.Data.List.Nodup
import Mathlib.Data.List.Sublists

/-! # Keyed lists

    A keyed list in which no key is there twice is a map: what is written under a key is
    found there, and what is erased is not. Erasing and moving add nothing.
-/

namespace Gleaner

namespace Keyed

variable {α : Type u}

theorem get?_append (key : Text) (pairs more : Keyed α) :
    get? key (pairs ++ more) = (pairs.get? key).or (more.get? key) := by
  induction pairs with
  | nil => simp [get?]
  | cons pair rest ih =>
    obtain ⟨k, value⟩ := pair
    by_cases h : k = key
    · simp [get?, h]
    · simpa [get?, h] using ih

theorem mem_of_get?_eq_some {key : Text} {value : α} {pairs : Keyed α}
    (h : pairs.get? key = some value) : (key, value) ∈ pairs := by
  induction pairs with
  | nil => simp [get?] at h
  | cons pair rest ih =>
    obtain ⟨k, other⟩ := pair
    by_cases hk : k = key
    · obtain rfl : other = value := by simpa [get?, hk] using h
      simp [hk]
    · exact List.mem_cons_of_mem _ (ih (by simpa [get?, hk] using h))

theorem erase_sublist (key : Text) (pairs : Keyed α) : (erase key pairs).Sublist pairs := by
  induction pairs with
  | nil => exact List.Sublist.refl _
  | cons pair rest ih =>
    obtain ⟨k, value⟩ := pair
    by_cases h : k = key
    · simp [erase, h]
    · simpa [erase, h] using ih

theorem get?_erase_self {key : Text} {pairs : Keyed α} (distinct : pairs.keys.Nodup) :
    get? key (erase key pairs) = none := by
  induction pairs with
  | nil => rfl
  | cons pair rest ih =>
    obtain ⟨k, value⟩ := pair
    obtain ⟨hk, hrest⟩ := List.nodup_cons.mp distinct
    by_cases h : k = key
    · subst h
      simpa [erase] using get?_eq_none_iff.mpr hk
    · simpa [erase, get?, h] using ih hrest

theorem get?_eq_none_iff_forall {key : Text} {pairs : Keyed α} :
    pairs.get? key = none ↔ ∀ pair ∈ pairs, pair.1 ≠ key := by
  rw [get?_eq_none_iff, keys, List.mem_map]
  constructor
  · intro h pair hpair heq
    exact h ⟨pair, hpair, heq⟩
  · intro h hmem
    obtain ⟨pair, hpair, heq⟩ := hmem
    exact h pair hpair heq

theorem nodup_keys_of_sublist {pairs fewer : Keyed α} (h : fewer.Sublist pairs)
    (distinct : pairs.keys.Nodup) : fewer.keys.Nodup :=
  distinct.sublist (h.map Prod.fst)

theorem mem_toEnd {key : Text} {pairs : Keyed α} {pair : Text × α}
    (h : pair ∈ toEnd key pairs) : pair ∈ pairs := by
  unfold toEnd at h
  split at h
  · next value hvalue =>
    rcases List.mem_append.mp h with h | h
    · exact (erase_sublist key pairs).subset h
    · obtain rfl := List.mem_singleton.mp h
      exact mem_of_get?_eq_some hvalue
  · exact h

end Keyed

end Gleaner
