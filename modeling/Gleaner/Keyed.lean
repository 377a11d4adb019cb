import Gleaner.Text.Basic

/-! # Keyed lists

    A `Keyed α` is a list of pairs of a text and a value, in the order in which the
    keys first came. Writing a key again replaces its value in place; a key written
    after its removal goes to the end.

    Object members, cache entries, registries and environments are keyed lists.
    The lemmas say what `put` and `erase` do to a look-up and to the keys.
-/

namespace Gleaner

/-- Pairs of a key and a value, in the order of the keys' first writing. -/
abbrev Keyed (α : Type u) := List (Text × α)

namespace Keyed

variable {α : Type u}

/-- The value of the first pair with this key. -/
def get? (key : Text) : Keyed α → Option α
  | [] => none
  | (k, value) :: rest => if k = key then some value else get? key rest

/-- The keys in order. -/
def keys (pairs : Keyed α) : List Text := pairs.map (·.1)

/-- Writes a value under a key: in place if the key is there, else at the end. -/
def put (key : Text) (value : α) : Keyed α → Keyed α
  | [] => [(key, value)]
  | (k, old) :: rest => if k = key then (key, value) :: rest else (k, old) :: put key value rest

/-- Removes the first pair with this key. -/
def erase (key : Text) : Keyed α → Keyed α
  | [] => []
  | (k, value) :: rest => if k = key then rest else (k, value) :: erase key rest

/-- Moves the pair of a key to the end. -/
def toEnd (key : Text) (pairs : Keyed α) : Keyed α :=
  match pairs.get? key with
  | some value => pairs.erase key ++ [(key, value)]
  | none => pairs

/-- The keyed list of pairs written one after the other. -/
def ofPairs (pairs : List (Text × α)) : Keyed α :=
  pairs.foldl (fun acc (key, value) => acc.put key value) []

theorem get?_put_self (key : Text) (value : α) (pairs : Keyed α) :
    (put key value pairs).get? key = some value := by
  induction pairs with
  | nil => simp [put, get?]
  | cons pair rest ih =>
    obtain ⟨k, old⟩ := pair
    by_cases h : k = key
    · simp [put, get?, h]
    · simpa [put, get?, h] using ih

theorem get?_put_of_ne {key other : Text} (h : other ≠ key) (value : α) (pairs : Keyed α) :
    (put key value pairs).get? other = get? other pairs := by
  induction pairs with
  | nil => simp [put, get?, Ne.symm h]
  | cons pair rest ih =>
    obtain ⟨k, old⟩ := pair
    by_cases hk : k = key
    · subst hk
      simp [put, get?, Ne.symm h]
    · by_cases ho : k = other
      · subst ho
        simp [put, get?, h]
      · simp [put, get?, hk, ho, ih]

theorem keys_put (key : Text) (value : α) (pairs : Keyed α) :
    (put key value pairs).keys = if key ∈ pairs.keys then pairs.keys else pairs.keys ++ [key] := by
  induction pairs with
  | nil => simp [put, keys]
  | cons pair rest ih =>
    obtain ⟨k, old⟩ := pair
    by_cases h : k = key
    · subst h
      simp [put, keys]
    · simp only [keys] at ih
      by_cases hk : key ∈ rest.map (·.1)
      · simp [put, keys, h, ih, hk]
      · simp [put, keys, h, Ne.symm h, ih, hk]

theorem get?_eq_none_iff {key : Text} {pairs : Keyed α} :
    pairs.get? key = none ↔ key ∉ pairs.keys := by
  induction pairs with
  | nil => simp [get?, keys]
  | cons pair rest ih =>
    obtain ⟨k, old⟩ := pair
    by_cases h : k = key
    · subst h
      simp [get?, keys]
    · simp only [keys] at ih
      simp [get?, keys, h, Ne.symm h, ih]

theorem get?_erase_of_ne {key other : Text} (h : other ≠ key) (pairs : Keyed α) :
    (erase key pairs).get? other = get? other pairs := by
  induction pairs with
  | nil => rfl
  | cons pair rest ih =>
    obtain ⟨k, old⟩ := pair
    by_cases hk : k = key
    · subst hk
      simp [erase, get?, Ne.symm h]
    · by_cases ho : k = other
      · subst ho
        simp [erase, get?, h]
      · simp [erase, get?, hk, ho, ih]

end Keyed

end Gleaner
