import Mathlib.Data.List.Basic
import Gleaner.Text.Basic

/-! # The order of texts

    Texts are ordered by the numbers of their code points, so the order is that of lists of
    numbers. It is total, and only a text itself stands at its own place. Sorting texts of
    which no two are the same makes each come strictly before the next.
-/

namespace Gleaner

theorem CodePoint.isSurrogate_eq (p : CodePoint) :
    p.isSurrogate = decide (0xD800 ≤ p.toNat ∧ p.toNat < 0xE000) := by
  cases p with
  | scalar c =>
    have hvalid : c.toNat < 0xD800 ∨ 0xDFFF < c.toNat ∧ c.toNat < 0x110000 := c.valid
    refine (decide_eq_false ?_).symm
    rw [toNat]
    omega
  | surrogate offset =>
    have hoffset := offset.isLt
    refine (decide_eq_true ?_).symm
    rw [toNat]
    omega

theorem CodePoint.toNat_injective {p q : CodePoint} (h : p.toNat = q.toNat) : p = q := by
  have hkind : p.isSurrogate = q.isSurrogate := by
    rw [CodePoint.isSurrogate_eq, CodePoint.isSurrogate_eq, h]
  match p, q, hkind with
  | .scalar c, .scalar d, _ => exact congrArg CodePoint.scalar (Char.toNat_inj.mp h)
  | .surrogate m, .surrogate n, _ =>
    refine congrArg CodePoint.surrogate (Fin.ext ?_)
    simp only [CodePoint.toNat] at h
    omega

namespace Text

variable {a b c : Text}

/-- Texts compare as the lists of their numbers. -/
theorem compare_eq (a b : Text) :
    compare a b = Ord.compare (a.map CodePoint.toNat) (b.map CodePoint.toNat) := by
  induction a generalizing b with
  | nil => cases b <;> rfl
  | cons p as ih =>
    cases b with
    | nil => rfl
    | cons q bs =>
      rw [compare, List.map_cons, List.map_cons, List.compare_cons_cons, ← ih]
      rcases Nat.lt_trichotomy p.toNat q.toNat with hlt | heq | hgt
      · rw [if_pos hlt, Nat.compare_eq_lt.mpr hlt]
        rfl
      · rw [if_neg (by omega), if_neg (by omega), Nat.compare_eq_eq.mpr heq]
        rfl
      · rw [if_neg (by omega), if_pos hgt, Nat.compare_eq_gt.mpr hgt]
        rfl

theorem compare_eq_eq_iff : compare a b = .eq ↔ a = b := by
  rw [compare_eq]
  constructor
  · intro h
    have hmaps := Std.LawfulEqOrd.eq_of_compare h
    exact List.map_injective_iff.mpr (fun _ _ => CodePoint.toNat_injective) hmaps
  · rintro rfl
    exact Std.ReflOrd.compare_self

theorem le_eq (a b : Text) :
    le a b = (Ord.compare (a.map CodePoint.toNat) (b.map CodePoint.toNat)).isLE := by
  rw [le, compare_eq]
  cases Ord.compare (a.map CodePoint.toNat) (b.map CodePoint.toNat) <;> rfl

theorem le_trans (hab : le a b = true) (hbc : le b c = true) : le a c = true := by
  rw [le_eq] at hab hbc ⊢
  exact Std.TransOrd.isLE_trans hab hbc

theorem le_total (a b : Text) : (le a b || le b a) = true := by
  rw [le_eq, le_eq, Std.OrientedOrd.eq_swap]
  cases Ord.compare (b.map CodePoint.toNat) (a.map CodePoint.toNat) <;> rfl

/-- Of two different texts in order, the first comes strictly before the second. -/
theorem compare_eq_lt_of_le (h : le a b = true) (hne : a ≠ b) : compare a b = .lt := by
  cases hcompare : compare a b with
  | lt => rfl
  | eq => exact absurd (compare_eq_eq_iff.mp hcompare) hne
  | gt => simp [le, hcompare] at h

/-- Texts of which no two are the same are sorted strictly. -/
theorem pairwise_lt_mergeSort {texts : List Text} (h : texts.Nodup) :
    (texts.mergeSort le).Pairwise fun a b => compare a b = .lt := by
  have hsorted : (texts.mergeSort le).Pairwise fun a b => le a b = true :=
    @List.pairwise_mergeSort _ le (fun _ _ _ => le_trans) le_total texts
  have hdistinct : (texts.mergeSort le).Nodup := (List.mergeSort_perm texts le).nodup_iff.mpr h
  exact hsorted.imp₂ (fun _ _ hle hne => compare_eq_lt_of_le hle hne) hdistinct

end Text

end Gleaner
