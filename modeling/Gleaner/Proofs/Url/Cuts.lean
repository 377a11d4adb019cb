import Mathlib.Data.List.Sublists
import Gleaner.Format

/-! # Cutting a URL apart

    The splitting of a URL cuts pieces off a text, at the first or behind the last of some
    mark. Each piece that is left stands in the text, in the same order.
-/

namespace Gleaner

variable {text before after : Text} {p : CodePoint}

/-! ## Cutting a text -/

theorem Text.eq_of_cutAt? (h : Text.cutAt? p text = some (before, after)) :
    text = before ++ p :: after := by
  induction text generalizing before with
  | nil => cases h
  | cons a rest ih =>
    rw [Text.cutAt?] at h
    split at h
    · next heq =>
      obtain ⟨rfl, rfl⟩ := Prod.mk.inj (Option.some.inj h)
      rw [heq, List.nil_append]
    · obtain ⟨⟨start, tail⟩, htail, hcons⟩ := Option.map_eq_some_iff.mp h
      obtain ⟨rfl, rfl⟩ := Prod.mk.inj hcons
      rw [ih htail, List.cons_append]

theorem Text.afterLast_sublist (p : CodePoint) (text : Text) :
    (Text.afterLast p text).Sublist text := by
  rw [Text.afterLast, ← List.reverse_sublist, List.reverse_reverse]
  exact List.takeWhile_sublist _

/-- Only what stands behind the last `p` is looked at. -/
theorem Text.takeWhile_reverse (h : p ∉ after) (before : Text) :
    (after.reverse ++ before).takeWhile (· ≠ p) = after.reverse ++ before.takeWhile (· ≠ p) :=
  List.takeWhile_append_of_pos fun a ha => by
    have hne : a ≠ p := fun heq => h (heq ▸ List.mem_reverse.mp ha)
    simpa using hne

theorem Text.afterLast_of_not_mem (h : p ∉ text) : Text.afterLast p text = text := by
  have htake := Text.takeWhile_reverse h []
  rw [List.append_nil, List.takeWhile_nil, List.append_nil] at htake
  rw [Text.afterLast, htake, List.reverse_reverse]

theorem Text.afterLast_append (h : p ∉ after) :
    Text.afterLast p (before ++ p :: after) = after := by
  have hhead : (p :: before.reverse).takeWhile (· ≠ p) = [] := by simp
  rw [Text.afterLast, List.reverse_append, List.reverse_cons, List.append_assoc,
    List.singleton_append, Text.takeWhile_reverse h, hhead, List.append_nil, List.reverse_reverse]

/-! ## Cutting a URL -/

namespace Url

theorem cutScheme_sublist (text : Text) : (cutScheme text).2.Sublist text := by
  unfold cutScheme
  split
  · next before after h =>
    split
    · rw [Text.eq_of_cutAt? h]
      exact (List.sublist_cons_self _ after).trans (List.sublist_append_right _ _)
    · exact List.Sublist.refl _
  · exact List.Sublist.refl _

theorem cutNetloc_sublist (text : Text) : (cutNetloc text).2.Sublist text := by
  unfold cutNetloc
  split
  · next rest =>
    have hrest : (rest.dropWhile fun p => !endsNetloc p).Sublist rest := List.dropWhile_sublist _
    exact (hrest.trans (List.sublist_cons_self _ rest)).trans (List.sublist_cons_self _ _)
  · exact List.Sublist.refl _

/-- The parts of a URL are cut off one after the other, the fragment before the query. -/
theorem eq_of_split {url : Url} (h : split text = .ok url) :
    let located := cutNetloc (cutScheme (cleaned text)).2
    let parted := cutAround (.scalar '#') located.2
    let asked := cutAround (.scalar '?') parted.1
    url = ⟨(cutScheme (cleaned text)).1, located.1, asked.1, asked.2, parted.2⟩ := by
  simp only [split, bind, Except.bind, pure, Except.pure] at h
  split at h
  · cases h
  · split at h
    · cases h
    · exact (Except.ok.inj h).symm

/-- What is left of a URL after its network location is cut out of it. -/
theorem afterNetloc_sublist (text : Text) :
    (cutNetloc (cutScheme (cleaned text)).2).2.Sublist text := by
  have hcleaned : (cleaned text).Sublist text :=
    (List.filter_sublist).trans (List.dropWhile_sublist _)
  exact ((cutNetloc_sublist _).trans (cutScheme_sublist _)).trans hcleaned

end Url

end Gleaner
