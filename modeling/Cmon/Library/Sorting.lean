import Mathlib.Data.List.Basic
import Mathlib.Data.List.Perm.Basic

/-!
# Library — orders of a sorted list

A list is put into an order by a key, and what it shows is compared by another one.  Elements of
one key may come in either order.

* `Sorting.pairwise_iff`: whatever list the sorting gives, it is in the order of what it shows,
  exactly when the order of the keys implies that order for any two elements.
-/

namespace Cmon.Library.Sorting

variable {α : Type*} {le r : α → α → Prop}

/-- Two different elements, in the order of their keys, stand in this order in some sorted list. -/
theorem exists_sorted [DecidableRel le] (trans : ∀ a b c, le a b → le b c → le a c)
    (total : ∀ a b, le a b ∨ le b a) {xs : List α} {a b : α} (ha : a ∈ xs) (hb : b ∈ xs)
    (hne : a ≠ b) (hle : le a b) :
    ∃ ys, ys.Perm xs ∧ ys.Pairwise le ∧ [a, b].Sublist ys := by
  obtain ⟨before, after, hsplit⟩ := List.mem_iff_append.mp ha
  have hxs : xs.Perm (a :: (before ++ after)) := hsplit ▸ List.perm_middle
  have hb' : b ∈ before ++ after := (List.mem_cons.mp (hxs.mem_iff.mp hb)).resolve_left hne.symm
  have htrans : ∀ a b c, decide (le a b) = true → decide (le b c) = true →
      decide (le a c) = true := by
    simpa only [decide_eq_true_eq] using trans
  have htotal : ∀ a b, (decide (le a b) || decide (le b a)) = true := by
    simpa only [Bool.or_eq_true, decide_eq_true_eq] using total
  refine ⟨(a :: (before ++ after)).mergeSort (le · ·),
    (List.mergeSort_perm _ _).trans hxs.symm, ?_, ?_⟩
  · exact (List.pairwise_mergeSort htrans htotal _).imp of_decide_eq_true
  · -- the sorting is stable
    refine List.pair_sublist_mergeSort htrans htotal (decide_eq_true hle) ?_
    exact (List.singleton_sublist.mpr hb').cons_cons a

/-- **What a sorted list shows.** -/
theorem pairwise_iff [DecidableRel le] (trans : ∀ a b c, le a b → le b c → le a c)
    (total : ∀ a b, le a b ∨ le b a) (refl : ∀ a, r a a) (xs : List α) :
    (∀ ys : List α, ys.Perm xs → ys.Pairwise le → ys.Pairwise r) ↔
      ∀ a ∈ xs, ∀ b ∈ xs, le a b → r a b := by
  constructor
  · intro hall a ha b hb hle
    by_cases hab : a = b
    · exact hab ▸ refl a
    · obtain ⟨ys, hperm, hsorted, hsub⟩ := exists_sorted trans total ha hb hab hle
      exact List.pairwise_pair.mp ((hall ys hperm hsorted).sublist hsub)
  · intro hle ys hperm hsorted
    exact hsorted.imp_of_mem fun ha hb => hle _ (hperm.mem_iff.mp ha) _ (hperm.mem_iff.mp hb)

end Cmon.Library.Sorting
