import Mathlib.Data.List.Dedup

/-!
# Library — the values used last

The distinct values of a history of uses, in the order of their last use, the last one in front.

* `recent_concat`: a use moves its value to the front.
* `take_recent_new`: of the first `n` values a new one drops the last.
-/

namespace Cmon.Library.Recent

variable {α : Type} [DecidableEq α]

/-- The values of `uses`, which are in the order of time, from the one used last on. -/
def recent (uses : List α) : List α := uses.dedup.reverse

variable {uses l : List α} {x : α} {n : Nat}

theorem nodup_recent (uses : List α) : (recent uses).Nodup :=
  List.nodup_reverse.mpr uses.nodup_dedup

theorem dedup_concat (uses : List α) (x : α) :
    (uses ++ [x]).dedup = (uses.dedup.filter (· ≠ x)) ++ [x] := by
  induction uses with
  | nil => rfl
  | cons a uses ih =>
      by_cases hmem : a ∈ uses
      · rw [List.cons_append, List.dedup_cons_of_mem (List.mem_append_left _ hmem), ih,
          List.dedup_cons_of_mem hmem]
      · rw [List.cons_append, List.dedup_cons_of_notMem hmem]
        by_cases ha : a = x
        · subst ha
          rw [List.dedup_cons_of_mem (by simp), ih, List.filter_cons_of_neg (by simp)]
        · rw [List.dedup_cons_of_notMem (by simp [hmem, ha]), ih,
            List.filter_cons_of_pos (by simpa using ha), List.cons_append]

/-- **A use** moves its value to the front. -/
theorem recent_concat (uses : List α) (x : α) :
    recent (uses ++ [x]) = x :: (recent uses).filter (· ≠ x) := by
  rw [recent, dedup_concat, List.reverse_append, List.reverse_singleton, List.singleton_append,
    recent, List.filter_reverse]

theorem head?_recent (uses : List α) : (recent uses).head? = uses.getLast? := by
  rcases uses.eq_nil_or_concat with rfl | ⟨uses, x, rfl⟩
  · rfl
  · rw [List.concat_eq_append, recent_concat, List.head?_cons, List.getLast?_concat]

/-- The value in front is used again. -/
theorem recent_concat_of_head (h : (recent uses).head? = some x) :
    recent (uses ++ [x]) = recent uses := by
  obtain ⟨l, hl⟩ := List.head?_eq_some_iff.mp h
  have hnodup := nodup_recent uses
  rw [hl, List.nodup_cons] at hnodup
  have hothers : l.filter (· ≠ x) = l := by
    refine List.filter_eq_self.mpr fun a ha => decide_eq_true ?_
    rintro rfl
    exact hnodup.1 ha
  rw [recent_concat, hl, List.filter_cons_of_neg (by simp), hothers]

theorem take_filter_ne (h : x ∉ l.take n) : (l.filter (· ≠ x)).take n = l.take n := by
  induction l generalizing n with
  | nil => rfl
  | cons a l ih =>
      cases n with
      | zero => rw [List.take_zero, List.take_zero]
      | succ n =>
          rw [List.take_succ_cons, List.mem_cons, not_or] at h
          rw [List.filter_cons_of_pos (by simpa using Ne.symm h.1), List.take_succ_cons,
            List.take_succ_cons, ih h.2]

/-- **A value that is not among the first ones** takes the place of the last of them. -/
theorem take_recent_new (h : x ∉ (recent uses).take (n + 1)) :
    (recent (uses ++ [x])).take (n + 1) = x :: (recent uses).take n := by
  rw [recent_concat, List.take_succ_cons, take_filter_ne]
  exact fun hmem => h ((List.take_sublist_take_left (Nat.le_succ n)).subset hmem)

end Cmon.Library.Recent
