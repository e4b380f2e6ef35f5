import Mathlib.Data.List.Basic
import Mathlib.Data.List.Infix

/-!
# Library — lines in a stream

A stream that arrives in chunks and is cut into lines at a separator.  `cut sep s` are the lines
of `s` that have ended, without their separators, and what has arrived of the next one.

* `cut_append`: to cut what was left over together with the next chunk is to cut the whole
  stream, so the chunks do not matter.
* `cut_line`, `cut_of_not_mem`: how a stream of known lines is cut.
-/

namespace Cmon.Library.Lines
variable {α : Type*} [DecidableEq α] {sep : α}

/-- The lines that have ended, and the beginning of the next. -/
def cut (sep : α) : List α → List (List α) × List α
  | [] => ([], [])
  | a :: s =>
      if a = sep then ([] :: (cut sep s).1, (cut sep s).2)
      else
        match cut sep s with
        | ([], rest) => ([], a :: rest)
        | (l :: ls, rest) => ((a :: l) :: ls, rest)

/-- A stream without a separator is the beginning of a line. -/
theorem cut_of_not_mem {s : List α} (h : sep ∉ s) : cut sep s = ([], s) := by
  induction s with
  | nil => rfl
  | cons a s ih =>
      obtain ⟨ha, hs⟩ := List.ne_and_not_mem_of_not_mem_cons h
      rw [cut, if_neg (Ne.symm ha), ih hs]

/-- A line and its separator. -/
theorem cut_line {l : List α} (h : sep ∉ l) (s : List α) :
    cut sep (l ++ sep :: s) = (l :: (cut sep s).1, (cut sep s).2) := by
  induction l with
  | nil => rw [List.nil_append, cut, if_pos rfl]
  | cons a l ih =>
      obtain ⟨ha, hl⟩ := List.ne_and_not_mem_of_not_mem_cons h
      rw [List.cons_append, cut, if_neg (Ne.symm ha), ih hl]

/-- Either a stream has no separator, or it starts with a line that has ended. -/
theorem eq_line_or_not_mem (sep : α) (s : List α) :
    sep ∉ s ∨ ∃ l t, sep ∉ l ∧ s = l ++ sep :: t := by
  induction s with
  | nil => exact .inl List.not_mem_nil
  | cons a s ih =>
      by_cases ha : a = sep
      · exact .inr ⟨[], s, List.not_mem_nil, by rw [ha, List.nil_append]⟩
      · rcases ih with h | ⟨l, t, hl, rfl⟩
        · exact .inl (List.not_mem_cons_of_ne_of_not_mem (Ne.symm ha) h)
        · exact .inr ⟨a :: l, t, List.not_mem_cons_of_ne_of_not_mem (Ne.symm ha) hl, rfl⟩

/-- **A stream is cut chunk by chunk as it is cut as a whole**, when each chunk is put behind what
was left over. -/
theorem cut_append (sep : α) (s t : List α) :
    cut sep (s ++ t) =
      ((cut sep s).1 ++ (cut sep ((cut sep s).2 ++ t)).1, (cut sep ((cut sep s).2 ++ t)).2) := by
  induction hn : s.length using Nat.strong_induction_on generalizing s with
  | _ n ih =>
      rcases eq_line_or_not_mem sep s with h | ⟨l, s', hl, rfl⟩
      · rw [cut_of_not_mem h, List.nil_append]
      · have hlt : s'.length < n := by simp at hn; omega
        rw [cut_line hl, List.append_assoc, List.cons_append, cut_line hl, ih _ hlt s' rfl]
        rfl

end Cmon.Library.Lines
