import Mathlib.Data.List.Basic

/-!
# Library — places in a linked list

A list with iterators: a place is an index, and the end is the length.  To step past the end, or
in front of the first element, is undefined (`none`).  An element that is inserted moves the
places behind it along, as their iterators stay with their elements.

* `advance_of_le`: the place that is `n` steps from another.
* `moveBefore_up` and `moveBefore_down`: an element that is inserted before its neighbour, or
  behind it, and erased where it was, has changed places with it.
-/

namespace Cmon.Library.LinkedList
variable {α : Type*}

/-- `++it`. -/
def next (l : List α) (it : Nat) : Option Nat := if it < l.length then some (it + 1) else none

/-- `--it`. -/
def prev : Nat → Option Nat
  | 0 => none
  | it + 1 => some it

/-- `std::advance(it, n)`. -/
def advance (l : List α) (it : Nat) : Nat → Option Nat
  | 0 => some it
  | n + 1 => (next l it).bind fun it => advance l it n

/-- Where the element at `it` is after an insertion before `pos`. -/
def shift (pos it : Nat) : Nat := if pos ≤ it then it + 1 else it

/-- `insert(pos, 1, *current)`, and `erase(current)`. -/
def moveBefore (l : List α) (current pos : Nat) : Option (List α) :=
  l[current]?.map fun x => (l.insertIdx pos x).eraseIdx (shift pos current)

theorem next_of_lt {l : List α} {it : Nat} (h : it < l.length) : next l it = some (it + 1) :=
  if_pos h

/-- The end has no next place. -/
theorem next_end (l : List α) : next l l.length = none := if_neg (Nat.lt_irrefl _)

theorem advance_of_le {l : List α} {it n : Nat} (h : it + n ≤ l.length) :
    advance l it n = some (it + n) := by
  induction n generalizing it with
  | zero => rfl
  | succ n ih =>
      rw [advance, next_of_lt (by omega), Option.bind_some, ih (by omega)]
      congr 1
      omega

/-- An element is put before the one in front of it. -/
theorem moveBefore_up (pre : List α) (a b : α) (post : List α) :
    moveBefore (pre ++ a :: b :: post) (pre.length + 1) pre.length =
      some (pre ++ b :: a :: post) := by
  have hshift : shift pre.length (pre.length + 1) = pre.length + 2 := if_pos (Nat.le_succ _)
  rw [moveBefore, hshift]
  clear hshift
  induction pre with
  | nil => rfl
  | cons x pre ih => simpa using ih

/-- An element is put behind the next one. -/
theorem moveBefore_down (pre : List α) (a b : α) (post : List α) :
    moveBefore (pre ++ a :: b :: post) pre.length (pre.length + 2) =
      some (pre ++ b :: a :: post) := by
  have hshift : shift (pre.length + 2) pre.length = pre.length := if_neg (by omega)
  rw [moveBefore, hshift]
  clear hshift
  induction pre with
  | nil => rfl
  | cons x pre ih => simpa using ih

end Cmon.Library.LinkedList
