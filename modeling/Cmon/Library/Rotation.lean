import Mathlib.Data.List.Infix

/-!
# Library — numbered files in rotation

A directory maps names to contents.  A log keeps its newest records in the file `nm 0` and older
ones in `nm 1`, …, `nm n`; a *rotation* moves the files up by one, from the highest name down, and
the file at `nm n` is overwritten.  The names are distinct (`nm` is injective); nothing is assumed
of what the files hold before.

`contents nm f n` is what the files hold, the oldest file first.

* `rotated_of_ne`: the other files stay as they are.
* `contents_rotated`: a rotation loses records at the old end only.
* `contents_suffix_rotated`: while there are names left above, it loses nothing.
-/

namespace Cmon.Library.Rotation

variable {κ β : Type} [DecidableEq κ]

/-- The file `a` gets the name `b`, over a file of that name. -/
def move (f : κ → Option (List β)) (a b : κ) : κ → Option (List β) :=
  match f a with
  | none => f
  | some x => Function.update (Function.update f a none) b (some x)

/-- The moves `nm (n - 1)` to `nm n`, …, `nm 1` to `nm 2`. -/
def moveUp (nm : Nat → κ) : Nat → (κ → Option (List β)) → κ → Option (List β)
  | 0, f => f
  | 1, f => f
  | i + 2, f => moveUp nm (i + 1) (move f (nm (i + 1)) (nm (i + 2)))

/-- All the moves; the newest file is empty then. -/
def rotated (nm : Nat → κ) (n : Nat) (f : κ → Option (List β)) : κ → Option (List β) :=
  Function.update (move (moveUp nm n f) (nm 0) (nm 1)) (nm 0) (some [])

/-- What the files `nm i`, …, `nm 0` hold, in this order. -/
def contents (nm : Nat → κ) (f : κ → Option (List β)) : Nat → List β
  | 0 => (f (nm 0)).getD []
  | i + 1 => (f (nm (i + 1))).getD [] ++ contents nm f i

variable {nm : Nat → κ} {f : κ → Option (List β)} {a b k : κ} {n m i : Nat}

theorem move_of_none (ha : f a = none) : move f a b = f := by simp only [move, ha]

theorem move_of_some {x : List β} (ha : f a = some x) :
    move f a b = Function.update (Function.update f a none) b (some x) := by simp only [move, ha]

theorem move_source (h : a ≠ b) : move f a b a = none := by
  cases hfile : f a with
  | none => rw [move_of_none hfile, hfile]
  | some x => rw [move_of_some hfile, Function.update_of_ne h, Function.update_self]

theorem move_target : move f a b b = (f a).or (f b) := by
  cases hfile : f a with
  | none => rw [move_of_none hfile, Option.none_or]
  | some x => rw [move_of_some hfile, Function.update_self, Option.some_or]

theorem move_of_ne (ha : k ≠ a) (hb : k ≠ b) : move f a b k = f k := by
  cases hfile : f a with
  | none => rw [move_of_none hfile]
  | some x => rw [move_of_some hfile, Function.update_of_ne hb, Function.update_of_ne ha]

/-- A name that is not one of the log's is not touched. -/
theorem moveUp_of_ne (h : ∀ i, 0 < i → i ≤ n → k ≠ nm i) : moveUp nm n f k = f k := by
  induction n, f using moveUp.induct nm with
  | case1 f => rfl
  | case2 f => rfl
  | case3 i f ih =>
      rw [moveUp, ih fun j h0 hj => h j h0 (by omega),
        move_of_ne (h _ (by omega) (by omega)) (h _ (by omega) (by omega))]

/-- The files in the middle move up by one. -/
theorem moveUp_succ (hnm : nm.Injective) (hi : 0 < i) (hn : i + 1 < n) :
    moveUp nm n f (nm (i + 1)) = f (nm i) := by
  induction n, f using moveUp.induct nm with
  | case1 f => omega
  | case2 f => omega
  | case3 j f ih =>
      rw [moveUp]
      rcases (by omega : i + 1 < j + 1 ∨ i = j) with h | rfl
      · rw [ih h, move_of_ne (hnm.ne (by omega)) (hnm.ne (by omega))]
      · -- the next move takes the file away that was moved up just now
        obtain ⟨j, rfl⟩ : ∃ j, i = j + 1 := ⟨i - 1, by omega⟩
        rw [moveUp, moveUp_of_ne fun l _ hl => hnm.ne (by omega), move_target,
          move_source (hnm.ne (by omega)), Option.or_none,
          move_of_ne (hnm.ne (by omega)) (hnm.ne (by omega))]

/-- The highest file is overwritten if there is a file below it. -/
theorem moveUp_top (hnm : nm.Injective) :
    moveUp nm (n + 2) f (nm (n + 2)) = (f (nm (n + 1))).or (f (nm (n + 2))) := by
  rw [moveUp, moveUp_of_ne fun i _ hi => hnm.ne (by omega), move_target]

/-- The name `nm 1` is free then. -/
theorem moveUp_one (hnm : nm.Injective) (hn : 1 < n) : moveUp nm n f (nm 1) = none := by
  induction n, f using moveUp.induct nm with
  | case1 f => omega
  | case2 f => omega
  | case3 i f ih =>
      rw [moveUp]
      cases i with
      | zero => exact move_source (hnm.ne (by omega))
      | succ i => exact ih (by omega)

/-- **Frame.** A rotation touches the files of the log only. -/
theorem rotated_of_ne (h : ∀ i ≤ n, k ≠ nm i) (hn : 1 < n) : rotated nm n f k = f k := by
  rw [rotated, Function.update_of_ne (h 0 (by omega)),
    move_of_ne (h 0 (by omega)) (h 1 (by omega)), moveUp_of_ne fun i _ hi => h i hi]

theorem rotated_zero : rotated nm n f (nm 0) = some [] := Function.update_self ..

theorem rotated_one (hnm : nm.Injective) (hn : 1 < n) : rotated nm n f (nm 1) = f (nm 0) := by
  rw [rotated, Function.update_of_ne (hnm.ne (by omega)), move_target, moveUp_one hnm hn,
    Option.or_none, moveUp_of_ne fun i h0 _ => hnm.ne (by omega)]

theorem rotated_of_two_le (hnm : nm.Injective) (hi : 2 ≤ i) :
    rotated nm n f (nm i) = moveUp nm n f (nm i) := by
  rw [rotated, Function.update_of_ne (hnm.ne (by omega)),
    move_of_ne (hnm.ne (by omega)) (hnm.ne (by omega))]

/-- Below the highest name every file gets what the one below it held. -/
theorem rotated_succ (hnm : nm.Injective) (hi : i + 1 < n) :
    rotated nm n f (nm (i + 1)) = f (nm i) := by
  cases i with
  | zero => exact rotated_one hnm hi
  | succ i => rw [rotated_of_two_le hnm (by omega), moveUp_succ hnm (by omega) hi]

theorem rotated_top (hnm : nm.Injective) :
    rotated nm (n + 2) f (nm (n + 2)) = (f (nm (n + 1))).or (f (nm (n + 2))) := by
  rw [rotated_of_two_le hnm (by omega), moveUp_top hnm]

/-- A rotation puts nothing into a file that was not in one. -/
theorem rotated_cases (hnm : nm.Injective) (hn : 1 < n) (hi : i ≤ n) :
    rotated nm n f (nm i) = some [] ∨ ∃ j ≤ n, rotated nm n f (nm i) = f (nm j) := by
  rcases i with - | i
  · exact .inl rotated_zero
  · rcases Nat.lt_or_ge (i + 1) n with h | h
    · exact .inr ⟨i, by omega, rotated_succ hnm h⟩
    · obtain ⟨n, rfl⟩ : ∃ m, n = m + 2 := ⟨n - 2, by omega⟩
      obtain rfl : i = n + 1 := by omega
      cases hbelow : f (nm (n + 1)) with
      | some x => exact .inr ⟨n + 1, by omega, by rw [rotated_top hnm, hbelow, Option.some_or]⟩
      | none => exact .inr ⟨n + 2, le_rfl, by rw [rotated_top hnm, hbelow, Option.none_or]⟩

omit [DecidableEq κ] in
theorem contents_suffix (h : i ≤ m) : contents nm f i <:+ contents nm f m := by
  induction m with
  | zero => rw [Nat.le_zero.mp h]
  | succ m ih =>
      rcases Nat.le_succ_iff.mp h with h | rfl
      · exact (ih h).trans (List.suffix_append _ _)
      · exact List.suffix_rfl

/-- The records below the highest name move up by one file. -/
theorem contents_rotated_succ (hnm : nm.Injective) (hi : i + 1 < n) :
    contents nm (rotated nm n f) (i + 1) = contents nm f i := by
  induction i with
  | zero =>
      rw [contents, contents, contents, rotated_succ hnm hi, rotated_zero, Option.getD_some,
        List.append_nil]
  | succ i ih => rw [contents, ih (by omega), rotated_succ hnm hi, contents]

/-- **Loss at the old end only.** -/
theorem contents_rotated (hnm : nm.Injective) (hn : 1 < n) :
    contents nm (rotated nm n f) n <:+ contents nm f n := by
  obtain ⟨n, rfl⟩ : ∃ m, n = m + 2 := ⟨n - 2, by omega⟩
  rw [contents, contents_rotated_succ hnm (by omega), rotated_top hnm, contents, contents]
  cases hbelow : f (nm (n + 1)) with
  | some x => exact List.suffix_append _ _
  | none => simp

/-- **No loss** while the records do not reach the highest name. -/
theorem contents_suffix_rotated (hnm : nm.Injective) (hn : 1 < n) (hi : i + 1 ≤ n) :
    contents nm f i <:+ contents nm (rotated nm n f) (i + 1) := by
  rcases Nat.lt_or_ge (i + 1) n with h | h
  · rw [contents_rotated_succ hnm h]
  · obtain ⟨i, rfl⟩ : ∃ j, i = j + 1 := ⟨i - 1, by omega⟩
    obtain rfl : n = i + 2 := by omega
    rw [contents.eq_2 _ _ (i + 1), contents_rotated_succ hnm (by omega), rotated_top hnm, contents]
    cases hbelow : f (nm (i + 1)) with
    | some x => exact List.suffix_rfl
    | none => exact List.suffix_append _ _

/-- A record is written to the newest file. -/
def append (nm : Nat → κ) (f : κ → Option (List β)) (x : β) : κ → Option (List β) :=
  Function.update f (nm 0) (some ((f (nm 0)).getD [] ++ [x]))

theorem contents_append (hnm : nm.Injective) (x : β) :
    contents nm (append nm f x) m = contents nm f m ++ [x] := by
  induction m with
  | zero => rw [contents, append, Function.update_self, Option.getD_some, contents]
  | succ m ih =>
      rw [contents, ih, append, Function.update_of_ne (hnm.ne (by omega)), contents,
        List.append_assoc]

theorem append_of_ne {x : β} (h : k ≠ nm 0) : append nm f x k = f k := Function.update_of_ne h ..

end Cmon.Library.Rotation
