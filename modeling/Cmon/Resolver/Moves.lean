import Cmon.Library.LinkedList
import Cmon.Resolver.Restart

/-!
# Resolver — moving in the list

`moveUp` and `moveDown` with the iterators they walk with, and what they return.

* `swaps_down` and `swaps_up`: a resolver changes places with the next one, or with the one before
  it, and the positions are counted anew; each undoes the other.
* `moveUpIt_eq` and `moveDownIt_eq`: the two operations, and where the second is undefined.
* `moves_iff`: both do what they should for every index but the last.
-/

namespace Cmon
open Library Library.LinkedList

/-- A resolver without its place in the list. -/
def Resolver.core (r : Resolver) : Resolver := { r with position := 0, dirty := false }

namespace ResolverModel
variable {p : ResolverPlatform} {s : ResolverModel p} {idx : Nat}

/-! ### The iterators -/

/-- `CResolverModel::moveUp`; `none` is undefined. -/
def moveUpIt (s : ResolverModel p) (idx : Nat) : Option (Bool × ResolverModel p) :=
  if idx < s.resolvers.length then do
    let current ← advance s.resolvers 0 idx
    if current ≠ 0 then
      let newpos ← prev current
      let l ← moveBefore s.resolvers current newpos
      some (true, saveEntries { s with resolvers := renumber l })
    else some (false, s)
  else some (false, s)

/-- `CResolverModel::moveDown`; `none` is undefined. -/
def moveDownIt (s : ResolverModel p) (idx : Nat) : Option (Bool × ResolverModel p) :=
  if idx < s.resolvers.length then do
    let current ← advance s.resolvers 0 idx
    -- an index below the size never gets to the end
    if current ≠ s.resolvers.length then
      let newpos ← next s.resolvers current
      let newpos ← next s.resolvers newpos
      let l ← moveBefore s.resolvers current newpos
      some (true, saveEntries { s with resolvers := renumber l })
    else some (false, s)
  else some (false, s)

/-! ### What they do -/

/-- The list, split before the resolvers at `i` and behind it. -/
theorem exists_split {l : List Resolver} {i : Nat} (h : i + 1 < l.length) :
    ∃ pre a b post, l = pre ++ a :: b :: post ∧ pre.length = i := by
  refine ⟨l.take i, l[i], l[i + 1], l.drop (i + 2), ?_, ?_⟩
  · rw [← List.drop_eq_getElem_cons, ← List.drop_eq_getElem_cons, List.take_append_drop]
  · rw [List.length_take, Nat.min_eq_left (by omega)]

theorem swapNext_split (pre : List Resolver) (a b : Resolver) (post : List Resolver) :
    swapNext pre.length (pre ++ a :: b :: post) = pre ++ b :: a :: post := by
  induction pre with
  | nil => rfl
  | cons r pre ih => exact congrArg (r :: ·) ih

/-- **`moveUp` is `ResolverModel.moveUp`**, and says whether the resolver was moved. -/
theorem moveUpIt_eq (s : ResolverModel p) (idx : Nat) : s.moveUpIt idx =
    some (decide (0 < idx ∧ idx < s.resolvers.length), s.moveUp idx) := by
  rw [moveUpIt, moveUp]
  by_cases hlt : idx < s.resolvers.length
  · rw [if_pos hlt, advance_of_le (by omega)]
    cases idx with
    | zero => simp
    | succ i =>
        obtain ⟨pre, a, b, post, hl, rfl⟩ := exists_split hlt
        have hmove : moveBefore s.resolvers (pre.length + 1) pre.length =
            some (swapNext pre.length s.resolvers) := by
          rw [hl, moveBefore_up, swapNext_split]
        simp [prev, hmove, hlt]
  · simp [hlt]

/-- **`moveDown` is `ResolverModel.moveDown` but for the last resolver**, from which the iterator
goes past the end. -/
theorem moveDownIt_eq (s : ResolverModel p) (idx : Nat) : s.moveDownIt idx =
    if idx + 1 = s.resolvers.length then none
    else some (decide (idx + 1 < s.resolvers.length), s.moveDown idx) := by
  rw [moveDownIt, moveDown]
  by_cases hlt : idx < s.resolvers.length
  · rw [if_pos hlt, advance_of_le (by omega), Nat.zero_add]
    simp only [Option.bind_eq_bind, Option.bind_some, if_pos (Nat.ne_of_lt hlt), next_of_lt hlt]
    split
    · next hlast => rw [hlast, next_end, Option.bind_none]
    · next hlast =>
      have hsucc : idx + 1 < s.resolvers.length := by omega
      obtain ⟨pre, a, b, post, hl, rfl⟩ := exists_split hsucc
      have hmove : moveBefore s.resolvers pre.length (pre.length + 2) =
          some (swapNext pre.length s.resolvers) := by
        rw [hl, moveBefore_down, swapNext_split]
      rw [next_of_lt hsucc, Option.bind_some, hmove]
      simp [hsucc]
  · rw [if_neg hlt, if_neg (by omega), if_neg (by omega)]
    simp [show ¬ idx + 1 < s.resolvers.length by omega]

/-! ### Order and positions -/

/-- The resolvers in their order. -/
def order (s : ResolverModel p) : List Resolver := s.resolvers.map (·.core)

/-- The elements at `i` and behind it have changed places, and no others. -/
def Swapped (i : Nat) (l l' : List Resolver) : Prop :=
  ∃ pre a b post, pre.length = i ∧ l = pre ++ a :: b :: post ∧ l' = pre ++ b :: a :: post

/-- The positions are counted from 0. -/
def Counted (s : ResolverModel p) : Prop :=
  s.resolvers.map (·.position) = (List.range s.resolvers.length).map Int.ofNat

theorem renumber_cores (l : List Resolver) : (renumber l).map (·.core) = l.map (·.core) := by
  refine List.ext_getElem (by simp [renumber]) ?_
  intro i _ _
  simp [renumber, Resolver.setPosition, Resolver.core]

/-- What a move leaves. -/
theorem order_saved (s : ResolverModel p) (l : List Resolver) :
    (saveEntries { s with resolvers := renumber l }).order = l.map (·.core) := by
  rw [← renumber_cores, order, saveEntries, List.map_map]
  rfl

theorem counted_saved (s : ResolverModel p) (l : List Resolver) :
    (saveEntries { s with resolvers := renumber l }).Counted := by
  refine List.ext_getElem (by simp) ?_
  intro i _ _
  simp [saveEntries, renumber, Resolver.setDirty, Resolver.setPosition]

theorem length_swapNext (i : Nat) (l : List Resolver) : (swapNext i l).length = l.length :=
  (swapNext_perm i l).length_eq

theorem length_moveDown (s : ResolverModel p) (idx : Nat) :
    (s.moveDown idx).resolvers.length = s.resolvers.length := by
  rw [moveDown]
  split
  · simp [saveEntries, renumber, length_swapNext]
  · rfl

/-- A resolver and the next one have changed places, -/
theorem swaps_down (h : idx + 1 < s.resolvers.length) :
    Swapped idx s.order (s.moveDown idx).order ∧ (s.moveDown idx).Counted := by
  rw [moveDown, if_pos h]
  refine ⟨?_, counted_saved s _⟩
  obtain ⟨pre, a, b, post, hl, rfl⟩ := exists_split h
  refine ⟨pre.map (·.core), a.core, b.core, post.map (·.core), by simp, ?_, ?_⟩
  · simp [order, hl]
  · simp [order_saved, hl, swapNext_split]

/-- and a resolver and the one before it. -/
theorem swaps_up (h : idx + 1 < s.resolvers.length) :
    Swapped idx s.order (s.moveUp (idx + 1)).order ∧ (s.moveUp (idx + 1)).Counted := by
  rw [moveUp, if_pos ⟨Nat.succ_pos _, h⟩, Nat.add_sub_cancel]
  refine ⟨?_, counted_saved s _⟩
  obtain ⟨pre, a, b, post, hl, rfl⟩ := exists_split h
  refine ⟨pre.map (·.core), a.core, b.core, post.map (·.core), by simp, ?_, ?_⟩
  · simp [order, hl]
  · simp [order_saved, hl, swapNext_split]

/-- Two that change places twice are where they were. -/
theorem Swapped.undo {i : Nat} {l l' l'' : List Resolver} (h : Swapped i l l')
    (h' : Swapped i l' l'') : l'' = l := by
  obtain ⟨pre, a, b, post, rfl, rfl, rfl⟩ := h
  obtain ⟨pre', a', b', post', hlen, hl, rfl⟩ := h'
  obtain ⟨rfl, htail⟩ := List.append_inj hl hlen.symm
  cases htail
  rfl

/-- What the two operations should do with an index. -/
structure Moves (s : ResolverModel p) (idx : Nat) : Prop where
  /-- A resolver that is not the last is moved down, and moving it up undoes this. -/
  down : idx + 1 < s.resolvers.length → ∃ s', s.moveDownIt idx = some (true, s') ∧
    Swapped idx s.order s'.order ∧ s'.Counted ∧
      ∃ s'', s'.moveUpIt (idx + 1) = some (true, s'') ∧ s''.order = s.order
  first : idx = 0 → s.moveUpIt idx = some (false, s)
  last : idx + 1 = s.resolvers.length → s.moveDownIt idx = some (false, s)
  outside : s.resolvers.length ≤ idx →
    s.moveUpIt idx = some (false, s) ∧ s.moveDownIt idx = some (false, s)

theorem moveUp_outside (h : ¬ (0 < idx ∧ idx < s.resolvers.length)) :
    s.moveUpIt idx = some (false, s) := by
  rw [moveUpIt_eq, moveUp, if_neg h, decide_eq_false h]

theorem moveDown_outside (h : s.resolvers.length ≤ idx) : s.moveDownIt idx = some (false, s) := by
  have hlt : ¬ idx + 1 < s.resolvers.length := by omega
  rw [moveDownIt_eq, moveDown, if_neg (by omega), if_neg hlt, decide_eq_false hlt]

/-- **The two operations do what they should with every index but that of the last resolver.** -/
theorem moves_iff (s : ResolverModel p) (idx : Nat) :
    s.Moves idx ↔ idx + 1 ≠ s.resolvers.length := by
  constructor
  · intro h hlast
    have hdown := h.last hlast
    rw [moveDownIt_eq, if_pos hlast] at hdown
    cases hdown
  · intro hne
    refine ⟨fun h => ?_, fun h => moveUp_outside (by omega), fun h => absurd h hne,
      fun h => ⟨moveUp_outside (by omega), moveDown_outside h⟩⟩
    obtain ⟨hswap, hcounted⟩ := swaps_down h
    have hlen : idx + 1 < (s.moveDown idx).resolvers.length := by rwa [length_moveDown]
    refine ⟨s.moveDown idx, ?_, hswap, hcounted, (s.moveDown idx).moveUp (idx + 1), ?_, ?_⟩
    · rw [moveDownIt_eq, if_neg hne, decide_eq_true h]
    · rw [moveUpIt_eq, decide_eq_true ⟨Nat.succ_pos _, hlen⟩]
    · exact hswap.undo (swaps_up hlen).1

/-- The second of two resolvers is moved down. -/
theorem last_moved_down :
    let s : ResolverModel sqlitePlatform :=
      ⟨[], [.ofFile "a" "" "", .ofFile "b" "" ""], .empty⟩
    s.moveDownIt 1 = none ∧ ¬ s.Moves 1 :=
  ⟨rfl, fun h => by cases h.last rfl⟩

end ResolverModel

end Cmon
