import Mathlib.Data.List.Infix

/-!
# Library — the comparison with `like`

The patterns of SQL's `like`: `%` stands for any characters, `_` for one, and a character behind
the escape character for itself.  A pattern that ends with the escape character is an error.

* `same` says which characters count as equal: with it the comparison may ignore the case.
* `holds_within`: `%w%` without wildcards in `w` asks whether `w` is in the text.
-/

namespace Cmon.Library.SqlLike

/-- A part of a pattern. -/
inductive Wild where
  | any
  | one
  | char (c : Char)
  deriving DecidableEq, Repr

/-- A character that is not escaped. -/
def wild (c : Char) : Wild := if c = '%' then .any else if c = '_' then .one else .char c

/-- The parts of a pattern. -/
def pattern (esc : Option Char) : List Char → Option (List Wild)
  | [] => some []
  | [c] => if some c = esc then none else some [wild c]
  | c :: d :: p =>
      if some c = esc then (pattern esc p).map (.char d :: ·)
      else (pattern esc (d :: p)).map (wild c :: ·)

/-- The comparison of a text with a pattern. -/
def holds (same : Char → Char → Bool) : List Wild → List Char → Bool
  | [], t => t.isEmpty
  | .any :: p, t => t.tails.any (holds same p)
  | .one :: _, [] => false
  | .one :: p, _ :: t => holds same p t
  | .char _ :: _, [] => false
  | .char c :: p, d :: t => same c d && holds same p t

variable {same : Char → Char → Bool} {esc : Option Char} {w : List Char}

/-- A character that stands for itself. -/
def Plain (esc : Option Char) (c : Char) : Prop := c ≠ '%' ∧ c ≠ '_' ∧ some c ≠ esc

theorem wild_plain {c : Char} (h : Plain esc c) : wild c = .char c := by
  rw [wild, if_neg h.1, if_neg h.2.1]

/-- The pattern that asks for `w` somewhere in the text. -/
theorem pattern_within (hesc : esc ≠ some '%') (h : ∀ c ∈ w, Plain esc c) :
    pattern esc ('%' :: (w ++ ['%'])) = some (.any :: (w.map .char ++ [.any])) := by
  have hrest : pattern esc (w ++ ['%']) = some (w.map .char ++ [.any]) := by
    induction w with
    | nil => exact if_neg (Ne.symm hesc)
    | cons c w ih =>
        obtain ⟨hc, hw⟩ := List.forall_mem_cons.mp h
        cases hcase : w ++ ['%'] with
        | nil => simp at hcase
        | cons d p =>
            rw [List.cons_append, hcase, pattern, if_neg hc.2.2, ← hcase, ih hw, wild_plain hc]
            rfl
  cases hcase : w ++ ['%'] with
  | nil => simp at hcase
  | cons d p =>
      rw [pattern, if_neg (Ne.symm hesc), ← hcase, hrest]
      rfl

/-- A pattern that ends with `%` asks for a beginning of the text. -/
theorem holds_start (w t : List Char) :
    holds same (w.map .char ++ [.any]) t = true ↔
      ∃ v, v <+: t ∧ w.Forall₂ (same · · = true) v := by
  induction w generalizing t with
  | nil =>
      refine iff_of_true ?_ ⟨[], List.nil_prefix, .nil⟩
      rw [List.map_nil, List.nil_append, holds, List.any_eq_true]
      exact ⟨[], (List.mem_tails ..).mpr List.nil_suffix, rfl⟩
  | cons c w ih =>
      cases t with
      | nil =>
          refine iff_of_false Bool.false_ne_true ?_
          rintro ⟨v, hv, hsame⟩
          rw [List.prefix_nil.mp hv] at hsame
          cases hsame
      | cons d t =>
          rw [List.map_cons, List.cons_append, holds, Bool.and_eq_true, ih]
          constructor
          · rintro ⟨hcd, v, hv, hsame⟩
            exact ⟨d :: v, List.cons_prefix_cons.mpr ⟨rfl, hv⟩, .cons hcd hsame⟩
          · rintro ⟨v, hv, hsame⟩
            cases hsame with
            | cons hcd hsame =>
                obtain ⟨rfl, hpre⟩ := List.cons_prefix_cons.mp hv
                exact ⟨hcd, _, hpre, hsame⟩

/-- **The pattern `%w%` asks whether `w` is somewhere in the text.** -/
theorem holds_within (w t : List Char) :
    holds same (.any :: (w.map .char ++ [.any])) t = true ↔
      ∃ v, v <:+: t ∧ w.Forall₂ (same · · = true) v := by
  rw [holds, List.any_eq_true]
  constructor
  · rintro ⟨s, hs, h⟩
    obtain ⟨v, hv, hsame⟩ := (holds_start w s).mp h
    exact ⟨v, hv.isInfix.trans ((List.mem_tails ..).mp hs).isInfix, hsame⟩
  · rintro ⟨v, ⟨a, b, rfl⟩, hsame⟩
    refine ⟨v ++ b, (List.mem_tails ..).mpr ⟨a, (List.append_assoc ..).symm⟩, ?_⟩
    exact (holds_start w _).mpr ⟨v, List.prefix_append .., hsame⟩

end Cmon.Library.SqlLike
