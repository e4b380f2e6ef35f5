import Mathlib.Algebra.Group.Nat.Defs
import Mathlib.Algebra.GroupWithZero.Nat
import Mathlib.Algebra.Order.Group.Nat

/-!
# Shared — the text of a UUID

`CGUID::toString` and `CGUID::fromString`, which ask the system (`UuidTexts`).  A UUID is the number
of its digits.

* `hexUuids` are the texts as they are documented: 32 hexadecimal digits in groups of 8, 4, 4, 4 and
  12.
-/

namespace Cmon

/-! ### The source -/

/-- `UuidToString` and `UuidFromString`. -/
structure UuidTexts where
  uuidToString : Nat → String
  uuidFromString : String → Option Nat

/-- What is documented of them. -/
structure UuidTexts.Documented (u : UuidTexts) : Prop where
  read : ∀ gid < 2 ^ 128, u.uuidFromString (u.uuidToString gid) = some gid
  chars : ∀ gid, ∀ c ∈ (u.uuidToString gid).toList, c = '-' ∨ ∃ d < 16, c = Nat.digitChar d

/-- `CGUID::toString`. -/
def UuidTexts.toString (u : UuidTexts) (gid : Nat) : String := u.uuidToString gid

/-- `CGUID::fromString`: no UUID is that of zeros. -/
def UuidTexts.fromString (u : UuidTexts) (str : String) : Nat := (u.uuidFromString str).getD 0

theorem UuidTexts.Documented.fromString_toString {u : UuidTexts} (hu : u.Documented) {gid : Nat}
    (h : gid < 2 ^ 128) : u.fromString (u.toString gid) = gid := by
  rw [fromString, toString, hu.read gid h, Option.getD_some]

/-! ### Hexadecimal digits -/

/-- The last `n` hexadecimal digits. -/
def hexDigits : Nat → Nat → List Char
  | 0, _ => []
  | n + 1, gid => hexDigits n (gid / 16) ++ [Nat.digitChar (gid % 16)]

/-- The value of a hexadecimal digit, in upper or lower case. -/
def hexValue (c : Char) : Nat := "0123456789abcdef".toList.idxOf c.toLower

/-- The digits in their groups. -/
def grouped (t : List Char) : List Char :=
  t.take 8 ++ '-' :: (t.drop 8).take 4 ++ '-' :: (t.drop 12).take 4 ++ '-' :: (t.drop 16).take 4 ++
    '-' :: t.drop 20

/-- The text of a UUID. -/
def uuidToString (gid : Nat) : String := String.ofList (grouped (hexDigits 32 gid))

/-- The UUID of a text. -/
def uuidFromString (s : String) : Option Nat :=
  let t := s.toList.filter (· ≠ '-')
  if s.toList = grouped t ∧ t.length = 32 ∧ t.all (hexValue · < 16) then
    some (t.foldl (fun a c => 16 * a + hexValue c) 0)
  else none

/-! ### Reading what was written -/

theorem hexValue_digitChar {d : Nat} (h : d < 16) : hexValue (Nat.digitChar d) = d := by
  revert d
  decide

theorem length_hexDigits (n gid : Nat) : (hexDigits n gid).length = n := by
  induction n generalizing gid with
  | zero => rfl
  | succ n ih => rw [hexDigits, List.length_append, ih, List.length_singleton]

theorem of_mem_hexDigits {c : Char} (n gid : Nat) (h : c ∈ hexDigits n gid) :
    ∃ d < 16, c = Nat.digitChar d := by
  induction n generalizing gid with
  | zero => cases h
  | succ n ih =>
      rcases List.mem_append.mp h with h | h
      · exact ih _ h
      · exact ⟨gid % 16, Nat.mod_lt _ (by decide), List.mem_singleton.mp h⟩

theorem foldl_hexDigits {n gid : Nat} (h : gid < 16 ^ n) :
    (hexDigits n gid).foldl (fun a c => 16 * a + hexValue c) 0 = gid := by
  induction n generalizing gid with
  | zero =>
      rw [Nat.pow_zero, Nat.lt_one_iff] at h
      exact h.symm
  | succ n ih =>
      have hdiv : gid / 16 < 16 ^ n :=
        Nat.div_lt_of_lt_mul (by rwa [Nat.pow_succ, Nat.mul_comm] at h)
      rw [hexDigits, List.foldl_append, ih hdiv, List.foldl_cons, List.foldl_nil,
        hexValue_digitChar (Nat.mod_lt _ (by decide)), Nat.div_add_mod]

theorem filter_grouped {t : List Char} (h : '-' ∉ t) : (grouped t).filter (· ≠ '-') = t := by
  have hsub : ∀ {l : List Char}, l ⊆ t → l.filter (· ≠ '-') = l := fun hl =>
    List.filter_eq_self.mpr fun c hc => decide_eq_true fun e => h (e ▸ hl hc)
  have hdrop : ∀ m n, ((t.drop m).take n) ⊆ t := fun m n c hc =>
    List.mem_of_mem_drop (List.mem_of_mem_take hc)
  have hdash : ∀ l : List Char, ('-' :: l).filter (· ≠ '-') = l.filter (· ≠ '-') := fun l =>
    List.filter_cons_of_neg (by decide)
  have hcut : ∀ m n, (t.drop m).take n ++ t.drop (m + n) = t.drop m := fun m n => by
    rw [← List.drop_drop, List.take_append_drop]
  rw [grouped]
  simp only [List.append_assoc, List.cons_append, List.filter_append, hdash, hsub (hdrop _ _),
    hsub (List.take_subset 8 t), hsub (List.drop_subset 20 t)]
  rw [hcut 16 4, hcut 12 4, hcut 8 4, List.take_append_drop]

/-- **A UUID is read from its text.** -/
theorem uuidFromString_toString {gid : Nat} (h : gid < 2 ^ 128) :
    uuidFromString (uuidToString gid) = some gid := by
  have hdigits := of_mem_hexDigits (c := '-') 32 gid
  have hdash : '-' ∉ hexDigits 32 gid := fun hmem => by
    obtain ⟨d, hd, heq⟩ := hdigits hmem
    revert d
    decide
  have hall : (hexDigits 32 gid).all (hexValue · < 16) = true := by
    refine List.all_eq_true.mpr fun c hc => decide_eq_true ?_
    obtain ⟨d, hd, rfl⟩ := of_mem_hexDigits 32 gid hc
    rwa [hexValue_digitChar hd]
  rw [uuidFromString, uuidToString, String.toList_ofList, filter_grouped hdash,
    if_pos ⟨rfl, length_hexDigits 32 gid, hall⟩, foldl_hexDigits (Nat.lt_of_lt_of_eq h (by decide))]

/-- Digits and hyphens. -/
theorem mem_uuidToString {gid : Nat} {c : Char} (h : c ∈ (uuidToString gid).toList) :
    c = '-' ∨ ∃ d < 16, c = Nat.digitChar d := by
  rw [uuidToString, String.toList_ofList, grouped] at h
  simp only [List.mem_append, List.mem_cons] at h
  rcases h with (((h | rfl | h) | rfl | h) | rfl | h) | rfl | h
  · exact .inr (of_mem_hexDigits 32 gid (List.mem_of_mem_take h))
  · exact .inl rfl
  · exact .inr (of_mem_hexDigits 32 gid (List.mem_of_mem_drop (List.mem_of_mem_take h)))
  · exact .inl rfl
  · exact .inr (of_mem_hexDigits 32 gid (List.mem_of_mem_drop (List.mem_of_mem_take h)))
  · exact .inl rfl
  · exact .inr (of_mem_hexDigits 32 gid (List.mem_of_mem_drop (List.mem_of_mem_take h)))
  · exact .inl rfl
  · exact .inr (of_mem_hexDigits 32 gid (List.mem_of_mem_drop h))

def hexUuids : UuidTexts := ⟨uuidToString, uuidFromString⟩

theorem hexUuids_documented : hexUuids.Documented where
  read gid h := by
    simp only [hexUuids]
    exact uuidFromString_toString h
  chars gid c h := by
    simp only [hexUuids] at h
    exact mem_uuidToString h

end Cmon
