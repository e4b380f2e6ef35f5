import Mathlib.Data.Nat.Notation
import Mathlib.Logic.Function.Defs

/-!
# Shared — formatted numbers

`wxString::Format` with `%0wd`, for the names that the program numbers: log files, lines in the
registry.
-/

namespace Cmon

/-- `%0wd` of a number that is not negative. -/
def zeroPad (w n : ℕ) : String :=
  String.ofList (List.replicate (w - (Nat.toDigits 10 n).length) '0' ++ Nat.toDigits 10 n)

/-- `%-ws`. -/
def leftAlign (w : ℕ) (s : String) : String :=
  s ++ String.ofList (List.replicate (w - s.toList.length) ' ')

/-- What `zeroPad` wrote is read as the number. -/
theorem ofDigitChars_zeroPad (w n : ℕ) : Nat.ofDigitChars 10 (zeroPad w n).toList 0 = n := by
  rw [zeroPad, String.toList_ofList, Nat.ofDigitChars_append, Nat.ofDigitChars_replicate_zero,
    Nat.mul_zero, Nat.ofDigitChars_ten_toDigits]

theorem zeroPad_injective (w : ℕ) : Function.Injective (zeroPad w) := by
  intro m n h
  rw [← ofDigitChars_zeroPad w m, h, ofDigitChars_zeroPad]

theorem isDigit_of_mem_zeroPad {w n : ℕ} {c : Char} (h : c ∈ (zeroPad w n).toList) :
    c.isDigit := by
  rw [zeroPad, String.toList_ofList, List.mem_append] at h
  rcases h with h | h
  · rw [List.eq_of_mem_replicate h]
    decide
  · exact Nat.isDigit_of_mem_toDigits (by decide) (by decide) h

theorem zeroPad_ne_empty (w n : ℕ) : (zeroPad w n).toList ≠ [] := by
  rw [zeroPad, String.toList_ofList]
  exact List.append_ne_nil_of_right_ne_nil _ Nat.toDigits_ne_nil

end Cmon
