import Mathlib.Data.List.DropRight
import Mathlib.Data.List.TakeWhile
import Mathlib.Data.Rat.Defs
import Mathlib.Algebra.Order.Ring.Rat

/-!
# Shared — the platform

What the program takes from its libraries and its preferences, as far as the modelled functions
use it.

* Text: `wxString` and `std::string` are both `String`.  `ToUTF8().data()` and `ToAscii().data()`
  hand a C string over, so the text ends at its first NUL (`toUTF8`, `toAscii`); `ToAscii` writes
  `_` for a character outside ASCII.
* Dates: a `wxDateTime` is `none` when it is invalid and otherwise a number of seconds;
  `wxDateTime::Now()` has that resolution.  How a date is written and read, and what SQLite's
  `julianday` makes of a text, depends on the machine (`Platform`).
* `GeneralPrefs`: the fields of `CGeneralPrefs` that the modelled functions read.

`utcPlatform` is the platform of a machine whose clock runs on UTC.
-/

namespace Cmon

/-! ### Text -/

/-- A C string: the characters before the first NUL. -/
def cString (s : String) : String := String.ofList (s.toList.takeWhile (· ≠ '\x00'))

/-- `s.ToUTF8().data()`, as the text it stands for. -/
def toUTF8 (s : String) : String := cString s

/-- `s.ToAscii().data()`. -/
def toAscii (s : String) : String :=
  cString (String.ofList (s.toList.map fun c => if c.val < 128 then c else '_'))

theorem toList_cString (s : String) :
    (cString s).toList = s.toList.takeWhile (· ≠ '\x00') := String.toList_ofList

theorem cString_cString (s : String) : cString (cString s) = cString s := by
  rw [cString, toList_cString, List.takeWhile_idem]
  rfl

/-- What was cut off stays cut off. -/
theorem toUTF8_toUTF8 (s : String) : toUTF8 (toUTF8 s) = toUTF8 s := cString_cString s

/-- A text without NUL is a C string. -/
theorem cString_of_noNul {s : String} (h : '\x00' ∉ s.toList) : cString s = s := by
  rw [cString, List.takeWhile_eq_self_iff.mpr, String.ofList_toList]
  intro c hc
  exact decide_eq_true fun e => h (e ▸ hc)

/-- A text in ASCII, without NUL, is written as it is. -/
theorem toAscii_of_ascii {s : String} (h : ∀ c ∈ s.toList, c.val < 128 ∧ c ≠ '\x00') :
    toAscii s = s := by
  have hid : (s.toList.map fun c => if c.val < 128 then c else '_') = s.toList :=
    (List.map_congr_left fun c hc => if_pos (h c hc).1).trans (List.map_id _)
  rw [toAscii, hid, String.ofList_toList, cString_of_noNul fun hc => (h _ hc).2 rfl]

/-- A text in ASCII stays as it is. -/
theorem toAscii_toAscii (s : String) : toAscii (toAscii s) = toAscii s := by
  have hid : ((toAscii s).toList.map fun c => if c.val < 128 then c else '_') =
      (toAscii s).toList := by
    refine (List.map_congr_left fun c hc => ?_).trans (List.map_id _)
    rw [toAscii, toList_cString, String.toList_ofList] at hc
    obtain ⟨c₀, -, rfl⟩ := List.mem_map.mp (List.takeWhile_subset _ hc)
    split <;> rfl
  rw [toAscii, hid, String.ofList_toList, toAscii, cString_cString]

/-- `s.StartsWith(p)`. -/
def startsWith (s p : String) : Bool := p.toList.isPrefixOf s.toList

/-- The white space that `Trim` takes away. -/
def isBlank (c : Char) : Bool := c = ' ' || ('\t' ≤ c && c ≤ '\r')

/-- `s.Trim(false)` and `s.Trim(true)`. -/
def trim (s : String) : String :=
  String.ofList ((s.toList.dropWhile isBlank).reverse.dropWhile isBlank).reverse

theorem toList_trim (s : String) :
    (trim s).toList = (s.toList.dropWhile isBlank).rdropWhile isBlank := String.toList_ofList

/-- A text without blanks around it stays as it is. -/
theorem trim_trim (s : String) : trim (trim s) = trim s := by
  have hpre : (s.toList.dropWhile isBlank).rdropWhile isBlank <+: s.toList.dropWhile isBlank :=
    List.rdropWhile_prefix _ _
  have hfront : ((s.toList.dropWhile isBlank).rdropWhile isBlank).dropWhile isBlank =
      (s.toList.dropWhile isBlank).rdropWhile isBlank := by
    rw [List.dropWhile_eq_self_iff]
    intro hl
    rw [hpre.getElem hl]
    exact List.dropWhile_eq_self_iff.mp (List.dropWhile_idempotent isBlank s.toList) _
  rw [trim, toList_trim, hfront]
  exact congrArg String.ofList (List.rdropWhile_idempotent isBlank (s.toList.dropWhile isBlank))

/-- A change of characters that keeps the blanks. -/
theorem trim_map {f : Char → Char} (hf : ∀ c, isBlank (f c) = isBlank c) (s : String) :
    trim (String.ofList (s.toList.map f)) = String.ofList ((trim s).toList.map f) := by
  have hcomp : isBlank ∘ f = isBlank := funext hf
  simp only [trim, String.toList_ofList, List.dropWhile_map, ← List.map_reverse, hcomp]

/-- A text without NUL and blanks around it is written without blanks around it. -/
theorem trim_toAscii_trim {val : String} (h : '\x00' ∉ val.toList) :
    trim (toAscii (trim val)) = toAscii (trim val) := by
  have hblank : ∀ c : Char, isBlank (if c.val < 128 then c else '_') = isBlank c := by
    intro c
    split
    · rfl
    · rename_i hc
      have hle : ¬ c ≤ '\r' := fun hle =>
        hc (UInt32.lt_of_le_of_lt (show c.val ≤ 13 from hle) (by decide))
      have hne : c ≠ ' ' := by rintro rfl; exact hc (by decide)
      simp [isBlank, hle, hne]
  have hnul : '\x00' ∉ (trim val).toList := by
    intro hc
    rw [trim, String.toList_ofList, List.mem_reverse] at hc
    exact h ((List.dropWhile_sublist _).subset
      (List.mem_reverse.mp ((List.dropWhile_sublist _).subset hc)))
  have hascii : toAscii (trim val) =
      String.ofList ((trim val).toList.map fun c => if c.val < 128 then c else '_') := by
    rw [toAscii, cString, String.toList_ofList, List.takeWhile_eq_self_iff.mpr]
    intro c hc
    obtain ⟨c₀, hc₀, rfl⟩ := List.mem_map.mp hc
    split
    · simpa using fun e : c₀ = '\x00' => hnul (e ▸ hc₀)
    · decide
  rw [hascii, trim_map hblank, trim_trim]

/-! ### Integers -/

/-- The numbers an `int` holds. -/
def InInt (n : Int) : Prop := -2147483648 ≤ n ∧ n < 2147483648

instance (n : Int) : Decidable (InInt n) :=
  decidable_of_iff (-2147483648 ≤ n ∧ n < 2147483648) Iff.rfl

/-- `(int) n`. -/
def toInt (n : Int) : Int := n.bmod 4294967296

/-- A number that an `int` holds is kept. -/
theorem toInt_of_inInt {n : Int} (h : InInt n) : toInt n = n :=
  Int.bmod_eq_of_le h.1 h.2

theorem toInt_toInt (n : Int) : toInt (toInt n) = toInt n := Int.bmod_bmod

/-- An `int` where the code compares it with a `size_t` of 32 bits. -/
def sizeT (n : Int) : Nat := (n % 2 ^ 32).toNat

/-! ### Dates -/

/-- What the machine's libraries decide: `wxDateTime::FormatISOCombined` and `ParseISOCombined`,
SQLite's `julianday` of a time string (`none`: NULL) and of `'now'` at a clock time, the class
`[[:digit:]]` of a `wxRegEx`, and what `atoi` makes of a number that no `int` holds. -/
structure Platform where
  formatISOCombined : Int → String
  parseISOCombined : String → Option Int
  julianday : String → Option Rat
  julianNow : Int → Rat
  isDigit : Char → Bool
  atoiOutside : String → Int

/-- The civil date of a day counted from 1970-01-01, as year, month and day. -/
def civilOfDays (z : Int) : Int × Int × Int :=
  let z := z + 719468
  let era := z / 146097
  let doe := z - era * 146097
  let yoe := (doe - doe / 1460 + doe / 36524 - doe / 146096) / 365
  let doy := doe - (365 * yoe + yoe / 4 - yoe / 100)
  let mp := (5 * doy + 2) / 153
  let m := if mp < 10 then mp + 3 else mp - 9
  (yoe + era * 400 + (if m ≤ 2 then 1 else 0), m, doy - (153 * mp + 2) / 5 + 1)

/-- The day counted from 1970-01-01 of a civil date. -/
def daysOfCivil (y m d : Int) : Int :=
  let y := if m ≤ 2 then y - 1 else y
  let era := y / 400
  let yoe := y - era * 400
  let doy := (153 * (m + (if m > 2 then -3 else 9)) + 2) / 5 + d - 1
  era * 146097 + (yoe * 365 + yoe / 4 - yoe / 100 + doy) - 719468

/-- The last `n` decimal digits of `x`. -/
def digits : Nat → Nat → List Char
  | 0, _ => []
  | n + 1, x => digits n (x / 10) ++ [Char.ofNat ('0'.toNat + x % 10)]

def readDigits (cs : List Char) : Option Nat :=
  cs.foldl (fun acc c => acc.bind fun n =>
    if '0' ≤ c ∧ c ≤ '9' then some (10 * n + (c.toNat - '0'.toNat)) else none) (some 0)

/-- `YYYY-MM-DDTHH:MM:SS`. -/
def formatUtc (t : Int) : String :=
  let (y, m, d) := civilOfDays (t / 86400)
  let s := (t % 86400).toNat
  String.ofList (digits 4 y.toNat ++ ['-'] ++ digits 2 m.toNat ++ ['-'] ++ digits 2 d.toNat ++
    ['T'] ++ digits 2 (s / 3600) ++ [':'] ++ digits 2 (s / 60 % 60) ++ [':'] ++ digits 2 (s % 60))

def parseUtc (s : String) : Option Int :=
  match s.toList with
  | [y₁, y₂, y₃, y₄, '-', m₁, m₂, '-', d₁, d₂, 'T', h₁, h₂, ':', n₁, n₂, ':', s₁, s₂] => do
      let y ← readDigits [y₁, y₂, y₃, y₄]
      let m ← readDigits [m₁, m₂]
      let d ← readDigits [d₁, d₂]
      let h ← readDigits [h₁, h₂]
      let n ← readDigits [n₁, n₂]
      let s ← readDigits [s₁, s₂]
      some (daysOfCivil y m d * 86400 + h * 3600 + n * 60 + s)
  | _ => none

/-- The julian day of a time in seconds since 1970-01-01, midnight. -/
def julianOfSeconds (t : Int) : Rat := t / 86400 + 4881175 / 2

/-- A machine whose clock runs on UTC, and whose `atoi` stops at the greatest `int`. -/
def utcPlatform : Platform where
  formatISOCombined := formatUtc
  parseISOCombined := parseUtc
  julianday s := (parseUtc s).map julianOfSeconds
  julianNow := julianOfSeconds
  isDigit := Char.isDigit
  atoiOutside s := if '-' ∈ s.toList then -2147483648 else 2147483647

example : formatUtc 1353274722 = "2012-11-18T21:38:42" := by decide
example : parseUtc "2012-11-18T21:38:42" = some 1353274722 := by decide

/-! ### Preferences -/

/-- The general preferences. -/
structure GeneralPrefs where
  cc : String
  ac : String
  addACIfShortLen : Bool
  localNrMaxLen : Int
  lac : String
  externalByLAC : Bool
  externalByLen : Bool
  internalNrLen : Int
  delJournalByAge : Bool
  maxJournalAge : Int
  delJournalByCount : Bool
  maxJournalCount : Int

/-- The preferences of a new installation, for the country `DE`. -/
def GeneralPrefs.initial : GeneralPrefs where
  cc := "DE"
  ac := ""
  addACIfShortLen := false
  localNrMaxLen := 0
  lac := ""
  externalByLAC := false
  externalByLen := false
  internalNrLen := 0
  delJournalByAge := false
  maxJournalAge := 365
  delJournalByCount := false
  maxJournalCount := 500

end Cmon
