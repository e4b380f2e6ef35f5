import Mathlib.Data.Rat.Floor
import Mathlib.Tactic.Linarith
import Cmon.Journal.Model
import Cmon.Search.Statements

/-!
# Journal — dates

The filters of the journal and the purge by age, which compare `tm1`, in local time, with SQLite's
`'now'`, in UTC.

* `selects_today`, `selects_thisMonth` and `purged_iff`: what they select and remove, by the UTC
  date and time.
* `localDates_iff`: it is what the local date and time say when UTC and local time do not differ
  for the row.
* `sameDay_iff`: when the UTC date is the local one.
-/

namespace Cmon

/-! ### Date functions -/

/-- The day of a julian day, counted from 1970-01-01. -/
def dayOfJulian (jd : Rat) : Int := ⌊jd + 1 / 2⌋ - 2440588

/-- `date(…)`, as year, month and day. -/
def sqlDate (jd : Rat) : Int × Int × Int := civilOfDays (dayOfJulian jd)

/-- `strftime('%Y%m', …)`. -/
def sqlYearMonth (jd : Rat) : Int × Int := ((sqlDate jd).1, (sqlDate jd).2.1)

/-- `strftime('%Y%W', …)`: the first week of a year begins on its first Monday. -/
def sqlYearWeek (jd : Rat) : Int × Int :=
  let day := dayOfJulian jd
  let year := (sqlDate jd).1
  (year, (day - daysOfCivil year 1 1 + 7 - (day + 3) % 7) / 7)

/-- The rows a filter selects, by its condition. -/
def JournalFilter.selects (p : Platform) (now : Int) (r : CallRow) : JournalFilter → Bool
  | .incoming => r.type = .incoming
  | .outgoing => r.type = .outgoing
  | .callsInAbsence => r.type = .incoming && r.res = .notreached
  | .allCalls => true
  | .today => (p.julianday r.tm1).any fun jd => sqlDate jd = sqlDate (p.julianNow now)
  | .thisMonth =>
      (p.julianday r.tm1).any fun jd => sqlYearMonth jd = sqlYearMonth (p.julianNow now)
  | .thisWeek => (p.julianday r.tm1).any fun jd => sqlYearWeek jd = sqlYearWeek (p.julianNow now)

/-- The julian day of a time in seconds since 1970-01-01, midnight. -/
def julianOf (x : Rat) : Rat := x / 86400 + 4881175 / 2

/-- The date of a time. -/
def dateOf (x : Rat) : Int × Int × Int := civilOfDays ⌊x / 86400⌋

/-- The month of a time, with its year. -/
def monthOf (x : Rat) : Int × Int := ((dateOf x).1, (dateOf x).2.1)

theorem dayOfJulian_julianOf (x : Rat) : dayOfJulian (julianOf x) = ⌊x / 86400⌋ := by
  have hsum : julianOf x + 1 / 2 = x / 86400 + (2440588 : Int) := by
    rw [julianOf]
    push_cast
    linarith
  rw [dayOfJulian, hsum, Int.floor_add_intCast]
  exact add_sub_cancel_right _ _

theorem sqlDate_julianOf (x : Rat) : sqlDate (julianOf x) = dateOf x := by
  rw [sqlDate, dayOfJulian_julianOf, dateOf]

theorem sqlYearMonth_julianOf (x : Rat) : sqlYearMonth (julianOf x) = monthOf x := by
  rw [sqlYearMonth, sqlDate_julianOf, monthOf]

/-! ### What is selected and what is removed -/

section Row
-- the row was written at the local time `t`, and `u` is the time of the clock, in UTC
variable {p : Platform} {now maxAge off t : Int} {u : Rat} {r : CallRow}

theorem selects_today (hr : p.julianday r.tm1 = some (julianOf t))
    (hn : p.julianNow now = julianOf u) :
    JournalFilter.today.selects p now r = true ↔ dateOf t = dateOf u := by
  simp [JournalFilter.selects, hr, hn, sqlDate_julianOf]

theorem selects_thisMonth (hr : p.julianday r.tm1 = some (julianOf t))
    (hn : p.julianNow now = julianOf u) :
    JournalFilter.thisMonth.selects p now r = true ↔ monthOf t = monthOf u := by
  simp [JournalFilter.selects, hr, hn, sqlYearMonth_julianOf]

theorem purged_iff (hr : p.julianday r.tm1 = some (julianOf t))
    (hn : p.julianNow now = julianOf u) {db : JournalDb} (hmem : r ∈ db.calls) :
    r ∉ (db.deleteByAge p now maxAge).calls ↔ t + maxAge * 86400 < u := by
  have hage : maxAge + julianOf t < julianOf u ↔ (t + maxAge * 86400 : Rat) < u := by
    rw [julianOf, julianOf]
    constructor <;> intro h <;> linarith
  rw [JournalDb.deleteByAge, List.mem_filter, and_iff_right hmem, hr, hn]
  simpa using hage

/-- The filters and the purge go by the local date and time. -/
structure LocalDates (p : Platform) (now maxAge : Int) (u : Rat) (off t : Int) (r : CallRow) :
    Prop where
  today : JournalFilter.today.selects p now r = true ↔ dateOf t = dateOf (u + off)
  thisMonth : JournalFilter.thisMonth.selects p now r = true ↔ monthOf t = monthOf (u + off)
  purged : ∀ db : JournalDb, r ∈ db.calls →
    (r ∉ (db.deleteByAge p now maxAge).calls ↔ t + maxAge * 86400 < u + off)

/-- UTC and local time do not differ for a row of the local time `t`: they have the same date, or
neither has the row's, and so for the month; and the row does not get too old between them. -/
structure NoDifference (maxAge : Int) (u : Rat) (off t : Int) : Prop where
  date : dateOf u = dateOf (u + off) ∨ dateOf t ≠ dateOf u ∧ dateOf t ≠ dateOf (u + off)
  month : monthOf u = monthOf (u + off) ∨ monthOf t ≠ monthOf u ∧ monthOf t ≠ monthOf (u + off)
  age : ¬ (u ≤ t + maxAge * 86400 ∧ t + maxAge * 86400 < u + off) ∧
    ¬ (u + off ≤ t + maxAge * 86400 ∧ t + maxAge * 86400 < u)

/-- To be equal to one value is to be equal to the other. -/
theorem eq_iff_eq_iff {α : Type*} {a b c : α} : (a = b ↔ a = c) ↔ b = c ∨ a ≠ b ∧ a ≠ c := by
  constructor
  · intro h
    by_cases hab : a = b
    · exact .inl (hab.symm.trans (h.mp hab))
    · exact .inr ⟨hab, fun hac => hab (h.mpr hac)⟩
  · rintro (rfl | ⟨hb, hc⟩)
    · exact Iff.rfl
    · exact iff_of_false hb hc

/-- **The filters and the purge go by the local date and time exactly when it does not differ from
UTC for the row.** -/
theorem localDates_iff (p : Platform) (now maxAge : Int) (u : Rat) (off t : Int) (r : CallRow)
    (hr : p.julianday r.tm1 = some (julianOf t)) (hn : p.julianNow now = julianOf u) :
    LocalDates p now maxAge u off t r ↔ NoDifference maxAge u off t := by
  have hage : (t + maxAge * 86400 < u ↔ t + maxAge * 86400 < u + off) ↔
      ¬ (u ≤ t + maxAge * 86400 ∧ t + maxAge * 86400 < u + off) ∧
        ¬ (u + off ≤ t + maxAge * 86400 ∧ t + maxAge * 86400 < u) := by
    simp only [not_and, ← not_le]
    tauto
  constructor
  · intro h
    refine ⟨eq_iff_eq_iff.mp ((selects_today hr hn).symm.trans h.today),
      eq_iff_eq_iff.mp ((selects_thisMonth hr hn).symm.trans h.thisMonth), hage.mp ?_⟩
    have hmem : r ∈ (⟨1, [r]⟩ : JournalDb).calls := .head _
    exact (purged_iff hr hn hmem).symm.trans (h.purged _ hmem)
  · intro h
    exact ⟨(selects_today hr hn).trans (eq_iff_eq_iff.mpr h.date),
      (selects_thisMonth hr hn).trans (eq_iff_eq_iff.mpr h.month),
      fun db hmem => (purged_iff hr hn hmem).trans (hage.mpr h.age)⟩

end Row

/-- **UTC and local time have one day as long as the offset does not lead out of it.** -/
theorem sameDay_iff (u : Rat) (off : Int) : ⌊u / 86400⌋ = ⌊(u + off) / 86400⌋ ↔
    0 ≤ u - ⌊u / 86400⌋ * 86400 + off ∧ u - ⌊u / 86400⌋ * 86400 + off < 86400 := by
  rw [eq_comm, Int.floor_eq_iff, le_div_iff₀ (by norm_num), div_lt_iff₀ (by norm_num)]
  constructor
  · rintro ⟨h₁, h₂⟩
    exact ⟨by linarith, by linarith⟩
  · rintro ⟨h₁, h₂⟩
    exact ⟨by linarith, by linarith⟩

/-! ### A machine and its offset -/

/-- A machine whose local time is `off` seconds ahead of UTC. -/
def localPlatform (off : Int) : Platform :=
  { utcPlatform with
    formatISOCombined := fun t => formatUtc (t + off)
    parseISOCombined := fun s => (parseUtc s).map (· - off) }

/-- The row of a call that comes in at the time `now` of a clock one hour behind local time. -/
def rowAt (now : Int) : CallRow :=
  JournalDb.rowOf (localPlatform 3600) 1 (.create 0 0 1 .incoming now)

/-- A call of today, at noon. -/
theorem localDates_noon :
    LocalDates (localPlatform 3600) 1357041600 365 1357041600 3600 1357045200
      (rowAt 1357041600) :=
  (localDates_iff _ _ _ _ _ _ _ (by decide +kernel) rfl).mpr
    ⟨.inl (by decide +kernel), .inl (by decide +kernel), by norm_num, by norm_num⟩

/-- A call half an hour after midnight is not of today, as it is not midnight in UTC yet. -/
theorem today_not_selected :
    JournalFilter.today.selects (localPlatform 3600) 1357083000 (rowAt 1357083000) = false ∧
      ¬ LocalDates (localPlatform 3600) 1357083000 365 1357083000 3600 1357086600
        (rowAt 1357083000) := by
  have hnot : JournalFilter.today.selects (localPlatform 3600) 1357083000 (rowAt 1357083000) =
      false := by decide +kernel
  refine ⟨hnot, fun h => ?_⟩
  have htoday := h.today
  rw [hnot] at htoday
  exact absurd (htoday.mpr (by norm_num)) Bool.false_ne_true

end Cmon
