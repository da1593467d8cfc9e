import QueryDialect.Proofs.Calendar.Nesting
import QueryDialect.Proofs.Calendar.Printed

set_option autoImplicit false

/-!
# Turns of the year

The first day of a year is a boundary of every granularity but the week, and the calendar begins and
ends with one. So only a week can begin before the calendar, and only behind an instant of the last
year can a bucket reach beyond it.
-/
namespace QueryDialect.Calendar

theorem year_isBoundary {g : Granularity} (h : g ≠ .week) (k : Int) :
    IsBoundary g (boundary .year k) := by
  by_cases same : g = .year
  · subst same
    exact boundary_isBoundary .year k
  · have finer : g.FinerThan .year := by
      revert h same
      cases g <;> decide
    exact nests_of_finerThan finer _ (boundary_isBoundary .year k)

theorem boundary_year_day (k : Int) : (boundary .year k).day = daysBeforeYear k := by
  have year : 12 * k / 12 = k := by omega
  have january : 12 * k % 12 = 0 := by omega
  change (Instant.ofDay (monthStart (12 * k))).day = _
  rw [Instant.day_ofDay, monthStart, Date.ofMonthIndex, year, january]
  simp [Date.dayNumber, daysBeforeMonth]

theorem bucketIndex_year (t : Instant) : bucketIndex .year t = t.date.year := by
  obtain ⟨one, twelve, -⟩ := t.date_exists
  simp only [bucketIndex, Date.monthIndex]
  omega

/-! ## The end of the calendar -/

theorem day_lt_nextYear (t : Instant) : t.day < daysBeforeYear (t.date.year + 1) := by
  have bounds := Date.dayNumber_bounds t.date_exists
  have number := dayNumber_date t
  rw [daysBeforeYear_succ]
  unfold Date.dayNumber at number
  omega

/-- Each granularity has a boundary at the end of the year, or in the week that follows. -/
theorem boundary_after_day_le (g : Granularity) (t : Instant) :
    (boundary g (bucketIndex g t + 1)).day ≤ daysBeforeYear (t.date.year + 1) + 6 := by
  have day := day_lt_nextYear t
  by_cases week : g = .week
  · subst week
    simp only [boundary, origin, bucketIndex, Instant.day, daySeconds] at *
    omega
  · have least := isLeast_boundary_after g t
    have next := (isLeast_boundary_after .year t).1.2
    have le := day_mono (least.2 ⟨year_isBoundary week _, next⟩)
    rw [boundary_year_day, bucketIndex_year] at le
    omega

theorem boundary_after_inCalendar (g : Granularity) {t : Instant} (inside : t.InCalendar)
    (year : t.date.year < lastYear) : (boundary g (bucketIndex g t + 1)).InCalendar := by
  have after := day_mono (isLeast_boundary_after g t).1.2.le
  have before := boundary_after_day_le g t
  have mono := daysBeforeYear_strictMono.monotone (show t.date.year + 1 ≤ lastYear by omega)
  have final : daysBeforeYear lastYear + 6 ≤ lastDay := by decide
  exact ⟨inside.1.trans after, by omega⟩

/-! ## The start of the calendar -/

/-- The calendar begins with a year, and so with a boundary of each other granularity. -/
theorem bucketStart_inCalendar {g : Granularity} (h : g ≠ .week) {t : Instant}
    (inside : t.InCalendar) : (bucketStart g t).InCalendar := by
  have year : firstYear ≤ bucketIndex .year t := by
    rw [bucketIndex_year]
    exact (date_year_bounds inside).1
  have first : (boundary .year firstYear).InCalendar := by decide
  have greatest := isGreatest_bucketStart g t
  have begun := (boundary_le_iff .year firstYear t).2 year
  exact inCalendar_between (greatest.2 ⟨year_isBoundary h _, begun⟩) greatest.1.2 first inside

def firstMonday : Int := (Date.mk firstYear 1 5).dayNumber

/-- The calendar begins with a Thursday. -/
theorem firstMonday_eq : firstMonday = firstDay + 4 ∧ daysSinceMonday firstDay = 3 := by decide

theorem week_inCalendar_iff {t : Instant} (inside : t.InCalendar) :
    (bucketStart .week t).InCalendar ↔ firstMonday ≤ t.day := by
  obtain ⟨low, high⟩ := inside
  obtain ⟨monday, thursday⟩ := firstMonday_eq
  unfold daysSinceMonday at thursday
  simp only [Instant.InCalendar, bucketStart, Instant.day_ofDay, daysSinceMonday]
  omega

theorem bucketStart_inCalendar_iff {g : Granularity} {t : Instant} (inside : t.InCalendar) :
    (bucketStart g t).InCalendar ↔ ¬ (g = .week ∧ t.day < firstMonday) := by
  by_cases week : g = .week
  · subst week
    rw [week_inCalendar_iff inside]
    simp only [true_and, not_lt]
  · exact iff_of_true (bucketStart_inCalendar week inside) fun h => week h.1

end QueryDialect.Calendar
