import QueryDialect.Proofs.Calendar.BoundText
import QueryDialect.Proofs.Calendar.BucketLoop

set_option autoImplicit false

/-!
# Bounds that were read lie in the calendar
-/
namespace QueryDialect.Calendar

theorem firstDay_eq : firstDay = daysBeforeYear firstYear := by decide

theorem lastDay_eq : lastDay + 1 = daysBeforeYear (lastYear + 1) := by decide

theorem dayNumber_inCalendar {d : Date} (exist : d.Exists) (low : firstYear ≤ d.year)
    (high : d.year ≤ lastYear) : firstDay ≤ d.dayNumber ∧ d.dayNumber ≤ lastDay := by
  have bounds := Date.dayNumber_bounds exist
  have begins := daysBeforeYear_strictMono.monotone low
  have ends := daysBeforeYear_strictMono.monotone (show d.year + 1 ≤ lastYear + 1 by omega)
  rw [daysBeforeYear_succ, ← lastDay_eq] at ends
  rw [firstDay_eq]
  unfold Date.dayNumber
  omega

/-- A time of day, a leap second included, belongs to one of the seconds of a day. -/
theorem ClockText.second_lt {style : Style} {cs : List Char} {second nano : Nat}
    (h : ClockText style cs second nano) : second < 86400 := by
  cases h
  omega

theorem ofDay_add_inCalendar {n : Int} {s nano : Nat} (low : firstDay ≤ n) (high : n ≤ lastDay)
    (h : s < 86400) : (Instant.mk ((Instant.ofDay n).second + s) nano).InCalendar := by
  have day : (Instant.mk ((Instant.ofDay n).second + s) nano).day = n := by
    simp only [Instant.day, Instant.ofDay, daySeconds]
    omega
  rw [Instant.InCalendar, day]
  exact ⟨low, high⟩

theorem rangeEnd_ofDate_day (e : RangeEnd) (d : Date) : (e.ofDate d).day = d.dayNumber := by
  cases e with
  | first => exact Instant.day_ofDay _
  | last =>
    simp only [RangeEnd.ofDate, Instant.previousMilli, Instant.ofDay, Instant.day, daySeconds]
    omega

theorem InstantText.inCalendar {style : Style} {cs : List Char} {t : Instant}
    (h : InstantText style cs t) : t.InCalendar := by
  obtain ⟨-, inside, clock⟩ := h
  obtain ⟨low, high⟩ := dayNumber_inCalendar inside.exist inside.low inside.high
  exact ofDay_add_inCalendar low high clock.second_lt

theorem readBound_inCalendar {e : RangeEnd} {s : String} {t : Instant}
    (h : readBound e s = .ok t) : t.InCalendar := by
  cases readBound_eq_ok_iff.1 h with
  | date day inside =>
    rw [Instant.InCalendar, rangeEnd_ofDate_day]
    exact dayNumber_inCalendar inside.exist inside.low inside.high
  | instant time => exact time.inCalendar

end QueryDialect.Calendar
