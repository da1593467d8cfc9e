import QueryDialect.Proofs.Calendar.Years
import QueryDialect.Proofs.TimeSeries

set_option autoImplicit false

/-!
# Ranges that end with a date

A date alone at the end of a range stands for its last whole millisecond. Its bucket is that of every
later instant of the day, so the series covers the day. But a start behind that millisecond is taken
for one after the day.
-/
namespace QueryDialect

open Calendar

namespace Calendar

/-! ## The end of a day -/

/-- In the last second of the date and behind its last whole millisecond. -/
def BehindLastMilli (d : Date) (t : Instant) : Prop :=
  t.day = d.dayNumber ∧ t.secondOfDay = 86399 ∧ 999000000 < t.nano

theorem last_lt_iff {d : Date} {t : Instant} (day : t.day ≤ d.dayNumber) :
    RangeEnd.last.ofDate d < t ↔ BehindLastMilli d t := by
  rw [Instant.lt_def]
  simp only [BehindLastMilli, RangeEnd.ofDate, Instant.ofDay, Instant.previousMilli, Instant.day,
    Instant.secondOfDay, daySeconds] at *
  omega

theorem bucketIndex_of_second (g : Granularity) {s t : Instant} (h : s.second = t.second) :
    bucketIndex g s = bucketIndex g t := by
  cases g <;> simp only [bucketIndex, Instant.date, Instant.day, h]

/-- No boundary lies between the last millisecond of a day and its end. -/
theorem bucketIndex_last (g : Granularity) {d : Date} {t : Instant} (day : t.day = d.dayNumber)
    (late : RangeEnd.last.ofDate d ≤ t) : bucketIndex g t = bucketIndex g (RangeEnd.last.ofDate d) := by
  refine bucketIndex_of_second g ?_
  rw [Instant.le_def] at late
  simp only [RangeEnd.ofDate, Instant.ofDay, Instant.previousMilli, Instant.day, daySeconds] at *
  omega

end Calendar

namespace TimeDimension

/-! ## Series that end with a date -/

/-- A start in the last second can be refused. Any other start gives, under a cap that is large
enough, a series whose last bucket holds the end of the day, leap second included, unless its week
begins before the calendar. -/
structure EndsWithDate (d : TimeDimension) (date : Date) (first : Instant) : Prop where
  refused_iff : d.series = .error (.reversedRange d.first d.last) ↔ BehindLastMilli date first
  covered (accepted : ¬ BehindLastMilli date first)
    (start : d.granularity = .week → (bucketStart d.granularity first).InCalendar) :
    ∃ needed rows b, (∀ cap, needed ≤ cap → { d with maxBuckets := cap }.series = .ok rows) ∧
      rows.getLast? = some b.texts ∧ IsBucket d.granularity b ∧
      ∀ t : Instant, t.day = date.dayNumber → RangeEnd.last.ofDate date ≤ t → b.Holds t

/-- With room for all its buckets, a range gives a series that ends with the bucket of its end. -/
theorem series_of_room {d : TimeDimension} {first last : Instant}
    (readFirst : Calendar.readBound .first d.first = .ok first)
    (readLast : Calendar.readBound .last d.last = .ok last) (ordered : first ≤ last)
    (start : (bucketStart d.granularity first).InCalendar)
    (next : (boundary d.granularity (bucketIndex d.granularity last + 1)).InCalendar) :
    ∃ needed rows, (∀ cap, needed ≤ cap → { d with maxBuckets := cap }.series = .ok rows) ∧
      rows.getLast? = some (bucket d.granularity (bucketIndex d.granularity last)).texts := by
  have mono := bucketIndex_mono d.granularity ordered
  obtain ⟨m, size⟩ := Int.eq_ofNat_of_zero_le (Int.sub_nonneg_of_le mono)
  have needed : bucketIndex d.granularity last + 1 =
      bucketIndex d.granularity first + (m + 1 : Nat) := by omega
  refine ⟨m + 1, (bucketRun d.granularity (bucketIndex d.granularity first) (m + 1)).map
    Bucket.texts, fun cap room => ?_, ?_⟩
  · exact Spans.series (d := { d with maxBuckets := cap })
      ⟨readFirst, readLast, ordered, needed, room, bucketStart_eq _ _ ▸ start, next⟩
  · rw [List.getLast?_map, bucketRun_getLast, Option.map_some,
      show bucketIndex d.granularity first + (m : Int) = bucketIndex d.granularity last by omega]

theorem series_endsWithDate (d : TimeDimension) (date : Date) (first : Instant)
    (exist : date.Exists) (low : firstYear ≤ date.year) (high : date.year < lastYear)
    (dateOnly : d.last = date.text) (readFirst : Calendar.readBound .first d.first = .ok first)
    (before : first.day ≤ date.dayNumber) : EndsWithDate d date first := by
  have readLast : Calendar.readBound .last d.last = .ok (RangeEnd.last.ofDate date) := by
    rw [dateOnly]
    exact readBound_dateText exist low high.le .last
  constructor
  · rw [← last_lt_iff before, ← buckets_reversed_iff readFirst readLast, series, map_eq_error]
  · intro accepted start
    have ordered := not_lt.1 ((last_lt_iff before).not.2 accepted)
    have sameDate : (RangeEnd.last.ofDate date).date = date := by
      rw [Instant.date, rangeEnd_ofDate_day, Date.ofDayNumber_dayNumber exist]
    have begins : (bucketStart d.granularity first).InCalendar := by
      by_cases week : d.granularity = .week
      · exact start week
      · exact bucketStart_inCalendar week (readBound_inCalendar readFirst)
    have next := boundary_after_inCalendar d.granularity (readBound_inCalendar readLast)
      (by rw [sameDate]; exact high)
    obtain ⟨needed, rows, found, final⟩ := series_of_room readFirst readLast ordered begins
      next
    refine ⟨needed, rows, _, found, final, (isBucket_iff _ _).2 ⟨_, rfl⟩, fun t day late => ?_⟩
    exact (bucket_holds_iff _ _ t).2 (bucketIndex_last _ day late)

theorem series_endsWithDate_leapDay :
    let d : TimeDimension := ⟨"d", .week, "2020-02-29T23:59:59.999", "2020-02-29", 1⟩
    let date : Date := ⟨2020, 2, 29⟩
    let first : Instant := ⟨63750239999, 999000000⟩
    date.Exists ∧ firstYear ≤ date.year ∧ date.year < lastYear ∧ d.last = date.text ∧
      Calendar.readBound .first d.first = .ok first ∧ first.day ≤ date.dayNumber ∧
      ¬ BehindLastMilli date first ∧ EndsWithDate d date first :=
  ⟨by decide, by decide, by decide, by rfl, by rfl, by decide,
    fun behind => absurd behind.2.2 (by decide),
    series_endsWithDate _ _ _ (by decide) (by decide) (by decide) (by rfl) (by rfl) (by decide)⟩

/-- Half a millisecond before the end of a day, a start is taken for one after the day. -/
theorem not_dateRange_accepted : ¬ ∀ (d : TimeDimension) (date : Date) (first : Instant),
    date.Exists → 0 ≤ date.year → date.year ≤ 9999 → d.last = date.text →
      Calendar.readBound .first d.first = .ok first → first.day ≤ date.dayNumber →
        d.series ≠ .error (.reversedRange d.first d.last) := by
  intro accepted
  refine accepted ⟨"d", .day, "2020-01-01T23:59:59.9995", "2020-01-01", 50000⟩ ⟨2020, 1, 1⟩
    ⟨63745142399, 999500000⟩ ?_ ?_ ?_ ?_ ?_ ?_ ?_
  · decide
  · decide
  · decide
  · rfl
  · rfl
  · decide
  · rfl

end TimeDimension

end QueryDialect
