import QueryDialect.Proofs.Calendar.LoopBounds
import QueryDialect.Proofs.Calendar.Years
import QueryDialect.Proofs.TimeSeries

set_option autoImplicit false

/-!
# Answered requests

A time dimension gives a series or is refused, unless a week is asked for that begins before the
calendar. On the way to the answer no instant outside the calendar is made: each step that would lead
beyond its last day is refused.
-/
namespace QueryDialect

open Calendar

namespace TimeDimension

variable {d : TimeDimension} {first last : Instant}

/-- A series, or a refusal for its cap or its date range. -/
def Answered (d : TimeDimension) : Prop :=
  (∃ rows, d.series = .ok rows) ∨
    ∃ e, d.series = .error e ∧ (e.kind = .settings ∨ e.kind = .dateRange)

/-- Weeks from a day before the first Monday of the calendar. -/
def BeforeFirstMonday (d : TimeDimension) : Prop :=
  d.granularity = .week ∧ ∃ first last, Calendar.readBound .first d.first = .ok first ∧
    Calendar.readBound .last d.last = .ok last ∧ first ≤ last ∧ first.day < firstMonday

/-- The loop begins in the calendar and comes to nothing outside it, and a step that would is refused
for the date range. -/
structure KeepsToCalendar (d : TimeDimension) (first last : Instant) : Prop where
  start : (bucketStart d.granularity first).InCalendar
  inside (p : Progress) :
    Reaches d.granularity last d.maxBuckets ⟨bucketStart d.granularity first, []⟩ p →
      Inside d.granularity p
  refused (p : Progress) :
    Reaches d.granularity last d.maxBuckets ⟨bucketStart d.granularity first, []⟩ p →
      p.current ≤ last → p.found.length < d.maxBuckets →
        ¬ (nextBoundary d.granularity p.current).InCalendar →
          ∃ e, d.series = .error e ∧ e.kind = .dateRange

/-! ## Where the loop begins -/

theorem start_inCalendar_iff (readFirst : Calendar.readBound .first d.first = .ok first)
    (readLast : Calendar.readBound .last d.last = .ok last) (ordered : first ≤ last) :
    (bucketStart d.granularity first).InCalendar ↔ ¬ BeforeFirstMonday d := by
  rw [bucketStart_inCalendar_iff (readBound_inCalendar readFirst)]
  refine not_congr (and_congr_right fun _ => ⟨fun early => ?_, ?_⟩)
  · exact ⟨first, last, readFirst, readLast, ordered, early⟩
  · rintro ⟨first', last', readFirst', -, -, early⟩
    rwa [Except.ok.inj (readFirst.symm.trans readFirst')]

theorem series_of_no_start (readFirst : Calendar.readBound .first d.first = .ok first)
    (readLast : Calendar.readBound .last d.last = .ok last) (ordered : first ≤ last)
    (outside : ¬ (bucketStart d.granularity first).InCalendar) :
    d.series = .error (.beforeCalendar first) := by
  rw [series, buckets_of_read readFirst readLast, if_pos ordered, bucketStart?,
    inCalendar?_none outside]
  rfl

theorem answered_of_start (readFirst : Calendar.readBound .first d.first = .ok first)
    (readLast : Calendar.readBound .last d.last = .ok last) (ordered : first ≤ last)
    (start : (bucketStart d.granularity first).InCalendar) : Answered d := by
  have outcome := buckets_by_count readFirst readLast ordered start
  split_ifs at outcome with many next
  · exact .inr ⟨_, by rw [series, outcome]; rfl, .inl rfl⟩
  · exact .inl ⟨_, by rw [series, outcome]; rfl⟩
  · exact .inr ⟨_, by rw [series, outcome]; rfl, .inr rfl⟩

theorem answered_of_refused_range {e : Error} (h : d.buckets = .error e)
    (kind : e.kind = .dateRange) : Answered d :=
  .inr ⟨e, map_eq_error.2 h, .inr kind⟩

theorem answered_of_not_beforeFirstMonday (h : ¬ BeforeFirstMonday d) : Answered d := by
  cases readFirst : Calendar.readBound .first d.first with
  | error fault =>
    exact answered_of_refused_range (buckets_of_unread_first readFirst) rfl
  | ok first =>
    cases readLast : Calendar.readBound .last d.last with
    | error fault =>
      exact answered_of_refused_range (buckets_of_unread_last readFirst readLast) rfl
    | ok last =>
      by_cases ordered : first ≤ last
      · exact answered_of_start readFirst readLast ordered
          ((start_inCalendar_iff readFirst readLast ordered).2 h)
      · exact answered_of_refused_range
          ((buckets_reversed_iff readFirst readLast).2 (not_le.1 ordered)) rfl

theorem not_answered_of_beforeFirstMonday (h : BeforeFirstMonday d) : ¬ Answered d := by
  obtain ⟨week, first, last, readFirst, readLast, ordered, early⟩ := h
  have outside := (start_inCalendar_iff readFirst readLast ordered).not.2
    (not_not.2 ⟨week, first, last, readFirst, readLast, ordered, early⟩)
  rw [Answered, series_of_no_start readFirst readLast ordered outside]
  rintro (⟨rows, ok⟩ | ⟨e, refused, kind⟩)
  · cases ok
  · obtain rfl := Except.error.inj refused
    rcases kind with kind | kind <;> cases kind

/-! ## What the loop comes to -/

theorem series_of_reached (readFirst : Calendar.readBound .first d.first = .ok first)
    (readLast : Calendar.readBound .last d.last = .ok last) (ordered : first ≤ last)
    (start : (bucketStart d.granularity first).InCalendar) {p : Progress}
    {answer : Except SeriesFault (List Bucket)}
    (run : Reaches d.granularity last d.maxBuckets ⟨bucketStart d.granularity first, []⟩ p)
    (stop : pass d.granularity last d.maxBuckets p = .inl answer) :
    d.series = (answer.mapError d.fault).map (·.map Bucket.texts) := by
  obtain ⟨n, found, -, ends, outcome⟩ := loop_ends_with_series readFirst readLast ordered start
  obtain ⟨m, rest⟩ := run.ends ends
  rw [outcome, rest.answer_eq stop]

theorem keepsToCalendar_of_start (readFirst : Calendar.readBound .first d.first = .ok first)
    (readLast : Calendar.readBound .last d.last = .ok last) (ordered : first ≤ last)
    (start : (bucketStart d.granularity first).InCalendar) : KeepsToCalendar d first last := by
  refine ⟨start, fun p run => (inside_start start).reaches run, ?_⟩
  intro p run needed room past
  have refused := series_of_reached readFirst readLast ordered start run
    (pass_past needed room past)
  exact ⟨.pastCalendar p.current, refused, rfl⟩

/-- Only weeks from before the first Monday of the calendar are left without an answer, and only they
make the loop begin outside the calendar. -/
theorem series_answered_iff (d : TimeDimension) : (Answered d ↔ ¬ BeforeFirstMonday d) ∧
    ∀ first last, Calendar.readBound .first d.first = .ok first →
      Calendar.readBound .last d.last = .ok last → first ≤ last →
        (KeepsToCalendar d first last ↔ ¬ BeforeFirstMonday d) := by
  refine ⟨⟨fun answered early => not_answered_of_beforeFirstMonday early answered,
    answered_of_not_beforeFirstMonday⟩, ?_⟩
  intro first last readFirst readLast ordered
  rw [← start_inCalendar_iff readFirst readLast ordered]
  exact ⟨fun keeps => keeps.start, keepsToCalendar_of_start readFirst readLast ordered⟩

theorem series_answered_iff_firstMonday :
    let d : TimeDimension := ⟨"d", .week, "-262143-01-05", "-262143-01-05T00:00:00", 1⟩
    let first : Instant := ⟨-8272433664000, 0⟩
    Calendar.readBound .first d.first = .ok first ∧ Calendar.readBound .last d.last = .ok first ∧
      first ≤ first ∧ ¬ BeforeFirstMonday d ∧ Answered d ∧ KeepsToCalendar d first first := by
  have readFirst : Calendar.readBound .first "-262143-01-05" = .ok ⟨-8272433664000, 0⟩ := by rfl
  have readLast : Calendar.readBound .last "-262143-01-05T00:00:00" =
      .ok ⟨-8272433664000, 0⟩ := by rfl
  obtain ⟨answered_iff, keeps_iff⟩ :=
    series_answered_iff ⟨"d", .week, "-262143-01-05", "-262143-01-05T00:00:00", 1⟩
  have keeps := keeps_iff _ _ readFirst readLast le_rfl
  have late := (start_inCalendar_iff
    (d := ⟨"d", .week, "-262143-01-05", "-262143-01-05T00:00:00", 1⟩) readFirst readLast le_rfl).1
    (by decide)
  exact ⟨readFirst, readLast, le_rfl, late, answered_iff.2 late, keeps.2 late⟩

/-- The week of the first day of the calendar begins before it. -/
theorem not_series_answered : ¬ ∀ d : TimeDimension, Answered d := by
  intro answered
  refine not_answered_of_beforeFirstMonday ⟨rfl, ⟨-8272434009600, 0⟩, ⟨-8272434009600, 0⟩, ?_, ?_,
    le_rfl, ?_⟩ (answered ⟨"d", .week, "-262143-01-01", "-262143-01-01T00:00:00", 50000⟩)
  · rfl
  · rfl
  · decide

end TimeDimension

end QueryDialect
