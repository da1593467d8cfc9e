import QueryDialect.Proofs.TimeSeries

set_option autoImplicit false

/-!
# Ends of a range

An end of a range is read just when it is a lenient text, and a range with any other end is refused for
that end, the first before the last. The strict texts are not the only ones: a year of two digits is
taken for a year of the first century.
-/
namespace QueryDialect

open Calendar

/-- The texts that are read as an end of a range: every strict one, every lenient one, and no others.
Behind a date stands nothing but a time of day. -/
structure ReadsEnd (e : RangeEnd) : Prop where
  reads_iff (s : String) (t : Instant) :
    Calendar.readBound e s = .ok t ↔ BoundText .lenient e s.toList t
  strict (s : String) (t : Instant) (h : BoundText .strict e s.toList t) :
    Calendar.readBound e s = .ok t
  timed_iff (s : String) (t : Instant) (date rest : List Char) (d : Date)
    (text : s.toList = date ++ rest) (day : DateText .lenient date d) (inside : d.InCalendar)
    (stop : Number.Stops rest) (more : rest ≠ []) :
    Calendar.readBound e s = .ok t ↔ ∃ clock second nano, rest = 'T' :: clock ∧
      ClockText .lenient clock second nano ∧ t = ⟨(Instant.ofDate d).second + second, nano⟩

theorem readsEnd (e : RangeEnd) : ReadsEnd e where
  reads_iff _ _ := readBound_eq_ok_iff
  strict _ _ h := readBound_eq_ok_iff.2 h.weaken
  timed_iff _ _ _ _ _ text day inside stop more :=
    readBound_after_date_iff text day inside stop more

example : Calendar.readBound .last "2020-01-01T10:30" = .error .trailing := rfl

/-- The text is a bound of this style. -/
def IsBound (style : Style) (e : RangeEnd) (s : String) : Prop := ∃ t, BoundText style e s.toList t

theorem isBound_iff {e : RangeEnd} {s : String} :
    IsBound .lenient e s ↔ ∃ t, Calendar.readBound e s = .ok t := by
  simp only [IsBound, readBound_eq_ok_iff]

theorem not_isBound_iff {e : RangeEnd} {s : String} :
    ¬ IsBound .lenient e s ↔ ∃ fault, Calendar.readBound e s = .error fault := by
  rw [isBound_iff]
  cases Calendar.readBound e s <;> simp

namespace TimeDimension

variable {d : TimeDimension}

/-- Both ends of the range are bounds of this style. -/
def HasEnds (style : Style) (d : TimeDimension) : Prop :=
  IsBound style .first d.first ∧ IsBound style .last d.last

/-- The first end of the range that is no bound at all. -/
def IsUnreadable (d : TimeDimension) (text : String) : Prop :=
  (¬ IsBound .lenient .first d.first ∧ text = d.first) ∨
    IsBound .lenient .first d.first ∧ ¬ IsBound .lenient .last d.last ∧ text = d.last

theorem exists_isUnreadable_iff : (∃ text, IsUnreadable d text) ↔ ¬ HasEnds .lenient d := by
  unfold IsUnreadable HasEnds
  by_cases first : IsBound .lenient .first d.first <;>
    by_cases last : IsBound .lenient .last d.last <;> simp [first, last]

theorem buckets_unreadable_iff {text : String} :
    (∃ fault, d.buckets = .error (.unreadableBound text fault)) ↔ IsUnreadable d text := by
  rw [IsUnreadable, not_isBound_iff, not_isBound_iff, isBound_iff]
  cases readFirst : Calendar.readBound .first d.first with
  | error fault => simp [buckets_of_unread_first readFirst, eq_comm]
  | ok first =>
    cases readLast : Calendar.readBound .last d.last with
    | error fault => simp [buckets_of_unread_last readFirst readLast, eq_comm]
    | ok last =>
      refine iff_of_false ?_ (by simp)
      rintro ⟨fault, refused⟩
      obtain ⟨-, same⟩ | same | ⟨f, same⟩ := buckets_error_cases readFirst readLast refused
      · cases same
      · cases same
      · cases f <;> cases same

/-- A range is refused for the first of its ends that is no bound. Where only strict bounds should be
taken, this falls short just of the ranges that have bounds which are not all strict. -/
structure RefusesEnds (d : TimeDimension) : Prop where
  unreadable_iff (text : String) :
    (∃ fault, d.series = .error (.unreadableBound text fault)) ↔ IsUnreadable d text
  refused (h : ¬ HasEnds .lenient d) : ∃ e, d.series = .error e ∧ e.kind = .dateRange
  strict_iff : (¬ HasEnds .strict d → ∃ text fault, d.series = .error (.unreadableBound text fault)) ↔
    (HasEnds .lenient d → HasEnds .strict d)

theorem series_unreadable_iff (d : TimeDimension) (text : String) :
    (∃ fault, d.series = .error (.unreadableBound text fault)) ↔ IsUnreadable d text := by
  rw [← buckets_unreadable_iff]
  simp only [series, map_eq_error]

theorem refusesEnds (d : TimeDimension) : RefusesEnds d where
  unreadable_iff := series_unreadable_iff d
  refused h := by
    obtain ⟨text, unreadable⟩ := exists_isUnreadable_iff.2 h
    obtain ⟨fault, refused⟩ := (series_unreadable_iff d text).2 unreadable
    exact ⟨_, refused, rfl⟩
  strict_iff := by
    simp only [series_unreadable_iff, exists_isUnreadable_iff]
    exact not_imp_not

/-- The ends of a range are the lenient texts of dates and of dates with a time, and a range with any
other end is refused for it. -/
theorem series_reads_ends (d : TimeDimension) : (∀ e, ReadsEnd e) ∧ RefusesEnds d :=
  ⟨readsEnd, refusesEnds d⟩

/-- Short numbers are read as well, and the year 20 is meant by two digits. -/
theorem not_series_strict : ¬ ∀ (d : TimeDimension) (rows : Series), d.series = .ok rows →
    HasEnds .strict d := by
  intro strict
  have h : TimeDimension.series ⟨"d", .day, "20-1-1", "0020-01-01", 50000⟩ =
      .ok [("0020-01-01T00:00:00.000", "0020-01-01T23:59:59.999")] := by rfl
  obtain ⟨⟨t, text⟩, -⟩ := strict _ _ h
  exact absurd text.length_of_strict (by decide)

end TimeDimension

end QueryDialect
