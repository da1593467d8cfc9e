import QueryDialect.Proofs.Calendar.Buckets

set_option autoImplicit false

/-!
# The partition of the calendar

Truncation and steps describe one partition: two instants lie in the same bucket of a granularity just
when they agree on its calendar fields. A week has a year of its own, which is the year of its
Thursday, so that no week is cut by the turn of a year.
-/
namespace QueryDialect.Calendar

/-! ## Weeks of a year -/

def weekThursday (n : Int) : Int := n - daysSinceMonday n + 3

/-- The year of the week that holds a day. -/
def weekYear (n : Int) : Int := (Date.ofDayNumber (weekThursday n)).year

/-- The number of the week among those of its year, of which the first has the first Thursday. -/
def weekNumber (n : Int) : Int := (weekThursday n - daysBeforeYear (weekYear n)) / 7 + 1

/-- The fourth of January lies in the first week of its year, whatever its day of the week. -/
theorem week_fourthOfJanuary (y : Int) :
    weekYear (Date.mk y 1 4).dayNumber = y ∧ weekNumber (Date.mk y 1 4).dayNumber = 1 := by
  have day : (Date.mk y 1 4).dayNumber = daysBeforeYear y + 3 := rfl
  have length : daysBeforeYear y + 365 ≤ daysBeforeYear (y + 1) := by
    rw [daysBeforeYear_succ]
    unfold yearLength
    split_ifs <;> omega
  have near : daysBeforeYear y ≤ weekThursday (daysBeforeYear y + 3) ∧
      weekThursday (daysBeforeYear y + 3) < daysBeforeYear y + 7 := by
    unfold weekThursday daysSinceMonday
    omega
  have year : weekYear (daysBeforeYear y + 3) = y := yearOfDay_eq near.1 (by omega)
  rw [day]
  refine ⟨year, ?_⟩
  rw [weekNumber, year]
  omega

theorem weekThursday_mod (n : Int) : weekThursday n % 7 = 5 := by
  unfold weekThursday daysSinceMonday
  omega

theorem weekThursday_eq_iff (m n : Int) :
    weekThursday m = weekThursday n ↔ (m + 5) / 7 = (n + 5) / 7 := by
  unfold weekThursday daysSinceMonday
  omega

/-- Year and number tell the Thursdays apart, which are whole weeks from each other. -/
theorem week_eq_iff (m n : Int) : weekYear m = weekYear n ∧ weekNumber m = weekNumber n ↔
    (m + 5) / 7 = (n + 5) / 7 := by
  rw [← weekThursday_eq_iff]
  constructor
  · rintro ⟨year, number⟩
    have thursday := weekThursday_mod m
    have thursday' := weekThursday_mod n
    unfold weekNumber at number
    rw [year] at number
    omega
  · intro same
    unfold weekNumber weekYear
    rw [same]
    exact ⟨rfl, rfl⟩

example : weekYear (Date.mk 2021 1 3).dayNumber = 2020 ∧ weekNumber (Date.mk 2021 1 3).dayNumber = 53 := by
  decide

/-! ## Calendar fields -/

namespace Date

/-- The quarters of a year are numbered from one. -/
def quarter (d : Date) : Nat := (d.month - 1) / 3 + 1

end Date

namespace Instant

def hour (t : Instant) : Nat := t.secondOfDay / 3600

def minute (t : Instant) : Nat := t.secondOfDay / 60 % 60

/-- The second of the minute, which for a leap second is the last one. -/
def minuteSecond (t : Instant) : Nat := t.secondOfDay % 60

theorem date_eq_iff (s t : Instant) : s.date = t.date ↔ s.day = t.day := by
  constructor
  · intro same
    rw [← dayNumber_date, ← dayNumber_date, same]
  · intro same
    rw [date, date, same]

end Instant

/-- The instants agree on the calendar fields that the granularity keeps. -/
def SameFields (g : Granularity) (s t : Instant) : Prop :=
  match g with
  | .second =>
    s.date = t.date ∧ s.hour = t.hour ∧ s.minute = t.minute ∧ s.minuteSecond = t.minuteSecond
  | .minute => s.date = t.date ∧ s.hour = t.hour ∧ s.minute = t.minute
  | .hour => s.date = t.date ∧ s.hour = t.hour
  | .day => s.date = t.date
  | .week => weekYear s.day = weekYear t.day ∧ weekNumber s.day = weekNumber t.day
  | .month => s.date.year = t.date.year ∧ s.date.month = t.date.month
  | .quarter => s.date.year = t.date.year ∧ s.date.quarter = t.date.quarter
  | .year => s.date.year = t.date.year

theorem bucketIndex_eq_iff (g : Granularity) (s t : Instant) :
    bucketIndex g s = bucketIndex g t ↔ SameFields g s t := by
  obtain ⟨one, twelve, -⟩ := s.date_exists
  obtain ⟨one', twelve', -⟩ := t.date_exists
  cases g with
  | second | minute | hour =>
    simp only [bucketIndex, SameFields, Instant.date_eq_iff, Instant.day, Instant.hour,
      Instant.minute, Instant.minuteSecond, Instant.secondOfDay, daySeconds]
    omega
  | day => exact (Instant.date_eq_iff s t).symm
  | week => exact (week_eq_iff s.day t.day).symm
  | month | quarter | year =>
    simp only [bucketIndex, SameFields, Date.monthIndex, Date.quarter]
    omega

/-! ## Truncation and steps within the calendar -/

variable {g : Granularity} {s t b next : Instant}

theorem inCalendar?_eq_some : s.inCalendar? = some t ↔ t = s ∧ s.InCalendar := by
  unfold Instant.inCalendar?
  split_ifs with inside <;> simp [inside, eq_comm]

theorem bucketStart?_eq_some : bucketStart? g t = some b ↔
    b = boundary g (bucketIndex g t) ∧ (boundary g (bucketIndex g t)).InCalendar := by
  rw [bucketStart?, bucketStart_eq, inCalendar?_eq_some]

theorem nextBoundary?_boundary (g : Granularity) (k : Int) : nextBoundary? g (boundary g k) = some next ↔
    next = boundary g (k + 1) ∧ (boundary g (k + 1)).InCalendar := by
  rw [nextBoundary?, nextBoundary_boundary, inCalendar?_eq_some]

theorem bucketStart?_boundary {k : Int} (inside : (boundary g k).InCalendar) :
    bucketStart? g (boundary g k) = some (boundary g k) := by
  rw [bucketStart?_eq_some, bucketIndex_boundary]
  exact ⟨rfl, inside⟩

/-- The granularity cuts the calendar at its boundaries, and truncation and steps lead to the two
that enclose an instant. -/
structure Partitions (g : Granularity) : Prop where
  greatest (t b : Instant) (start : bucketStart? g t = some b) :
    IsGreatest {b | IsBoundary g b ∧ b ≤ t} b
  least (t b next : Instant) (start : bucketStart? g t = some b)
    (step : nextBoundary? g b = some next) : IsLeast {b | IsBoundary g b ∧ t < b} next
  idempotent (t b : Instant) (start : bucketStart? g t = some b) : bucketStart? g b = some b
  monotone (s t b c : Instant) (start : bucketStart? g s = some b)
    (start' : bucketStart? g t = some c) (le : s ≤ t) : b ≤ c
  fixed (b next : Instant) (boundary : IsBoundary g b) (step : nextBoundary? g b = some next) :
    bucketStart? g next = some next
  fields (s t b c : Instant) (start : bucketStart? g s = some b)
    (start' : bucketStart? g t = some c) : b = c ↔ SameFields g s t

theorem buckets_partition (g : Granularity) : Partitions g where
  greatest t b start := by
    obtain ⟨rfl, -⟩ := bucketStart?_eq_some.1 start
    rw [← bucketStart_eq]
    exact isGreatest_bucketStart g t
  least t b next start step := by
    obtain ⟨rfl, -⟩ := bucketStart?_eq_some.1 start
    obtain ⟨rfl, -⟩ := (nextBoundary?_boundary g _).1 step
    exact isLeast_boundary_after g t
  idempotent t b start := by
    obtain ⟨rfl, inside⟩ := bucketStart?_eq_some.1 start
    exact bucketStart?_boundary inside
  monotone s t b c start start' le := by
    obtain ⟨rfl, -⟩ := bucketStart?_eq_some.1 start
    obtain ⟨rfl, -⟩ := bucketStart?_eq_some.1 start'
    exact (boundary_strictMono g).monotone (bucketIndex_mono g le)
  fixed b next isBoundary step := by
    rw [isBoundary.eq_boundary] at step
    obtain ⟨rfl, inside⟩ := (nextBoundary?_boundary g _).1 step
    exact bucketStart?_boundary inside
  fields s t b c start start' := by
    obtain ⟨rfl, -⟩ := bucketStart?_eq_some.1 start
    obtain ⟨rfl, -⟩ := bucketStart?_eq_some.1 start'
    rw [(boundary_strictMono g).injective.eq_iff, bucketIndex_eq_iff]

/-- The leap second that ends 2016 and the first instant of 2017 fall on a Saturday and a Sunday, in
one week that belongs to 2016. -/
theorem buckets_partition_leapSecond :
    let leap : Instant := ⟨63650447999, 1500000000⟩
    let newYear : Instant := ⟨63650448000, 0⟩
    let monday : Instant := ⟨63649929600, 0⟩
    let nextMonday : Instant := ⟨63650534400, 0⟩
    bucketStart? .week leap = some monday ∧ bucketStart? .week newYear = some monday ∧
      nextBoundary? .week monday = some nextMonday ∧
      IsGreatest {b | IsBoundary .week b ∧ b ≤ leap} monday ∧
      IsLeast {b | IsBoundary .week b ∧ leap < b} nextMonday ∧
      bucketStart? .week monday = some monday ∧ bucketStart? .week nextMonday = some nextMonday ∧
      SameFields .week leap newYear := by
  intro leap newYear monday nextMonday
  have start : bucketStart? .week leap = some monday := by decide
  have start' : bucketStart? .week newYear = some monday := by decide
  have step : nextBoundary? .week monday = some nextMonday := by decide
  have partition := buckets_partition .week
  have greatest := partition.greatest leap monday start
  exact ⟨start, start', step, greatest, partition.least leap monday nextMonday start step,
    partition.idempotent leap monday start, partition.fixed monday nextMonday greatest.1.1 step,
    (partition.fields leap newYear monday monday start start').1 rfl⟩

end QueryDialect.Calendar
