import QueryDialect.Calendar.Bucket
import QueryDialect.Proofs.Calendar.DayNumber

set_option autoImplicit false

/-!
# Boundaries of a granularity

A boundary is known by its calendar fields. The boundaries of a granularity are numbered by the
integers in ascending order, and the number of the last one not after an instant is the index of
its bucket. That one equivalence, `boundary_le_iff`, makes truncation the greatest boundary not
after an instant, and a step from a boundary the least boundary after it.
-/
namespace QueryDialect.Calendar

/-! ## The order of instants -/

namespace Instant

theorem le_antisymm {s t : Instant} (h : s ≤ t) (h' : t ≤ s) : s = t := by
  rw [le_def] at h h'
  cases s
  cases t
  simp only [mk.injEq] at *
  omega

instance : LinearOrder Instant where
  le_refl := le_refl
  le_trans _ _ _ := le_trans
  le_antisymm _ _ := le_antisymm
  le_total := le_total
  toDecidableLE := inferInstance
  toDecidableEq := inferInstance

theorem lt_def (s t : Instant) :
    s < t ↔ s.second < t.second ∨ s.second = t.second ∧ s.nano < t.nano := by
  rw [← not_le, le_def]
  omega

theorem whole_le_iff (s : Int) (t : Instant) : mk s 0 ≤ t ↔ s ≤ t.second := by
  rw [le_def]
  dsimp only
  omega

end Instant

/-! ## Boundaries by their calendar fields -/

/-- Whole seconds, minutes and hours; midnights, those of Mondays, and those of the first days of
months, quarters and years. -/
def IsBoundary (g : Granularity) (t : Instant) : Prop :=
  t.nano = 0 ∧
    match g with
    | .second => True
    | .minute => t.secondOfDay % 60 = 0
    | .hour => t.secondOfDay % 3600 = 0
    | .day => t.secondOfDay = 0
    | .week => t.secondOfDay = 0 ∧ daysSinceMonday t.day = 0
    | .month => t.secondOfDay = 0 ∧ t.date.day = 1
    | .quarter => t.secondOfDay = 0 ∧ t.date.day = 1 ∧ t.date.month ∈ [1, 4, 7, 10]
    | .year => t.secondOfDay = 0 ∧ t.date.day = 1 ∧ t.date.month = 1

/-! ## Boundaries by their number -/

def origin (g : Granularity) (k : Int) : Int :=
  match g with
  | .second => k
  | .minute => k * 60
  | .hour => k * 3600
  | .day => k * daySeconds
  | .week => (7 * k - 5) * daySeconds
  | .month => monthStart k * daySeconds
  | .quarter => monthStart (3 * k) * daySeconds
  | .year => monthStart (12 * k) * daySeconds

def boundary (g : Granularity) (k : Int) : Instant := ⟨origin g k, 0⟩

/-- The number of the bucket that holds an instant. -/
def bucketIndex (g : Granularity) (t : Instant) : Int :=
  match g with
  | .second => t.second
  | .minute => t.second / 60
  | .hour => t.second / 3600
  | .day => t.day
  | .week => (t.day + 5) / 7
  | .month => t.date.monthIndex
  | .quarter => t.date.monthIndex / 3
  | .year => t.date.monthIndex / 12

theorem midnight_le_iff (n s : Int) : n * daySeconds ≤ s ↔ n ≤ s / daySeconds := by
  unfold daySeconds
  omega

theorem origin_strictMono (g : Granularity) : StrictMono (origin g) := by
  intro j k h
  cases g with
  | second => exact h
  | minute => simp only [origin]; omega
  | hour => simp only [origin]; omega
  | day => simp only [origin, daySeconds]; omega
  | week => simp only [origin, daySeconds]; omega
  | month =>
    have := monthStart_strictMono h
    simp only [origin, daySeconds]
    omega
  | quarter =>
    have := monthStart_strictMono (show 3 * j < 3 * k by omega)
    simp only [origin, daySeconds]
    omega
  | year =>
    have := monthStart_strictMono (show 12 * j < 12 * k by omega)
    simp only [origin, daySeconds]
    omega

/-- The `k`-th boundary is not after an instant just when its bucket is not after that of the
instant. -/
theorem boundary_le_iff (g : Granularity) (k : Int) (t : Instant) :
    boundary g k ≤ t ↔ k ≤ bucketIndex g t := by
  rw [boundary, Instant.whole_le_iff]
  cases g with
  | second => rfl
  | minute => simp only [origin, bucketIndex]; omega
  | hour => simp only [origin, bucketIndex]; omega
  | day => exact midnight_le_iff k t.second
  | week =>
    simp only [origin, bucketIndex, midnight_le_iff, Instant.day]
    omega
  | month =>
    simp only [origin, bucketIndex, midnight_le_iff, Instant.date, Instant.day]
    exact monthStart_le_iff k _
  | quarter =>
    simp only [origin, bucketIndex, midnight_le_iff, Instant.date, Instant.day, monthStart_le_iff]
    omega
  | year =>
    simp only [origin, bucketIndex, midnight_le_iff, Instant.date, Instant.day, monthStart_le_iff]
    omega

theorem boundary_strictMono (g : Granularity) : StrictMono (boundary g) := by
  intro j k h
  exact (Instant.lt_def _ _).2 (.inl (origin_strictMono g h))

theorem lt_boundary_iff (g : Granularity) (k : Int) (t : Instant) :
    t < boundary g k ↔ bucketIndex g t < k := by
  rw [← not_le, boundary_le_iff, not_le]

theorem bucketIndex_boundary (g : Granularity) (k : Int) : bucketIndex g (boundary g k) = k := by
  refine le_antisymm ?_ ((boundary_le_iff g k _).1 (Instant.le_refl _))
  by_contra h
  have := (boundary_le_iff g (k + 1) (boundary g k)).2 (by omega)
  exact absurd this (not_le.2 (boundary_strictMono g (lt_add_one k)))

/-! ## Midnights and first days of months -/

namespace Instant

theorem day_ofDay (n : Int) : (ofDay n).day = n := by
  simp only [day, ofDay, daySeconds]
  omega

theorem secondOfDay_ofDay (n : Int) : (ofDay n).secondOfDay = 0 := by
  simp only [secondOfDay, ofDay, daySeconds]
  omega

theorem date_exists (t : Instant) : t.date.Exists := Date.ofDayNumber_exists _

theorem date_ofDay (n : Int) : (ofDay n).date = .ofDayNumber n := by rw [date, day_ofDay]

theorem date_ofDate {d : Date} (h : d.Exists) : (ofDate d).date = d := by
  rw [ofDate, date_ofDay, Date.ofDayNumber_dayNumber h]

theorem eq_ofDay {t : Instant} (whole : t.nano = 0) (midnight : t.secondOfDay = 0) :
    t = ofDay t.day := by
  cases t with
  | mk second nano =>
    simp only [secondOfDay, day, ofDay, daySeconds, mk.injEq] at *
    omega

end Instant

theorem dayNumber_date (t : Instant) : t.date.dayNumber = t.day := Date.dayNumber_ofDayNumber _

/-- The months counted to a first of the month lead back to it. -/
theorem day_eq_monthStart {t : Instant} (first : t.date.day = 1) :
    t.day = monthStart t.date.monthIndex := by
  have same : t.date.firstOfMonth = t.date := by
    rw [Date.firstOfMonth, ← first]
  rw [monthStart, Date.ofMonthIndex_monthIndex t.date_exists, same, dayNumber_date]

theorem date_monthStart (k : Int) : (Instant.ofDay (monthStart k)).date = .ofMonthIndex k :=
  Instant.date_ofDate (Date.ofMonthIndex_exists k)

theorem Date.monthsLater_ofMonthIndex (k : Int) (n : Nat) :
    (ofMonthIndex k).monthsLater n = ofMonthIndex (k + n) := by
  have total : 12 * (k / 12) + ((k % 12).toNat + 1 - 1 : Nat) + n = k + n := by omega
  have length := monthLength_pos (isLeapYear ((k + n) / 12)) (((k + n) % 12).toNat + 1)
  simp only [monthsLater, ofMonthIndex, total, mk.injEq, true_and]
  omega

/-! ## Truncation and steps -/

theorem bucketStart_eq (g : Granularity) (t : Instant) :
    bucketStart g t = boundary g (bucketIndex g t) := by
  obtain ⟨one, twelve, -⟩ := t.date_exists
  cases g with
  | second | minute | hour | day => rfl
  | week =>
    simp only [bucketStart, boundary, origin, bucketIndex, Instant.ofDay, daysSinceMonday,
      Instant.mk.injEq, and_true]
    congr 1
    omega
  | month =>
    change Instant.ofDate _ = Instant.ofDate (.ofMonthIndex t.date.monthIndex)
    rw [Date.ofMonthIndex_monthIndex t.date_exists]
  | quarter =>
    change Instant.ofDate _ = Instant.ofDate (.ofMonthIndex (3 * (t.date.monthIndex / 3)))
    congr 1
    simp only [Date.firstOfQuarter, Date.ofMonthIndex, Date.monthIndex, Date.mk.injEq, and_true]
    omega
  | year =>
    change Instant.ofDate _ = Instant.ofDate (.ofMonthIndex (12 * (t.date.monthIndex / 12)))
    congr 1
    simp only [Date.firstOfYear, Date.ofMonthIndex, Date.monthIndex, Date.mk.injEq, and_true]
    omega

theorem monthsLater_monthStart (k : Int) (n : Nat) :
    (Instant.ofDay (monthStart k)).monthsLater n = Instant.ofDay (monthStart (k + n)) := by
  rw [Instant.monthsLater, date_monthStart, Date.monthsLater_ofMonthIndex,
    Instant.secondOfDay_ofDay]
  simp only [Instant.ofDate, Instant.ofDay, monthStart, Int.natCast_zero, add_zero]

theorem nextBoundary_boundary (g : Granularity) (k : Int) :
    nextBoundary g (boundary g k) = boundary g (k + 1) := by
  cases g with
  | second => rfl
  | minute | hour | day | week =>
    simp only [nextBoundary, boundary, origin, Instant.secondsLater, daySeconds,
      Instant.mk.injEq, and_true]
    omega
  | month => exact monthsLater_monthStart k 1
  | quarter =>
    change (Instant.ofDay (monthStart (3 * k))).monthsLater 3 = _
    rw [monthsLater_monthStart, boundary, origin, mul_add]
    rfl
  | year =>
    change (Instant.ofDay (monthStart (12 * k))).monthsLater 12 = _
    rw [monthsLater_monthStart, boundary, origin, mul_add]
    rfl

/-! ## Boundaries by their fields are the numbered ones -/

theorem boundary_isBoundary (g : Granularity) (k : Int) : IsBoundary g (boundary g k) := by
  refine ⟨rfl, ?_⟩
  have month (j : Int) := date_monthStart j
  cases g with
  | second => trivial
  | minute | hour | day =>
    simp only [boundary, origin, Instant.secondOfDay, daySeconds]
    omega
  | week =>
    change (Instant.ofDay (7 * k - 5)).secondOfDay = 0 ∧
      daysSinceMonday (Instant.ofDay (7 * k - 5)).day = 0
    rw [Instant.secondOfDay_ofDay, Instant.day_ofDay, daysSinceMonday]
    omega
  | month =>
    change (Instant.ofDay (monthStart k)).secondOfDay = 0 ∧
      (Instant.ofDay (monthStart k)).date.day = 1
    rw [Instant.secondOfDay_ofDay, month]
    exact ⟨rfl, rfl⟩
  | quarter =>
    change (Instant.ofDay (monthStart (3 * k))).secondOfDay = 0 ∧
      (Instant.ofDay (monthStart (3 * k))).date.day = 1 ∧
        (Instant.ofDay (monthStart (3 * k))).date.month ∈ [1, 4, 7, 10]
    rw [Instant.secondOfDay_ofDay, month]
    refine ⟨rfl, rfl, ?_⟩
    simp only [Date.ofMonthIndex, List.mem_cons, List.not_mem_nil, or_false]
    omega
  | year =>
    change (Instant.ofDay (monthStart (12 * k))).secondOfDay = 0 ∧
      (Instant.ofDay (monthStart (12 * k))).date.day = 1 ∧
        (Instant.ofDay (monthStart (12 * k))).date.month = 1
    rw [Instant.secondOfDay_ofDay, month]
    refine ⟨rfl, rfl, ?_⟩
    simp only [Date.ofMonthIndex]
    omega

theorem IsBoundary.eq_boundary {g : Granularity} {t : Instant} (h : IsBoundary g t) :
    t = boundary g (bucketIndex g t) := by
  obtain ⟨whole, fields⟩ := h
  cases g with
  | second => cases t; exact congrArg _ whole
  | minute | hour =>
    cases t with
    | mk second nano =>
      simp only [boundary, origin, bucketIndex, Instant.secondOfDay, daySeconds,
        Instant.mk.injEq] at *
      omega
  | day => exact Instant.eq_ofDay whole fields
  | week =>
    have monday : t.day = 7 * ((t.day + 5) / 7) - 5 := by
      have := fields.2
      rw [daysSinceMonday] at this
      omega
    rw [Instant.eq_ofDay whole fields.1]
    change Instant.ofDay t.day = Instant.ofDay (7 * ((_ + 5) / 7) - 5)
    rw [Instant.day_ofDay, ← monday]
  | month =>
    change t = Instant.ofDay (monthStart t.date.monthIndex)
    rw [← day_eq_monthStart fields.2]
    exact Instant.eq_ofDay whole fields.1
  | quarter =>
    obtain ⟨midnight, first, quarter⟩ := fields
    have third : 3 * (t.date.monthIndex / 3) = t.date.monthIndex := by
      simp only [List.mem_cons, List.not_mem_nil, or_false] at quarter
      unfold Date.monthIndex
      omega
    change t = Instant.ofDay (monthStart (3 * (t.date.monthIndex / 3)))
    rw [third, ← day_eq_monthStart first]
    exact Instant.eq_ofDay whole midnight
  | year =>
    obtain ⟨midnight, first, january⟩ := fields
    have twelfth : 12 * (t.date.monthIndex / 12) = t.date.monthIndex := by
      unfold Date.monthIndex
      omega
    change t = Instant.ofDay (monthStart (12 * (t.date.monthIndex / 12)))
    rw [twelfth, ← day_eq_monthStart first]
    exact Instant.eq_ofDay whole midnight

theorem isBoundary_iff (g : Granularity) (t : Instant) :
    IsBoundary g t ↔ ∃ k, t = boundary g k :=
  ⟨fun h => ⟨_, h.eq_boundary⟩, fun ⟨k, h⟩ => h ▸ boundary_isBoundary g k⟩

/-- Truncation gives the last boundary that is not after the instant. -/
theorem isGreatest_bucketStart (g : Granularity) (t : Instant) :
    IsGreatest {b | IsBoundary g b ∧ b ≤ t} (bucketStart g t) := by
  rw [bucketStart_eq]
  refine ⟨⟨boundary_isBoundary g _, (boundary_le_iff g _ t).2 le_rfl⟩, ?_⟩
  rintro b ⟨hb, le⟩
  obtain ⟨k, rfl⟩ := (isBoundary_iff g b).1 hb
  exact (boundary_strictMono g).monotone ((boundary_le_iff g k t).1 le)

/-- The boundary after the bucket of an instant is the first one after the instant. -/
theorem isLeast_boundary_after (g : Granularity) (t : Instant) :
    IsLeast {b | IsBoundary g b ∧ t < b} (boundary g (bucketIndex g t + 1)) := by
  refine ⟨⟨boundary_isBoundary g _, (lt_boundary_iff g _ t).2 (lt_add_one _)⟩, ?_⟩
  rintro b ⟨hb, lt⟩
  obtain ⟨k, rfl⟩ := (isBoundary_iff g b).1 hb
  exact (boundary_strictMono g).monotone ((lt_boundary_iff g k t).1 lt)

end QueryDialect.Calendar
