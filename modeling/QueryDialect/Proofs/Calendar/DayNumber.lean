import QueryDialect.Calendar.Date
import Mathlib

set_option autoImplicit false

/-!
# Dates and day numbers

Day numbers and existing dates determine each other, and the days of a month lie between its first
day and the first day of the month after it. Months are counted from the January of the year zero.
-/
namespace QueryDialect.Calendar

/-! ## Years -/

def yearLength (leap : Bool) : Nat := if leap then 366 else 365

theorem daysBeforeYear_succ (y : Int) :
    daysBeforeYear (y + 1) = daysBeforeYear y + yearLength (isLeapYear y) := by
  have leap : isLeapYear y = true ↔ y % 4 = 0 ∧ (y % 100 ≠ 0 ∨ y % 400 = 0) := by
    simp [isLeapYear]
  unfold daysBeforeYear yearLength
  split_ifs with h
  · rw [leap] at h
    omega
  · rw [leap] at h
    omega

theorem daysBeforeYear_strictMono : StrictMono daysBeforeYear := by
  refine strictMono_int_of_lt_succ fun y => ?_
  rw [daysBeforeYear_succ]
  unfold yearLength
  split_ifs <;> omega

/-- The mean length of a year is off by one year at most. -/
theorem daysBeforeYear_estimate (n : Int) :
    daysBeforeYear (400 * n / 146097 - 1) ≤ n ∧ n < daysBeforeYear (400 * n / 146097 + 2) := by
  unfold daysBeforeYear
  omega

theorem yearOfDay_bounds (n : Int) :
    daysBeforeYear (yearOfDay n) ≤ n ∧ n < daysBeforeYear (yearOfDay n + 1) := by
  obtain ⟨low, high⟩ := daysBeforeYear_estimate n
  unfold yearOfDay
  dsimp only
  split_ifs with before after
  · exact ⟨low, by simpa using before⟩
  · exact ⟨after, by rw [add_assoc]; exact high⟩
  · exact ⟨not_lt.1 before, not_le.1 after⟩

/-- The only year whose days enclose `n` is the one found for it. -/
theorem yearOfDay_eq {n y : Int} (low : daysBeforeYear y ≤ n) (high : n < daysBeforeYear (y + 1)) :
    yearOfDay n = y := by
  obtain ⟨low', high'⟩ := yearOfDay_bounds n
  have h := daysBeforeYear_strictMono.lt_iff_lt.1 (low.trans_lt high')
  have h' := daysBeforeYear_strictMono.lt_iff_lt.1 (low'.trans_lt high)
  omega

/-! ## Months of a year -/

theorem monthLength_pos (leap : Bool) (m : Nat) : 0 < monthLength leap m := by
  unfold monthLength
  split <;> (try split_ifs) <;> omega

theorem daysBeforeMonth_succ (leap : Bool) {m : Nat} (h : 1 ≤ m) :
    daysBeforeMonth leap (m + 1) = daysBeforeMonth leap m + monthLength leap m := by
  cases m with
  | zero => omega
  | succ m => rfl

theorem daysBeforeMonth_mono (leap : Bool) : Monotone (daysBeforeMonth leap) := by
  refine monotone_nat_of_le_succ fun m => ?_
  cases m with
  | zero => exact le_rfl
  | succ m => exact Nat.le_add_right _ _

theorem daysBeforeMonth_year (leap : Bool) : daysBeforeMonth leap 13 = yearLength leap := by
  cases leap <;> rfl

theorem exists_month (leap : Bool) (n k : Nat) (h : n < daysBeforeMonth leap (k + 1)) :
    ∃ m, 1 ≤ m ∧ m ≤ k ∧ daysBeforeMonth leap m ≤ n ∧ n < daysBeforeMonth leap (m + 1) := by
  induction k with
  | zero => exact absurd h (Nat.not_lt_zero n)
  | succ k ih =>
    by_cases last : daysBeforeMonth leap (k + 1) ≤ n
    · exact ⟨k + 1, by omega, le_rfl, last, h⟩
    · obtain ⟨m, one, le, bounds⟩ := ih (by omega)
      exact ⟨m, one, by omega, bounds⟩

/-- Of the twelve months, exactly those up to the month `m` begin by the day. -/
theorem monthOfYearDay_eq (leap : Bool) {n m : Nat} (twelve : m ≤ 12)
    (low : daysBeforeMonth leap m ≤ n) (high : n < daysBeforeMonth leap (m + 1)) :
    monthOfYearDay leap n = m := by
  have split : List.range' 1 12 = List.range' 1 m ++ List.range' (1 + m) (12 - m) := by
    rw [List.range'_append_1, Nat.add_sub_cancel' twelve]
  have begun : ∀ i ∈ List.range' 1 m, decide (daysBeforeMonth leap i ≤ n) = true := by
    intro i hi
    rw [List.mem_range'_1] at hi
    exact decide_eq_true ((daysBeforeMonth_mono leap (by omega)).trans low)
  have ahead : ∀ i ∈ List.range' (1 + m) (12 - m), ¬ decide (daysBeforeMonth leap i ≤ n) = true := by
    intro i hi
    rw [List.mem_range'_1] at hi
    have := daysBeforeMonth_mono leap (show m + 1 ≤ i by omega)
    simp only [decide_eq_true_eq]
    omega
  unfold monthOfYearDay
  rw [split, List.filter_append, List.filter_eq_self.2 begun, List.filter_eq_nil_iff.2 ahead,
    List.append_nil, List.length_range']

/-! ## Dates -/

namespace Date

/-- A date lies in its year, as many days after the first of January as its month and day say. -/
theorem dayNumber_bounds {d : Date} (h : d.Exists) :
    daysBeforeMonth (isLeapYear d.year) d.month + (d.day - 1) < yearLength (isLeapYear d.year) := by
  obtain ⟨one, twelve, first, last⟩ := h
  have succ := daysBeforeMonth_succ (isLeapYear d.year) one
  have mono := daysBeforeMonth_mono (isLeapYear d.year) (show d.month + 1 ≤ 13 by omega)
  rw [daysBeforeMonth_year] at mono
  unfold Date.length at last
  omega

theorem ofDayNumber_dayNumber {d : Date} (h : d.Exists) : ofDayNumber d.dayNumber = d := by
  have bounds := dayNumber_bounds h
  obtain ⟨one, twelve, first, last⟩ := h
  have year : yearOfDay d.dayNumber = d.year := by
    refine yearOfDay_eq ?_ ?_
    · unfold dayNumber
      omega
    · rw [daysBeforeYear_succ]
      unfold dayNumber
      omega
  have passed : (d.dayNumber - daysBeforeYear d.year).toNat =
      daysBeforeMonth (isLeapYear d.year) d.month + (d.day - 1) := by
    unfold dayNumber
    omega
  have month : monthOfYearDay (isLeapYear d.year)
      (daysBeforeMonth (isLeapYear d.year) d.month + (d.day - 1)) = d.month := by
    refine monthOfYearDay_eq _ twelve (by omega) ?_
    rw [daysBeforeMonth_succ _ one]
    unfold Date.length at last
    omega
  unfold ofDayNumber
  dsimp only
  rw [year, passed, month]
  cases d
  simp only [mk.injEq, true_and]
  dsimp only at first
  omega

theorem ofDayNumber_spec (n : Int) : (ofDayNumber n).Exists ∧ (ofDayNumber n).dayNumber = n := by
  obtain ⟨low, high⟩ := yearOfDay_bounds n
  rw [daysBeforeYear_succ] at high
  obtain ⟨m, one, twelve, begun, ahead⟩ := exists_month (isLeapYear (yearOfDay n))
    (n - daysBeforeYear (yearOfDay n)).toNat 12 (by rw [daysBeforeMonth_year]; omega)
  have month := monthOfYearDay_eq _ twelve begun ahead
  rw [daysBeforeMonth_succ _ one] at ahead
  unfold ofDayNumber Exists dayNumber Date.length
  dsimp only
  rw [month]
  refine ⟨⟨one, twelve, by omega, by omega⟩, ?_⟩
  omega

theorem ofDayNumber_exists (n : Int) : (ofDayNumber n).Exists := (ofDayNumber_spec n).1

theorem dayNumber_ofDayNumber (n : Int) : (ofDayNumber n).dayNumber = n := (ofDayNumber_spec n).2

/-- The months from the January of the year zero to the month of the date. -/
def monthIndex (d : Date) : Int := 12 * d.year + (d.month - 1 : Nat)

def ofMonthIndex (k : Int) : Date := ⟨k / 12, (k % 12).toNat + 1, 1⟩

theorem ofMonthIndex_exists (k : Int) : (ofMonthIndex k).Exists := by
  have length := monthLength_pos (isLeapYear (k / 12)) ((k % 12).toNat + 1)
  unfold Exists ofMonthIndex Date.length
  dsimp only
  omega

theorem ofMonthIndex_monthIndex {d : Date} (h : d.Exists) :
    ofMonthIndex d.monthIndex = d.firstOfMonth := by
  obtain ⟨one, twelve, -⟩ := h
  unfold ofMonthIndex monthIndex firstOfMonth
  cases d
  simp only [mk.injEq, and_true]
  dsimp only at one twelve
  omega

end Date

/-! ## Months of the calendar -/

def monthStart (k : Int) : Int := (Date.ofMonthIndex k).dayNumber

theorem monthStart_succ (k : Int) :
    monthStart (k + 1) =
      monthStart k + monthLength (isLeapYear (k / 12)) ((k % 12).toNat + 1) := by
  have here : monthStart k =
      daysBeforeYear (k / 12) + daysBeforeMonth (isLeapYear (k / 12)) ((k % 12).toNat + 1) := by
    simp [monthStart, Date.ofMonthIndex, Date.dayNumber]
  have next : monthStart (k + 1) = daysBeforeYear ((k + 1) / 12) +
      daysBeforeMonth (isLeapYear ((k + 1) / 12)) (((k + 1) % 12).toNat + 1) := by
    simp [monthStart, Date.ofMonthIndex, Date.dayNumber]
  have length := daysBeforeMonth_succ (isLeapYear (k / 12)) (Nat.le_add_left 1 (k % 12).toNat)
  by_cases december : k % 12 = 11
  · have year : (k + 1) / 12 = k / 12 + 1 := by omega
    have january : ((k + 1) % 12).toNat = 0 := by omega
    have twelve : (k % 12).toNat = 11 := by omega
    rw [twelve, daysBeforeMonth_year] at length
    have new : daysBeforeMonth (isLeapYear (k / 12 + 1)) (0 + 1) = 0 := rfl
    rw [next, here, year, january, twelve, daysBeforeYear_succ, length, new]
    omega
  · have year : (k + 1) / 12 = k / 12 := by omega
    have month : ((k + 1) % 12).toNat = (k % 12).toNat + 1 := by omega
    rw [next, here, year, month, length]
    omega

theorem monthStart_strictMono : StrictMono monthStart := by
  refine strictMono_int_of_lt_succ fun k => ?_
  have length := monthLength_pos (isLeapYear (k / 12)) ((k % 12).toNat + 1)
  rw [monthStart_succ]
  omega

theorem monthStart_bounds (n : Int) :
    monthStart (Date.ofDayNumber n).monthIndex ≤ n ∧
      n < monthStart ((Date.ofDayNumber n).monthIndex + 1) := by
  obtain ⟨exist, number⟩ := Date.ofDayNumber_spec n
  have start : monthStart (Date.ofDayNumber n).monthIndex + ((Date.ofDayNumber n).day - 1 : Nat) = n := by
    conv_rhs => rw [← number]
    unfold monthStart
    rw [Date.ofMonthIndex_monthIndex exist]
    unfold Date.dayNumber Date.firstOfMonth
    dsimp only
    omega
  obtain ⟨one, twelve, first, last⟩ := exist
  have year : (Date.ofDayNumber n).monthIndex / 12 = (Date.ofDayNumber n).year := by
    unfold Date.monthIndex
    omega
  have month : ((Date.ofDayNumber n).monthIndex % 12).toNat + 1 = (Date.ofDayNumber n).month := by
    unfold Date.monthIndex
    omega
  rw [monthStart_succ, year, month]
  unfold Date.length at last
  omega

/-- A month has begun by a day just when it is the month of that day or an earlier one. -/
theorem monthStart_le_iff (k n : Int) :
    monthStart k ≤ n ↔ k ≤ (Date.ofDayNumber n).monthIndex := by
  obtain ⟨low, high⟩ := monthStart_bounds n
  constructor
  · intro h
    have := monthStart_strictMono.lt_iff_lt.1 (h.trans_lt high)
    omega
  · intro h
    exact (monthStart_strictMono.monotone h).trans low

end QueryDialect.Calendar
