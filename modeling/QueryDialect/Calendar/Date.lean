import QueryDialect.Number.Whole

set_option autoImplicit false

/-!
# Calendar dates

Dates of the proleptic Gregorian calendar, with a year zero and negative years before it. A date
and its day number, counted from the first of January of the year zero, determine each other.
-/
namespace QueryDialect.Calendar

structure Date where
  year : Int
  month : Nat
  day : Nat
  deriving DecidableEq, Repr

def isLeapYear (y : Int) : Bool := y % 4 == 0 && (y % 100 != 0 || y % 400 == 0)

def monthLength (leap : Bool) : Nat → Nat
  | 2 => if leap then 29 else 28
  | 4 | 6 | 9 | 11 => 30
  | _ => 31

def daysBeforeMonth (leap : Bool) : Nat → Nat
  | 0 | 1 => 0
  | m + 1 => daysBeforeMonth leap m + monthLength leap m

/-- The days between the first of January of the years zero and `y`. -/
def daysBeforeYear (y : Int) : Int := 365 * y + (y + 3) / 4 - (y + 99) / 100 + (y + 399) / 400

/-- The year that holds a day. The mean length of a year misses it by one year at most. -/
def yearOfDay (n : Int) : Int :=
  let y := 400 * n / 146097
  if n < daysBeforeYear y then y - 1 else if daysBeforeYear (y + 1) ≤ n then y + 1 else y

/-- The month that holds the day of the year that `n` days precede. -/
def monthOfYearDay (leap : Bool) (n : Nat) : Nat :=
  ((List.range' 1 12).filter fun m => daysBeforeMonth leap m ≤ n).length

namespace Date

def length (d : Date) : Nat := monthLength (isLeapYear d.year) d.month

def Exists (d : Date) : Prop := 1 ≤ d.month ∧ d.month ≤ 12 ∧ 1 ≤ d.day ∧ d.day ≤ d.length

instance (d : Date) : Decidable d.Exists := inferInstanceAs (Decidable (_ ∧ _))

def dayNumber (d : Date) : Int :=
  daysBeforeYear d.year + (daysBeforeMonth (isLeapYear d.year) d.month + (d.day - 1) : Nat)

def ofDayNumber (n : Int) : Date :=
  let y := yearOfDay n
  let leap := isLeapYear y
  let passed := (n - daysBeforeYear y).toNat
  let m := monthOfYearDay leap passed
  ⟨y, m, passed - daysBeforeMonth leap m + 1⟩

def firstOfMonth (d : Date) : Date := { d with day := 1 }

def firstOfQuarter (d : Date) : Date := ⟨d.year, (d.month - 1) / 3 * 3 + 1, 1⟩

def firstOfYear (d : Date) : Date := ⟨d.year, 1, 1⟩

/-- The same day `k` months later, or the last of that month if it is shorter. -/
def monthsLater (d : Date) (k : Nat) : Date :=
  let total := 12 * d.year + (d.month - 1 : Nat) + k
  let year := total / 12
  let month := (total % 12).toNat + 1
  ⟨year, month, min d.day (monthLength (isLeapYear year) month)⟩

/-- Years from 0 to 9999 have four digits; others have a sign and at least four. -/
def yearText (y : Int) : String :=
  if 0 ≤ y ∧ y ≤ 9999 then Number.padded 4 y.toNat
  else (if y < 0 then "-" else "+") ++ Number.padded 4 y.natAbs

def text (d : Date) : String :=
  yearText d.year ++ "-" ++ Number.padded 2 d.month ++ "-" ++ Number.padded 2 d.day

end Date

/-- Days since the Monday of the week that holds a day; the day number zero is a Saturday. -/
def daysSinceMonday (n : Int) : Int := (n + 5) % 7

end QueryDialect.Calendar
