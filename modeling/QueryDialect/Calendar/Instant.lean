import QueryDialect.Calendar.Date

set_option autoImplicit false

/-!
# Instants

An instant is a second, counted from the midnight that begins the year zero, and the nanoseconds
that have passed in it. A leap second belongs to the last second of its minute, whose nanoseconds
then run past a thousand million. The calendar is bounded: it begins with the year -262143 and
ends with the year 262142.
-/
namespace QueryDialect.Calendar

structure Instant where
  second : Int
  nano : Nat
  deriving DecidableEq, Repr

def firstYear : Int := -262143
def lastYear : Int := 262142

def firstDay : Int := (Date.mk firstYear 1 1).dayNumber
def lastDay : Int := (Date.mk lastYear 12 31).dayNumber

def daySeconds : Int := 86400

namespace Instant

def ofDay (n : Int) : Instant := ⟨n * daySeconds, 0⟩

def ofDate (d : Date) : Instant := ofDay d.dayNumber

def day (t : Instant) : Int := t.second / daySeconds

def date (t : Instant) : Date := .ofDayNumber t.day

def secondOfDay (t : Instant) : Nat := (t.second % daySeconds).toNat

/-- The earlier second comes first, then the fewer nanoseconds. -/
def Le (s t : Instant) : Prop := s.second < t.second ∨ s.second = t.second ∧ s.nano ≤ t.nano

instance : LE Instant := ⟨Le⟩

instance (s t : Instant) : Decidable (s ≤ t) := inferInstanceAs (Decidable (_ ∨ _))

def InCalendar (t : Instant) : Prop := firstDay ≤ t.day ∧ t.day ≤ lastDay

instance (t : Instant) : Decidable t.InCalendar := inferInstanceAs (Decidable (_ ∧ _))

/-- The last millisecond before a whole second. -/
def previousMilli (t : Instant) : Instant := ⟨t.second - 1, 999000000⟩

/-- Hours, minutes and seconds; a leap second is written 60. -/
def clockText (t : Instant) : String :=
  let s := t.secondOfDay
  Number.padded 2 (s / 3600) ++ ":" ++ Number.padded 2 (s / 60 % 60) ++ ":" ++
    Number.padded 2 (s % 60 + t.nano / 1000000000)

def text (t : Instant) : String :=
  t.date.text ++ "T" ++ t.clockText ++ "." ++
    Number.padded 3 (t.nano % 1000000000 / 1000000)

def plainText (t : Instant) : String := t.date.text ++ " " ++ t.clockText

theorem le_def (s t : Instant) :
    s ≤ t ↔ s.second < t.second ∨ s.second = t.second ∧ s.nano ≤ t.nano := Iff.rfl

theorem le_refl (t : Instant) : t ≤ t := by rw [le_def]; omega

theorem le_trans {r s t : Instant} (h : r ≤ s) (h' : s ≤ t) : r ≤ t := by
  rw [le_def] at *; omega

theorem le_total (s t : Instant) : s ≤ t ∨ t ≤ s := by
  simp only [le_def]; omega

end Instant

end QueryDialect.Calendar
