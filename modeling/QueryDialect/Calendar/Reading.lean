import QueryDialect.Calendar.Instant
import QueryDialect.Text.Blank

set_option autoImplicit false

/-!
# Reading dates and times

A text is read from left to right, field by field. Blanks are skipped before a number; a year has
at most four digits, or any number of them after a sign; the other fields have at most two. Each
field is checked as it is read, so the first fault from the left is the one reported. The day of
the month and the bounds of the calendar are checked last.
-/
namespace QueryDialect.Calendar

inductive ReadFault where
  | invalid
  | tooShort
  | outOfRange
  | trailing
  deriving DecidableEq, Repr

def ReadFault.message : ReadFault → String
  | invalid => "input contains invalid characters"
  | tooShort => "premature end of input"
  | outOfRange => "input is out of range"
  | trailing => "trailing input"

def readMark (c : Char) : List Char → Except ReadFault (List Char)
  | [] => .error .tooShort
  | d :: rest => if d = c then .ok rest else .error .invalid

def readDigits (cs : List Char) : Except ReadFault (Nat × List Char) :=
  match Number.readNat? cs with
  | some read => .ok read
  | none => .error (if cs.isEmpty then .tooShort else .invalid)

def readDigitsUpTo (width : Nat) (cs : List Char) : Except ReadFault (Nat × List Char) := do
  let (n, rest) ← readDigits (cs.take width)
  return (n, rest ++ cs.drop width)

/-- A number of at most two digits that lies between `low` and `high`, after blanks. -/
def readField (low high : Nat) (cs : List Char) : Except ReadFault (Nat × List Char) := do
  let (n, rest) ← readDigitsUpTo 2 (Text.trimLeft cs)
  if low ≤ n ∧ n ≤ high then return (n, rest) else throw .outOfRange

def FitsYear (y : Int) : Prop := -2147483648 ≤ y ∧ y ≤ 2147483647

instance (y : Int) : Decidable (FitsYear y) := inferInstanceAs (Decidable (_ ∧ _))

def readSignedYear : List Char → Except ReadFault (Int × List Char)
  | '-' :: cs => (readDigits cs).map fun (n, rest) => (-(n : Int), rest)
  | '+' :: cs => (readDigits cs).map fun (n, rest) => ((n : Int), rest)
  | cs => (readDigitsUpTo 4 cs).map fun (n, rest) => ((n : Int), rest)

def readYear (cs : List Char) : Except ReadFault (Int × List Char) := do
  let (y, rest) ← readSignedYear (Text.trimLeft cs)
  if FitsYear y then return (y, rest) else throw .outOfRange

def readDateFields (cs : List Char) : Except ReadFault (Date × List Char) := do
  let (year, cs) ← readYear cs
  let cs ← readMark '-' cs
  let (month, cs) ← readField 1 12 cs
  let cs ← readMark '-' cs
  let (day, cs) ← readField 1 31 cs
  return (⟨year, month, day⟩, cs)

/-- An optional fraction of a second in nanoseconds; digits after the ninth are dropped. -/
def readFraction (cs : List Char) : Except ReadFault (Nat × List Char) :=
  match cs with
  | '.' :: cs => do
    let (_, rest) ← readDigits cs
    let ds := (Number.digitRun cs).1.take 9
    return (Number.ofDigits ds * Nat.pow 10 (9 - ds.length), rest)
  | cs => .ok (0, cs)

/-- The second of the day and its nanoseconds. Second 60 lies in the leap second. -/
def readClock (cs : List Char) : Except ReadFault ((Nat × Nat) × List Char) := do
  let (hour, cs) ← readField 0 23 cs
  let cs ← readMark ':' cs
  let (minute, cs) ← readField 0 59 cs
  let cs ← readMark ':' cs
  let (second, cs) ← readField 0 60 cs
  let (nano, cs) ← readFraction cs
  let whole := 3600 * hour + 60 * minute
  if second = 60 then return ((whole + 59, nano + 1000000000), cs)
  else return ((whole + second, nano), cs)

def checkDate (d : Date) : Except ReadFault Date :=
  if d.Exists ∧ firstYear ≤ d.year ∧ d.year ≤ lastYear then .ok d else .error .outOfRange

def readEnd (cs : List Char) : Except ReadFault Unit :=
  if cs.isEmpty then .ok () else .error .trailing

def readDate (cs : List Char) : Except ReadFault Date := do
  let (date, rest) ← readDateFields cs
  readEnd rest
  checkDate date

def readInstant (cs : List Char) : Except ReadFault Instant := do
  let (date, rest) ← readDateFields cs
  let rest ← readMark 'T' rest
  let ((second, nano), rest) ← readClock rest
  readEnd rest
  let date ← checkDate date
  return ⟨(Instant.ofDate date).second + second, nano⟩

inductive RangeEnd where
  | first
  | last
  deriving DecidableEq, Repr

/-- A date alone stands for its first instant at the start of a range, and for its last
millisecond at the end. -/
def RangeEnd.ofDate (e : RangeEnd) (d : Date) : Instant :=
  match e with
  | first => .ofDate d
  | last => (Instant.ofDay (d.dayNumber + 1)).previousMilli

/-- A bound is a date with a time, and otherwise a date. The fault is that of the date. -/
def readBound (e : RangeEnd) (s : String) : Except ReadFault Instant :=
  match readInstant s.toList with
  | .ok t => .ok t
  | .error _ => (readDate s.toList).map e.ofDate

end QueryDialect.Calendar
