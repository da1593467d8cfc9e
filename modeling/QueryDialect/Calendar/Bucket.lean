import QueryDialect.Calendar.Instant
import QueryDialect.Granularity

set_option autoImplicit false

/-!
# Calendar buckets

A granularity cuts the calendar into buckets. `bucketStart` truncates an instant to the boundary at
or before it, and `nextBoundary` steps from a boundary to the following one. Both are plain
arithmetic on days and seconds; the checked forms refuse an answer outside the calendar.
-/
namespace QueryDialect.Calendar

def floorTo (k n : Int) : Int := n / k * k

def bucketStart (g : Granularity) (t : Instant) : Instant :=
  match g with
  | .second => ⟨t.second, 0⟩
  | .minute => ⟨floorTo 60 t.second, 0⟩
  | .hour => ⟨floorTo 3600 t.second, 0⟩
  | .day => .ofDay t.day
  | .week => .ofDay (t.day - daysSinceMonday t.day)
  | .month => .ofDate t.date.firstOfMonth
  | .quarter => .ofDate t.date.firstOfQuarter
  | .year => .ofDate t.date.firstOfYear

def Instant.monthsLater (t : Instant) (k : Nat) : Instant :=
  ⟨(Instant.ofDate (t.date.monthsLater k)).second + t.secondOfDay, t.nano⟩

def Instant.secondsLater (t : Instant) (k : Int) : Instant := ⟨t.second + k, t.nano⟩

/-- The instant one unit of the granularity later. -/
def nextBoundary (g : Granularity) (t : Instant) : Instant :=
  match g with
  | .second => t.secondsLater 1
  | .minute => t.secondsLater 60
  | .hour => t.secondsLater 3600
  | .day => t.secondsLater daySeconds
  | .week => t.secondsLater (7 * daySeconds)
  | .month => t.monthsLater 1
  | .quarter => t.monthsLater 3
  | .year => t.monthsLater 12

def Instant.inCalendar? (t : Instant) : Option Instant := if t.InCalendar then some t else none

def bucketStart? (g : Granularity) (t : Instant) : Option Instant := (bucketStart g t).inCalendar?

def nextBoundary? (g : Granularity) (t : Instant) : Option Instant := (nextBoundary g t).inCalendar?

/-- A bucket from its first instant to the last millisecond before the next bucket. -/
structure Bucket where
  first : Instant
  last : Instant
  deriving DecidableEq, Repr

def Bucket.between (start next : Instant) : Bucket := ⟨start, next.previousMilli⟩

def Bucket.texts (b : Bucket) : String × String := (b.first.text, b.last.text)

inductive SeriesFault where
  | tooMany
  | pastCalendar (start : Instant)
  deriving DecidableEq, Repr

/-- The buckets from the boundary `start` to the one that holds `last`, of which there may be at
most `cap`. -/
def bucketsFrom (g : Granularity) (last : Instant) :
    (cap : Nat) → (start : Instant) → Except SeriesFault (List Bucket)
  | 0, start => if start ≤ last then .error .tooMany else .ok []
  | cap + 1, start =>
    if start ≤ last then
      match nextBoundary? g start with
      | none => .error (.pastCalendar start)
      | some next => (bucketsFrom g last cap next).map (.between start next :: ·)
    else .ok []

end QueryDialect.Calendar
