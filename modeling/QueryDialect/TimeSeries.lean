import QueryDialect.Error

set_option autoImplicit false

/-!
# Time series

The buckets that a time dimension asks for, from the one that holds the start of its range to the
one that holds the end.
-/
namespace QueryDialect

def defaultMaxBuckets : Nat := 50000

structure TimeDimension where
  dimension : String
  granularity : Granularity
  first : String
  last : String
  maxBuckets : Nat := defaultMaxBuckets
  deriving DecidableEq, Repr

/-- The printed first and last instant of each bucket. -/
abbrev Series := List (String × String)

namespace TimeDimension

def readBound (e : Calendar.RangeEnd) (s : String) : Except Error Calendar.Instant :=
  (Calendar.readBound e s).mapError (Error.unreadableBound s)

/-- The wording of a fault names the dimension. -/
def fault (d : TimeDimension) : Calendar.SeriesFault → Error
  | .tooMany => .tooManyBuckets d.dimension d.granularity d.maxBuckets
  | .pastCalendar start => .pastCalendar start

def buckets (d : TimeDimension) : Except Error (List Calendar.Bucket) := do
  let first ← readBound .first d.first
  let last ← readBound .last d.last
  if first ≤ last then
    match Calendar.bucketStart? d.granularity first with
    | none => throw (.beforeCalendar first)
    | some start => (Calendar.bucketsFrom d.granularity last d.maxBuckets start).mapError d.fault
  else throw (.reversedRange d.first d.last)

def series (d : TimeDimension) : Except Error Series :=
  d.buckets.map (·.map Calendar.Bucket.texts)

def toDocument (d : TimeDimension) : Document :=
  .ofFields
    [("dimension", .string d.dimension), ("granularity", d.granularity.toDocument),
      ("date_range", .array [.string d.first, .string d.last]),
      ("max_buckets", .ofNat d.maxBuckets)]

def ofDocument? (d : Document) : Option TimeDimension := do
  let fields ← d.record? ["dimension", "granularity", "date_range", "max_buckets"] .refused
  let dimension ← Document.field? fields "dimension" Document.text?
  let granularity ← Document.field? fields "granularity" Granularity.ofDocument?
  let (first, last) ← Document.field? fields "date_range" Document.textPair?
  let maxBuckets ← Document.fieldOr fields "max_buckets" Document.word64? defaultMaxBuckets
  return { dimension, granularity, first, last, maxBuckets }

end TimeDimension

/-- Whatever can be asked for a series. -/
structure SeriesSource where
  series : Except Error Series

namespace SeriesSource

def dimension (d : TimeDimension) : SeriesSource := ⟨d.series⟩

/-- Pairs given as they are. -/
def pairs (series : Series) : SeriesSource := ⟨.ok series⟩

def ofPairs? (d : Document) : Option SeriesSource := (d.items? Document.textPair?).map pairs

end SeriesSource

end QueryDialect
