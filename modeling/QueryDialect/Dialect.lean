import QueryDialect.Dialect.Form
import QueryDialect.Dialect.Like
import QueryDialect.Template

set_option autoImplicit false

/-!
# Dialects

A dialect is a record of the choices that an engine makes, and its operations render fragments by
them. The defaults of the fields are the base dialect.
-/
namespace QueryDialect

structure Dialect where
  name : String
  /-- Binds a text as a timestamp. -/
  castTimestamp : String → String := fun v => v ++ "::timestamptz"
  castDatetime : String → String := fun v => v ++ "::timestamp"
  zone : ZoneForm := .atTimeZone
  /-- The unit to which a granularity truncates. -/
  unit : Granularity → Except Error String := fun g => .ok g.name
  interval : IntervalForm := .unitInside
  series : SeriesForm := .valuesList
  /-- The seconds since the epoch of a time expression. -/
  epoch : String → String := fun now => "EXTRACT(EPOCH FROM " ++ now ++ ")"
  /-- The seconds before expiry at which a cached answer is renewed. -/
  renewalThreshold : Nat := 10
  /-- How often a cached answer is checked. -/
  every : Interval := .tenSeconds
  /-- Values to a sketch, sketches to a count, and values to a count, where supported. -/
  sketchInit : Option (String → String) := none
  sketchMerge : Option (String → String) := none
  countDistinct : Option (String → String) := none
  page : PageForm := .limitFirst
  functionTemplates : Templates := ∅
  like : LikeForm := .ignoringOperator
  cast : CastForm := .uncast

namespace Dialect

def timestampParam (d : Dialect) : String := d.castTimestamp placeholder

/-- A field in the time zone of the query, or as it is where the query has none. -/
def convertZone (d : Dialect) (c : Context) (field : String) : String :=
  match c.zone with
  | some zone => d.zone.convert field zone
  | none => field

def parseGranularity (s : String) : Except Error Granularity :=
  match Granularity.ofName? s with
  | some g => .ok g
  | none => .error (.unknownGranularity s)

def timeGroup (d : Dialect) (granularity dimension : String) : Except Error String := do
  let unit ← d.unit (← parseGranularity granularity)
  return s!"date_trunc('{unit}', {dimension})"

def parseInterval (s : String) : Except Error Interval :=
  match Interval.ofText? s with
  | some i => .ok i
  | none => .error (.invalidInterval s)

/-- A date moved by an interval, of which `operator` gives the direction. -/
def shift (d : Dialect) (operator date interval : String) : Except Error String :=
  (parseInterval interval).map fun i => date ++ " " ++ operator ++ " " ++ d.interval.text i

def subtractInterval (d : Dialect) (date interval : String) : Except Error String :=
  d.shift "-" date interval

def addInterval (d : Dialect) (date interval : String) : Except Error String :=
  d.shift "+" date interval

/-- No dialect can write a derived table without rows. -/
def seriesQuery (d : Dialect) (source : SeriesSource) : Except Error String := do
  let series ← source.series
  if series.isEmpty then throw (.emptySeries d.name) else return d.series.query series

def unixTimestamp (d : Dialect) (c : Context) : String := d.epoch c.now

/-- Applies a capability that a dialect may lack. -/
def capability (d : Dialect) (name : String) (render : Option (String → String)) (sql : String) :
    Except Error String :=
  match render with
  | some f => .ok (f sql)
  | none => .error (.unsupported d.name name)

def initSketch (d : Dialect) (sql : String) : Except Error String :=
  d.capability "approximate distinct sketch init" d.sketchInit sql

def mergeSketch (d : Dialect) (sql : String) : Except Error String :=
  d.capability "approximate distinct sketch merge" d.sketchMerge sql

def countDistinctApprox (d : Dialect) (sql : String) : Except Error String :=
  d.capability "approximate distinct count" d.countDistinct sql

def pageClauses (d : Dialect) (c : Context) : Except Error String := d.page.clauses c.page

def templates (d : Dialect) (base : Templates) : Except Error Templates :=
  base.withOverlay d.functionTemplates

def likeIgnoreCase (d : Dialect) (column : String) (negate : Bool) (param : String)
    (type : MatchType) : String :=
  (d.like.predicate column negate param type).text

def castParameter (d : Dialect) (f : Filter) : String := d.cast.parameter f.paramCast

end Dialect

end QueryDialect
