import QueryDialect.Context
import QueryDialect.Filter
import QueryDialect.Interval
import QueryDialect.Text.Literal
import QueryDialect.TimeSeries

set_option autoImplicit false

/-!
# Forms of a fragment

For each fragment that engines write in several ways, the forms that exist and their texts. A
dialect picks one form of each.
-/
namespace QueryDialect

inductive ZoneForm where
  | atTimeZone
  | addedOffset
  | function
  deriving DecidableEq, Repr

/-- The offset is added back to the plain timestamp where the operator would change its type. -/
def ZoneForm.convert (form : ZoneForm) (field zone : String) : String :=
  let quoted := Text.literal zone
  match form with
  | atTimeZone => s!"({field}::timestamptz AT TIME ZONE {quoted})"
  | addedOffset =>
    let zoned := field ++ " AT TIME ZONE " ++ quoted
    s!"CAST(date_add('minute', timezone_minute({zoned}), " ++
      s!"date_add('hour', timezone_hour({zoned}), {field})) AS TIMESTAMP)"
  | function => s!"timezone({quoted}, {field}::timestamptz)"

inductive IntervalForm where
  | unitInside
  | unitOutside
  deriving DecidableEq, Repr

/-- A unit outside the quotes is a keyword, and keywords are singular. -/
def IntervalForm.text (form : IntervalForm) (i : Interval) : String :=
  match form with
  | unitInside => "interval '" ++ i.text ++ "'"
  | unitOutside => "interval '" ++ toString i.value ++ "' " ++ i.singularUnit

/-- How a derived table lists the rows of a series. -/
inductive SeriesForm where
  | valuesList
  | selectUnion
  deriving DecidableEq, Repr

namespace SeriesForm

def row (form : SeriesForm) (r : String × String) : String :=
  match form with
  | valuesList => "(" ++ Text.literal r.1 ++ ", " ++ Text.literal r.2 ++ ")"
  | selectUnion => "select " ++ Text.literal r.1 ++ " f, " ++ Text.literal r.2 ++ " t"

def separator : SeriesForm → String
  | valuesList => ", "
  | selectUnion => " UNION ALL "

def opening : SeriesForm → String
  | valuesList =>
    "SELECT date_from::timestamp AS \"date_from\", date_to::timestamp AS \"date_to\" FROM (VALUES "
  | selectUnion =>
    "SELECT from_iso8601_timestamp(dates.f) date_from, from_iso8601_timestamp(dates.t) date_to " ++
      "FROM ("

def closing : SeriesForm → String
  | valuesList => ") AS dates (date_from, date_to)"
  | selectUnion => ") AS dates"

/-- One row for each pair, in order. -/
def query (form : SeriesForm) (series : Series) : String :=
  form.opening ++ form.separator.intercalate (series.map form.row) ++ form.closing

end SeriesForm

inductive PageForm where
  | limitFirst
  | offsetFirst
  deriving DecidableEq, Repr

def PageForm.clauses (form : PageForm) (p : Page) : Except Error String :=
  match form with
  | limitFirst => p.offsetClause.map (p.limitClause ++ ·)
  | offsetFirst => p.offsetClause.map (· ++ p.limitClause)

/-- How a bound parameter is cast to the type of its filter. -/
inductive CastForm where
  | uncast
  | suffix
  | function
  deriving DecidableEq, Repr

/-- The positional mark that a parameter is bound to. -/
def placeholder : String := "?"

def CastForm.parameter (form : CastForm) (c : ParamCast) : String :=
  match form, c with
  | uncast, _ | _, .none => placeholder
  | suffix, .boolean => placeholder ++ "::boolean"
  | suffix, .numeric => placeholder ++ "::numeric"
  | function, .boolean => "CAST(" ++ placeholder ++ " AS BOOLEAN)"
  | function, .numeric => "CAST(" ++ placeholder ++ " AS DOUBLE)"

end QueryDialect
