import QueryDialect.Calendar.Bucket
import QueryDialect.Calendar.Reading
import QueryDialect.Document.Printer

set_option autoImplicit false

/-!
# Errors

The causes for which a request is refused, and their wording.
-/
namespace QueryDialect

/-- Why a settings file has no text. -/
inductive FileFault where
  | missing
  | directory
  | notText
  deriving DecidableEq, Repr

def FileFault.message : FileFault → String
  | missing => "No such file or directory (os error 2)"
  | directory => "Is a directory (os error 21)"
  | notText => "stream did not contain valid UTF-8"

inductive Error where
  | file (fault : FileFault)
  | malformedSettings
  | emptySeries (dialect : String)
  | tooManyBuckets (dimension : String) (granularity : Granularity) (cap : Nat)
  | unknownGranularity (name : String)
  | invalidInterval (text : String)
  | unsupportedMatch (name : String)
  | unsupported (dialect capability : String)
  | negativeOffset (value : Int)
  | offsetNotInteger (value : Document)
  | unreadableBound (text : String) (fault : Calendar.ReadFault)
  | reversedRange (first last : String)
  | pastCalendar (start : Calendar.Instant)
  /-- The first bucket would begin before the first day of the calendar. No request is refused for
  it: it is a fault of the arithmetic, which only the first week of the calendar can bring. -/
  | beforeCalendar (first : Calendar.Instant)
  | missingPlaceholder (name template : String)
  | unknownDialect (name : String)
  deriving DecidableEq, Repr

/-- The parts of the library that refuse a request, and the fault of none of them. -/
inductive ErrorKind where
  | file
  | settings
  | granularity
  | interval
  | matchType
  | capability
  | page
  | dateRange
  | template
  | dialect
  | fault
  deriving DecidableEq, Repr

def Error.kind : Error → ErrorKind
  | file _ => .file
  | malformedSettings | emptySeries _ | tooManyBuckets _ _ _ => .settings
  | unknownGranularity _ => .granularity
  | invalidInterval _ => .interval
  | unsupportedMatch _ => .matchType
  | unsupported _ _ => .capability
  | negativeOffset _ | offsetNotInteger _ => .page
  | unreadableBound _ _ | reversedRange _ _ | pastCalendar _ => .dateRange
  | beforeCalendar _ => .fault
  | missingPlaceholder _ _ => .template
  | unknownDialect _ => .dialect

/-- The wording of an error. -/
def Error.message : Error → String
  | file fault => "io error: " ++ fault.message
  | malformedSettings => "config error: failed to parse config"
  | emptySeries dialect => s!"config error: {dialect}: cannot render an empty time series"
  | tooManyBuckets dimension granularity cap =>
    "config error: time series for " ++ dimension ++ " by " ++ granularity.name ++ " exceeds " ++
      toString cap ++ " buckets"
  | unknownGranularity name =>
    s!"unknown granularity '{name}' (expected one of second, minute, hour, day, week, month, " ++
      "quarter, year)"
  | invalidInterval text =>
    s!"invalid interval '{text}': expected '<integer> <unit>', e.g. '2 minutes'"
  | unsupportedMatch name =>
    s!"unsupported like match type '{name}' (expected contains, starts or ends)"
  | unsupported dialect capability => s!"{dialect} dialect does not support {capability}"
  | negativeOffset value => s!"pagination error: offset must not be negative, got {value}"
  | offsetNotInteger value => "pagination error: offset " ++ value.compact ++ " is not an integer"
  | unreadableBound text fault =>
    "invalid date range: cannot parse " ++ text ++ ": " ++ fault.message
  | reversedRange first last =>
    s!"invalid date range: range start {first} is after range end {last}"
  | pastCalendar start => "invalid date range: " ++ start.plainText ++ " overflows the calendar"
  | beforeCalendar first => "the bucket of " ++ first.plainText ++ " begins before the calendar"
  | missingPlaceholder name template =>
    s!"template {name} must contain the args placeholder: {template}"
  | unknownDialect name => s!"unknown dialect '{name}'"

end QueryDialect
