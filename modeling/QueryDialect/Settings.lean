import QueryDialect.Dialect.Engine
import QueryDialect.Refresh
import QueryDialect.Toml.Text

set_option autoImplicit false

/-!
# Settings

Settings are defaults for all dialects and one override for any of them. They come in sections, and
an override replaces the sections that it has as a whole. An override is kept under the name of its
dialect, and found by that name or by another name of the same engine. A record of a settings text
that is given as an array may be longer than its fields.
-/
namespace QueryDialect

/-- The engine that queries are written for, and the time zone that they are converted to. -/
structure QuerySettings where
  engine : String := "postgres"
  timezone : Option String := none
  deriving DecidableEq, Repr

namespace QuerySettings

def toDocument (q : QuerySettings) : Document :=
  .ofFields [("db_type", .string q.engine), ("timezone", .ofOption .string q.timezone)]

def ofDocument? (d : Document) : Option QuerySettings := do
  let fields ← d.record? ["db_type", "timezone"] .ignored
  let engine ← Document.fieldOr fields "db_type" Document.text? "postgres"
  let timezone ← Document.fieldOr fields "timezone" (Document.optional? Document.text?) none
  return { engine, timezone }

end QuerySettings

structure SeriesSettings where
  maxBuckets : Nat := defaultMaxBuckets
  deriving DecidableEq, Repr

namespace SeriesSettings

def toDocument (s : SeriesSettings) : Document := .ofFields [("max_buckets", .ofNat s.maxBuckets)]

def ofDocument? (d : Document) : Option SeriesSettings := do
  let fields ← d.record? ["max_buckets"] .ignored
  let maxBuckets ← Document.fieldOr fields "max_buckets" Document.word64? defaultMaxBuckets
  return { maxBuckets }

end SeriesSettings

def sectionNames : List String := ["query", "time_series", "refresh"]

/-- Every section. -/
structure Profile where
  query : QuerySettings := {}
  series : SeriesSettings := {}
  refresh : RefreshSettings := {}
  deriving DecidableEq, Repr

/-- Some of the sections. -/
structure Override where
  query : Option QuerySettings := none
  series : Option SeriesSettings := none
  refresh : Option RefreshSettings := none
  deriving DecidableEq, Repr

namespace Profile

/-- A section that an override has replaces the one of the profile. -/
def overriddenBy (p : Profile) (o : Override) : Profile :=
  { query := o.query.getD p.query
    series := o.series.getD p.series
    refresh := o.refresh.getD p.refresh }

def context (p : Profile) : Context := { timezone := p.query.timezone }

/-- A time dimension under the configured cap. -/
def timeDimension (p : Profile) (dimension : String) (granularity : Granularity)
    (first last : String) : TimeDimension :=
  { dimension, granularity, first, last, maxBuckets := p.series.maxBuckets }

def refreshPolicy (p : Profile) (d : Dialect) : Except Error RefreshPolicy :=
  RefreshPolicy.resolve (some p.refresh) d

def toDocument (p : Profile) : Document :=
  .ofFields
    [("query", p.query.toDocument), ("time_series", p.series.toDocument),
      ("refresh", p.refresh.toDocument)]

def ofDocument? (d : Document) : Option Profile := do
  let fields ← d.record? sectionNames .ignored
  let query ← Document.fieldOr fields "query" QuerySettings.ofDocument? {}
  let series ← Document.fieldOr fields "time_series" SeriesSettings.ofDocument? {}
  let refresh ← Document.fieldOr fields "refresh" (RefreshSettings.ofDocument? .ignored) {}
  return { query, series, refresh }

end Profile

namespace Override

def toDocument (o : Override) : Document :=
  .ofFields
    [("query", .ofOption QuerySettings.toDocument o.query),
      ("time_series", .ofOption SeriesSettings.toDocument o.series),
      ("refresh", .ofOption RefreshSettings.toDocument o.refresh)]

def ofDocument? (d : Document) : Option Override := do
  let fields ← d.record? sectionNames .ignored
  let query ← Document.fieldOr fields "query" (Document.optional? QuerySettings.ofDocument?) none
  let series ←
    Document.fieldOr fields "time_series" (Document.optional? SeriesSettings.ofDocument?) none
  let refresh ←
    Document.fieldOr fields "refresh"
      (Document.optional? (RefreshSettings.ofDocument? .ignored)) none
  return { query, series, refresh }

end Override

/-- The entry with the least name. -/
def leastNamed? {α : Type} : List (String × α) → Option (String × α)
  | [] => none
  | e :: rest =>
    match leastNamed? rest with
    | none => some e
    | some least => some (if least.1 < e.1 then least else e)

structure Settings where
  defaults : Profile := {}
  /-- Overrides by the name of their dialect. -/
  dialects : List (String × Override) := []
  deriving DecidableEq, Repr

namespace Settings

/-- The override under exactly this name, and otherwise, of those under other names of the same
engine, the one with the least name. -/
def override? (s : Settings) (name : String) : Option Override :=
  match s.dialects.lookup name with
  | some o => some o
  | none => do
    let engine ← Engine.ofName? name
    let named ← leastNamed? (s.dialects.filter fun d => Engine.ofName? d.1 = some engine)
    return named.2

/-- The profile of a dialect. -/
def forDialect (s : Settings) (name : String) : Profile :=
  match s.override? name with
  | some o => s.defaults.overriddenBy o
  | none => s.defaults

def defaultDialect (s : Settings) : Except Error Dialect :=
  (Engine.parse s.defaults.query.engine).map Engine.dialect

def toDocument (s : Settings) : Document :=
  .ofFields
    [("defaults", s.defaults.toDocument),
      ("dialects", .ofFields (s.dialects.map fun d => (d.1, d.2.toDocument)))]

def ofDocument? (d : Document) : Option Settings := do
  let fields ← d.record? ["defaults", "dialects"] .ignored
  let defaults ← Document.fieldOr fields "defaults" Profile.ofDocument? {}
  let dialects ← Document.fieldOr fields "dialects"
    (fun d => d.entries?.bind (Document.readEntries? Override.ofDocument?)) []
  return { defaults, dialects }

/-- The settings that a TOML text describes. -/
def ofText (s : String) : Except Error Settings :=
  match (Toml.parse? s).bind ofDocument? with
  | some settings => .ok settings
  | none => .error .malformedSettings

end Settings

end QueryDialect
