import QueryDialect.Dialect

set_option autoImplicit false

/-!
# Engines

The dialects of the supported engines, and the names by which an engine is found.
-/
namespace QueryDialect

namespace Dialect

def base : Dialect := { name := "base" }

def presto : Dialect where
  name := "prestodb"
  castTimestamp v := "from_iso8601_timestamp(" ++ v ++ ")"
  castDatetime v := "from_iso8601_timestamp(" ++ v ++ ")"
  zone := .addedOffset
  interval := .unitOutside
  series := .selectUnion
  epoch now := "to_unixtime(" ++ now ++ ")"
  renewalThreshold := 120
  every := .twoMinutes
  sketchInit := some fun sql => "cast(approx_set(" ++ sql ++ ") as varbinary)"
  sketchMerge := some fun sql => "cardinality(merge(cast(" ++ sql ++ " as HyperLogLog)))"
  countDistinct := some fun sql => "approx_distinct(" ++ sql ++ ")"
  page := .offsetFirst
  functionTemplates := .ofCalls [("DATETRUNC", "DATE_TRUNC")]
  like := .loweredOperands
  cast := .function

def postgres : Dialect where
  name := "postgres"
  sketchInit := some fun sql => "hll_add_agg(hll_hash_any(" ++ sql ++ "))"
  sketchMerge := some fun sql => "round(hll_cardinality(hll_union_agg(" ++ sql ++ ")))"
  countDistinct := some fun sql =>
    "round(hll_cardinality(hll_add_agg(hll_hash_any(" ++ sql ++ "))))"
  functionTemplates :=
    .ofCalls [("DATETRUNC", "DATE_TRUNC"), ("DATEPART", "DATE_PART"), ("STRING_AGG", "STRING_AGG")]
  cast := .suffix

def duckDb : Dialect where
  name := "duckdb"
  zone := .function
  countDistinct := some fun sql => "approx_count_distinct(" ++ sql ++ ")"
  functionTemplates := .ofCalls [("DATETRUNC", "DATE_TRUNC"), ("DATEPART", "DATE_PART")]
  cast := .function

end Dialect

inductive Engine where
  | presto
  | postgres
  | duckDb
  deriving DecidableEq, Repr

namespace Engine

def all : List Engine := [presto, postgres, duckDb]

def dialect : Engine → Dialect
  | presto => .presto
  | postgres => .postgres
  | duckDb => .duckDb

/-- The names of an engine, of which the first is that of its dialect. -/
def aliases : Engine → List String
  | presto => ["prestodb", "presto", "trino"]
  | postgres => ["postgres", "postgresql"]
  | duckDb => ["duckdb"]

/-- A name without blanks at its ends and with its ASCII letters in lower case. -/
def normalName (s : String) : String := (String.ofList (Text.trim s.toList)).map Char.toLower

def ofName? (s : String) : Option Engine := all.find? fun e => normalName s ∈ e.aliases

def parse (s : String) : Except Error Engine :=
  match ofName? s with
  | some e => .ok e
  | none => .error (.unknownDialect s)

end Engine

end QueryDialect
