import QueryDialect.Document.Decode

set_option autoImplicit false

/-!
# Granularities

The eight calendar units to which a time is truncated, from the finest to the coarsest.
-/
namespace QueryDialect

inductive Granularity where
  | second
  | minute
  | hour
  | day
  | week
  | month
  | quarter
  | year
  deriving DecidableEq, Repr

namespace Granularity

def all : List Granularity := [second, minute, hour, day, week, month, quarter, year]

def name : Granularity → String
  | second => "second"
  | minute => "minute"
  | hour => "hour"
  | day => "day"
  | week => "week"
  | month => "month"
  | quarter => "quarter"
  | year => "year"

/-- Names are matched exactly, letter case included. -/
def ofName? (s : String) : Option Granularity := all.find? fun g => g.name = s

theorem ofName?_name (g : Granularity) : ofName? g.name = some g := by
  cases g <;> decide

/-- The place in the order from finest to coarsest. -/
def rank (g : Granularity) : Nat := g.ctorIdx

def sort (gs : List Granularity) : List Granularity := gs.mergeSort fun a b => a.rank ≤ b.rank

def toDocument (g : Granularity) : Document := .string g.name

def ofDocument? (d : Document) : Option Granularity := d.variant?.bind ofName?

end Granularity

end QueryDialect
