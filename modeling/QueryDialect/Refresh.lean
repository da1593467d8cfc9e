import QueryDialect.Dialect

set_option autoImplicit false

/-!
# Refresh policies

How long a cached answer stays valid and how often it is checked. Each part is the configured one
if it is set, and otherwise that of the dialect.
-/
namespace QueryDialect

/-- The parts that a configuration sets. -/
structure RefreshSettings where
  renewalThreshold : Option Nat := none
  every : Option String := none
  deriving DecidableEq, Repr

namespace RefreshSettings

def fieldNames : List String := ["renewal_threshold_secs", "every"]

def toDocument (r : RefreshSettings) : Document :=
  .ofFields
    [("renewal_threshold_secs", .ofOption .ofNat r.renewalThreshold),
      ("every", .ofOption .string r.every)]

def ofDocument? (surplus : Document.Surplus) (d : Document) : Option RefreshSettings := do
  let fields ← d.record? fieldNames surplus
  let renewalThreshold ←
    Document.fieldOr fields "renewal_threshold_secs" (Document.optional? Document.word64?) none
  let every ← Document.fieldOr fields "every" (Document.optional? Document.text?) none
  return { renewalThreshold, every }

end RefreshSettings

structure RefreshPolicy where
  renewalThreshold : Nat
  every : Interval
  deriving DecidableEq, Repr

namespace RefreshPolicy

def ofDialect (d : Dialect) : RefreshPolicy := ⟨d.renewalThreshold, d.every⟩

/-- A configured interval must be one; nothing configured is the same as no part set. -/
def resolve (settings : Option RefreshSettings) (d : Dialect) : Except Error RefreshPolicy := do
  let settings := settings.getD {}
  let every ← match settings.every with
    | some s => Dialect.parseInterval s
    | none => .ok d.every
  return ⟨settings.renewalThreshold.getD d.renewalThreshold, every⟩

def toDocument (p : RefreshPolicy) : Document :=
  .ofFields
    [("renewal_threshold_secs", .ofNat p.renewalThreshold), ("every", p.every.toDocument)]

def ofDocument? (d : Document) : Option RefreshPolicy := do
  let fields ← d.record? RefreshSettings.fieldNames .refused
  let renewalThreshold ← Document.field? fields "renewal_threshold_secs" Document.word64?
  let every ← Document.field? fields "every" Interval.ofDocument?
  return { renewalThreshold, every }

end RefreshPolicy

end QueryDialect
