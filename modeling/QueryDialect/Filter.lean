import QueryDialect.Error

set_option autoImplicit false

/-!
# Filters

A filter compares a member with a bound parameter, whose cast follows from the declared type; a
text match places wildcards around it.
-/
namespace QueryDialect

inductive ValueType where
  | boolean
  | number
  | string
  | default
  deriving DecidableEq, Repr

namespace ValueType

def all : List ValueType := [boolean, number, string, default]

def name : ValueType → String
  | boolean => "boolean"
  | number => "number"
  | string => "string"
  | default => "default"

def ofName? (s : String) : Option ValueType := all.find? fun t => t.name = s

def toDocument (t : ValueType) : Document := .string t.name

def ofDocument? (d : Document) : Option ValueType := d.variant?.bind ofName?

end ValueType

inductive ParamCast where
  | boolean
  | numeric
  | none
  deriving DecidableEq, Repr

structure Filter where
  member : String := ""
  negate : Bool := false
  isMeasure : Bool := false
  type : ValueType := .default
  deriving DecidableEq, Repr

namespace Filter

/-- A measure is compared as a number unless it is declared boolean. -/
def paramCast (f : Filter) : ParamCast :=
  match f.type with
  | .boolean => .boolean
  | .number => .numeric
  | .string | .default => if f.isMeasure then .numeric else .none

def toDocument (f : Filter) : Document :=
  .ofFields
    [("member", .string f.member), ("negate", .bool f.negate), ("is_measure", .bool f.isMeasure),
      ("type", f.type.toDocument)]

def ofDocument? (d : Document) : Option Filter := do
  let fields ← d.record? ["member", "negate", "is_measure", "type"] .refused
  let member ← Document.fieldOr fields "member" Document.text? ""
  let negate ← Document.fieldOr fields "negate" Document.bool? false
  let isMeasure ← Document.fieldOr fields "is_measure" Document.bool? false
  let type ← Document.fieldOr fields "type" ValueType.ofDocument? .default
  return { member, negate, isMeasure, type }

end Filter

/-- Where a text match lets other characters stand. -/
inductive MatchType where
  | contains
  | starts
  | ends
  deriving DecidableEq, Repr

namespace MatchType

def all : List MatchType := [contains, starts, ends]

def name : MatchType → String
  | contains => "contains"
  | starts => "starts"
  | ends => "ends"

def ofName? (s : String) : Option MatchType := all.find? fun t => t.name = s

/-- A match without a type is one of containment. -/
def parse : Option String → Except Error MatchType
  | none => .ok contains
  | some s =>
    match ofName? s with
    | some t => .ok t
    | none => .error (.unsupportedMatch s)

def leadingWildcard : MatchType → Bool
  | contains | ends => true
  | starts => false

def trailingWildcard : MatchType → Bool
  | contains | starts => true
  | ends => false

def toDocument (t : MatchType) : Document := .string t.name

def ofDocument? (d : Document) : Option MatchType := d.variant?.bind ofName?

end MatchType

end QueryDialect
