import QueryDialect.Error
import QueryDialect.Number.Double

set_option autoImplicit false

/-!
# Row limit and offset

A limit and an offset arrive as documents of any kind. Both are read by `leadingInteger?`: a limit
that gives no positive integer falls back to the default cap, and an offset that gives no integer
is refused unless it is falsy. Only decimal digits of the integer read reach a clause.
-/
namespace QueryDialect

/-- The number of rows that a query may answer when no usable limit was asked for. -/
def defaultRowLimit : Nat := 10000

/-- The magnitude that a text begins with, if it is one of a positive signed 64-bit integer. -/
def readMagnitude? (cs : List Char) : Option Nat :=
  ((Number.readNat? cs).map Prod.fst).filter fun n => (n : Int) ≤ Number.int64Max

/-- The integer at the front of a text, after blanks and at most one sign. -/
def leadingIntegerOfText? (s : String) : Option Int :=
  match Text.trimLeft s.toList with
  | '-' :: cs => (readMagnitude? cs).map fun n => -(n : Int)
  | '+' :: cs => (readMagnitude? cs).map fun n => (n : Int)
  | cs => (readMagnitude? cs).map fun n => (n : Int)

/-- The integer that a number or a text begins with. A finite number is truncated and brought into
the range of signed 64-bit integers. -/
def leadingInteger? : Document → Option Int
  | .int n => some (Number.clampInt64 n)
  | .float x => if Number.isFinite x then some (Number.clampInt64 (Number.truncate x)) else none
  | .string s => leadingIntegerOfText? s
  | _ => none

def isFalsy : Document → Bool
  | .null => true
  | .bool b => !b
  | .int n => n == 0
  | .float x => Number.isZero x
  | .string s => s.isEmpty
  | .array _ | .object _ => false

inductive RowLimit where
  | unset
  | unlimited
  | value (document : Document)
  deriving DecidableEq, Repr

namespace RowLimit

def rows (n : Nat) : RowLimit := .value (.ofNat n)

/-- The row cap, of which there is none only for an unlimited query or an explicit null. -/
def resolve : RowLimit → Option Nat
  | unset => some defaultRowLimit
  | unlimited | value .null => none
  | value d =>
    match leadingInteger? d with
    | some n => some (if 0 < n then n.toNat else defaultRowLimit)
    | none => some defaultRowLimit

def toDocument : RowLimit → Document
  | unset | unlimited => .null
  | value d => d

/-- Null is unlimited; an absent limit is unset, and is not read at all. -/
def ofDocument : Document → RowLimit
  | .null => unlimited
  | d => value d

end RowLimit

structure Page where
  rowLimit : RowLimit := .unset
  offset : Option Document := none
  deriving DecidableEq, Repr

namespace Page

def limit (p : Page) : Option Nat := p.rowLimit.resolve

/-- The number of rows to skip; zero and falsy values skip none. -/
def skip (p : Page) : Except Error (Option Nat) :=
  match p.offset with
  | none => .ok none
  | some d =>
    if isFalsy d then .ok none
    else match leadingInteger? d with
      | none => .error (.offsetNotInteger d)
      | some n =>
        if n < 0 then .error (.negativeOffset n)
        else if n = 0 then .ok none
        else .ok (some n.toNat)

def clause (keyword : String) : Option Nat → String
  | none => ""
  | some n => " " ++ keyword ++ " " ++ toString n

def limitClause (p : Page) : String := clause "LIMIT" p.limit

def offsetClause (p : Page) : Except Error String := p.skip.map (clause "OFFSET")

/-- An unset limit is left out, so that it is not read back as unlimited. -/
def toDocument (p : Page) : Document :=
  .ofFields <|
    ("offset", .ofOption id p.offset) ::
      match p.rowLimit with
      | .unset => []
      | limit => [("row_limit", limit.toDocument)]

def ofDocument? (d : Document) : Option Page := do
  let fields ← d.record? ["row_limit", "offset"] .refused
  let rowLimit ← Document.fieldOr fields "row_limit" (fun d => some (.ofDocument d)) .unset
  let offset ← Document.fieldOr fields "offset" (Document.optional? some) none
  return { rowLimit, offset }

end Page

end QueryDialect
