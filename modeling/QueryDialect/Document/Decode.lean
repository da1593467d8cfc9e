import QueryDialect.Document
import QueryDialect.Number.Whole

set_option autoImplicit false

/-!
# Reading typed values from documents

A record is given as an object, whose unknown fields are ignored, or as an array of its fields in
the order of their declaration, of which the last ones may be missing. Whether such an array may
have items beyond the last field depends on the source of the document. A named choice is given as
its name, or as an object with that one name and a null.
-/
namespace QueryDialect.Document

variable {α : Type}

def text? : Document → Option String
  | .string s => some s
  | _ => none

def bool? : Document → Option Bool
  | .bool b => some b
  | _ => none

def word64? : Document → Option Nat
  | .int n => if 0 ≤ n ∧ n ≤ Number.word64Max then some n.toNat else none
  | _ => none

theorem word64?_eq_some_iff {d : Document} {n : Nat} :
    d.word64? = some n ↔ d = .ofNat n ∧ n ≤ Number.word64Max := by
  cases d with
  | int m =>
    simp only [word64?, ofNat, int.injEq]
    split <;> simp <;> omega
  | _ => simp [word64?, ofNat]

/-- Null stands for an absent value. -/
def optional? (read : Document → Option α) : Document → Option (Option α)
  | .null => some none
  | d => (read d).map some

def variant? : Document → Option String
  | .string s => some s
  | .object [(name, .null)] => some name
  | _ => none

/-- What becomes of an array with more items than the record has fields. -/
inductive Surplus where
  /-- The document is not the record. -/
  | refused
  /-- The first items are the fields, and the others are not read. -/
  | ignored
  deriving DecidableEq, Repr

def Surplus.admits (s : Surplus) (fieldCount itemCount : Nat) : Bool :=
  itemCount ≤ fieldCount || s = ignored

def record? (names : List String) (surplus : Surplus) :
    Document → Option (List (String × Document))
  | .object fields => some fields
  | .array items =>
    if surplus.admits names.length items.length then some (names.zip items) else none
  | _ => none

/-- The fields of a map, which is given as an object only. -/
def entries? : Document → Option (List (String × Document))
  | .object fields => some fields
  | _ => none

def field? (fields : List (String × Document)) (name : String) (read : Document → Option α) :
    Option α :=
  (fields.lookup name).bind read

def fieldOr (fields : List (String × Document)) (name : String) (read : Document → Option α)
    (default : α) : Option α :=
  match fields.lookup name with
  | none => some default
  | some d => read d

def items? (read : Document → Option α) : Document → Option (List α)
  | .array items => readItems? items
  | _ => none
where
  readItems? : List Document → Option (List α)
    | [] => some []
    | d :: rest => do
      let a ← read d
      let as ← readItems? rest
      return a :: as

def textPair? : Document → Option (String × String)
  | .array [.string a, .string b] => some (a, b)
  | _ => none

def readEntries? (read : Document → Option α) :
    List (String × Document) → Option (List (String × α))
  | [] => some []
  | (name, d) :: rest => do
    let a ← read d
    let as ← readEntries? read rest
    return (name, a) :: as

end QueryDialect.Document
