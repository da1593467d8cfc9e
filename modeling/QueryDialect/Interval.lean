import QueryDialect.Granularity
import QueryDialect.Text.Blank
import QueryDialect.Text.WordCharacter

set_option autoImplicit false

/-!
# Intervals

An interval is one whole number of one unit, such as `2 minutes`. The unit may be any word; the
calendar keywords are known only where a plural is made singular.
-/
namespace QueryDialect

structure Interval where
  value : Int
  unit : String
  value_fits : Number.FitsInt64 value
  unit_word : Text.IsWord unit
  deriving DecidableEq, Repr

namespace Interval

/-- The number in front of the blanks: an optional minus sign and ASCII digits. -/
def readValue? : List Char → Option (Int × List Char)
  | '-' :: cs => (Number.readNat? cs).map fun (n, rest) => (-(n : Int), rest)
  | cs => (Number.readNat? cs).map fun (n, rest) => ((n : Int), rest)

/-- A number, one or more blanks, and a word that ends the text. -/
def ofText? (s : String) : Option Interval := do
  let (value, rest) ← readValue? s.toList
  let unit := String.ofList (Text.trimLeft rest)
  if h : Number.FitsInt64 value ∧ Text.IsWord unit then
    if rest.head?.any Text.isBlank then some ⟨value, unit, h.1, h.2⟩ else none
  else none

/-- The text of a number and a unit, which is an interval only if the unit is one word. -/
def partsText (value : Int) (unit : String) : String := toString value ++ " " ++ unit

def text (i : Interval) : String := partsText i.value i.unit

def ofParts? (value : Int) (unit : String) : Option Interval := ofText? (partsText value unit)

/-- The unit without a final `s`, if that leaves the name of a granularity in any letter case. -/
def singularUnit (i : Interval) : String :=
  match i.unit.toList.reverse with
  | 's' :: stem =>
    let stem := String.ofList stem.reverse
    if (Granularity.ofName? (stem.map Char.toLower)).isSome then stem else i.unit
  | _ => i.unit

def toDocument (i : Interval) : Document := .string i.text

def ofDocument? (d : Document) : Option Interval := d.text?.bind ofText?

def tenSeconds : Interval := ⟨10, "seconds", by decide, by decide⟩

def twoMinutes : Interval := ⟨2, "minutes", by decide, by decide⟩

end Interval

end QueryDialect
