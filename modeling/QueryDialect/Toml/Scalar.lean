import QueryDialect.Calendar.Date
import QueryDialect.Document
import QueryDialect.Number.Double
import QueryDialect.Toml.Quoted

set_option autoImplicit false

/-!
# Numbers, dates and times of TOML

Digits of a number may be parted by single underscores. A date or time is kept as its text, in an
object with the one reserved field `dateTimeField`.
-/
namespace QueryDialect.Toml

/-! ## Numbers -/

/-- Digits that underscores may part; an underscore counts only between two of them. -/
def partedDigits (isDigit : Char → Bool) : List Char → List Char × List Char
  | '_' :: c :: cs =>
    if isDigit c then
      let (ds, rest) := partedDigits isDigit cs
      (c :: ds, rest)
    else ([], '_' :: c :: cs)
  | c :: cs =>
    if isDigit c then
      let (ds, rest) := partedDigits isDigit cs
      (c :: ds, rest)
    else ([], c :: cs)
  | [] => ([], [])

def digits? (isDigit : Char → Bool) : List Char → Option (List Char × List Char)
  | c :: cs => if isDigit c then some (partedDigits isDigit (c :: cs)) else none
  | [] => none

def sign : List Char → Bool × List Char
  | '-' :: cs => (true, cs)
  | '+' :: cs => (false, cs)
  | cs => (false, cs)

/-- The digits of a decimal integer, which begins with a zero only if it is one. -/
def wholeDigits? : List Char → Option (List Char × List Char)
  | '0' :: cs => some (['0'], cs)
  | cs => digits? Char.isDigit cs

def prefixedInteger? (base : Nat) (cs : List Char) : Option (Nat × List Char) := do
  let (ds, rest) ← digits? (fun c => (hexValue? c).any (· < base)) cs
  return (ds.foldl (fun n c => base * n + (hexValue? c).getD 0) 0, rest)

/-- An integer, which must be one of 64 bits. -/
def integer? (cs : List Char) : Option (Document × List Char) := do
  let (n, rest) ← match cs with
    | '0' :: 'x' :: cs => (prefixedInteger? 16 cs).map fun (n, rest) => ((n : Int), rest)
    | '0' :: 'o' :: cs => (prefixedInteger? 8 cs).map fun (n, rest) => ((n : Int), rest)
    | '0' :: 'b' :: cs => (prefixedInteger? 2 cs).map fun (n, rest) => ((n : Int), rest)
    | cs =>
      let (negative, cs) := sign cs
      (wholeDigits? cs).map fun (ds, rest) =>
        let n := Number.ofDigits ds
        (if negative then -(n : Int) else n, rest)
  if Number.FitsInt64 n then some (.int n, rest) else none

def fractionDigits? : List Char → Option (List Char × List Char)
  | '.' :: cs => digits? Char.isDigit cs
  | _ => none

def exponent? : List Char → Option (Int × List Char)
  | 'e' :: cs | 'E' :: cs => do
    let (negative, cs) := sign cs
    let (ds, rest) ← digits? Char.isDigit cs
    let n := Number.ofDigits ds
    return (if negative then -(n : Int) else n, rest)
  | _ => none

/-- A float with a fraction, an exponent or both. One above every double is refused. -/
def decimalFloat? (cs : List Char) : Option (Document × List Char) := do
  let (negative, cs) := sign cs
  let (whole, cs) ← wholeDigits? cs
  let (fraction, cs) := (fractionDigits? cs).getD ([], cs)
  let (exponent, rest) := (exponent? cs).getD (0, cs)
  if fraction.isEmpty ∧ rest.length = cs.length then none
  else
    let magnitude :=
      Number.nearestDouble (Number.ofDigits (whole ++ fraction)) (exponent - fraction.length)
    if magnitude.isInf ∧ ¬ negative then none
    else some (.float (if negative then -magnitude else magnitude), rest)

def specialFloat? (cs : List Char) : Option (Document × List Char) :=
  let (negative, cs) := sign cs
  match cs with
  | 'i' :: 'n' :: 'f' :: cs => some (.float (if negative then -1.0 / 0.0 else 1.0 / 0.0), cs)
  | 'n' :: 'a' :: 'n' :: cs => some (.float (0.0 / 0.0), cs)
  | _ => none

/-! ## Dates and times -/

def fixedNumber? (width low high : Nat) (cs : List Char) : Option (Nat × List Char) :=
  let ds := cs.take width
  let n := Number.ofDigits ds
  if ds.length = width ∧ ds.all Char.isDigit ∧ low ≤ n ∧ n ≤ high then some (n, cs.drop width)
  else none

def mark? (c : Char) : List Char → Option (List Char)
  | d :: cs => if d = c then some cs else none
  | [] => none

/-- What follows a date, which must exist. -/
def date? (cs : List Char) : Option (List Char) := do
  let (year, cs) ← fixedNumber? 4 0 9999 cs
  let cs ← mark? '-' cs
  let (month, cs) ← fixedNumber? 2 1 12 cs
  let cs ← mark? '-' cs
  let (_, cs) ← fixedNumber? 2 1 (Calendar.monthLength (Calendar.isLeapYear year) month) cs
  return cs

def time? (cs : List Char) : Option (List Char) := do
  let (_, cs) ← fixedNumber? 2 0 23 cs
  let cs ← mark? ':' cs
  let (_, cs) ← fixedNumber? 2 0 59 cs
  let cs ← mark? ':' cs
  let (_, cs) ← fixedNumber? 2 0 60 cs
  match cs with
  | '.' :: c :: rest => return if c.isDigit then rest.dropWhile Char.isDigit else cs
  | cs => return cs

def offset? : List Char → Option (List Char)
  | 'Z' :: cs | 'z' :: cs => some cs
  | '+' :: cs | '-' :: cs => do
    let (_, cs) ← fixedNumber? 2 0 23 cs
    let cs ← mark? ':' cs
    let (_, cs) ← fixedNumber? 2 0 59 cs
    return cs
  | _ => none

def dateTime? : List Char → Option (List Char)
  | 'T' :: cs | 't' :: cs | ' ' :: cs => (time? cs).map fun cs => (offset? cs).getD cs
  | _ => none

def dateTimeField : String := "$date-time"

def moment? (cs : List Char) : Option (Document × List Char) := do
  let rest ← ((date? cs).map fun rest => (dateTime? rest).getD rest).or (time? cs)
  let text := String.ofList (cs.take (cs.length - rest.length))
  return (.object [(dateTimeField, .string text)], rest)

/-! ## All of them -/

/-- A value that holds no others. Where a date, a float and an integer begin alike, the first that
can be read counts. -/
def scalar? (cs : List Char) : Option (Document × List Char) :=
  match cs with
  | '"' :: _ | '\'' :: _ => (quotedText? cs).map fun (text, rest) => (.string text, rest)
  | 't' :: 'r' :: 'u' :: 'e' :: rest => some (.bool true, rest)
  | 'f' :: 'a' :: 'l' :: 's' :: 'e' :: rest => some (.bool false, rest)
  | _ => (moment? cs).or <| (decimalFloat? cs).or <| (specialFloat? cs).or (integer? cs)

end QueryDialect.Toml
