import QueryDialect.Number.Double

set_option autoImplicit false

/-!
# Shortest decimals

The shortest decimal of a finite double is the one with the fewest digits that rounds back to it,
and of those the nearest; a tie goes to the even last digit. The search compares exact fractions
of natural numbers. The layout of the digits is the one JSON texts use here: positional from
`10 ^ -5` to below `10 ^ 16`, and scientific with a signed exponent beyond.
-/
namespace QueryDialect.Number

structure Decimal where
  digits : Nat
  exponent : Int
  deriving DecidableEq, Repr

structure Fraction where
  num : Nat
  den : Nat

namespace Fraction

def scaled (n : Nat) (e : Int) : Fraction := ⟨n * Nat.pow 2 e.toNat, Nat.pow 2 (-e).toNat⟩

def decimal (n : Nat) (e : Int) : Fraction := ⟨n * Nat.pow 10 e.toNat, Nat.pow 10 (-e).toNat⟩

def lt (a b : Fraction) : Bool := a.num * b.den < b.num * a.den
def le (a b : Fraction) : Bool := a.num * b.den ≤ b.num * a.den

def distance (a b : Fraction) : Fraction :=
  let l := a.num * b.den
  let r := b.num * a.den
  ⟨(l - r) + (r - l), a.den * b.den⟩

end Fraction

/-- The values that round to a double: everything between the midpoints to its neighbours. The
midpoints round to it just when its significand is even. -/
structure RoundingInterval where
  low : Fraction
  high : Fraction
  closed : Bool

/-- Below a power of two the neighbours lie twice as close, save at the least exponent. -/
def DoubleParts.interval (p : DoubleParts) : RoundingInterval :=
  let narrow := p.significand = hiddenBit ∧ -1074 < p.exponent
  { low := .scaled (4 * p.significand - if narrow then 1 else 2) (p.exponent - 2)
    high := .scaled (4 * p.significand + 2) (p.exponent - 2)
    closed := p.significand % 2 == 0 }

def RoundingInterval.has (i : RoundingInterval) (a : Fraction) : Bool :=
  if i.closed then i.low.le a && a.le i.high else i.low.lt a && a.lt i.high

/-- The least power of ten above a positive fraction of a double. -/
def magnitude (a : Fraction) : Int :=
  if a.den ≤ a.num then (Nat.toDigits 10 (a.num / a.den)).length
  else match (List.range 400).find? fun j => a.den ≤ a.num * Nat.pow 10 (j + 1) with
    | some j => -j
    | none => -400

/-- The best decimal on the grid of spacing `10 ^ e`, if one of the two next to `a` is in `i`. -/
def RoundingInterval.nearest? (i : RoundingInterval) (a : Fraction) (e : Int) : Option Decimal :=
  let unit := Fraction.decimal 1 e
  let below := a.num * unit.den / (a.den * unit.num)
  let l := Fraction.decimal below e
  let h := Fraction.decimal (below + 1) e
  match i.has l, i.has h with
  | true, true =>
    let dl := a.distance l
    let dh := a.distance h
    if dl.lt dh || (dl.le dh && below % 2 == 0) then some ⟨below, e⟩ else some ⟨below + 1, e⟩
  | true, false => some ⟨below, e⟩
  | false, true => some ⟨below + 1, e⟩
  | false, false => none

/-- The shortest decimal of the magnitude; seventeen digits always suffice. -/
def DoubleParts.shortest (p : DoubleParts) : Decimal :=
  let a := Fraction.scaled p.significand p.exponent
  let top := magnitude a
  ((List.range 17).findSome? fun (n : Nat) => p.interval.nearest? a (top - (n + 1))).getD ⟨0, 0⟩

/-- The digits of a decimal without the zeros at their end, and the place of the point counted
from before the first of them. -/
def Decimal.normal (d : Decimal) : List Char × Int :=
  let ds := Nat.toDigits 10 d.digits
  ((ds.reverse.dropWhile (· == '0')).reverse, d.exponent + ds.length)

def layOut (ds : List Char) (point : Int) : List Char :=
  if -5 < point ∧ point ≤ 16 then
    if point ≤ 0 then '0' :: '.' :: (List.replicate (-point).toNat '0' ++ ds)
    else
      let whole := ds.take point.toNat ++ List.replicate (point.toNat - ds.length) '0'
      whole ++ '.' :: (if ds.length ≤ point.toNat then ['0'] else ds.drop point.toNat)
  else
    let sign := if point - 1 < 0 then '-' else '+'
    let mantissa := match ds with
      | [] => []
      | [d] => [d]
      | d :: rest => d :: '.' :: rest
    mantissa ++ 'e' :: sign :: Nat.toDigits 10 (point - 1).natAbs

def floatText (x : Float) : String :=
  let p := DoubleParts.ofFloat x
  let magnitude := if p.significand = 0 then ['0', '.', '0']
    else let (ds, point) := p.shortest.normal; layOut ds point
  String.ofList (if p.negative then '-' :: magnitude else magnitude)

end QueryDialect.Number
