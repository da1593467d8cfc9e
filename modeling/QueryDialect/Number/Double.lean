set_option autoImplicit false

/-!
# Parts of a double

A finite double is `±significand · 2 ^ exponent`. Truncation and the tests for zero and for a finite
double are exact arithmetic on its bits.
-/
namespace QueryDialect.Number

structure DoubleParts where
  negative : Bool
  significand : Nat
  exponent : Int
  deriving DecidableEq, Repr

/-- The weight of the first bit above a fraction of 52 bits. -/
def hiddenBit : Nat := 4503599627370496

/-- The parts held by the 64 bits: a sign, 11 bits of exponent and 52 of fraction, before which a
leading one is understood unless the exponent field is zero. -/
def DoubleParts.ofBits (bits : Nat) : DoubleParts :=
  let field := bits / hiddenBit % 2048
  let fraction := bits % hiddenBit
  { negative := bits / (2048 * hiddenBit) % 2 == 1
    significand := if field = 0 then fraction else hiddenBit + fraction
    exponent := (max field 1 : Nat) - 1075 }

def DoubleParts.ofFloat (x : Float) : DoubleParts := ofBits x.toBits.toNat

def DoubleParts.wholePart (p : DoubleParts) : Nat :=
  if 0 ≤ p.exponent then p.significand * Nat.pow 2 p.exponent.toNat
  else p.significand / Nat.pow 2 (-p.exponent).toNat

/-- The integer between zero and `x` that is nearest to `x`. -/
def truncate (x : Float) : Int :=
  let p := DoubleParts.ofFloat x
  if p.negative then -(p.wholePart : Int) else p.wholePart

def isZero (x : Float) : Bool := (DoubleParts.ofFloat x).significand == 0

/-- The greatest exponent field is kept for infinities and for what is no number. -/
def isFinite (x : Float) : Bool := x.toBits.toNat / hiddenBit % 2048 != 2047

/-- The double nearest to `n · 10 ^ e`; infinity where it lies beyond all doubles. Exponents that no
double reaches are not computed with. -/
def nearestDouble (n : Nat) (e : Int) : Float :=
  let size := (Nat.toDigits 10 n).length + e
  if n = 0 ∨ size < -400 then 0.0
  else if 400 < size then 1.0 / 0.0
  else Float.ofScientific n (e < 0) e.natAbs

theorem truncate_eq_zero_of_isZero {x : Float} (h : isZero x = true) : truncate x = 0 := by
  have h : (DoubleParts.ofFloat x).significand = 0 := by simpa [isZero] using h
  simp [truncate, DoubleParts.wholePart, h]

end QueryDialect.Number
