set_option autoImplicit false

/-!
# Whole numbers

Runs of ASCII digits, and the ranges of signed and unsigned 64-bit words as sets of integers.
-/
namespace QueryDialect.Number

def int64Min : Int := -9223372036854775808
def int64Max : Int := 9223372036854775807
def word64Max : Nat := 18446744073709551615

def FitsInt64 (n : Int) : Prop := int64Min ≤ n ∧ n ≤ int64Max

instance (n : Int) : Decidable (FitsInt64 n) := inferInstanceAs (Decidable (_ ∧ _))

/-- The nearest signed 64-bit integer. -/
def clampInt64 (n : Int) : Int := max int64Min (min n int64Max)

theorem clampInt64_fits (n : Int) : FitsInt64 (clampInt64 n) := by
  simp only [FitsInt64, clampInt64, int64Min, int64Max]
  omega

theorem clampInt64_eq_self {n : Int} (h : FitsInt64 n) : clampInt64 n = n := by
  simp only [FitsInt64, clampInt64, int64Min, int64Max] at *
  omega

/-- The longest run of ASCII digits at the front, and what follows it. -/
def digitRun (cs : List Char) : List Char × List Char :=
  (cs.takeWhile Char.isDigit, cs.dropWhile Char.isDigit)

/-- The number that a run of digits writes in base ten. -/
def ofDigits (ds : List Char) : Nat := Nat.ofDigitChars 10 ds 0

/-- The number that the text begins with, of one digit or more. -/
def readNat? (cs : List Char) : Option (Nat × List Char) :=
  let (ds, rest) := digitRun cs
  if ds.isEmpty then none else some (ofDigits ds, rest)

theorem digitRun_append (cs : List Char) : (digitRun cs).1 ++ (digitRun cs).2 = cs :=
  List.takeWhile_append_dropWhile

theorem ofDigits_toDigits (n : Nat) : ofDigits (Nat.toDigits 10 n) = n :=
  Nat.ofDigitChars_ten_toDigits

/-- Decimal digits, padded on the left with zeros to at least `width` of them. -/
def padded (width n : Nat) : String :=
  let ds := Nat.toDigits 10 n
  String.ofList (List.replicate (width - ds.length) '0' ++ ds)

end QueryDialect.Number
