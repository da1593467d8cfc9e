import QueryDialect.Number.Double
import QueryDialect.Number.Whole
import Mathlib

set_option autoImplicit false

/-!
# Truncation of doubles

What a double stands for is said by its bits, and what truncation and saturation leave of a number by
inequalities. The parts of a finite double have its value, their whole part is the floor of its
magnitude, and so the computed truncation is the only one.
-/
namespace QueryDialect.Number

/-! ## The value of a double -/

/-- From the highest bit on, the sign, eleven bits of exponent and 52 of fraction. -/
structure Layout (bits sign field fraction : ℕ) : Prop where
  sign_lt : sign < 2
  field_lt : field < 2048
  fraction_lt : fraction < 2 ^ 52
  bits_eq : bits = sign * 2 ^ 63 + field * 2 ^ 52 + fraction

/-- The number that the bits of a double stand for. A one is understood before the fraction unless the
exponent field is zero, and the greatest field stands for no number. -/
inductive Encodes (bits : ℕ) : ℚ → Prop
  | subnormal {sign fraction : ℕ} (layout : Layout bits sign 0 fraction) :
      Encodes bits ((-1) ^ sign * (fraction * 2 ^ (-1074 : ℤ)))
  | normal {sign field fraction : ℕ} (layout : Layout bits sign field fraction)
      (leading : 0 < field) (finite : field < 2047) :
      Encodes bits ((-1) ^ sign * ((2 ^ 52 + fraction) * 2 ^ ((field : ℤ) - 1075)))

theorem exists_layout {bits : ℕ} (word : bits < 2 ^ 64) :
    Layout bits (bits / 2 ^ 63) (bits / hiddenBit % 2048) (bits % hiddenBit) := by
  rw [hiddenBit]
  constructor <;> omega

theorem Layout.field_eq {bits sign field fraction : ℕ} (layout : Layout bits sign field fraction) :
    bits / hiddenBit % 2048 = field := by
  obtain ⟨_, _, _, rfl⟩ := layout
  rw [hiddenBit]
  omega

namespace DoubleParts

def magnitude (p : DoubleParts) : ℚ := p.significand * 2 ^ p.exponent

def value (p : DoubleParts) : ℚ := (-1) ^ p.negative.toNat * p.magnitude

theorem ofBits_layout {bits sign field fraction : ℕ} (layout : Layout bits sign field fraction) :
    ofBits bits = ⟨sign == 1, if field = 0 then fraction else hiddenBit + fraction,
      (max field 1 : ℕ) - 1075⟩ := by
  have field_eq := layout.field_eq
  obtain ⟨_, _, _, rfl⟩ := layout
  have fraction_eq : (sign * 2 ^ 63 + field * 2 ^ 52 + fraction) % hiddenBit = fraction := by
    rw [hiddenBit]
    omega
  have sign_eq : (sign * 2 ^ 63 + field * 2 ^ 52 + fraction) / (2048 * hiddenBit) % 2 = sign := by
    rw [hiddenBit]
    omega
  simp only [ofBits, field_eq, fraction_eq, sign_eq]

theorem value_layout {bits sign field fraction : ℕ} (layout : Layout bits sign field fraction) :
    (ofBits bits).value = (-1) ^ sign * ((if field = 0 then fraction else 2 ^ 52 + fraction : ℕ) *
      2 ^ (((max field 1 : ℕ) : ℤ) - 1075)) := by
  have sign_eq : (sign == 1).toNat = sign := by
    have := layout.sign_lt
    interval_cases sign <;> rfl
  rw [ofBits_layout layout, value, magnitude, sign_eq]
  rfl

theorem encodes_iff {bits : ℕ} (word : bits < 2 ^ 64) {v : ℚ} :
    Encodes bits v ↔ bits / hiddenBit % 2048 ≠ 2047 ∧ v = (ofBits bits).value := by
  constructor
  · rintro (⟨layout⟩ | ⟨layout, leading, finite⟩)
    · refine ⟨layout.field_eq ▸ by decide, ?_⟩
      rw [value_layout layout]
      rfl
    · refine ⟨layout.field_eq ▸ finite.ne, ?_⟩
      rw [value_layout layout, if_neg leading.ne', Nat.max_eq_left leading, Nat.cast_add,
        Nat.cast_pow, Nat.cast_ofNat]
  · rintro ⟨finite, rfl⟩
    have layout := exists_layout word
    rw [value_layout layout]
    by_cases leading : bits / hiddenBit % 2048 = 0
    · rw [leading] at layout ⊢
      exact .subnormal layout
    · have positive := Nat.pos_of_ne_zero leading
      have inner := layout.field_lt
      rw [if_neg leading, Nat.max_eq_left positive, Nat.cast_add, Nat.cast_pow, Nat.cast_ofNat]
      exact .normal layout positive (by omega)

theorem magnitude_nonneg (p : DoubleParts) : 0 ≤ p.magnitude := by
  unfold magnitude
  positivity

theorem wholePart_eq_floor (p : DoubleParts) : p.wholePart = ⌊p.magnitude⌋₊ := by
  have power (n : ℕ) : (2 : ℚ) ^ n = (2 ^ n : ℕ) := by rw [Nat.cast_pow, Nat.cast_ofNat]
  unfold wholePart magnitude
  simp only [Nat.pow_eq]
  split_ifs with whole
  · obtain ⟨n, same⟩ := Int.eq_ofNat_of_zero_le whole
    rw [same, Int.toNat_natCast, zpow_natCast, power, ← Nat.cast_mul, Nat.floor_natCast]
  · obtain ⟨n, same⟩ := Int.eq_ofNat_of_zero_le (by omega : 0 ≤ -p.exponent)
    rw [same, ← neg_neg p.exponent, same, zpow_neg, zpow_natCast, Int.toNat_natCast,
      ← div_eq_mul_inv, power, Nat.floor_div_eq_div]

theorem value_eq_zero_iff {p : DoubleParts} : p.value = 0 ↔ p.significand = 0 := by
  simp [value, magnitude, zpow_ne_zero]

end DoubleParts

theorem encodes_float_iff {x : Float} {v : ℚ} : Encodes x.toBits.toNat v ↔
    isFinite x = true ∧ v = (DoubleParts.ofFloat x).value := by
  rw [DoubleParts.encodes_iff x.toBits.toNat_lt, isFinite, bne_iff_ne]
  rfl

theorem encodes_zero_iff {x : Float} : Encodes x.toBits.toNat 0 ↔ isZero x = true := by
  rw [encodes_float_iff, @eq_comm ℚ, DoubleParts.value_eq_zero_iff, isZero, beq_iff_eq,
    and_iff_right_iff_imp]
  -- The greatest field comes with a leading one.
  intro zero
  rw [isFinite, bne_iff_ne]
  intro greatest
  simp only [DoubleParts.ofFloat, DoubleParts.ofBits, greatest] at zero
  exact absurd (Nat.eq_zero_of_add_eq_zero_right zero) (by decide)

/-! ## Truncation -/

/-- What is left of a number without what stands behind its point. -/
inductive Truncates (v : ℚ) (t : ℤ) : Prop
  | positive (sign : 0 ≤ v) (lower : t ≤ v) (upper : v < t + 1)
  | negative (sign : v ≤ 0) (lower : t - 1 < v) (upper : v ≤ t)

theorem Truncates.unique {v : ℚ} {t u : ℤ} (ht : Truncates v t) (hu : Truncates v u) : t = u := by
  obtain ⟨sign, lower, upper⟩ | ⟨sign, lower, upper⟩ := ht <;>
    obtain ⟨sign', lower', upper'⟩ | ⟨sign', lower', upper'⟩ := hu
  · have below : (t : ℚ) < u + 1 := lower.trans_lt upper'
    have above : (u : ℚ) < t + 1 := lower'.trans_lt upper
    norm_cast at below above
    omega
  · obtain rfl := le_antisymm sign' sign
    norm_cast at lower upper lower' upper'
    omega
  · obtain rfl := le_antisymm sign sign'
    norm_cast at lower upper lower' upper'
    omega
  · have below : (t : ℚ) - 1 < u := lower.trans_le upper'
    have above : (u : ℚ) - 1 < t := lower'.trans_le upper
    norm_cast at below above
    omega

theorem truncates_truncate (x : Float) : Truncates (DoubleParts.ofFloat x).value (truncate x) := by
  unfold truncate DoubleParts.value
  generalize DoubleParts.ofFloat x = p
  have floor : (p.wholePart : ℚ) ≤ p.magnitude ∧ p.magnitude < p.wholePart + 1 := by
    rw [p.wholePart_eq_floor]
    exact ⟨Nat.floor_le p.magnitude_nonneg, Nat.lt_floor_add_one _⟩
  have nonneg := p.magnitude_nonneg
  cases negative : p.negative with
  | false =>
    refine .positive ?_ ?_ ?_ <;> simp [negative] <;> linarith
  | true =>
    refine .negative ?_ ?_ ?_ <;> simp [negative] <;> linarith

/-! ## Saturation -/

/-- The signed 64-bit integer that is nearest. -/
inductive Saturates (n : ℤ) : ℤ → Prop
  | within (lower : -2 ^ 63 ≤ n) (upper : n ≤ 2 ^ 63 - 1) : Saturates n n
  | above (beyond : 2 ^ 63 - 1 < n) : Saturates n (2 ^ 63 - 1)
  | below (beyond : n < -2 ^ 63) : Saturates n (-2 ^ 63)

theorem saturates_clampInt64 (n : ℤ) : Saturates n (clampInt64 n) := by
  unfold clampInt64
  rcases lt_or_ge n int64Min with below | lower
  · rw [max_eq_left (min_le_of_left_le below.le)]
    exact .below below
  · rcases lt_or_ge int64Max n with above | upper
    · rw [min_eq_right above.le, max_eq_right (by decide)]
      exact .above above
    · rw [min_eq_left upper, max_eq_right lower]
      exact .within lower upper

theorem saturates_iff {n k : ℤ} : Saturates n k ↔ clampInt64 n = k := by
  refine ⟨fun h => ?_, fun h => h ▸ saturates_clampInt64 n⟩
  cases h with
  | within lower upper => exact clampInt64_eq_self ⟨lower, upper⟩
  | above beyond => simp only [clampInt64, int64Min, int64Max]; omega
  | below beyond => simp only [clampInt64, int64Min, int64Max]; omega

end QueryDialect.Number
