set_option autoImplicit false

/-!
# Character classes as ranges of code points

A class of characters is a list of closed ranges of code points in ascending order; membership is
a scan of the list.
-/
namespace QueryDialect.Text

abbrev CharRanges := List (Nat × Nat)

/-- Whether some range holds the code point of `c`. -/
def CharRanges.has (ranges : CharRanges) (c : Char) : Bool :=
  ranges.any fun r => r.1 ≤ c.toNat && c.toNat ≤ r.2

theorem CharRanges.has_iff (ranges : CharRanges) (c : Char) :
    ranges.has c = true ↔ ∃ r ∈ ranges, r.1 ≤ c.toNat ∧ c.toNat ≤ r.2 := by
  simp [CharRanges.has]

theorem CharRanges.disjoint (as bs : CharRanges) {c : Char}
    (apart : ∀ a ∈ as, ∀ b ∈ bs, a.2 < b.1 ∨ b.2 < a.1) (h : as.has c = true) :
    bs.has c = false := by
  refine Bool.eq_false_iff.2 fun h' => ?_
  obtain ⟨a, ha, low, high⟩ := (has_iff as c).1 h
  obtain ⟨b, hb, low', high'⟩ := (has_iff bs c).1 h'
  have := apart a ha b hb
  omega

end QueryDialect.Text
