import QueryDialect.Text.Blank
import QueryDialect.Text.WordCharacter
import Mathlib

set_option autoImplicit false

/-!
# Letter case

Two texts are the same but for letter case if they are the same in lower case, where only the letters
of ASCII have a case. All other characters are then the same, and a word stays a word.
-/
namespace QueryDialect.Text

/-- The texts differ in the case of ASCII letters at most. -/
def SameButCase (s t : String) : Prop := s.map Char.toLower = t.map Char.toLower

theorem sameButCase_iff {s t : String} :
    SameButCase s t ↔ s.toList.map Char.toLower = t.toList.map Char.toLower := by
  rw [SameButCase, ← String.toList_inj, String.toList_map, String.toList_map]

theorem SameButCase.length_eq {s t : String} (h : SameButCase s t) : s.length = t.length := by
  have sizes := congrArg List.length (sameButCase_iff.1 h)
  rwa [List.length_map, List.length_map, String.length_toList, String.length_toList] at sizes

theorem toLower_cases (c : Char) :
    c.toLower = c ∨ 65 ≤ c.toNat ∧ c.toNat ≤ 90 ∧ c.toLower.toNat = c.toNat + 32 := by
  unfold Char.toLower
  split_ifs with upper
  · have range : 65 ≤ c.toNat ∧ c.toNat ≤ 90 := upper
    refine .inr ⟨range.1, range.2, ?_⟩
    change (c.val + ('a'.val - 'A'.val)).toNat = c.val.toNat + 32
    rw [UInt32.toNat_add]
    change (c.toNat + 32) % 4294967296 = c.toNat + 32
    omega
  · exact .inl rfl

theorem isAlpha_iff {c : Char} : c.isAlpha = true ↔
    65 ≤ c.toNat ∧ c.toNat ≤ 90 ∨ 97 ≤ c.toNat ∧ c.toNat ≤ 122 := by
  simp [Char.isAlpha, Char.isUpper, Char.isLower, UInt32.le_iff_toNat_le]

theorem toLower_of_not_isAlpha {c : Char} (h : c.isAlpha = false) : c.toLower = c := by
  have letter := isAlpha_iff.not.1 (by rw [h]; decide)
  rcases toLower_cases c with lower | upper
  · exact lower
  · omega

theorem eq_of_toLower_eq {c d : Char} (h : c.isAlpha = false) (same : d.toLower = c.toLower) :
    d = c := by
  have letter := isAlpha_iff.not.1 (by rw [h]; decide)
  rw [toLower_of_not_isAlpha h] at same
  rcases toLower_cases d with lower | upper
  · rw [← same, lower]
  · rw [same] at upper
    omega

theorem eq_of_map_toLower_eq {cs ds : List Char} (h : ∀ c ∈ cs, c.isAlpha = false)
    (same : ds.map Char.toLower = cs.map Char.toLower) : ds = cs := by
  induction cs generalizing ds with
  | nil => simpa using same
  | cons c cs ih =>
    cases ds with
    | nil => simp at same
    | cons d ds =>
      obtain ⟨first, others⟩ := List.cons.inj same
      obtain ⟨caseless, caseless'⟩ := List.forall_mem_cons.1 h
      rw [eq_of_toLower_eq caseless first, ih caseless' others]

theorem isWordCharacter_of_isAlpha {c : Char} (h : c.isAlpha = true) : isWordCharacter c = true := by
  rw [isWordCharacter, CharRanges.has_iff]
  rcases isAlpha_iff.1 h with upper | lower
  · exact ⟨(0x41, 0x5A), by decide +kernel, upper⟩
  · exact ⟨(0x61, 0x7A), by decide +kernel, lower⟩

theorem isAlpha_of_isDigit {c : Char} (h : c.isDigit = true) : c.isAlpha = false := by
  rw [Bool.eq_false_iff]
  intro letter
  have digit : 48 ≤ c.toNat ∧ c.toNat ≤ 57 := Char.isDigit_iff_toNat.1 h
  have := isAlpha_iff.1 letter
  omega

theorem isAlpha_of_isBlank {c : Char} (h : isBlank c = true) : c.isAlpha = false := by
  rw [Bool.eq_false_iff]
  intro letter
  have solid : isBlank c = false := by
    refine CharRanges.disjoint [(65, 90), (97, 122)] blankRanges (by decide) ?_
    simpa [CharRanges.has] using isAlpha_iff.1 letter
  rw [h] at solid
  cases solid

theorem SameButCase.isWord {s t : String} (h : SameButCase s t) (word : IsWord s) : IsWord t := by
  rw [sameButCase_iff] at h
  obtain ⟨nonempty, all⟩ := word
  constructor
  · intro empty
    rw [empty] at h
    exact nonempty (by simpa using h)
  · rw [List.all_eq_true] at all ⊢
    intro c hc
    have lower : c.toLower ∈ s.toList.map Char.toLower := h ▸ List.mem_map_of_mem hc
    obtain ⟨d, hd, same⟩ := List.mem_map.1 lower
    by_cases letter : c.isAlpha = true
    · exact isWordCharacter_of_isAlpha letter
    · rw [← eq_of_toLower_eq (by simpa using letter) same]
      exact all d hd

end QueryDialect.Text
