import QueryDialect.Proofs.Text.ByteOrder

set_option autoImplicit false

/-!
# Texts cut at a byte

A text can be cut at a byte only where a character begins. The byte at which a search by characters
ends is such a place, whatever the width of the characters before it, and an ASCII character at the
front of a text is known by the first byte.
-/
namespace QueryDialect.Text

/-- The number of bytes of a text. -/
def width (cs : List Char) : Nat := (cs.map Char.utf8Size).sum

theorem width_cons (c : Char) (cs : List Char) : width (c :: cs) = c.utf8Size + width cs := by
  simp [width]

/-! ## Cuts -/

/-- The characters before and behind the first `n` bytes, unless these end within a character or
beyond the text. -/
def cutAt? : Nat → List Char → Option (List Char × List Char)
  | 0, cs => some ([], cs)
  | _ + 1, [] => none
  | n + 1, c :: cs =>
    if c.utf8Size ≤ n + 1 then (cutAt? (n + 1 - c.utf8Size) cs).map fun (l, r) => (c :: l, r)
    else none

theorem cutAt?_append (l r : List Char) : cutAt? (width l) (l ++ r) = some (l, r) := by
  induction l with
  | nil => simp [width, cutAt?]
  | cons c l ih =>
    have positive := c.utf8Size_pos
    have size := width_cons c l
    obtain ⟨n, more⟩ := Nat.exists_eq_add_one_of_ne_zero (show width (c :: l) ≠ 0 by omega)
    have fits : c.utf8Size ≤ n + 1 := by omega
    have others : n + 1 - c.utf8Size = width l := by omega
    simp [more, cutAt?, fits, others, ih]

/-- A cut loses no character, and its front has as many bytes as it was asked for. -/
theorem cutAt?_eq_some_iff {n : Nat} {cs l r : List Char} :
    cutAt? n cs = some (l, r) ↔ cs = l ++ r ∧ width l = n := by
  constructor
  · intro h
    induction cs generalizing n l with
    | nil => cases n <;> simp_all [cutAt?, width]
    | cons c cs ih =>
      cases n with
      | zero => simp_all [cutAt?, width]
      | succ n =>
        by_cases fits : c.utf8Size ≤ n + 1
        · rw [cutAt?, if_pos fits] at h
          obtain ⟨⟨l', r'⟩, cut, same⟩ := Option.map_eq_some_iff.1 h
          obtain ⟨rfl, rfl⟩ := Prod.mk.inj same
          obtain ⟨rfl, size⟩ := ih cut
          refine ⟨rfl, ?_⟩
          rw [width_cons]
          omega
        · simp [cutAt?, fits] at h
  · rintro ⟨rfl, rfl⟩
    exact cutAt?_append l r

/-- The byte at which the first character of a class begins, or the end of the text. -/
def findByte (p : Char → Bool) : List Char → Nat
  | [] => 0
  | c :: cs => if p c then 0 else c.utf8Size + findByte p cs

theorem findByte_eq (p : Char → Bool) (cs : List Char) :
    findByte p cs = width (cs.takeWhile fun c => !p c) := by
  induction cs with
  | nil => rfl
  | cons c cs ih =>
    by_cases h : p c = true
    · simp [findByte, h, width]
    · simp [findByte, h, ih, width_cons]

theorem cutAt?_findByte (p : Char → Bool) (cs : List Char) :
    cutAt? (findByte p cs) cs =
      some (cs.takeWhile fun c => !p c, cs.dropWhile fun c => !p c) := by
  rw [cutAt?_eq_some_iff, findByte_eq]
  exact ⟨List.takeWhile_append_dropWhile.symm, rfl⟩

/-! ## First bytes -/

/-- The bytes of a wider character are all greater than those of ASCII. -/
theorem head?_utf8EncodeChar {c d : Char} (ascii : d.toNat ≤ 127) :
    (String.utf8EncodeChar c).head? = some d.val.toUInt8 ↔ c = d := by
  change d.val.toNat ≤ 127 at ascii
  have value : d.val.toUInt8.toNat = d.val.toNat := by
    rw [UInt32.toNat_toUInt8]
    omega
  have same : c = d ↔ c.val.toNat = d.val.toNat := by
    rw [Char.ext_iff, UInt32.toNat_inj]
  have bound : c.val.toNat < 0x110000 := by
    have valid := c.valid
    simp only [UInt32.isValidChar, Nat.isValidChar] at valid
    omega
  rw [same]
  unfold String.utf8EncodeChar
  dsimp only
  split_ifs <;> simp only [List.head?_cons, Option.some.injEq, ← UInt8.toNat_inj, value,
    UInt8.toNat_ofNat'] <;> omega

theorem bytes_head?_cons {s : String} {c d : Char} {cs : List Char} (text : s.toList = c :: cs)
    (ascii : d.toNat ≤ 127) : (bytes s).head? = some d.val.toUInt8 ↔ c = d := by
  rw [bytes_eq, text, List.flatMap_cons,
    List.head?_append_of_ne_nil _ String.utf8EncodeChar_ne_nil]
  exact head?_utf8EncodeChar ascii

end QueryDialect.Text
