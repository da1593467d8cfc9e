import QueryDialect.Text.CharRange

set_option autoImplicit false

/-!
# Blank characters

The blanks are the 25 characters with the Unicode property White_Space. Trimming removes them from
the ends of a text.
-/
namespace QueryDialect.Text

/-- The code points with the property White_Space. -/
def blankRanges : CharRanges :=
  [(0x9, 0xD), (0x20, 0x20), (0x85, 0x85), (0xA0, 0xA0), (0x1680, 0x1680), (0x2000, 0x200A),
    (0x2028, 0x2029), (0x202F, 0x202F), (0x205F, 0x205F), (0x3000, 0x3000)]

def isBlank (c : Char) : Bool := blankRanges.has c

def trimLeft (cs : List Char) : List Char := cs.dropWhile isBlank

def trim (cs : List Char) : List Char := (trimLeft (trimLeft cs).reverse).reverse

/-- A text with no character but blanks, the empty text included. -/
def isBlankText (s : String) : Bool := s.toList.all isBlank

theorem trimLeft_eq_nil_iff (cs : List Char) :
    trimLeft cs = [] ↔ ∀ c ∈ cs, isBlank c = true := by
  unfold trimLeft
  induction cs with
  | nil => exact ⟨fun _ _ h => (nomatch h), fun _ => rfl⟩
  | cons c cs ih =>
    rw [List.dropWhile_cons, List.forall_mem_cons]
    cases h : isBlank c with
    | true => exact ⟨fun hs => ⟨rfl, ih.mp hs⟩, fun hs => ih.mpr hs.2⟩
    | false => exact ⟨fun hs => (nomatch hs), fun hs => (nomatch hs.1)⟩

end QueryDialect.Text
