import QueryDialect.Filter
import QueryDialect.Proofs.Text.LetterCase

set_option autoImplicit false

/-!
# Patterns of text matches

In a pattern a percent sign stands for any run of characters and an underscore for any one character,
and a backslash makes the character behind it stand for itself. A text without these three, between
the wildcards of a match, is matched by the texts that contain it, begin with it or end with it.
-/
namespace QueryDialect

namespace Text

/-! ## Matching -/

inductive PatternItem where
  | anyRun
  | anyOne
  | exactly (c : Char)
  deriving DecidableEq, Repr

/-- The items of a pattern. With a backslash at its end, which escapes nothing, a text is none. -/
def patternItems? : List Char → Option (List PatternItem)
  | [] => some []
  | ['\\'] => none
  | '\\' :: c :: cs => (patternItems? cs).map (.exactly c :: ·)
  | '%' :: cs => (patternItems? cs).map (.anyRun :: ·)
  | '_' :: cs => (patternItems? cs).map (.anyOne :: ·)
  | c :: cs => (patternItems? cs).map (.exactly c :: ·)

/-- What stands behind a run of any characters may be any end of the text. -/
def matchesItems : List PatternItem → List Char → Bool
  | [], cs => cs.isEmpty
  | .anyRun :: items, cs => cs.tails.any (matchesItems items)
  | .anyOne :: _, [] => false
  | .anyOne :: items, _ :: cs => matchesItems items cs
  | .exactly _ :: _, [] => false
  | .exactly c :: items, d :: cs => c = d && matchesItems items cs

/-- The characters with a meaning of their own in a pattern. -/
def isPatternMark (c : Char) : Bool := c = '%' || c = '_' || c = '\\'

/-- A text in which every character stands for itself. -/
def IsPlain (cs : List Char) : Prop := ∀ c ∈ cs, isPatternMark c = false

variable {cs ds : List Char} {items : List PatternItem}

theorem patternItems?_append (plain : IsPlain cs) (ds : List Char) : patternItems? (cs ++ ds) =
    (patternItems? ds).map (cs.map PatternItem.exactly ++ ·) := by
  induction cs with
  | nil => simp
  | cons c cs ih =>
    obtain ⟨first, others⟩ := List.forall_mem_cons.1 plain
    simp only [isPatternMark, Bool.or_eq_false_iff, decide_eq_false_iff_not] at first
    rw [List.cons_append, patternItems?, ih others, Option.map_map]
    · rfl
    all_goals simp [first]

theorem patternItems?_percent (cs : List Char) :
    patternItems? ('%' :: cs) = (patternItems? cs).map (.anyRun :: ·) := by
  rw [patternItems?]

theorem matchesItems_exactly : matchesItems (cs.map PatternItem.exactly ++ items) ds = true ↔
    ∃ rest, cs ++ rest = ds ∧ matchesItems items rest = true := by
  induction cs generalizing ds with
  | nil => simp
  | cons c cs ih =>
    cases ds with
    | nil => simp [matchesItems]
    | cons d ds =>
      simp only [List.map_cons, List.cons_append, matchesItems, Bool.and_eq_true,
        decide_eq_true_eq, ih, List.cons.injEq, and_assoc, exists_and_left]

theorem matchesItems_anyRun : matchesItems (.anyRun :: items) ds = true ↔
    ∃ rest, rest <:+ ds ∧ matchesItems items rest = true := by
  simp [matchesItems, List.any_eq_true]

theorem matchesItems_run (cs : List Char) : matchesItems [.anyRun] cs = true :=
  matchesItems_anyRun.2 ⟨[], List.nil_suffix, rfl⟩

theorem matchesItems_text : matchesItems (cs.map PatternItem.exactly) ds = true ↔ cs = ds := by
  rw [← List.append_nil (cs.map _), matchesItems_exactly]
  constructor
  · rintro ⟨rest, rfl, ended⟩
    rw [List.isEmpty_iff.1 ended, List.append_nil]
  · rintro rfl
    exact ⟨[], List.append_nil cs, rfl⟩

/-! ## Lower case -/

/-- A lower case of texts, whatever it makes of letters: the marks of patterns stay where they are, and
nothing else becomes one. -/
structure Lowering where
  lower : List Char → List Char
  lower_nil : lower [] = []
  lower_mark (before : List Char) (c : Char) (after : List Char) (mark : isPatternMark c = true) :
    lower (before ++ c :: after) = lower before ++ c :: lower after
  lower_plain (cs : List Char) (plain : IsPlain cs) : IsPlain (lower cs)

theorem isPatternMark_iff {c : Char} : isPatternMark c = true ↔ c = '%' ∨ c = '_' ∨ c = '\\' := by
  simp [isPatternMark, or_assoc]

theorem isPatternMark_toLower (c : Char) : isPatternMark c.toLower = isPatternMark c := by
  rw [Bool.eq_iff_iff, isPatternMark_iff, isPatternMark_iff]
  have mark {d : Char} (h : d.isAlpha = false) : c.toLower = d ↔ c = d := by
    constructor
    · intro same
      exact eq_of_toLower_eq h (same.trans (toLower_of_not_isAlpha h).symm)
    · rintro rfl
      exact toLower_of_not_isAlpha h
  rw [mark rfl, mark rfl, mark rfl]

/-- The lower case that is made of each character by itself. -/
def Lowering.ofChars (f : Char → List Char) (marks : ∀ c, isPatternMark c = true → f c = [c])
    (others : ∀ c, isPatternMark c = false → IsPlain (f c)) : Lowering where
  lower := List.flatMap f
  lower_nil := rfl
  lower_mark before c after mark := by
    rw [List.flatMap_append, List.flatMap_cons, marks c mark]
    rfl
  lower_plain cs plain c hc := by
    obtain ⟨d, hd, hc⟩ := List.mem_flatMap.1 hc
    exact others d (plain d hd) c hc

/-- The lower case in which only the letters of ASCII have a case. -/
def Lowering.ascii : Lowering :=
  .ofChars (fun c => [c.toLower])
    (fun c mark => by rcases isPatternMark_iff.1 mark with rfl | rfl | rfl <;> rfl)
    (fun c other d hd => by rwa [List.mem_singleton.1 hd, isPatternMark_toLower])

end Text

/-! ## Wildcards of a match -/

namespace MatchType

open Text

/-- The text between the wildcards of the match. -/
def around (type : MatchType) (cs : List Char) : List Char :=
  (if type.leadingWildcard then ['%'] else []) ++
    (cs ++ if type.trailingWildcard then ['%'] else [])

/-- Where in a text the match looks for a part. -/
def Finds : MatchType → (part text : List Char) → Prop
  | contains, part, text => part <:+: text
  | starts, part, text => part <+: text
  | ends, part, text => part <:+ text

instance : (type : MatchType) → (part text : List Char) → Decidable (type.Finds part text)
  | contains, part, text => inferInstanceAs (Decidable (part <:+: text))
  | starts, part, text => inferInstanceAs (Decidable (part <+: text))
  | ends, part, text => inferInstanceAs (Decidable (part <:+ text))

theorem around_matches {cs : List Char} (type : MatchType) (plain : IsPlain cs) (ds : List Char) :
    ∃ items, patternItems? (type.around cs) = some items ∧
      (matchesItems items ds = true ↔ type.Finds cs ds) := by
  have part (rest : List Char) := patternItems?_append plain rest
  cases type with
  | contains =>
    change ∃ items, patternItems? ('%' :: (cs ++ ['%'])) = some items ∧ _
    rw [patternItems?_percent, part, patternItems?_percent]
    refine ⟨_, rfl, ?_⟩
    rw [matchesItems_anyRun]
    simp only [matchesItems_exactly, matchesItems_run, and_true, Finds, List.IsInfix, List.IsSuffix]
    constructor
    · rintro ⟨_, ⟨before, rfl⟩, after, rfl⟩
      exact ⟨before, after, List.append_assoc _ _ _⟩
    · rintro ⟨before, after, rfl⟩
      exact ⟨cs ++ after, ⟨before, (List.append_assoc _ _ _).symm⟩, after, rfl⟩
  | starts =>
    change ∃ items, patternItems? (cs ++ ['%']) = some items ∧ _
    rw [part, patternItems?_percent]
    refine ⟨_, rfl, ?_⟩
    rw [matchesItems_exactly]
    simp only [matchesItems_run, and_true, Finds, List.IsPrefix]
  | ends =>
    change ∃ items, patternItems? ('%' :: (cs ++ [])) = some items ∧ _
    rw [patternItems?_percent, part]
    refine ⟨_, rfl, ?_⟩
    rw [matchesItems_anyRun]
    simp only [List.append_nil, matchesItems_text, exists_eq_right', Finds]

theorem lower_around (l : Lowering) (type : MatchType) (cs : List Char) :
    l.lower (type.around cs) = type.around (l.lower cs) := by
  have lead (cs : List Char) : l.lower ('%' :: cs) = '%' :: l.lower cs := by
    simpa [l.lower_nil] using l.lower_mark [] '%' cs rfl
  have trail : l.lower (cs ++ ['%']) = l.lower cs ++ ['%'] := by
    simpa [l.lower_nil] using l.lower_mark cs '%' [] rfl
  cases type <;> simp [around, leadingWildcard, trailingWildcard, lead, trail]

end MatchType

end QueryDialect
