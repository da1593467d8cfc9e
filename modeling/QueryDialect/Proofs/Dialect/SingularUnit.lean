import QueryDialect.Proofs.Dialect.Shift
import QueryDialect.Proofs.Text.LetterCase

set_option autoImplicit false

/-!
# Singular units

Presto writes the plural of a keyword without its last letter, but only where this is a small `s`. The
other letters may have either case, and every other unit is written as it is. So two spellings of one
interval that differ in letter case are written alike, but for case, unless they are plurals of which
one ends with a small letter and one with a capital.
-/
namespace QueryDialect

open Text

namespace Interval

/-! ## Spellings of an interval -/

variable {s s' : String} {negative : Bool} {digits : List Char} {unit : String}

/-- Sign, digits and blanks have no case, so only the unit can be spelled otherwise. -/
theorem Form.respelled (h : Form Char.isDigit s negative digits unit) (same : SameButCase s s') :
    ∃ unit', Form Char.isDigit s' negative digits unit' ∧ SameButCase unit unit' := by
  obtain ⟨nonempty, all, word, blanks, spaced, blank, text⟩ := h
  have caseless : ∀ c ∈ signChars negative ++ (digits ++ blanks), c.isAlpha = false := by
    intro c hc
    rcases List.mem_append.1 hc with sign | hc
    · cases negative with
      | true =>
        rw [List.mem_singleton.1 sign]
        rfl
      | false => cases sign
    · rcases List.mem_append.1 hc with digit | isBlank
      · exact isAlpha_of_isDigit (all c digit)
      · exact isAlpha_of_isBlank (blank c isBlank)
  have parts : s.toList = (signChars negative ++ (digits ++ blanks)) ++ unit.toList := by
    rw [text]
    simp
  have lower := sameButCase_iff.1 same
  rw [parts, List.map_append] at lower
  obtain ⟨front, back, text', front', back'⟩ := List.map_eq_append_iff.1 lower.symm
  rw [eq_of_map_toLower_eq caseless front'] at text'
  have respelled : SameButCase unit (String.ofList back) := by
    rw [sameButCase_iff, String.toList_ofList, back']
  refine ⟨String.ofList back,
    ⟨nonempty, all, respelled.isWord word, blanks, spaced, blank, ?_⟩, respelled⟩
  rw [text', String.toList_ofList]
  simp

theorem parseInterval_respelled {i : Interval} (read : Dialect.parseInterval s = .ok i)
    (same : SameButCase s s') : ∃ j, Dialect.parseInterval s' = .ok j ∧ j.value = i.value ∧
      SameButCase i.unit j.unit := by
  obtain ⟨negative, digits, form, value⟩ := ofText?_eq_some_iff.1 (parseInterval_eq_ok.1 read)
  obtain ⟨unit', form', respelled⟩ := form.respelled same
  exact ⟨⟨i.value, unit', i.value_fits, form'.word⟩,
    parseInterval_eq_ok.2 (ofText?_eq_some_iff.2 ⟨negative, digits, form', value⟩), rfl, respelled⟩

/-! ## Plurals -/

/-- The plural of a keyword in any letter case. -/
def IsPlural (unit : String) : Prop := ∃ g : Granularity, unit.map Char.toLower = g.name ++ "s"

def EndsSmall (unit : String) : Prop := ∃ stem, unit = stem ++ "s"

variable {i j : Interval}

theorem IsPlural.respelled {unit unit' : String} (plural : IsPlural unit)
    (same : SameButCase unit unit') : IsPlural unit' := by
  obtain ⟨g, name⟩ := plural
  exact ⟨g, same.symm.trans name⟩

theorem isKeyword_iff {s : String} :
    (Granularity.ofName? s).isSome = true ↔ ∃ g : Granularity, s = g.name := by
  rw [Option.isSome_iff_exists]
  constructor
  · rintro ⟨g, found⟩
    exact ⟨g, by simpa [eq_comm] using List.find?_some found⟩
  · rintro ⟨g, rfl⟩
    exact ⟨g, Granularity.ofName?_name g⟩

theorem singularUnit_of_stem {stem : String} (h : i.unit = stem ++ "s") : i.singularUnit =
    if (Granularity.ofName? (stem.map Char.toLower)).isSome then stem else i.unit := by
  have reversed : i.unit.toList.reverse = 's' :: stem.toList.reverse := by simp [h]
  unfold singularUnit
  rw [reversed]
  simp

theorem singularUnit_of_keyword {stem : String} {g : Granularity} (h : i.unit = stem ++ "s")
    (keyword : stem.map Char.toLower = g.name) : i.singularUnit = stem := by
  rw [singularUnit_of_stem h, if_pos (isKeyword_iff.2 ⟨g, keyword⟩)]

theorem singularUnit_of_not_endsSmall (h : ¬ EndsSmall i.unit) : i.singularUnit = i.unit := by
  unfold singularUnit
  split
  · rename_i stem last
    refine absurd ⟨String.ofList stem.reverse, ?_⟩ h
    apply String.toList_injective
    rw [← List.reverse_reverse i.unit.toList, last]
    simp
  · rfl

theorem map_toLower_plural (stem : String) :
    (stem ++ "s").map Char.toLower = stem.map Char.toLower ++ "s" := by
  apply String.toList_injective
  simp

theorem singularUnit_of_not_isPlural (h : ¬ IsPlural i.unit) : i.singularUnit = i.unit := by
  by_cases small : EndsSmall i.unit
  · obtain ⟨stem, last⟩ := small
    rw [singularUnit_of_stem last, if_neg]
    intro keyword
    obtain ⟨g, name⟩ := isKeyword_iff.1 keyword
    exact h ⟨g, by rw [last, map_toLower_plural, name]⟩
  · exact singularUnit_of_not_endsSmall small

theorem exists_singularUnit (plural : IsPlural i.unit) (small : EndsSmall i.unit) :
    i.unit = i.singularUnit ++ "s" := by
  obtain ⟨g, name⟩ := plural
  obtain ⟨stem, last⟩ := small
  rw [last, map_toLower_plural] at name
  rw [singularUnit_of_keyword last (String.append_left_inj _ |>.1 name)]
  exact last

/-- Of two spellings of a plural only the one that ends with a small letter becomes shorter. -/
theorem not_sameButCase_singularUnit (same : SameButCase i.unit j.unit) (plural : IsPlural i.unit)
    (small : EndsSmall i.unit) (capital : ¬ EndsSmall j.unit) :
    ¬ SameButCase i.singularUnit j.singularUnit := by
  intro alike
  have letter : "s".length = 1 := by decide
  have shorter := congrArg String.length (exists_singularUnit plural small)
  rw [String.length_append, letter] at shorter
  rw [singularUnit_of_not_endsSmall capital] at alike
  have := alike.length_eq
  have := same.length_eq
  omega

/-- Of two spellings of a plural one loses its last letter and the other not, where these letters
differ in case. -/
theorem sameButCase_singularUnit_iff (same : SameButCase i.unit j.unit) :
    SameButCase i.singularUnit j.singularUnit ↔
      (IsPlural i.unit → (EndsSmall i.unit ↔ EndsSmall j.unit)) := by
  by_cases plural : IsPlural i.unit
  · have plural' := plural.respelled same
    by_cases small : EndsSmall i.unit <;> by_cases small' : EndsSmall j.unit
    · refine iff_of_true ?_ (fun _ => iff_of_true small small')
      rw [exists_singularUnit plural small, exists_singularUnit plural' small', SameButCase,
        map_toLower_plural, map_toLower_plural] at same
      exact (String.append_left_inj _).1 same
    · exact iff_of_false (not_sameButCase_singularUnit same plural small small')
        fun h => small' ((h plural).1 small)
    · exact iff_of_false
        (fun alike => not_sameButCase_singularUnit same.symm plural' small' small alike.symm)
        fun h => small ((h plural).2 small')
    · refine iff_of_true ?_ (fun _ => iff_of_false small small')
      rwa [singularUnit_of_not_endsSmall small, singularUnit_of_not_endsSmall small']
  · refine iff_of_true ?_ (fun h => absurd h plural)
    rwa [singularUnit_of_not_isPlural plural,
      singularUnit_of_not_isPlural fun h => plural (h.respelled same.symm)]

end Interval

namespace Dialect

open QueryDialect.Interval

/-! ## Units that Presto writes -/

/-- Presto moves every date by the interval of the text with this unit, in both directions. -/
def WritesUnit (s : String) (i : Interval) (unit : String) : Prop :=
  ∀ date,
    presto.addInterval date s =
      .ok (date ++ " + " ++ ("interval '" ++ toString i.value ++ "' " ++ unit)) ∧
    presto.subtractInterval date s =
      .ok (date ++ " - " ++ ("interval '" ++ toString i.value ++ "' " ++ unit))

/-- How the unit that is written follows from the word in the interval. -/
structure SingularOf (word unit : String) : Prop where
  plural (g : Granularity) (stem : String) (last : word = stem ++ "s")
    (keyword : stem.map Char.toLower = g.name) : unit = stem
  capital (stem : String) (last : word = stem ++ "S") : unit = word
  other (h : ¬ IsPlural word) : unit = word

variable {s : String} {i : Interval}

theorem writesUnit (read : parseInterval s = .ok i) : WritesUnit s i i.singularUnit :=
  fun _ => ⟨shift_eq_ok.2 ⟨i, read, rfl⟩, shift_eq_ok.2 ⟨i, read, rfl⟩⟩

theorem singularOf (i : Interval) : SingularOf i.unit i.singularUnit where
  plural _ _ last keyword := singularUnit_of_keyword last keyword
  capital stem last := by
    refine singularUnit_of_not_endsSmall ?_
    rintro ⟨stem', last'⟩
    have letters := congrArg (fun w => w.toList.getLast?) (last.symm.trans last')
    simp at letters
  other h := singularUnit_of_not_isPlural h

/-- Every spelling of an interval is accepted. Its unit is written as that of the other spelling, but
for case, unless they are plurals whose last letters differ in case. -/
theorem presto_units (s : String) (i : Interval) (read : parseInterval s = .ok i) :
    ∃ unit, WritesUnit s i unit ∧ SingularOf i.unit unit ∧
      ∀ s', SameButCase s s' → ∃ j unit', parseInterval s' = .ok j ∧ j.value = i.value ∧
        SameButCase i.unit j.unit ∧ WritesUnit s' j unit' ∧ SingularOf j.unit unit' ∧
        (SameButCase unit unit' ↔
          (IsPlural i.unit → (EndsSmall i.unit ↔ EndsSmall j.unit))) := by
  refine ⟨i.singularUnit, writesUnit read, singularOf i, fun s' same => ?_⟩
  obtain ⟨j, read', value, respelled⟩ := parseInterval_respelled read same
  exact ⟨j, j.singularUnit, read', value, respelled, writesUnit read', singularOf j,
    sameButCase_singularUnit_iff respelled⟩

theorem presto_units_mixedCase :
    let i : Interval := ⟨-3, "weeKs", by decide, by decide +kernel⟩
    (parseInterval "-03 weeKs" = .ok i ∧ SameButCase "-03 weeKs" "-03 WEEKs") ∧
      ∃ unit, WritesUnit "-03 weeKs" i unit ∧ SingularOf i.unit unit ∧
        ∃ j unit', parseInterval "-03 WEEKs" = .ok j ∧ j.value = i.value ∧
          SameButCase i.unit j.unit ∧ WritesUnit "-03 WEEKs" j unit' ∧ SingularOf j.unit unit' ∧
          (SameButCase unit unit' ↔
            (IsPlural i.unit → (EndsSmall i.unit ↔ EndsSmall j.unit))) := by
  intro i
  have read : parseInterval "-03 weeKs" = .ok i := by decide +kernel
  have same : SameButCase "-03 weeKs" "-03 WEEKs" := sameButCase_iff.2 (by decide)
  obtain ⟨unit, writes, singular, spellings⟩ := presto_units "-03 weeKs" i read
  exact ⟨⟨read, same⟩, unit, writes, singular, spellings _ same⟩

/-- A plural in capitals keeps its last letter, which it loses in small letters. -/
theorem not_units_alike : ¬ ∀ date s s' value unit unit', SameButCase s s' →
    presto.addInterval date s = .ok (date ++ " + interval '" ++ value ++ "' " ++ unit) →
    presto.addInterval date s' = .ok (date ++ " + interval '" ++ value ++ "' " ++ unit') →
    SameButCase unit unit' := by
  intro alike
  have same : SameButCase "2 minutes" "2 MINUTES" := sameButCase_iff.2 (by decide)
  have small : presto.addInterval "d" "2 minutes" =
      .ok ("d" ++ " + interval '" ++ "2" ++ "' " ++ "minute") := by decide +kernel
  have capital : presto.addInterval "d" "2 MINUTES" =
      .ok ("d" ++ " + interval '" ++ "2" ++ "' " ++ "MINUTES") := by decide +kernel
  have other : ¬ SameButCase "minute" "MINUTES" := sameButCase_iff.not.2 (by decide)
  exact other (alike "d" _ _ "2" _ _ same small capital)

end Dialect

end QueryDialect
