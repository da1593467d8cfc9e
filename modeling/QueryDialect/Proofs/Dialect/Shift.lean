import QueryDialect.Dialect.Engine
import QueryDialect.Proofs.Interval.Grammar
import QueryDialect.Proofs.Outcome
import QueryDialect.Proofs.Text.Lexer

set_option autoImplicit false

/-!
# Dates moved by an interval

A date is moved forwards and backwards by the same text behind the operator, which no date has a part
in. All of an interval that can stand within the quotes is digits, a sign, a space and a word, so that
the quotes that a dialect writes are the only ones.
-/
namespace QueryDialect

open Number

/-! ## Texts without quotes -/

theorem Text.ne_quote_of_wordCharacter {c : Char} (h : isWordCharacter c = true) : c ≠ '\'' := by
  rintro rfl
  exact absurd h (by decide +kernel)

namespace Interval

variable (i : Interval)

theorem unit_no_quote : '\'' ∉ i.unit.toList := by
  intro quote
  exact Text.ne_quote_of_wordCharacter (List.all_eq_true.1 i.unit_word.2 _ quote) rfl

theorem value_no_quote : '\'' ∉ (toString i.value).toList := by
  intro quote
  rcases (toString_canonical i.value).chars _ quote with sign | digit
  · cases sign
  · exact absurd digit (by decide)

theorem text_no_quote : '\'' ∉ i.text.toList := by
  rw [text, partsText, String.toList_append, String.toList_append, List.mem_append, List.mem_append]
  rintro ((value | space) | unit)
  · exact i.value_no_quote value
  · cases List.mem_singleton.1 space
  · exact i.unit_no_quote unit

theorem singularUnit_cases : i.singularUnit = i.unit ∨ i.singularUnit ++ "s" = i.unit := by
  unfold singularUnit
  split
  · rename_i stem plural
    dsimp only
    split_ifs
    · right
      apply String.toList_injective
      rw [String.toList_append, String.toList_ofList, ← List.reverse_reverse i.unit.toList, plural,
        List.reverse_cons]
      rfl
    · exact .inl rfl
  · exact .inl rfl

theorem singularUnit_no_quote : '\'' ∉ i.singularUnit.toList := by
  intro quote
  apply i.unit_no_quote
  rcases i.singularUnit_cases with same | plural
  · rwa [← same]
  · rw [← plural, String.toList_append]
    exact List.mem_append_left _ quote

end Interval

/-! ## The text behind the operator -/

/-- What is written of an interval behind the operator. The quotes of the form are the only ones, and
nothing in the interval ends the literal between them. -/
structure IntervalForm.Writes (form : IntervalForm) (i : Interval) (tail : String) : Prop where
  quotes : tail.toList.count '\'' = 2
  inside (h : form = .unitInside) : ∃ value, Canonical value i.value ∧
    tail = "interval '" ++ value ++ " " ++ i.unit ++ "'" ∧
    (Text.tokens? tail).map Text.literals = some [value ++ " " ++ i.unit]
  outside (h : form = .unitOutside) : ∃ value unit, Canonical value i.value ∧
    (unit = i.unit ∨ unit ++ "s" = i.unit) ∧ tail = "interval '" ++ value ++ "' " ++ unit ∧
    (Text.tokens? tail).map Text.literals = some [value]

namespace IntervalForm

variable (i : Interval)

theorem text_unitInside :
    unitInside.text i = "interval '" ++ toString i.value ++ " " ++ i.unit ++ "'" := by
  simp only [text, Interval.text, Interval.partsText, String.append_assoc]

theorem literals_unitInside :
    (Text.tokens? (unitInside.text i)).map Text.literals = some [i.text] := by
  have opened : Text.Reads "interval " (Text.plain "interval ") := Text.reads_plain (by decide)
  have same : unitInside.text i = "interval " ++ Text.literal i.text := by
    rw [Text.literal_of_no_quote i.text_no_quote, ← String.append_assoc, ← String.append_assoc]
    rfl
  rw [same, Text.tokens?_append_literal opened, Option.map_some, Text.literals_append,
    Text.literals_plain]
  rfl

theorem literals_unitOutside :
    (Text.tokens? (unitOutside.text i)).map Text.literals = some [toString i.value] := by
  have opened : Text.Reads "interval " (Text.plain "interval ") := Text.reads_plain (by decide)
  have rest : '\'' ∉ (" " ++ i.singularUnit).toList := by
    rw [String.toList_append]
    intro quote
    rcases List.mem_append.1 quote with space | unit
    · cases List.mem_singleton.1 space
    · exact i.singularUnit_no_quote unit
  have resumes : Text.Resumes (" " ++ i.singularUnit) := by
    refine ⟨' ', ?_, by decide⟩
    rw [String.toList_append]
    rfl
  have same : unitOutside.text i =
      "interval " ++ (Text.literal (toString i.value) ++ (" " ++ i.singularUnit)) := by
    rw [Text.literal_of_no_quote i.value_no_quote]
    simp only [text, String.append_assoc]
    rfl
  have read := (opened.append (Text.reads_literal_plain (toString i.value) rest resumes)).tokens?
  rw [same, read, Option.map_some, Text.literals_append, Text.literals_plain, Text.literals_literal,
    Text.literals_plain]
  rfl

theorem writes_text (form : IntervalForm) : form.Writes i (form.text i) := by
  constructor
  · have opened : "interval '".toList.count '\'' = 1 := by decide
    have closed : "'".toList.count '\'' = 1 := by decide
    have closedSpace : "' ".toList.count '\'' = 1 := by decide
    cases form with
    | unitInside =>
      simp only [text, String.toList_append, List.count_append, opened, closed,
        List.count_eq_zero.2 i.text_no_quote]
    | unitOutside =>
      simp only [text, String.toList_append, List.count_append, opened, closedSpace,
        List.count_eq_zero.2 i.value_no_quote, List.count_eq_zero.2 i.singularUnit_no_quote]
  · rintro rfl
    exact ⟨toString i.value, toString_canonical i.value, text_unitInside i, literals_unitInside i⟩
  · rintro rfl
    exact ⟨toString i.value, i.singularUnit, toString_canonical i.value, i.singularUnit_cases, rfl,
      literals_unitOutside i⟩

/-- The unit is put outside the quotes of a text that has it inside. -/
def moveUnitOut (tail : String) : String :=
  match (Text.tokens? tail).map Text.literals with
  | some [quoted] => ((Interval.ofText? quoted).map unitOutside.text).getD tail
  | _ => tail

theorem moveUnitOut_text : moveUnitOut (unitInside.text i) = unitOutside.text i := by
  rw [moveUnitOut, literals_unitInside]
  simp only [Interval.ofText?_text, Option.map_some, Option.getD_some]

theorem unitInside_text_injective : Function.Injective unitInside.text := by
  intro i j same
  have literals := literals_unitInside i
  rw [same, literals_unitInside] at literals
  exact (Interval.text_injective (List.cons.inj (Option.some.inj literals)).1).symm

end IntervalForm

namespace Dialect

/-! ## Both directions -/

/-- A dialect moves every date by the same text in both directions, or refuses both. -/
structure ShiftsAlike (d : Dialect) : Prop where
  refused (date s : String) (e : Error) :
    (d.addInterval date s = .error e ↔
      e = .invalidInterval s ∧ ¬ ∃ i, parseInterval s = .ok i) ∧
    (d.subtractInterval date s = .error e ↔
      e = .invalidInterval s ∧ ¬ ∃ i, parseInterval s = .ok i)
  moved (s : String) (i : Interval) (h : parseInterval s = .ok i) :
    ∃ tail, d.interval.Writes i tail ∧ ∀ date,
      d.addInterval date s = .ok (date ++ " + " ++ tail) ∧
      d.subtractInterval date s = .ok (date ++ " - " ++ tail)
  /-- With the unit inside the quotes, the interval can be told from the text. -/
  told (inside : d.interval = .unitInside) (s s' date date' tail : String)
    (h : d.addInterval date s = .ok (date ++ " + " ++ tail))
    (h' : d.addInterval date' s' = .ok (date' ++ " + " ++ tail)) :
    ∃ i, parseInterval s = .ok i ∧ parseInterval s' = .ok i

variable {d : Dialect} {operator date s tail : String}

theorem shift_eq_error {e : Error} : d.shift operator date s = .error e ↔
    e = .invalidInterval s ∧ ¬ ∃ i, parseInterval s = .ok i := by
  rw [shift, map_eq_error]
  exact ((Interval.readsForm s).refused e).trans
    (and_congr_right' (not_congr (Interval.readsForm s).accepts.symm))

theorem shift_eq_ok : d.shift operator date s = .ok (date ++ (" " ++ operator ++ " ") ++ tail) ↔
    ∃ i, parseInterval s = .ok i ∧ d.interval.text i = tail := by
  rw [shift, map_eq_ok]
  refine exists_congr fun i => and_congr_right fun _ => ?_
  simp only [String.append_assoc, String.append_right_inj]

theorem shiftsAlike (d : Dialect) : d.ShiftsAlike where
  refused _ _ _ := ⟨shift_eq_error, shift_eq_error⟩
  moved s i h := by
    refine ⟨d.interval.text i, IntervalForm.writes_text i d.interval, fun date => ⟨?_, ?_⟩⟩
    · exact shift_eq_ok.2 ⟨i, h, rfl⟩
    · exact shift_eq_ok.2 ⟨i, h, rfl⟩
  told inside s s' date date' tail h h' := by
    obtain ⟨i, read, text⟩ := shift_eq_ok.1 h
    obtain ⟨i', read', text'⟩ := shift_eq_ok.1 h'
    rw [inside] at text text'
    obtain rfl := IntervalForm.unitInside_text_injective (text.trans text'.symm)
    exact ⟨i, read, read'⟩

/-- In every dialect an interval is refused in both directions, or written alike in both. The text of
a dialect with the unit inside the quotes settles that of every other. -/
theorem shifts_alike :
    (∀ d : Dialect, d.ShiftsAlike) ∧
      (∃ outside : String → String, ∀ d d' : Dialect, d.interval = .unitInside →
        d'.interval = .unitOutside → ∀ date s tail,
          d.addInterval date s = .ok (date ++ " + " ++ tail) →
          d'.addInterval date s = .ok (date ++ " + " ++ outside tail)) ∧
      base.interval = .unitInside ∧
      ∀ e : Engine, e.dialect.interval = if e = .presto then .unitOutside else .unitInside := by
  refine ⟨shiftsAlike, ⟨IntervalForm.moveUnitOut, ?_⟩, rfl, ?_⟩
  · intro d d' inside outside date s tail h
    obtain ⟨i, read, rfl⟩ := shift_eq_ok.1 h
    refine shift_eq_ok.2 ⟨i, read, ?_⟩
    rw [inside, outside, IntervalForm.moveUnitOut_text]
  · rintro (_ | _ | _) <;> rfl

/-- The zeros in front of the number are gone, and the operator in the date makes no difference. -/
theorem shifts_alike_plural :
    (postgres.interval = .unitInside ∧ presto.interval = .unitOutside ∧
      postgres.addInterval "a + b" "-007 days" = .ok ("a + b" ++ " + " ++ "interval '-7 days'")) ∧
      ∃ outside : String → String, presto.addInterval "a + b" "-007 days" =
        .ok ("a + b" ++ " + " ++ outside "interval '-7 days'") := by
  have written : postgres.addInterval "a + b" "-007 days" =
      .ok ("a + b" ++ " + " ++ "interval '-7 days'") := by decide +kernel
  obtain ⟨-, ⟨outside, moved⟩, -⟩ := shifts_alike
  exact ⟨⟨rfl, rfl, written⟩, outside, moved postgres presto rfl rfl _ _ _ written⟩

end Dialect

end QueryDialect
