import QueryDialect.Dialect
import QueryDialect.Proofs.Number.Digits

set_option autoImplicit false

/-!
# The grammar of intervals

A text is an interval just when it has the form of one and its number fits a signed 64-bit integer.
The form may as well be found with the decimal digits of every script, and its number be read after
that. Every interval is what its own text is read as.
-/
namespace QueryDialect

open Number

theorem Text.isBlank_wordCharacter {c : Char} (h : isWordCharacter c = true) : isBlank c = false :=
  CharRanges.disjoint wordRanges blankRanges (by decide +kernel) h

namespace Interval

/-! ## Form -/

def signChars (negative : Bool) : List Char := if negative then ['-'] else []

def signed (negative : Bool) (digits : List Char) : Int :=
  if negative then -(ofDigits digits : Int) else ofDigits digits

/-- A minus sign or none, digits of a class, blanks and a word, with nothing before or after. -/
structure Form (isDigit : Char → Bool) (s : String) (negative : Bool) (digits : List Char)
    (unit : String) : Prop where
  nonempty : digits ≠ []
  all : ∀ c ∈ digits, isDigit c = true
  word : Text.IsWord unit
  text : ∃ blanks, blanks ≠ [] ∧ (∀ c ∈ blanks, Text.isBlank c = true) ∧
    s.toList = signChars negative ++ (digits ++ (blanks ++ unit.toList))

theorem readValue?_eq_some_iff {cs rest : List Char} {value : Int} :
    readValue? cs = some (value, rest) ↔ ∃ negative digits, digits ≠ [] ∧
      (∀ c ∈ digits, c.isDigit = true) ∧ Stops rest ∧
      cs = signChars negative ++ (digits ++ rest) ∧ value = signed negative digits := by
  constructor
  · intro h
    unfold readValue? at h
    split at h <;> obtain ⟨⟨n, rest'⟩, read, same⟩ := Option.map_eq_some_iff.1 h <;>
      obtain ⟨rfl, rfl⟩ := Prod.mk.inj same <;>
      obtain ⟨digits, nonempty, all, stop, rfl, rfl⟩ := readNat?_eq_some_iff.1 read
    · exact ⟨true, digits, nonempty, all, stop, rfl, rfl⟩
    · exact ⟨false, digits, nonempty, all, stop, rfl, rfl⟩
  · rintro ⟨negative, digits, nonempty, all, stop, rfl, rfl⟩
    have read := readNat?_digits nonempty all stop
    cases negative with
    | true => exact congrArg (Option.map _) read
    | false =>
      change readValue? (digits ++ rest) = _
      unfold readValue?
      split
      · rename_i sign
        cases digits with
        | nil => exact absurd rfl nonempty
        | cons d ds =>
          obtain ⟨rfl, -⟩ := List.cons.inj sign
          exact absurd (all '-' List.mem_cons_self) (by decide)
      · rw [read]
        rfl

theorem ofText?_eq_some {s : String} {i : Interval} : ofText? s = some i ↔
    ∃ rest, readValue? s.toList = some (i.value, rest) ∧ rest.head?.any Text.isBlank = true ∧
      Text.trimLeft rest = i.unit.toList := by
  unfold ofText?
  rw [Option.bind_eq_bind, Option.bind_eq_some_iff]
  constructor
  · rintro ⟨⟨value, rest⟩, read, h⟩
    dsimp only at h
    split_ifs at h with valid blank
    cases h
    exact ⟨rest, read, blank, String.toList_ofList.symm⟩
  · rintro ⟨rest, read, blank, unit⟩
    have same : String.ofList (Text.trimLeft rest) = i.unit := by rw [unit, String.ofList_toList]
    refine ⟨_, read, ?_⟩
    dsimp only
    rw [dif_pos ⟨i.value_fits, same ▸ i.unit_word⟩, if_pos blank]
    simp only [same]

theorem blanks_word_iff {rest : List Char} {unit : String} (word : Text.IsWord unit) :
    rest.head?.any Text.isBlank = true ∧ Text.trimLeft rest = unit.toList ↔
      ∃ blanks, blanks ≠ [] ∧ (∀ c ∈ blanks, Text.isBlank c = true) ∧
        rest = blanks ++ unit.toList := by
  have stop : ∀ c ∈ unit.toList.head?, Text.isBlank c = false := fun c head =>
    Text.isBlank_wordCharacter (List.all_eq_true.1 word.2 c (List.mem_of_mem_head? head))
  constructor
  · rintro ⟨blank, trimmed⟩
    refine ⟨rest.takeWhile Text.isBlank, ?_, fun c hc => List.mem_takeWhile_imp hc, ?_⟩
    · cases rest with
      | nil => cases blank
      | cons c rest => simpa using blank
    · rw [← trimmed]
      exact List.takeWhile_append_dropWhile.symm
  · rintro ⟨blanks, nonempty, all, rfl⟩
    refine ⟨?_, (Text.span_run all stop).2⟩
    cases blanks with
    | nil => exact absurd rfl nonempty
    | cons b bs => simpa using all b List.mem_cons_self

/-- No digit is a blank, so the blanks end the digits and begin before the word. -/
theorem ofText?_eq_some_iff {s : String} {i : Interval} : ofText? s = some i ↔
    ∃ negative digits, Form Char.isDigit s negative digits i.unit ∧
      i.value = signed negative digits := by
  rw [ofText?_eq_some]
  constructor
  · rintro ⟨rest, read, behind⟩
    obtain ⟨negative, digits, nonempty, all, -, text, value⟩ := readValue?_eq_some_iff.1 read
    obtain ⟨blanks, spaced, blank, rfl⟩ := (blanks_word_iff i.unit_word).1 behind
    exact ⟨negative, digits, ⟨nonempty, all, i.unit_word, blanks, spaced, blank, text⟩, value⟩
  · rintro ⟨negative, digits, ⟨nonempty, all, word, blanks, spaced, blank, text⟩, value⟩
    refine ⟨blanks ++ i.unit.toList, readValue?_eq_some_iff.2 ⟨negative, digits, nonempty, all, ?_,
      text, value⟩, (blanks_word_iff word).2 ⟨blanks, spaced, blank, rfl⟩⟩
    cases blanks with
    | nil => exact absurd rfl spaced
    | cons b bs =>
      refine stops_cons (Bool.eq_false_iff.2 fun digit => ?_)
      exact absurd (blank b List.mem_cons_self) (by rw [isBlank_digit digit]; decide)

theorem ofText?_isSome_iff {s : String} : (∃ i, ofText? s = some i) ↔
    ∃ negative digits unit, Form Char.isDigit s negative digits unit ∧
      FitsInt64 (signed negative digits) := by
  constructor
  · rintro ⟨i, read⟩
    obtain ⟨negative, digits, form, value⟩ := ofText?_eq_some_iff.1 read
    exact ⟨negative, digits, i.unit, form, value ▸ i.value_fits⟩
  · rintro ⟨negative, digits, unit, form, fits⟩
    exact ⟨⟨signed negative digits, unit, fits, form.word⟩,
      ofText?_eq_some_iff.2 ⟨negative, digits, form, rfl⟩⟩

/-! ## The digits of every script -/

/-- A class of digits that has the ASCII ones and neither blanks nor the minus sign. -/
structure DigitClass (isDigit : Char → Bool) : Prop where
  ascii : ∀ c, c.isDigit = true → isDigit c = true
  blank : ∀ c, Text.isBlank c = true → isDigit c = false
  minus : isDigit '-' = false

variable {isDigit : Char → Bool} {s : String} {negative negative' : Bool}
  {digits digits' : List Char} {unit unit' : String}

/-- The parts of a text in the form are the longest runs without blanks, of minus signs at their
front, and of blanks. -/
theorem Form.runs (d : DigitClass isDigit) (h : Form isDigit s negative digits unit) :
    let number := s.toList.takeWhile fun c => !Text.isBlank c
    number.takeWhile (· = '-') = signChars negative ∧ number.dropWhile (· = '-') = digits ∧
      Text.trimLeft (s.toList.dropWhile fun c => !Text.isBlank c) = unit.toList := by
  obtain ⟨nonempty, all, word, blanks, spaced, blank, text⟩ := h
  have solid : ∀ c ∈ signChars negative ++ digits, (!Text.isBlank c) = true := by
    intro c hc
    rw [Bool.not_eq_true', Bool.eq_false_iff]
    intro space
    rcases List.mem_append.1 hc with sign | digit
    · cases negative with
      | true =>
        rw [List.mem_singleton.1 sign] at space
        exact absurd space (by decide)
      | false => cases sign
    · exact absurd (all c digit) (by rw [d.blank c space]; decide)
  have stop : ∀ c ∈ (blanks ++ unit.toList).head?, (!Text.isBlank c) = false := by
    cases blanks with
    | nil => exact absurd rfl spaced
    | cons b bs =>
      rintro c ⟨⟩
      rw [blank b List.mem_cons_self]
      rfl
  obtain ⟨number, others⟩ := Text.span_run solid stop
  rw [List.append_assoc, ← text] at number others
  have signs : ∀ c ∈ signChars negative, decide (c = '-') = true := by
    cases negative <;> simp [signChars]
  have unsigned : ∀ c ∈ digits.head?, decide (c = '-') = false := by
    intro c head
    refine decide_eq_false fun minus => ?_
    exact absurd (all c (List.mem_of_mem_head? head)) (by rw [minus, d.minus]; decide)
  rw [number, others]
  exact ⟨(Text.span_run signs unsigned).1, (Text.span_run signs unsigned).2,
    ((blanks_word_iff word).2 ⟨blanks, spaced, blank, rfl⟩).2⟩

/-- A text has the form in one way only. -/
theorem Form.unique (d : DigitClass isDigit) (h : Form isDigit s negative digits unit)
    (h' : Form isDigit s negative' digits' unit') :
    negative = negative' ∧ digits = digits' ∧ unit = unit' := by
  obtain ⟨sign, number, word⟩ := h.runs d
  obtain ⟨sign', number', word'⟩ := h'.runs d
  rw [sign] at sign'
  refine ⟨?_, number.symm.trans number', String.toList_injective (word.symm.trans word')⟩
  cases negative <;> cases negative' <;> simp [signChars] at sign' ⊢

/-- The number is read after the form is found, and only ASCII digits that fit make one. -/
theorem Form.ofText?_eq_some_iff (d : DigitClass isDigit) (h : Form isDigit s negative digits unit)
    {i : Interval} : ofText? s = some i ↔
      (∀ c ∈ digits, c.isDigit = true) ∧ i.value = signed negative digits ∧ i.unit = unit := by
  rw [Interval.ofText?_eq_some_iff]
  constructor
  · rintro ⟨negative', digits', form, value⟩
    obtain ⟨rfl, rfl, rfl⟩ := h.unique d { form with all := fun c hc => d.ascii c (form.all c hc) }
    exact ⟨form.all, value, rfl⟩
  · rintro ⟨ascii, value, rfl⟩
    exact ⟨negative, digits, { h with all := ascii }, value⟩

theorem ofText?_eq_none_of_formless (d : DigitClass isDigit)
    (h : ¬ ∃ negative digits unit, Form isDigit s negative digits unit) : ofText? s = none := by
  refine Option.eq_none_iff_forall_ne_some.2 fun i read => h ?_
  obtain ⟨negative, digits, form, -⟩ := ofText?_eq_some_iff.1 read
  exact ⟨negative, digits, i.unit, { form with all := fun c hc => d.ascii c (form.all c hc) }⟩

/-! ## Texts read back -/

theorem toString_signed (n : Int) : (toString n).toList =
    signChars (decide (n < 0)) ++ Nat.toDigits 10 n.natAbs := by
  cases n with
  | ofNat n => exact toString_toList n
  | negSucc n =>
    change ("-" ++ toString (n + 1)).toList = _
    rw [String.toList_append, toString_toList, decide_eq_true (Int.negSucc_lt_zero n)]
    rfl

theorem text_form (i : Interval) :
    Form Char.isDigit i.text (decide (i.value < 0)) (Nat.toDigits 10 i.value.natAbs) i.unit where
  nonempty := Nat.toDigits_ne_nil
  all := toDigits_isDigit _
  word := i.unit_word
  text := by
    refine ⟨[' '], List.cons_ne_nil _ _, List.forall_mem_singleton.2 (by decide), ?_⟩
    rw [text, partsText, String.toList_append, String.toList_append, toString_signed]
    simp

theorem signed_toDigits (n : Int) : signed (decide (n < 0)) (Nat.toDigits 10 n.natAbs) = n := by
  unfold signed
  rw [ofDigits_toDigits]
  split_ifs with negative <;> simp only [decide_eq_true_eq] at negative <;> omega

theorem ofText?_text (i : Interval) : ofText? i.text = some i :=
  ofText?_eq_some_iff.2 ⟨_, _, i.text_form, (signed_toDigits i.value).symm⟩

theorem text_injective : Function.Injective text := by
  intro i j same
  have read := ofText?_text i
  rw [same, ofText?_text] at read
  exact (Option.some.inj read).symm

/-! ## Both ways -/

/-- What a text is read as, with no way to read it otherwise. -/
structure ReadsForm (s : String) : Prop where
  accepted (i : Interval) : Dialect.parseInterval s = .ok i ↔ ∃ negative digits,
    Form Char.isDigit s negative digits i.unit ∧ i.value = signed negative digits
  accepts : (∃ i, Dialect.parseInterval s = .ok i) ↔ ∃ negative digits unit,
    Form Char.isDigit s negative digits unit ∧ FitsInt64 (signed negative digits)
  refused (e : Error) : Dialect.parseInterval s = .error e ↔ e = .invalidInterval s ∧
    ¬ ∃ negative digits unit,
      Form Char.isDigit s negative digits unit ∧ FitsInt64 (signed negative digits)
  /-- The digits of other scripts have the form, but make no number. -/
  found (isDigit : Char → Bool) (d : DigitClass isDigit) (negative : Bool) (digits : List Char)
    (unit : String) (form : Form isDigit s negative digits unit) (i : Interval) :
    Dialect.parseInterval s = .ok i ↔
      (∀ c ∈ digits, c.isDigit = true) ∧ i.value = signed negative digits ∧ i.unit = unit
  formless (isDigit : Char → Bool) (d : DigitClass isDigit)
    (absent : ¬ ∃ negative digits unit, Form isDigit s negative digits unit) :
    Dialect.parseInterval s = .error (.invalidInterval s)

/-- An interval that is written, as a text or as a document, is read back as it was. -/
structure ReadBack (i : Interval) : Prop where
  text : Dialect.parseInterval i.text = .ok i
  document : ofDocument? i.toDocument = some i

theorem parseInterval_eq_ok {s : String} {i : Interval} :
    Dialect.parseInterval s = .ok i ↔ ofText? s = some i := by
  unfold Dialect.parseInterval
  cases ofText? s <;> simp

theorem parseInterval_eq_error {s : String} {e : Error} :
    Dialect.parseInterval s = .error e ↔ e = .invalidInterval s ∧ ofText? s = none := by
  unfold Dialect.parseInterval
  cases ofText? s <;> simp [eq_comm]

theorem readsForm (s : String) : ReadsForm s where
  accepted _ := parseInterval_eq_ok.trans ofText?_eq_some_iff
  accepts := by
    rw [← ofText?_isSome_iff]
    exact exists_congr fun _ => parseInterval_eq_ok
  refused e := by
    rw [parseInterval_eq_error, ← ofText?_isSome_iff, ← Option.isSome_iff_exists,
      Option.not_isSome_iff_eq_none]
  found _ d _ _ _ form _ := parseInterval_eq_ok.trans (form.ofText?_eq_some_iff d)
  formless _ d absent := parseInterval_eq_error.2 ⟨rfl, ofText?_eq_none_of_formless d absent⟩

theorem ofDocument?_eq_some_iff {d : Document} {i : Interval} :
    ofDocument? d = some i ↔ ∃ s, d = .string s ∧ Dialect.parseInterval s = .ok i := by
  simp only [parseInterval_eq_ok]
  cases d <;> simp [ofDocument?, Document.text?]

/-- The texts of the form whose number fits are read, each as its number and its word, and every
interval is written as one of them. -/
theorem reads_grammar :
    (∀ s, ReadsForm s) ∧ (∀ i, ReadBack i) ∧ Function.Injective text ∧
      (∀ d i, ofDocument? d = some i ↔ ∃ s, d = .string s ∧ Dialect.parseInterval s = .ok i) ∧
      ∀ value unit, FitsInt64 value → Text.IsWord unit →
        ∃ i, ofParts? value unit = some i ∧ i.value = value ∧ i.unit = unit := by
  refine ⟨readsForm, fun i => ⟨parseInterval_eq_ok.2 i.ofText?_text, i.ofText?_text⟩,
    text_injective, fun _ _ => ofDocument?_eq_some_iff, fun value unit fits word => ?_⟩
  exact ⟨⟨value, unit, fits, word⟩, ofText?_text ⟨value, unit, fits, word⟩, rfl, rfl⟩

/-- The least number is kept. Arabic digits have the form of a number, and are refused. -/
theorem reads_grammar_least :
    (FitsInt64 (-9223372036854775808) ∧ Text.IsWord "дней" ∧
      ∃ i, ofParts? (-9223372036854775808) "дней" = some i ∧
        i.value = -9223372036854775808 ∧ i.unit = "дней") ∧
      ∃ isDigit, DigitClass isDigit ∧ Form isDigit "٣ дней" false ['٣'] "дней" ∧
        ¬ ∃ i, Dialect.parseInterval "٣ дней" = .ok i := by
  have fits : FitsInt64 (-9223372036854775808) := by decide
  have word : Text.IsWord "дней" := by decide +kernel
  obtain ⟨reads, -, -, -, parts⟩ := reads_grammar
  have digits : DigitClass fun c => c.isDigit || c = '٣' := by
    refine ⟨fun c ascii => by simp [ascii], fun c blank => ?_, by decide⟩
    by_contra digit
    rw [Bool.not_eq_false, Bool.or_eq_true, decide_eq_true_eq] at digit
    rcases digit with digit | rfl
    · exact absurd blank (by rw [isBlank_digit digit]; decide)
    · exact absurd blank (by decide)
  have form : Form (fun c => c.isDigit || c = '٣') "٣ дней" false ['٣'] "дней" :=
    ⟨by decide, List.forall_mem_singleton.2 (by decide), word, [' '], by decide,
      List.forall_mem_singleton.2 (by decide), by decide⟩
  refine ⟨⟨fits, word, parts _ _ fits word⟩, _, digits, form, ?_⟩
  rintro ⟨i, read⟩
  obtain ⟨ascii, -⟩ := ((reads _).found _ digits _ _ _ form i).1 read
  exact absurd (ascii '٣' List.mem_cons_self) (by decide)

example : (Interval.ofText? "-007\u00a0 days").map text = some "-7 days" := by decide +kernel

end Interval

end QueryDialect
