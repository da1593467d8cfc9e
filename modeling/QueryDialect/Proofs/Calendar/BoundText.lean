import QueryDialect.Calendar.Reading
import QueryDialect.Proofs.Number.Digits
import QueryDialect.Proofs.Outcome

set_option autoImplicit false

/-!
# Texts that are read as bounds

A strict text keeps to the widths of a written date and time: four digits for a year without a sign,
two for a month, a day and each part of the clock, and no blanks. A lenient text may leave out leading
digits and put blanks before a number. The texts that are read are the lenient ones.
-/
namespace QueryDialect.Calendar

open Number Text

inductive Style where
  | strict
  | lenient
  deriving DecidableEq, Repr

variable {style : Style}

/-! ## Numbers -/

/-- Blanks, a sign and digits. A strict text has no blanks. -/
structure NumberText (style : Style) (cs : List Char) (sign : Sign) (digits : List Char) : Prop where
  nonempty : digits ≠ []
  all : ∀ c ∈ digits, c.isDigit = true
  text : ∃ blanks, (∀ c ∈ blanks, isBlank c = true) ∧ (style = .strict → blanks = []) ∧
    cs = blanks ++ (sign.chars ++ digits)

theorem NumberText.weaken {cs digits : List Char} {sign : Sign}
    (h : NumberText style cs sign digits) : NumberText .lenient cs sign digits := by
  obtain ⟨blanks, blank, -, text⟩ := h.text
  exact ⟨h.nonempty, h.all, blanks, blank, nofun, text⟩

theorem NumberText.trimLeft {cs digits : List Char} {sign : Sign}
    (h : NumberText style cs sign digits) (rest : List Char) :
    Text.trimLeft (cs ++ rest) = sign.chars ++ (digits ++ rest) := by
  obtain ⟨blanks, blank, -, rfl⟩ := h.text
  rw [List.append_assoc, List.append_assoc]
  exact trimLeft_signed sign rest blank h.nonempty h.all

theorem numberText_of_trimLeft {cs digits rest : List Char} (sign : Sign)
    (nonempty : digits ≠ []) (all : ∀ c ∈ digits, c.isDigit = true)
    (h : Text.trimLeft cs = sign.chars ++ (digits ++ rest)) :
    ∃ text, cs = text ++ rest ∧ NumberText .lenient text sign digits := by
  refine ⟨cs.takeWhile isBlank ++ (sign.chars ++ digits), ?_, nonempty, all,
    cs.takeWhile isBlank, fun c hc => List.mem_takeWhile_imp hc, nofun, rfl⟩
  rw [List.append_assoc, List.append_assoc, ← h]
  exact List.takeWhile_append_dropWhile.symm

/-! ## Dates and times of day -/

/-- A number of two digits at most, and of two in a strict text. -/
inductive FieldText (style : Style) : List Char → Nat → Prop
  | mk {cs digits : List Char} (number : NumberText style cs .unsigned digits)
      (short : digits.length ≤ 2) (full : style = .strict → digits.length = 2) :
      FieldText style cs (ofDigits digits)

/-- A year has at most four digits, or any number of them after a sign. In a strict text it has four,
and a sign only before more of them or below zero. -/
inductive YearText (style : Style) : List Char → Int → Prop
  | unsigned {cs digits : List Char} (number : NumberText style cs .unsigned digits)
      (short : digits.length ≤ 4) (full : style = .strict → digits.length = 4) :
      YearText style cs (ofDigits digits)
  | signed {cs digits : List Char} {sign : Sign} (number : NumberText style cs sign digits)
      (marked : sign ≠ .unsigned)
      (needed : style = .strict → 4 < digits.length ∨ sign.signed (ofDigits digits) < 0) :
      YearText style cs (sign.signed (ofDigits digits))

inductive DateText (style : Style) : List Char → Date → Prop
  | mk {years months days : List Char} {y : Int} {m d : Nat} (year : YearText style years y)
      (month : FieldText style months m) (day : FieldText style days d) :
      DateText style (years ++ '-' :: (months ++ '-' :: days)) ⟨y, m, d⟩

/-- Nothing, or a dot and the digits of a fraction, which is cut off to whole nanoseconds. -/
inductive FractionText : List Char → Nat → Prop
  | absent : FractionText [] 0
  | digits {ds : List Char} (nonempty : ds ≠ []) (all : ∀ c ∈ ds, c.isDigit = true) :
      FractionText ('.' :: ds) (ofDigits ds * 10 ^ 9 / 10 ^ ds.length)

/-- Hours, minutes and seconds, read as the second of the day and its nanoseconds. Second 60 lies in
the leap second. -/
inductive ClockText (style : Style) : List Char → Nat → Nat → Prop
  | mk {hours minutes seconds fraction : List Char} {h m s nano : Nat}
      (hour : FieldText style hours h) (minute : FieldText style minutes m)
      (second : FieldText style seconds s) (part : FractionText fraction nano)
      (hourRange : h ≤ 23) (minuteRange : m ≤ 59) (secondRange : s ≤ 60) :
      ClockText style (hours ++ ':' :: (minutes ++ ':' :: (seconds ++ fraction)))
        (3600 * h + 60 * m + min s 59) (if s = 60 then nano + 1000000000 else nano)

/-- A date that exists, within the bounds of the calendar. -/
structure Date.InCalendar (d : Date) : Prop where
  exist : d.Exists
  low : firstYear ≤ d.year
  high : d.year ≤ lastYear

inductive InstantText (style : Style) : List Char → Instant → Prop
  | mk {date clock : List Char} {d : Date} {second nano : Nat} (day : DateText style date d)
      (inside : d.InCalendar) (time : ClockText style clock second nano) :
      InstantText style (date ++ 'T' :: clock) ⟨(Instant.ofDate d).second + second, nano⟩

inductive BoundText (style : Style) (e : RangeEnd) : List Char → Instant → Prop
  | date {cs : List Char} {d : Date} (day : DateText style cs d) (inside : d.InCalendar) :
      BoundText style e cs (e.ofDate d)
  | instant {cs : List Char} {t : Instant} (time : InstantText style cs t) :
      BoundText style e cs t

theorem FieldText.weaken {cs : List Char} {n : Nat} (h : FieldText style cs n) :
    FieldText .lenient cs n := by
  cases h with
  | mk number short full => exact .mk number.weaken short nofun

theorem YearText.weaken {cs : List Char} {y : Int} (h : YearText style cs y) :
    YearText .lenient cs y := by
  cases h with
  | unsigned number short full => exact .unsigned number.weaken short nofun
  | signed number marked needed => exact .signed number.weaken marked nofun

theorem DateText.weaken {cs : List Char} {d : Date} (h : DateText style cs d) :
    DateText .lenient cs d := by
  cases h with
  | mk year month day => exact .mk year.weaken month.weaken day.weaken

theorem InstantText.weaken {cs : List Char} {t : Instant} (h : InstantText style cs t) :
    InstantText .lenient cs t := by
  cases h with
  | mk day inside time =>
    cases time with
    | mk hour minute second part hourRange minuteRange secondRange =>
      exact .mk day.weaken inside
        (.mk hour.weaken minute.weaken second.weaken part hourRange minuteRange secondRange)

theorem BoundText.weaken {e : RangeEnd} {cs : List Char} {t : Instant}
    (h : BoundText style e cs t) : BoundText .lenient e cs t := by
  cases h with
  | date day inside => exact .date day.weaken inside
  | instant time => exact .instant time.weaken

/-! ## Widths of strict texts -/

theorem NumberText.eq_of_strict {cs digits : List Char} {sign : Sign}
    (h : NumberText .strict cs sign digits) : cs = sign.chars ++ digits := by
  obtain ⟨blanks, -, blankless, rfl⟩ := h.text
  rw [blankless rfl, List.nil_append]

theorem FieldText.length_of_strict {cs : List Char} {n : Nat} (h : FieldText .strict cs n) :
    cs.length = 2 := by
  obtain ⟨number, -, full⟩ := h
  rw [number.eq_of_strict]
  exact full rfl

/-- The shortest years are a sign and one digit. -/
theorem YearText.length_of_strict {cs : List Char} {y : Int} (h : YearText .strict cs y) :
    2 ≤ cs.length := by
  cases h with
  | unsigned number short full =>
    rw [number.eq_of_strict, Sign.chars, List.nil_append, full rfl]
    decide
  | @signed digits sign number marked =>
    have nonempty := List.length_pos_iff.2 number.nonempty
    rw [number.eq_of_strict, List.length_append]
    cases sign with
    | unsigned => exact absurd rfl marked
    | plus | minus =>
      simp only [Sign.chars, List.length_singleton]
      omega

theorem DateText.length_of_strict {cs : List Char} {d : Date} (h : DateText .strict cs d) :
    8 ≤ cs.length := by
  obtain ⟨year, month, day⟩ := h
  have := year.length_of_strict
  have := month.length_of_strict
  have := day.length_of_strict
  simp only [List.length_append, List.length_cons]
  omega

theorem BoundText.length_of_strict {e : RangeEnd} {cs : List Char} {t : Instant}
    (h : BoundText .strict e cs t) : 8 ≤ cs.length := by
  cases h with
  | date day => exact day.length_of_strict
  | instant time =>
    obtain ⟨day, -, -⟩ := time
    have := day.length_of_strict
    rw [List.length_append]
    omega

/-! ## Readers of digits -/

theorem readMark_eq_ok_iff {c : Char} {cs rest : List Char} :
    readMark c cs = .ok rest ↔ cs = c :: rest := by
  cases cs with
  | nil => simp [readMark]
  | cons d cs =>
    by_cases same : d = c <;> simp [readMark, same]

theorem readDigits_eq_ok_iff {cs rest : List Char} {n : Nat} : readDigits cs = .ok (n, rest) ↔
    ∃ digits, digits ≠ [] ∧ (∀ c ∈ digits, c.isDigit = true) ∧ Stops rest ∧
      cs = digits ++ rest ∧ n = ofDigits digits := by
  rw [← readNat?_eq_some_iff, readDigits]
  cases readNat? cs <;> simp

theorem stops_take {rest : List Char} (stop : Stops rest) (n : Nat) : Stops (rest.take n) := by
  intro c head
  rw [List.head?_take] at head
  split_ifs at head with cut
  · exact absurd head (Option.not_mem_none c)
  · exact stop c head

theorem readDigitsUpTo_sound {width n : Nat} {cs rest : List Char}
    (h : readDigitsUpTo width cs = .ok (n, rest)) : ∃ digits, digits ≠ [] ∧
      (∀ c ∈ digits, c.isDigit = true) ∧ digits.length ≤ width ∧ cs = digits ++ rest ∧
      n = ofDigits digits := by
  obtain ⟨⟨m, rest'⟩, read, same⟩ := bind_eq_ok.1 h
  obtain ⟨digits, nonempty, all, -, front, rfl⟩ := readDigits_eq_ok_iff.1 read
  cases same
  refine ⟨digits, nonempty, all, ?_, ?_, rfl⟩
  · have size := congrArg List.length front
    rw [List.length_take, List.length_append] at size
    omega
  · rw [← List.append_assoc, ← front, List.take_append_drop]

theorem readDigitsUpTo_complete {width : Nat} {digits rest : List Char} (nonempty : digits ≠ [])
    (all : ∀ c ∈ digits, c.isDigit = true) (short : digits.length ≤ width) (stop : Stops rest) :
    readDigitsUpTo width (digits ++ rest) = .ok (ofDigits digits, rest) := by
  -- Cut behind the allowed width, the text still goes on with no digit.
  have read : readDigits (digits ++ rest.take (width - digits.length)) = .ok (_, _) :=
    readDigits_eq_ok_iff.2 ⟨digits, nonempty, all, stops_take stop _, rfl, rfl⟩
  rw [readDigitsUpTo, List.take_append, List.take_of_length_le short, read, ok_bind]
  dsimp only
  rw [List.drop_append, List.drop_of_length_le short, List.nil_append, List.take_append_drop]
  rfl

/-! ## Readers of fields -/

/-- The reader takes what the grammar has at the front of a text, and there it takes everything that
no digit follows. -/
structure Reads {α : Type} (read : List Char → Except ReadFault (α × List Char))
    (grammar : List Char → α → Prop) : Prop where
  sound {cs rest : List Char} {a : α} (h : read cs = .ok (a, rest)) :
    ∃ text, cs = text ++ rest ∧ grammar text a
  complete {text rest : List Char} {a : α} (h : grammar text a) (stop : Stops rest) :
    read (text ++ rest) = .ok (a, rest)

theorem readField_reads (low high : Nat) : Reads (readField low high) fun text n =>
    FieldText .lenient text n ∧ low ≤ n ∧ n ≤ high where
  sound h := by
    obtain ⟨⟨m, rest'⟩, read, h⟩ := bind_eq_ok.1 h
    dsimp only at h
    split_ifs at h with range
    cases h
    obtain ⟨digits, nonempty, all, short, trimmed, rfl⟩ := readDigitsUpTo_sound read
    obtain ⟨text, rfl, number⟩ := numberText_of_trimLeft .unsigned nonempty all trimmed
    exact ⟨text, rfl, .mk number short nofun, range⟩
  complete h stop := by
    obtain ⟨⟨number, short, -⟩, range⟩ := h
    rw [readField, number.trimLeft, Sign.chars, List.nil_append,
      readDigitsUpTo_complete number.nonempty number.all short stop]
    exact if_pos range

/-- Only a year without a sign is limited in its digits. -/
theorem readSignedYear_eq (cs : List Char) : readSignedYear cs =
    (if (Sign.split cs).1 = .unsigned then readDigitsUpTo 4 (Sign.split cs).2
      else readDigits (Sign.split cs).2).map
        fun (n, rest) => ((Sign.split cs).1.signed n, rest) := by
  unfold readSignedYear Sign.split
  split <;> simp_all [Sign.signed]

theorem readSignedYear_sound {cs rest : List Char} {y : Int}
    (h : readSignedYear (Text.trimLeft cs) = .ok (y, rest)) :
    ∃ text, cs = text ++ rest ∧ YearText .lenient text y := by
  have front := Sign.split_append (Text.trimLeft cs)
  rw [readSignedYear_eq] at h
  generalize Sign.split (Text.trimLeft cs) = split at h front
  obtain ⟨sign, number⟩ := split
  obtain ⟨⟨n, rest'⟩, read, same⟩ := map_eq_ok.1 h
  cases same
  dsimp only at read front ⊢
  split_ifs at read with unsigned
  · obtain ⟨digits, nonempty, all, short, rfl, rfl⟩ := readDigitsUpTo_sound read
    obtain ⟨text, rfl, number⟩ := numberText_of_trimLeft sign nonempty all front.symm
    subst unsigned
    exact ⟨text, rfl, .unsigned number short nofun⟩
  · obtain ⟨digits, nonempty, all, -, rfl, rfl⟩ := readDigits_eq_ok_iff.1 read
    obtain ⟨text, rfl, number⟩ := numberText_of_trimLeft sign nonempty all front.symm
    exact ⟨text, rfl, .signed number unsigned nofun⟩

theorem readSignedYear_complete {text rest : List Char} {y : Int} (h : YearText style text y)
    (stop : Stops rest) : readSignedYear (Text.trimLeft (text ++ rest)) = .ok (y, rest) := by
  cases h with
  | unsigned number short =>
    rw [number.trimLeft, readSignedYear_eq, Sign.split_chars _ _ number.nonempty number.all,
      if_pos rfl, readDigitsUpTo_complete number.nonempty number.all short stop]
    rfl
  | signed number marked =>
    rw [number.trimLeft, readSignedYear_eq, Sign.split_chars _ _ number.nonempty number.all,
      if_neg marked, readDigits_eq_ok_iff.2 ⟨_, number.nonempty, number.all, stop, rfl, rfl⟩]
    rfl

theorem readYear_reads : Reads readYear fun text y => YearText .lenient text y ∧ FitsYear y where
  sound h := by
    obtain ⟨⟨y, rest'⟩, read, h⟩ := bind_eq_ok.1 h
    dsimp only at h
    split_ifs at h with fits
    cases h
    obtain ⟨text, rfl, year⟩ := readSignedYear_sound read
    exact ⟨text, rfl, year, fits⟩
  complete h stop := by
    rw [readYear, readSignedYear_complete h.1 stop, ok_bind]
    exact if_pos h.2

/-! ## Readers of dates and times -/

/-- The ranges in which the fields of a date are read. -/
structure Date.FieldsFit (d : Date) : Prop where
  year : FitsYear d.year
  month : 1 ≤ d.month ∧ d.month ≤ 12
  day : 1 ≤ d.day ∧ d.day ≤ 31

theorem Date.InCalendar.fieldsFit {d : Date} (h : d.InCalendar) : d.FieldsFit := by
  obtain ⟨⟨one, twelve, first, last⟩, low, high⟩ := h
  refine ⟨?_, ⟨one, twelve⟩, first, last.trans ?_⟩
  · simp only [FitsYear, firstYear, lastYear] at *
    omega
  · unfold Date.length monthLength
    split <;> (try split_ifs) <;> omega

theorem stops_mark {c : Char} {rest : List Char} (h : c.isDigit = false := by decide) :
    Stops (c :: rest) := stops_cons h

theorem readDateFields_reads : Reads readDateFields fun text d =>
    DateText .lenient text d ∧ d.FieldsFit where
  sound h := by
    obtain ⟨⟨y, cs₁⟩, readYear, h⟩ := bind_eq_ok.1 h
    obtain ⟨cs₂, mark, h⟩ := bind_eq_ok.1 h
    obtain ⟨⟨m, cs₃⟩, readMonth, h⟩ := bind_eq_ok.1 h
    obtain ⟨cs₄, mark', h⟩ := bind_eq_ok.1 h
    obtain ⟨⟨d, cs₅⟩, readDay, h⟩ := bind_eq_ok.1 h
    cases h
    obtain ⟨years, rfl, year, fits⟩ := readYear_reads.sound readYear
    obtain rfl := readMark_eq_ok_iff.1 mark
    obtain ⟨months, rfl, month, monthRange⟩ := (readField_reads 1 12).sound readMonth
    obtain rfl := readMark_eq_ok_iff.1 mark'
    obtain ⟨days, rfl, day, dayRange⟩ := (readField_reads 1 31).sound readDay
    exact ⟨_, by simp, .mk year month day, fits, monthRange, dayRange⟩
  complete h stop := by
    obtain ⟨⟨year, month, day⟩, fits, monthRange, dayRange⟩ := h
    rw [List.append_assoc, List.cons_append, List.append_assoc, List.cons_append, readDateFields,
      readYear_reads.complete ⟨year, fits⟩ stops_mark, ok_bind]
    dsimp only
    rw [readMark_eq_ok_iff.2 rfl, ok_bind,
      (readField_reads 1 12).complete ⟨month, monthRange⟩ stops_mark, ok_bind]
    dsimp only
    rw [readMark_eq_ok_iff.2 rfl, ok_bind, (readField_reads 1 31).complete ⟨day, dayRange⟩ stop]
    rfl

/-- Digits after the ninth have no part in the whole nanoseconds. -/
theorem nanoseconds_eq {ds : List Char} (all : ∀ c ∈ ds, c.isDigit = true) :
    ofDigits (ds.take 9) * Nat.pow 10 (9 - (ds.take 9).length) =
      ofDigits ds * 10 ^ 9 / 10 ^ ds.length := by
  change ofDigits (ds.take 9) * 10 ^ (9 - (ds.take 9).length) = _
  by_cases short : ds.length ≤ 9
  · rw [List.take_of_length_le short, ← Nat.pow_sub_mul_pow 10 short, ← Nat.mul_assoc,
      Nat.mul_div_cancel _ (Nat.pow_pos (by decide))]
  · have nine : (ds.take 9).length = 9 := List.length_take_of_le (by omega)
    have size : ds.length = (ds.drop 9).length + 9 := by
      rw [List.length_drop]
      omega
    have value := ofDigits_append (ds.take 9) (ds.drop 9)
    have small : ofDigits (ds.drop 9) < 10 ^ (ds.drop 9).length :=
      ofDigits_lt fun c hc => all c (List.mem_of_mem_drop hc)
    rw [List.take_append_drop] at value
    rw [nine, size, Nat.pow_add, Nat.mul_div_mul_right _ _ (by decide), value, Nat.add_comm,
      Nat.add_mul_div_left _ _ (Nat.pow_pos (by decide)), Nat.div_eq_of_lt small]
    simp

theorem readFraction_eq_ok_iff {cs : List Char} {nano : Nat} :
    readFraction cs = .ok (nano, []) ↔ FractionText cs nano := by
  constructor
  · intro h
    unfold readFraction at h
    split at h
    · obtain ⟨⟨n, rest⟩, read, h⟩ := bind_eq_ok.1 h
      cases h
      obtain ⟨ds, nonempty, all, stop, text, rfl⟩ := readDigits_eq_ok_iff.1 read
      rw [text, digitRun_digits all stop, List.append_nil, nanoseconds_eq all]
      exact .digits nonempty all
    · cases h
      exact .absent
  · intro h
    cases h with
    | absent => rfl
    | @digits ds nonempty all =>
      have read : readDigits ds = .ok (_, _) :=
        readDigits_eq_ok_iff.2 ⟨ds, nonempty, all, stops_nil, (List.append_nil ds).symm, rfl⟩
      have run := digitRun_digits all stops_nil
      rw [List.append_nil] at run
      rw [readFraction, read, ok_bind, run]
      dsimp only
      rw [nanoseconds_eq all]
      rfl

theorem FractionText.stops {cs : List Char} {nano : Nat} (h : FractionText cs nano) : Stops cs := by
  cases h with
  | absent => exact stops_nil
  | digits => exact stops_mark

theorem readClock_eq_ok_iff {cs : List Char} {second nano : Nat} :
    readClock cs = .ok ((second, nano), []) ↔ ClockText .lenient cs second nano := by
  constructor
  · intro h
    obtain ⟨⟨h', cs₁⟩, readHour, h⟩ := bind_eq_ok.1 h
    obtain ⟨cs₂, mark, h⟩ := bind_eq_ok.1 h
    obtain ⟨⟨m, cs₃⟩, readMinute, h⟩ := bind_eq_ok.1 h
    obtain ⟨cs₄, mark', h⟩ := bind_eq_ok.1 h
    obtain ⟨⟨s, cs₅⟩, readSecond, h⟩ := bind_eq_ok.1 h
    obtain ⟨⟨part, cs₆⟩, readPart, value⟩ := bind_eq_ok.1 h
    dsimp only at value
    obtain ⟨hours, rfl, hour, -, hourRange⟩ := (readField_reads 0 23).sound readHour
    obtain rfl := readMark_eq_ok_iff.1 mark
    obtain ⟨minutes, rfl, minute, -, minuteRange⟩ := (readField_reads 0 59).sound readMinute
    obtain rfl := readMark_eq_ok_iff.1 mark'
    obtain ⟨seconds, rfl, sec, -, secondRange⟩ := (readField_reads 0 60).sound readSecond
    have clock (fraction : FractionText cs₅ part) := ClockText.mk hour minute sec fraction
      hourRange minuteRange secondRange
    split_ifs at value with leap <;> cases value
    · have clock := clock (readFraction_eq_ok_iff.1 readPart)
      rwa [if_pos leap, leap] at clock
    · have clock := clock (readFraction_eq_ok_iff.1 readPart)
      rwa [if_neg leap, Nat.min_eq_left (by omega)] at clock
  · rintro ⟨hour, minute, sec, part, hourRange, minuteRange, secondRange⟩
    rw [readClock, (readField_reads 0 23).complete ⟨hour, Nat.zero_le _, hourRange⟩ stops_mark,
      ok_bind]
    dsimp only
    rw [readMark_eq_ok_iff.2 rfl, ok_bind,
      (readField_reads 0 59).complete ⟨minute, Nat.zero_le _, minuteRange⟩ stops_mark, ok_bind]
    dsimp only
    rw [readMark_eq_ok_iff.2 rfl, ok_bind,
      (readField_reads 0 60).complete ⟨sec, Nat.zero_le _, secondRange⟩ part.stops, ok_bind]
    dsimp only
    rw [readFraction_eq_ok_iff.2 part, ok_bind]
    split_ifs with leap
    · rw [leap]
      rfl
    · rw [Nat.min_eq_left (by omega)]
      rfl

/-! ## Readers of bounds -/

theorem checkDate_eq_ok_iff {d d' : Date} : checkDate d = .ok d' ↔ d' = d ∧ d.InCalendar := by
  unfold checkDate
  constructor
  · intro h
    split_ifs at h with valid
    cases h
    exact ⟨rfl, valid.1, valid.2.1, valid.2.2⟩
  · rintro ⟨rfl, exist, low, high⟩
    exact if_pos ⟨exist, low, high⟩

theorem readEnd_eq_ok_iff {cs : List Char} : readEnd cs = .ok () ↔ cs = [] := by
  cases cs <;> simp [readEnd]

theorem readDate_eq_ok_iff {cs : List Char} {d : Date} :
    readDate cs = .ok d ↔ DateText .lenient cs d ∧ d.InCalendar := by
  constructor
  · intro h
    obtain ⟨⟨d', rest⟩, fields, h⟩ := bind_eq_ok.1 h
    obtain ⟨⟨⟩, whole, check⟩ := bind_eq_ok.1 h
    obtain ⟨text, rfl, date, -⟩ := readDateFields_reads.sound fields
    obtain rfl := readEnd_eq_ok_iff.1 whole
    obtain ⟨rfl, inside⟩ := checkDate_eq_ok_iff.1 check
    exact ⟨by rwa [List.append_nil], inside⟩
  · rintro ⟨date, inside⟩
    have fields := readDateFields_reads.complete ⟨date, inside.fieldsFit⟩ stops_nil
    rw [List.append_nil] at fields
    exact bind_eq_ok.2 ⟨_, fields, bind_eq_ok.2
      ⟨(), readEnd_eq_ok_iff.2 rfl, checkDate_eq_ok_iff.2 ⟨rfl, inside⟩⟩⟩

theorem readInstant_eq_ok_iff {cs : List Char} {t : Instant} :
    readInstant cs = .ok t ↔ InstantText .lenient cs t := by
  constructor
  · intro h
    obtain ⟨⟨d, cs₁⟩, fields, h⟩ := bind_eq_ok.1 h
    obtain ⟨cs₂, mark, h⟩ := bind_eq_ok.1 h
    obtain ⟨⟨⟨second, nano⟩, cs₃⟩, readClock, h⟩ := bind_eq_ok.1 h
    obtain ⟨⟨⟩, whole, h⟩ := bind_eq_ok.1 h
    obtain ⟨d', check, h⟩ := bind_eq_ok.1 h
    cases h
    obtain ⟨text, rfl, date, -⟩ := readDateFields_reads.sound fields
    obtain rfl := readMark_eq_ok_iff.1 mark
    obtain rfl := readEnd_eq_ok_iff.1 whole
    obtain ⟨rfl, inside⟩ := checkDate_eq_ok_iff.1 check
    exact .mk date inside (readClock_eq_ok_iff.1 readClock)
  · rintro @⟨text, clock, d, second, nano, date, inside, time⟩
    have stop : Stops ('T' :: clock) := stops_mark
    have fields := readDateFields_reads.complete ⟨date, inside.fieldsFit⟩ stop
    exact bind_eq_ok.2 ⟨_, fields, bind_eq_ok.2 ⟨_, readMark_eq_ok_iff.2 rfl, bind_eq_ok.2
      ⟨_, readClock_eq_ok_iff.2 time, bind_eq_ok.2 ⟨(), readEnd_eq_ok_iff.2 rfl, bind_eq_ok.2
        ⟨_, checkDate_eq_ok_iff.2 ⟨rfl, inside⟩, rfl⟩⟩⟩⟩⟩

/-- A text that is read as a date ends where the time of day would begin. -/
theorem readInstant_date {cs : List Char} {d : Date} (date : DateText .lenient cs d)
    (inside : d.InCalendar) : readInstant cs = .error .tooShort := by
  have fields := readDateFields_reads.complete ⟨date, inside.fieldsFit⟩ stops_nil
  rw [List.append_nil] at fields
  rw [readInstant, fields]
  rfl

theorem readBound_of_readInstant (e : RangeEnd) {s : String} {t : Instant}
    (read : readInstant s.toList = .ok t) : readBound e s = .ok t := by
  rw [readBound, read]

theorem readBound_eq_ok_iff {e : RangeEnd} {s : String} {t : Instant} :
    readBound e s = .ok t ↔ BoundText .lenient e s.toList t := by
  constructor
  · intro h
    unfold readBound at h
    split at h
    · rename_i t' read
      cases h
      exact .instant (readInstant_eq_ok_iff.1 read)
    · obtain ⟨d, read, rfl⟩ := map_eq_ok.1 h
      obtain ⟨date, inside⟩ := readDate_eq_ok_iff.1 read
      exact .date date inside
  · intro h
    cases h with
    | instant time => exact readBound_of_readInstant e (readInstant_eq_ok_iff.2 time)
    | date day inside =>
      rw [readBound, readInstant_date day inside, readDate_eq_ok_iff.2 ⟨day, inside⟩]
      rfl

/-- What follows a date is nothing or a time of day: a text that goes on in any other way is not read,
not even as the date. -/
theorem readBound_after_date_iff {e : RangeEnd} {s : String} {date rest : List Char} {d : Date}
    {t : Instant} (text : s.toList = date ++ rest) (day : DateText .lenient date d)
    (inside : d.InCalendar) (stop : Stops rest) (more : rest ≠ []) :
    readBound e s = .ok t ↔ ∃ clock second nano, rest = 'T' :: clock ∧
      ClockText .lenient clock second nano ∧ t = ⟨(Instant.ofDate d).second + second, nano⟩ := by
  -- Both attempts read the same date, and what is left decides between them.
  have fields := readDateFields_reads.complete ⟨day, inside.fieldsFit⟩ stop
  constructor
  · intro h
    unfold readBound at h
    rw [text] at h
    split at h
    · rename_i t' read
      cases h
      rw [readInstant, fields, ok_bind] at read
      obtain ⟨clock, mark, read⟩ := bind_eq_ok.1 read
      obtain ⟨⟨⟨second, nano⟩, cs⟩, readClock, read⟩ := bind_eq_ok.1 read
      obtain ⟨⟨⟩, whole, read⟩ := bind_eq_ok.1 read
      obtain ⟨d', check, read⟩ := bind_eq_ok.1 read
      cases read
      obtain rfl := readEnd_eq_ok_iff.1 whole
      obtain ⟨rfl, -⟩ := checkDate_eq_ok_iff.1 check
      exact ⟨clock, second, nano, readMark_eq_ok_iff.1 mark, readClock_eq_ok_iff.1 readClock, rfl⟩
    · obtain ⟨d', read, -⟩ := map_eq_ok.1 h
      rw [readDate, fields, ok_bind] at read
      obtain ⟨⟨⟩, whole, -⟩ := bind_eq_ok.1 read
      exact absurd (readEnd_eq_ok_iff.1 whole) more
  · rintro ⟨clock, second, nano, rfl, time, rfl⟩
    exact readBound_eq_ok_iff.2 (.instant (text ▸ .mk day inside time))

end QueryDialect.Calendar
