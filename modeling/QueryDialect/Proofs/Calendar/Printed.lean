import QueryDialect.Proofs.Calendar.Bounds

set_option autoImplicit false

/-!
# Printed instants are read back

Dates and instants are printed as strict texts. So the text of an instant on a whole millisecond, leap
seconds apart, is read as that instant, and the text of a date alone as what the date stands for at
that end of a range.
-/
namespace QueryDialect.Calendar

open Number

/-! ## Fields -/

theorem numberText_padded (sign : Sign) (width n : Nat) :
    NumberText .strict (sign.chars ++ (padded width n).toList) sign (padded width n).toList :=
  ⟨padded_ne_nil width n, padded_isDigit width n, [], nofun, fun _ => rfl, rfl⟩

theorem numberText_unsigned (width n : Nat) :
    NumberText .strict (padded width n).toList .unsigned (padded width n).toList := by
  have number := numberText_padded .unsigned width n
  rwa [Sign.chars, List.nil_append] at number

theorem fieldText_padded {n : Nat} (two : n < 100) :
    FieldText .strict (padded 2 n).toList n := by
  have length := padded_length (show 0 < 2 by decide) two
  have field : FieldText .strict (padded 2 n).toList (ofDigits (padded 2 n).toList) :=
    .mk (numberText_unsigned 2 n) length.le fun _ => length
  rwa [ofDigits_padded] at field

/-- A sign stands before the digits of a year below zero or above four digits. -/
theorem yearText_signed (sign : Sign) (marked : sign ≠ .unsigned) {n : Nat}
    (needed : 9999 < n ∨ sign.signed n < 0) :
    YearText .strict (sign.chars ++ (padded 4 n).toList) (sign.signed n) := by
  have year : YearText .strict (sign.chars ++ (padded 4 n).toList)
      (sign.signed (ofDigits (padded 4 n).toList)) := by
    refine .signed (numberText_padded sign 4 n) marked fun _ => ?_
    rw [ofDigits_padded]
    refine needed.imp_left fun large => ?_
    have value := ofDigits_lt (padded_isDigit 4 n)
    rw [ofDigits_padded] at value
    by_contra short
    have bound := Nat.pow_le_pow_right (show 0 < 10 by decide) (not_lt.1 short)
    omega
  rwa [ofDigits_padded] at year

theorem yearText_strict (y : Int) : YearText .strict (Date.yearText y).toList y := by
  unfold Date.yearText
  split_ifs with short negative
  · have length := padded_length (show 0 < 4 by decide) (show y.toNat < 10 ^ 4 by omega)
    have year : YearText .strict (padded 4 y.toNat).toList (ofDigits (padded 4 y.toNat).toList) :=
      .unsigned (numberText_unsigned 4 y.toNat) length.le fun _ => length
    rwa [ofDigits_padded, Int.toNat_of_nonneg short.1] at year
  · have below : Sign.minus.signed y.natAbs = y := by
      simp only [Sign.signed]
      omega
    have year := yearText_signed .minus (by decide) (.inr (below.trans_lt negative))
    rw [below] at year
    rwa [String.toList_append]
  · have above : Sign.plus.signed y.natAbs = y := by
      simp only [Sign.signed]
      omega
    have year := yearText_signed .plus (by decide) (n := y.natAbs) (.inl (by omega))
    rw [above] at year
    rwa [String.toList_append]

/-! ## Dates -/

theorem date_year_bounds {t : Instant} (h : t.InCalendar) :
    firstYear ≤ t.date.year ∧ t.date.year ≤ lastYear := by
  obtain ⟨low, high⟩ := h
  have bounds := Date.dayNumber_bounds t.date_exists
  have number := dayNumber_date t
  have step := daysBeforeYear_succ t.date.year
  unfold Date.dayNumber at number
  constructor
  · rw [firstDay_eq] at low
    have := daysBeforeYear_strictMono.lt_iff_lt.1
      (show daysBeforeYear firstYear < daysBeforeYear (t.date.year + 1) by omega)
    omega
  · have last := lastDay_eq
    have := daysBeforeYear_strictMono.lt_iff_lt.1
      (show daysBeforeYear t.date.year < daysBeforeYear (lastYear + 1) by omega)
    omega

theorem dateText_text {d : Date} (inside : d.InCalendar) : DateText .strict d.text.toList d := by
  obtain ⟨-, month, day⟩ := inside.fieldsFit
  have text : d.text.toList = (Date.yearText d.year).toList ++
      '-' :: ((padded 2 d.month).toList ++ '-' :: (padded 2 d.day).toList) := by
    simp [Date.text]
  rw [text]
  exact .mk (yearText_strict d.year) (fieldText_padded (by omega)) (fieldText_padded (by omega))

/-! ## Times of day -/

theorem fractionText_padded {n : Nat} (h : n < 1000) :
    FractionText ('.' :: (padded 3 n).toList) (n * 1000000) := by
  have fraction := FractionText.digits (padded_ne_nil 3 n) (padded_isDigit 3 n)
  rw [ofDigits_padded, padded_length (by decide) h] at fraction
  rwa [show n * 1000000 = n * 10 ^ 9 / 10 ^ 3 by omega]

/-- A whole number of milliseconds, and none of them in a leap second. -/
def Instant.OnMilli (t : Instant) : Prop := t.nano < 1000000000 ∧ t.nano % 1000000 = 0

theorem clockText_text {t : Instant} (h : t.OnMilli) :
    ClockText .strict (t.clockText.toList ++
      '.' :: (padded 3 (t.nano % 1000000000 / 1000000)).toList) t.secondOfDay t.nano := by
  obtain ⟨plain, milli⟩ := h
  have day : t.secondOfDay < 86400 := by
    simp only [Instant.secondOfDay, daySeconds]
    omega
  have text (rest : List Char) : t.clockText.toList ++ rest =
      (padded 2 (t.secondOfDay / 3600)).toList ++ ':' ::
        ((padded 2 (t.secondOfDay / 60 % 60)).toList ++ ':' ::
          ((padded 2 (t.secondOfDay % 60 + t.nano / 1000000000)).toList ++ rest)) := by
    simp [Instant.clockText]
  have clock := ClockText.mk (fieldText_padded (n := t.secondOfDay / 3600) (by omega))
    (fieldText_padded (n := t.secondOfDay / 60 % 60) (by omega))
    (fieldText_padded (n := t.secondOfDay % 60 + t.nano / 1000000000) (by omega))
    (fractionText_padded (n := t.nano % 1000000000 / 1000000) (by omega))
    (by omega) (by omega) (by omega)
  have whole : 3600 * (t.secondOfDay / 3600) + 60 * (t.secondOfDay / 60 % 60) +
      min (t.secondOfDay % 60 + t.nano / 1000000000) 59 = t.secondOfDay := by omega
  have nano : t.nano % 1000000000 / 1000000 * 1000000 = t.nano := by omega
  rw [whole, if_neg (by omega), nano] at clock
  rwa [text]

/-! ## Instants -/

theorem instantText_text {t : Instant} (inside : t.InCalendar) (milli : t.OnMilli) :
    InstantText .strict t.text.toList t := by
  obtain ⟨low, high⟩ := date_year_bounds inside
  have text : t.text.toList = t.date.text.toList ++ 'T' :: (t.clockText.toList ++
      '.' :: (padded 3 (t.nano % 1000000000 / 1000000)).toList) := by
    simp [Instant.text]
  have second : (Instant.ofDate t.date).second + t.secondOfDay = t.second := by
    simp only [Instant.ofDate, Instant.ofDay, dayNumber_date, Instant.day, Instant.secondOfDay,
      daySeconds]
    omega
  have valid : t.date.InCalendar := ⟨t.date_exists, low, high⟩
  have instant := InstantText.mk (dateText_text valid) valid (clockText_text milli)
  rw [second] at instant
  rwa [text]

/-- Whatever end of a range it bounds, the text of an instant stands for that instant. -/
theorem readBound_text (e : RangeEnd) {t : Instant} (inside : t.InCalendar) (milli : t.OnMilli) :
    readBound e t.text = .ok t :=
  readBound_eq_ok_iff.2 (.instant (instantText_text inside milli).weaken)

theorem readBound_dateText {d : Date} (exist : d.Exists) (low : firstYear ≤ d.year)
    (high : d.year ≤ lastYear) (e : RangeEnd) : readBound e d.text = .ok (e.ofDate d) := by
  have inside : d.InCalendar := ⟨exist, low, high⟩
  exact readBound_eq_ok_iff.2 (.date (dateText_text inside).weaken inside)

/-! ## Signs of years -/

/-- The text of a year begins with a minus sign below zero, with a plus sign above four digits, and
with a digit between. -/
theorem yearText_head (y : Int) : ∃ c, (Date.yearText y).toList.head? = some c ∧
    (c = '-' ↔ y < 0) ∧ (c = '+' ↔ 9999 < y) := by
  unfold Date.yearText
  split_ifs with short negative
  · obtain ⟨c, cs, text⟩ := List.exists_cons_of_ne_nil (padded_ne_nil 4 y.toNat)
    have digit : c.isDigit = true := padded_isDigit 4 y.toNat c (text ▸ List.mem_cons_self)
    refine ⟨c, by rw [text]; rfl, iff_of_false ?_ (by omega), iff_of_false ?_ (by omega)⟩
    · rintro rfl
      exact absurd digit (by decide)
    · rintro rfl
      exact absurd digit (by decide)
  · exact ⟨'-', by simp, iff_of_true rfl negative,
      iff_of_false (by decide) (by omega)⟩
  · exact ⟨'+', by simp, iff_of_false (by decide) negative,
      iff_of_true rfl (by omega)⟩

/-- A minus sign stands before the years below zero, and a plus sign before those of more than four
digits. -/
structure Signed (s : String) (y : Int) : Prop where
  minus_iff : s.toList.head? = some '-' ↔ y < 0
  plus_iff : s.toList.head? = some '+' ↔ 9999 < y

theorem text_signed (t : Instant) : Signed t.text t.date.year := by
  obtain ⟨c, head, minus, plus⟩ := yearText_head t.date.year
  have first : t.text.toList.head? = some c := by
    simp [Instant.text, Date.text, head]
  constructor
  · rw [first, Option.some_inj, minus]
  · rw [first, Option.some_inj, plus]

end QueryDialect.Calendar
