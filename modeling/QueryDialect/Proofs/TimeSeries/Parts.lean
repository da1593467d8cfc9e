import QueryDialect.Proofs.TimeSeries

set_option autoImplicit false

/-!
# Parts of a series

The buckets of a granularity do not depend on the range that asks for them. So the printed ends of a
slice of a series ask for that slice, and a range cut at an instant gives two series that share the
bucket of this instant and are joined in it.
-/
namespace QueryDialect

open Calendar

namespace TimeDimension

variable {d d' : TimeDimension} {first first' last last' : Instant} {m n : Nat}

/-! ## Printed rows -/

/-- The row stands for the bucket, and a sign marks the years that have not four digits. -/
structure Printed (row : String × String) (b : Bucket) : Prop where
  reads (e : RangeEnd) : Calendar.readBound e row.1 = .ok b.first ∧
    Calendar.readBound e row.2 = .ok b.last
  signs : Signed row.1 b.first.date.year ∧ Signed row.2 b.last.date.year

theorem Printed.unique {row : String × String} {a b : Bucket} (ha : Printed row a)
    (hb : Printed row b) : a = b := by
  obtain ⟨first, last⟩ := ha.reads .first
  obtain ⟨first', last'⟩ := hb.reads .first
  rw [first] at first'
  rw [last] at last'
  cases a
  cases b
  exact congr (congrArg Bucket.mk (Except.ok.inj first')) (Except.ok.inj last')

theorem rows_printed {rows : Series} (h : d.series = .ok rows) :
    ∃ first last, Spans d first last rows.length ∧ ∀ (i : Nat) (inside : i < rows.length),
      Printed rows[i] (bucket d.granularity (bucketIndex d.granularity first + i)) := by
  obtain ⟨first, last, n, spans, rfl⟩ := series_eq_ok_iff.1 h
  have needed := spans.needed
  have size : ((bucketRun d.granularity (bucketIndex d.granularity first) n).map
      Bucket.texts).length = n := by rw [List.length_map, bucketRun_length]
  refine ⟨first, last, size.symm ▸ spans, ?_⟩
  intro i inside
  rw [List.getElem_map, bucketRun_getElem]
  exact ⟨spans.texts_read (by omega) (by omega), text_signed _, text_signed _⟩

/-! ## Slices -/

theorem Spans.part (h : Spans d first last n) (same : d'.granularity = d.granularity)
    (readFirst : Calendar.readBound .first d'.first = .ok first')
    (readLast : Calendar.readBound .last d'.last = .ok last') (ordered : first' ≤ last')
    (low : bucketIndex d.granularity first ≤ bucketIndex d.granularity first')
    (high : bucketIndex d.granularity last' ≤ bucketIndex d.granularity last)
    (needed : bucketIndex d.granularity last' + 1 = bucketIndex d.granularity first' + m)
    (room : m ≤ d'.maxBuckets) : Spans d' first' last' m := by
  have mono := bucketIndex_mono d.granularity ordered
  refine ⟨readFirst, readLast, ordered, ?_, room, ?_, ?_⟩
  · rw [same]
    exact needed
  · rw [same]
    exact boundary_inCalendar h.begins h.ends low (by omega)
  · rw [same]
    exact boundary_inCalendar h.begins h.ends (by omega) (by omega)

theorem Spans.slice (h : Spans d first last n) {i j : Nat} (le : i ≤ j) (inside : j < n)
    (same : d'.granularity = d.granularity)
    (readsFirst : d'.first = (bucket d.granularity (bucketIndex d.granularity first + i)).texts.1)
    (readsLast : d'.last = (bucket d.granularity (bucketIndex d.granularity first + j)).texts.2)
    (room : j - i + 1 ≤ d'.maxBuckets) :
    Spans d' (boundary d.granularity (bucketIndex d.granularity first + i))
      (bucket d.granularity (bucketIndex d.granularity first + j)).last (j - i + 1) := by
  have needed := h.needed
  refine h.part same ?_ ?_ ?_ ?_ ?_ ?_ room
  · rw [readsFirst]
    exact (h.texts_read (by omega) (by omega) .first).1
  · rw [readsLast]
    exact (h.texts_read (by omega) (by omega) .last).2
  · exact ((boundary_strictMono _).monotone (by omega)).trans (bucket_first_le_last _ _)
  · rw [bucketIndex_boundary]
    omega
  · rw [bucketIndex_last_self]
    omega
  · rw [bucketIndex_last_self, bucketIndex_boundary]
    omega

/-- The rows of a series from one to another are the series of the range from the first printed
instant of the one to the last printed instant of the other. -/
theorem series_reads_back (d : TimeDimension) (rows : Series) (h : d.series = .ok rows) :
    (∀ row ∈ rows, ∃ b, Printed row b) ∧
      ∀ (i j : Nat) (d' : TimeDimension) (le : i ≤ j) (inside : j < rows.length),
        d'.granularity = d.granularity → d'.first = rows[i].1 → d'.last = rows[j].2 →
          j - i + 1 ≤ d'.maxBuckets → d'.series = .ok (rows.extract i (j + 1)) := by
  constructor
  · intro row mem
    obtain ⟨first, last, -, printed⟩ := rows_printed h
    obtain ⟨i, inside, rfl⟩ := List.mem_iff_getElem.1 mem
    exact ⟨_, printed i inside⟩
  · intro i j d' le inside same readsFirst readsLast room
    obtain ⟨first, last, n, spans, rfl⟩ := series_eq_ok_iff.1 h
    rw [List.getElem_map, bucketRun_getElem] at readsFirst readsLast
    rw [List.length_map, bucketRun_length] at inside
    have slice := spans.slice le inside same readsFirst readsLast room
    have count : j + 1 - i = j - i + 1 := by omega
    rw [slice.series, same, bucketIndex_boundary, List.extract_eq_take_drop, ← List.map_drop,
      ← List.map_take, ← List.extract_eq_take_drop, bucketRun_extract _ _ (by omega) inside, count]

theorem series_reads_back_yearZero :
    let d : TimeDimension := ⟨"d", .quarter, "-0001-11-30", "0000-05-05T10:20:30.5", 3⟩
    let rows : Series :=
      [("-0001-10-01T00:00:00.000", "-0001-12-31T23:59:59.999"),
        ("0000-01-01T00:00:00.000", "0000-03-31T23:59:59.999"),
        ("0000-04-01T00:00:00.000", "0000-06-30T23:59:59.999")]
    let d' : TimeDimension :=
      ⟨"e", .quarter, "-0001-10-01T00:00:00.000", "0000-03-31T23:59:59.999", 2⟩
    d.series = .ok rows ∧ (∀ row ∈ rows, ∃ b, Printed row b) ∧
      0 ≤ 1 ∧ 1 < rows.length ∧ d'.granularity = d.granularity ∧ d'.first = rows[0].1 ∧
      d'.last = rows[1].2 ∧ 1 - 0 + 1 ≤ d'.maxBuckets ∧ d'.series = .ok (rows.extract 0 2) := by
  have h : TimeDimension.series ⟨"d", .quarter, "-0001-11-30", "0000-05-05T10:20:30.5", 3⟩ =
      .ok [("-0001-10-01T00:00:00.000", "-0001-12-31T23:59:59.999"),
        ("0000-01-01T00:00:00.000", "0000-03-31T23:59:59.999"),
        ("0000-04-01T00:00:00.000", "0000-06-30T23:59:59.999")] := by rfl
  obtain ⟨printed, slices⟩ := series_reads_back _ _ h
  exact ⟨h, printed, by decide, by decide, rfl, rfl, rfl, by decide,
    slices 0 1 _ (by decide) (by decide) rfl rfl rfl (by decide)⟩

/-! ## Cuts -/

/-- The bucket that holds the instant ends the buckets up to it and begins those from it. -/
theorem Spans.cut (h : Spans d first last n) {mid : String} {t : Instant}
    (readMid : readInstant mid.toList = .ok t) (before : first ≤ t) (after : t ≤ last) :
    ∃ j k, n = j + 1 + k ∧
      bucketIndex d.granularity t = bucketIndex d.granularity first + j ∧
      Spans { d with last := mid } first t (j + 1) ∧
      Spans { d with first := mid } t last (k + 1) := by
  have needed := h.needed
  have room := h.room
  have low := bucketIndex_mono d.granularity before
  have high := bucketIndex_mono d.granularity after
  obtain ⟨j, place⟩ := Int.eq_ofNat_of_zero_le (Int.sub_nonneg_of_le low)
  obtain ⟨k, rest⟩ := Int.eq_ofNat_of_zero_le (Int.sub_nonneg_of_le high)
  refine ⟨j, k, by omega, by omega, ?_, ?_⟩
  · exact h.part rfl h.readFirst (readBound_of_readInstant .last readMid) before le_rfl high
      (by omega) (show j + 1 ≤ d.maxBuckets by omega)
  · exact h.part rfl (readBound_of_readInstant .first readMid) h.readLast after low le_rfl
      (by omega) (show k + 1 ≤ d.maxBuckets by omega)

/-- A range cut at a date with a time gives two series that share one row, and the series of the
whole range is the one followed by the rest of the other. -/
theorem series_split (d : TimeDimension) (rows : Series) (mid : String) (first t last : Instant)
    (h : d.series = .ok rows) (readFirst : Calendar.readBound .first d.first = .ok first)
    (readMid : readInstant mid.toList = .ok t)
    (readLast : Calendar.readBound .last d.last = .ok last) (before : first ≤ t) (after : t ≤ last) :
    ∃ left right shared,
      { d with last := mid }.series = .ok left ∧ { d with first := mid }.series = .ok right ∧
        left.getLast? = some shared ∧ right.head? = some shared ∧ rows = left ++ right.tail := by
  obtain ⟨first', last', n, spans, rfl⟩ := series_eq_ok_iff.1 h
  obtain rfl : first' = first := Except.ok.inj (spans.readFirst.symm.trans readFirst)
  obtain rfl : last' = last := Except.ok.inj (spans.readLast.symm.trans readLast)
  obtain ⟨j, k, rfl, place, left, right⟩ := spans.cut readMid before after
  refine ⟨_, _, (bucket d.granularity (bucketIndex d.granularity t)).texts, left.series,
    right.series, ?_, rfl, ?_⟩
  · rw [List.getLast?_map, bucketRun_getLast, place]
    rfl
  · have next : bucketIndex d.granularity first' + (j + 1 : Nat) = bucketIndex d.granularity t + 1 := by
      omega
    rw [bucketRun_append, List.map_append, next]
    rfl

/-- Cut behind the last printed millisecond of a quarter, and before the next quarter. -/
theorem series_split_quarters :
    let d : TimeDimension := ⟨"d", .quarter, "2020-02-29", "2020-07-01T00:00:00", 3⟩
    let rows : Series :=
      [("2020-01-01T00:00:00.000", "2020-03-31T23:59:59.999"),
        ("2020-04-01T00:00:00.000", "2020-06-30T23:59:59.999"),
        ("2020-07-01T00:00:00.000", "2020-09-30T23:59:59.999")]
    let mid := "2020-03-31T23:59:59.999999"
    let first : Instant := ⟨63750153600, 0⟩
    let t : Instant := ⟨63752918399, 999999000⟩
    let last : Instant := ⟨63760780800, 0⟩
    d.series = .ok rows ∧ Calendar.readBound .first d.first = .ok first ∧
      readInstant mid.toList = .ok t ∧ Calendar.readBound .last d.last = .ok last ∧ first ≤ t ∧
      t ≤ last ∧
      ∃ left right shared,
        { d with last := mid }.series = .ok left ∧ { d with first := mid }.series = .ok right ∧
          left.getLast? = some shared ∧ right.head? = some shared ∧ rows = left ++ right.tail := by
  have h : TimeDimension.series ⟨"d", .quarter, "2020-02-29", "2020-07-01T00:00:00", 3⟩ =
      .ok [("2020-01-01T00:00:00.000", "2020-03-31T23:59:59.999"),
        ("2020-04-01T00:00:00.000", "2020-06-30T23:59:59.999"),
        ("2020-07-01T00:00:00.000", "2020-09-30T23:59:59.999")] := by rfl
  have readMid : readInstant "2020-03-31T23:59:59.999999".toList =
      .ok ⟨63752918399, 999999000⟩ := by rfl
  have readFirst : Calendar.readBound .first "2020-02-29" = .ok ⟨63750153600, 0⟩ := by rfl
  have readLast : Calendar.readBound .last "2020-07-01T00:00:00" = .ok ⟨63760780800, 0⟩ := by rfl
  exact ⟨h, readFirst, readMid, readLast, by decide, by decide,
    series_split _ _ _ _ _ _ h readFirst readMid readLast (by decide) (by decide)⟩

end TimeDimension

end QueryDialect
