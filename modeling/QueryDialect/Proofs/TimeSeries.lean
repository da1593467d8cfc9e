import QueryDialect.TimeSeries
import QueryDialect.Proofs.Calendar.Printed

set_option autoImplicit false

/-!
# Time series

A series is the buckets that meet the range of its time dimension, each once and in order. Their
number alone decides between a series, an exceeded cap and the end of the calendar.
-/
namespace QueryDialect

open Calendar

/-! ## Printed buckets -/

theorem boundary_onMilli (g : Granularity) (k : Int) : (boundary g k).OnMilli := by
  change 0 < 1000000000 ∧ 0 % 1000000 = 0
  decide

theorem bucket_last_onMilli (g : Granularity) (k : Int) : (bucket g k).last.OnMilli := by
  change 999000000 < 1000000000 ∧ 999000000 % 1000000 = 0
  decide

/-- The printed ends of a bucket stand for its first instant and its last millisecond. -/
theorem bucket_texts_read {g : Granularity} {k : Int} (first : (boundary g k).InCalendar)
    (next : (boundary g (k + 1)).InCalendar) (e : RangeEnd) :
    Calendar.readBound e (bucket g k).texts.1 = .ok (bucket g k).first ∧
      Calendar.readBound e (bucket g k).texts.2 = .ok (bucket g k).last :=
  ⟨readBound_text e first (boundary_onMilli g k),
    readBound_text e (bucket_last_inCalendar first next) (bucket_last_onMilli g k)⟩

namespace TimeDimension

variable {d : TimeDimension} {first last : Instant}

/-! ## The steps before the loop -/

theorem buckets_of_read (readFirst : Calendar.readBound .first d.first = .ok first)
    (readLast : Calendar.readBound .last d.last = .ok last) :
    d.buckets =
      if first ≤ last then
        match bucketStart? d.granularity first with
        | none => .error (.beforeCalendar first)
        | some start => (bucketsFrom d.granularity last d.maxBuckets start).mapError d.fault
      else .error (.reversedRange d.first d.last) := by
  have hfirst : readBound .first d.first = .ok first := by rw [readBound, readFirst]; rfl
  have hlast : readBound .last d.last = .ok last := by rw [readBound, readLast]; rfl
  rw [buckets, hfirst, ok_bind, hlast, ok_bind]
  rfl

theorem buckets_eq (readFirst : Calendar.readBound .first d.first = .ok first)
    (readLast : Calendar.readBound .last d.last = .ok last) (ordered : first ≤ last)
    (start : (bucketStart d.granularity first).InCalendar) :
    d.buckets = (bucketsFrom d.granularity last d.maxBuckets
      (bucketStart d.granularity first)).mapError d.fault := by
  rw [buckets_of_read readFirst readLast, if_pos ordered, bucketStart?, inCalendar?_some start]

theorem buckets_of_unread_first {fault : ReadFault}
    (unread : Calendar.readBound .first d.first = .error fault) :
    d.buckets = .error (.unreadableBound d.first fault) := by
  rw [buckets, readBound, unread]
  rfl

theorem buckets_of_unread_last {fault : ReadFault}
    (readFirst : Calendar.readBound .first d.first = .ok first)
    (unread : Calendar.readBound .last d.last = .error fault) :
    d.buckets = .error (.unreadableBound d.last fault) := by
  rw [buckets, readBound, readFirst, readBound, unread]
  rfl

/-- Once both bounds are read, a range is refused for their order, its start or its buckets. -/
theorem buckets_error_cases (readFirst : Calendar.readBound .first d.first = .ok first)
    (readLast : Calendar.readBound .last d.last = .ok last) {e : Error}
    (h : d.buckets = .error e) :
    last < first ∧ e = .reversedRange d.first d.last ∨
      e = .beforeCalendar first ∨ ∃ f, e = d.fault f := by
  rw [buckets_of_read readFirst readLast] at h
  split_ifs at h with ordered
  · right
    split at h
    · left
      exact (Except.error.inj h).symm
    · rename_i start _
      right
      cases found : bucketsFrom d.granularity last d.maxBuckets start with
      | ok bs => simp [found, Except.mapError] at h
      | error f => exact ⟨f, by simpa [found, Except.mapError] using h.symm⟩
  · left
    exact ⟨not_le.1 ordered, (Except.error.inj h).symm⟩

/-- Only the order of the bounds makes a range a reversed one. -/
theorem buckets_reversed_iff (readFirst : Calendar.readBound .first d.first = .ok first)
    (readLast : Calendar.readBound .last d.last = .ok last) :
    d.buckets = .error (.reversedRange d.first d.last) ↔ last < first := by
  constructor
  · intro h
    obtain ⟨reversed, -⟩ | start | ⟨f, same⟩ := buckets_error_cases readFirst readLast h
    · exact reversed
    · cases start
    · cases f <;> cases same
  · intro reversed
    rw [buckets_of_read readFirst readLast, if_neg (not_le.2 reversed)]

theorem of_buckets_ok {bs : List Bucket} (h : d.buckets = .ok bs) :
    ∃ first last, Calendar.readBound .first d.first = .ok first ∧
      Calendar.readBound .last d.last = .ok last ∧ first ≤ last ∧
      (bucketStart d.granularity first).InCalendar := by
  obtain ⟨first, readFirst, h⟩ := bind_eq_ok.1 h
  obtain ⟨last, readLast, h⟩ := bind_eq_ok.1 h
  split_ifs at h with ordered
  refine ⟨first, last, mapError_eq_ok.1 readFirst, mapError_eq_ok.1 readLast, ordered, ?_⟩
  by_contra start
  rw [bucketStart?, inCalendar?_none start] at h
  cases h

/-! ## The outcome by the number of buckets -/

/-- The loop ends only where it can step to the boundary behind the bucket of the last instant. -/
theorem buckets_by_count (readFirst : Calendar.readBound .first d.first = .ok first)
    (readLast : Calendar.readBound .last d.last = .ok last) (ordered : first ≤ last)
    (start : (bucketStart d.granularity first).InCalendar) :
    d.buckets =
      if d.maxBuckets < (bucketsMeeting d.granularity first last).ncard then
        .error (.tooManyBuckets d.dimension d.granularity d.maxBuckets)
      else if (boundary d.granularity (bucketIndex d.granularity last + 1)).InCalendar then
        .ok (bucketRun d.granularity (bucketIndex d.granularity first)
          (bucketsMeeting d.granularity first last).ncard)
      else .error (.pastCalendar (bucketStart d.granularity last)) := by
  have count := bucketsMeeting_ncard d.granularity ordered
  have mono := bucketIndex_mono d.granularity ordered
  rw [buckets_eq readFirst readLast ordered start]
  rw [bucketStart_eq] at start ⊢
  rw [bucketsFrom_eq start (readBound_inCalendar readLast)
    (n := (bucketsMeeting d.granularity first last).ncard) (by omega) (by omega),
    bucketStart_eq, show bucketIndex d.granularity first +
      ((bucketsMeeting d.granularity first last).ncard : Int) =
        bucketIndex d.granularity last + 1 by omega]
  split_ifs <;> rfl

/-- Buckets are found only for a range that needs no more than the cap and ends before the last
boundary of the calendar. -/
theorem run_of_buckets_ok {bs : List Bucket} (h : d.buckets = .ok bs) :
    ∃ first last, Calendar.readBound .first d.first = .ok first ∧
      Calendar.readBound .last d.last = .ok last ∧ first ≤ last ∧
      (bucketStart d.granularity first).InCalendar ∧
      (boundary d.granularity (bucketIndex d.granularity last + 1)).InCalendar ∧
      (bucketsMeeting d.granularity first last).ncard ≤ d.maxBuckets ∧
      bs = bucketRun d.granularity (bucketIndex d.granularity first)
        (bucketsMeeting d.granularity first last).ncard := by
  obtain ⟨first, last, readFirst, readLast, ordered, start⟩ := of_buckets_ok h
  rw [buckets_by_count readFirst readLast ordered start] at h
  split_ifs at h with many next
  obtain rfl := Except.ok.inj h
  exact ⟨first, last, readFirst, readLast, ordered, start, next, not_lt.1 many, rfl⟩

theorem series_eq_ok {rows : Series} :
    d.series = .ok rows ↔ ∃ bs, d.buckets = .ok bs ∧ bs.map Bucket.texts = rows := map_eq_ok

/-- The bounds stand for an ordered range that `n` buckets fill, which the cap and the calendar
allow. -/
structure Spans (d : TimeDimension) (first last : Instant) (n : Nat) : Prop where
  readFirst : Calendar.readBound .first d.first = .ok first
  readLast : Calendar.readBound .last d.last = .ok last
  ordered : first ≤ last
  needed : bucketIndex d.granularity last + 1 = bucketIndex d.granularity first + n
  room : n ≤ d.maxBuckets
  begins : (boundary d.granularity (bucketIndex d.granularity first)).InCalendar
  ends : (boundary d.granularity (bucketIndex d.granularity last + 1)).InCalendar

theorem Spans.series {n : Nat} (h : Spans d first last n) : d.series =
    .ok ((bucketRun d.granularity (bucketIndex d.granularity first) n).map Bucket.texts) := by
  have count := bucketsMeeting_ncard d.granularity h.ordered
  have filled : (bucketsMeeting d.granularity first last).ncard = n := by
    have := h.needed
    omega
  have found := buckets_by_count h.readFirst h.readLast h.ordered (bucketStart_eq _ _ ▸ h.begins)
  rw [filled, if_neg (not_lt.2 h.room), if_pos h.ends] at found
  exact series_eq_ok.2 ⟨_, found, rfl⟩

theorem series_eq_ok_iff {rows : Series} : d.series = .ok rows ↔ ∃ first last n,
    Spans d first last n ∧
      rows = (bucketRun d.granularity (bucketIndex d.granularity first) n).map Bucket.texts := by
  constructor
  · intro h
    obtain ⟨bs, found, rfl⟩ := series_eq_ok.1 h
    obtain ⟨first, last, readFirst, readLast, ordered, start, next, room, rfl⟩ :=
      run_of_buckets_ok found
    have count := bucketsMeeting_ncard d.granularity ordered
    have mono := bucketIndex_mono d.granularity ordered
    exact ⟨first, last, _, ⟨readFirst, readLast, ordered, by omega, room, bucketStart_eq _ _ ▸ start,
      next⟩, rfl⟩
  · rintro ⟨first, last, n, spans, rfl⟩
    exact spans.series

theorem Spans.texts_read {n : Nat} {k : Int} (h : Spans d first last n)
    (low : bucketIndex d.granularity first ≤ k) (high : k ≤ bucketIndex d.granularity last)
    (e : RangeEnd) :
    Calendar.readBound e (bucket d.granularity k).texts.1 = .ok (boundary d.granularity k) ∧
      Calendar.readBound e (bucket d.granularity k).texts.2 = .ok (bucket d.granularity k).last :=
  bucket_texts_read (boundary_inCalendar h.begins h.ends low (by omega))
    (boundary_inCalendar h.begins h.ends (by omega) (by omega)) e

/-- The buckets of a series are those that meet its range, and their texts stand for them. -/
theorem series_covers (d : TimeDimension) (rows : Series) (h : d.series = .ok rows) :
    ∃ first last bs,
      Calendar.readBound .first d.first = .ok first ∧
      Calendar.readBound .last d.last = .ok last ∧ first ≤ last ∧
      Covers d.granularity first last bs ∧
      rows = bs.map Bucket.texts ∧ rows.Nodup ∧
      ∀ b ∈ bs, ∀ e, Calendar.readBound e b.texts.1 = .ok b.first ∧
        Calendar.readBound e b.texts.2 = .ok b.last := by
  obtain ⟨bs, found, rfl⟩ := series_eq_ok.1 h
  obtain ⟨first, last, readFirst, readLast, ordered, start, next, -, rfl⟩ := run_of_buckets_ok found
  have count := bucketsMeeting_ncard d.granularity ordered
  rw [bucketStart_eq] at start
  have covers := bucketRun_covers d.granularity ordered (show bucketIndex d.granularity last + 1 =
    bucketIndex d.granularity first + ((bucketsMeeting d.granularity first last).ncard : Int) by
      omega)
  have printed : ∀ b ∈ bucketRun d.granularity (bucketIndex d.granularity first)
      (bucketsMeeting d.granularity first last).ncard, ∀ e,
      Calendar.readBound e b.texts.1 = .ok b.first ∧
        Calendar.readBound e b.texts.2 = .ok b.last := by
    intro b hb e
    obtain ⟨k, low, high, rfl⟩ := (mem_bucketRun_iff _ _ _ b).1 hb
    exact bucket_texts_read (boundary_inCalendar start next low (by omega))
      (boundary_inCalendar start next (by omega) (by omega)) e
  refine ⟨first, last, _, readFirst, readLast, ordered, covers, rfl, ?_, printed⟩
  refine List.Nodup.map_on ?_ (covers.ascending.imp fun lt same => absurd (same ▸ lt.1) (lt_irrefl _))
  intro a ha b hb same
  obtain ⟨j, -, -, rfl⟩ := (mem_bucketRun_iff _ _ _ a).1 ha
  obtain ⟨k, -, -, rfl⟩ := (mem_bucketRun_iff _ _ _ b).1 hb
  have reads := (printed _ ha .first).1
  rw [same, (printed _ hb .first).1] at reads
  rw [(boundary_strictMono d.granularity).injective (Except.ok.inj reads)]

theorem series_covers_newYear :
    let d : TimeDimension := ⟨"d", .week, "2020-01-01", "2020-01-08T23:59:60.5", 2⟩
    let rows : Series :=
      [("2019-12-30T00:00:00.000", "2020-01-05T23:59:59.999"),
        ("2020-01-06T00:00:00.000", "2020-01-12T23:59:59.999")]
    d.series = .ok rows ∧
      ∃ first last bs,
        Calendar.readBound .first d.first = .ok first ∧
        Calendar.readBound .last d.last = .ok last ∧ first ≤ last ∧
        Covers d.granularity first last bs ∧
        rows = bs.map Bucket.texts ∧ rows.Nodup ∧
        ∀ b ∈ bs, ∀ e, Calendar.readBound e b.texts.1 = .ok b.first ∧
          Calendar.readBound e b.texts.2 = .ok b.last := by
  have h : TimeDimension.series ⟨"d", .week, "2020-01-01", "2020-01-08T23:59:60.5", 2⟩ =
      .ok [("2019-12-30T00:00:00.000", "2020-01-05T23:59:59.999"),
        ("2020-01-06T00:00:00.000", "2020-01-12T23:59:59.999")] := by rfl
  exact ⟨h, series_covers _ _ h⟩

/-! ## Caps -/

theorem loop_ends_with_series (readFirst : Calendar.readBound .first d.first = .ok first)
    (readLast : Calendar.readBound .last d.last = .ok last) (ordered : first ≤ last)
    (start : (bucketStart d.granularity first).InCalendar) :
    ∃ n answer, n ≤ d.maxBuckets ∧
      Ends d.granularity last d.maxBuckets n ⟨bucketStart d.granularity first, []⟩ answer ∧
      d.series = (answer.mapError d.fault).map (·.map Bucket.texts) := by
  obtain ⟨n, le, ends⟩ := loop_ends d.granularity last d.maxBuckets d.maxBuckets
    ⟨bucketStart d.granularity first, []⟩ (Nat.zero_add _)
  refine ⟨n, _, le, ends, ?_⟩
  rw [series, buckets_eq readFirst readLast ordered start]
  cases bucketsFrom d.granularity last d.maxBuckets (bucketStart d.granularity first) <;> rfl

theorem series_raise_cap {rows : Series} {cap : Nat} (h : d.series = .ok rows)
    (raise : d.maxBuckets ≤ cap) : { d with maxBuckets := cap }.series = .ok rows := by
  obtain ⟨first, last, n, spans, rfl⟩ := series_eq_ok_iff.1 h
  exact Spans.series (d := { d with maxBuckets := cap }) { spans with room := spans.room.trans raise }

/-- What the buckets that a range needs, and the boundary `next` behind them, decide. -/
structure DecidedByCount (d : TimeDimension) (first last next : Instant) (needed : Nat) : Prop where
  positive : 1 ≤ needed
  tooMany : d.maxBuckets < needed →
    d.series = .error (.tooManyBuckets d.dimension d.granularity d.maxBuckets)
  pastCalendar : needed ≤ d.maxBuckets → lastDay < next.day →
    d.series = .error (.pastCalendar (bucketStart d.granularity last))
  succeeds : needed ≤ d.maxBuckets → next.day ≤ lastDay →
    ∃ rows, d.series = .ok rows ∧ rows.length = needed
  cap_kept : ∀ rows, d.series = .ok rows → rows.length ≤ d.maxBuckets
  raise_cap : ∀ rows cap, d.series = .ok rows → d.maxBuckets ≤ cap →
    { d with maxBuckets := cap }.series = .ok rows
  loop_ends : ∃ n answer, n ≤ d.maxBuckets ∧
    Ends d.granularity last d.maxBuckets n ⟨bucketStart d.granularity first, []⟩ answer ∧
    d.series = (answer.mapError d.fault).map (·.map Bucket.texts)

/-- More buckets than the cap are refused first, then a boundary behind them that lies beyond the
last day of the calendar; all else is a series of as many buckets as are needed. -/
theorem exists_decidedByCount (readFirst : Calendar.readBound .first d.first = .ok first)
    (readLast : Calendar.readBound .last d.last = .ok last) (ordered : first ≤ last)
    (start : (bucketStart d.granularity first).InCalendar) :
    ∃ next, IsLeast {b | IsBoundary d.granularity b ∧ last < b} next ∧
      DecidedByCount d first last next (bucketsMeeting d.granularity first last).ncard := by
  have count := bucketsMeeting_ncard d.granularity ordered
  have mono := bucketIndex_mono d.granularity ordered
  have outcome := buckets_by_count readFirst readLast ordered start
  refine ⟨_, isLeast_boundary_after d.granularity last, by omega, ?_, ?_, ?_, ?_,
    fun rows cap => series_raise_cap, loop_ends_with_series readFirst readLast ordered start⟩
  · intro many
    rw [if_pos many] at outcome
    rw [series, outcome]
    rfl
  · intro room past
    rw [if_neg (by omega), if_neg (fun inside => absurd inside.2 (not_le.2 past))] at outcome
    rw [series, outcome]
    rfl
  · intro room inside
    have low := start.1.trans (day_mono ((isGreatest_bucketStart d.granularity first).1.2.trans
      (ordered.trans (isLeast_boundary_after d.granularity last).1.2.le)))
    rw [if_neg (by omega), if_pos ⟨low, inside⟩] at outcome
    exact ⟨_, series_eq_ok.2 ⟨_, outcome, rfl⟩, by rw [List.length_map, bucketRun_length]⟩
  · intro rows h
    obtain ⟨bs, found, rfl⟩ := series_eq_ok.1 h
    obtain ⟨_, _, _, _, _, _, _, room, rfl⟩ := run_of_buckets_ok found
    rw [List.length_map, bucketRun_length]
    exact room

end TimeDimension

end QueryDialect
