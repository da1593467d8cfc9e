import QueryDialect.Proofs.TimeSeries
import QueryDialect.Proofs.Settings.Selection

set_option autoImplicit false

/-!
# Caps of time series

A time dimension is asked for under a cap of its own, described by a document that may leave the cap
out, or made from the profile of a dialect. The document and the selected override say which cap that
is, and under any cap the number of buckets alone decides what becomes of the series.
-/
namespace QueryDialect

open Calendar

namespace TimeDimension

variable {d : TimeDimension} {doc : Document} {fields : List (String × Document)} {name : String}

/-! ## Caps of documents -/

/-- The cap that a field sets, and the one that counts without the field. -/
inductive SetsCap : Option Document → Nat → Prop
  | absent : SetsCap none 50000
  | word {n : Nat} (fits : n < 2 ^ 64) : SetsCap (some (.int n)) n

theorem setsCap_iff {setting : Option Document} {n : Nat} :
    Sets Document.word64? 50000 setting n ↔ SetsCap setting n := by
  have max : n ≤ Number.word64Max ↔ n < 2 ^ 64 := by
    rw [Number.word64Max]
    omega
  constructor
  · intro h
    cases setting with
    | none =>
      obtain rfl : n = 50000 := h
      exact .absent
    | some d =>
      obtain ⟨rfl, fits⟩ := Document.word64?_eq_some_iff.1 h
      exact .word (max.1 fits)
  · rintro (_ | fits)
    · rfl
    · exact Document.word64?_eq_some_iff.2 ⟨rfl, max.2 fits⟩

/-- The fields that describe a time dimension. -/
structure Describes (fields : List (String × Document)) (d : TimeDimension) : Prop where
  dimension : fields.lookup "dimension" = some (.string d.dimension)
  granularity : (fields.lookup "granularity").bind Granularity.ofDocument? = some d.granularity
  range : fields.lookup "date_range" = some (.array [.string d.first, .string d.last])
  cap : SetsCap (fields.lookup "max_buckets") d.maxBuckets

theorem text_field_iff {s : String} : Document.field? fields name Document.text? = some s ↔
    fields.lookup name = some (.string s) := by
  rw [Document.field?, Option.bind_eq_some_iff]
  constructor
  · rintro ⟨d, found, read⟩
    cases d <;> cases read
    exact found
  · exact fun found => ⟨_, found, rfl⟩

theorem textPair_field_iff {a b : String} :
    Document.field? fields name Document.textPair? = some (a, b) ↔
      fields.lookup name = some (.array [.string a, .string b]) := by
  rw [Document.field?, Option.bind_eq_some_iff]
  constructor
  · rintro ⟨d, found, read⟩
    unfold Document.textPair? at read
    split at read <;> cases read
    exact found
  · exact fun found => ⟨_, found, rfl⟩

theorem ofDocument?_eq_some_iff : ofDocument? doc = some d ↔ ∃ fields,
    doc.record? ["dimension", "granularity", "date_range", "max_buckets"] .refused = some fields ∧
      Describes fields d := by
  constructor
  · intro h
    obtain ⟨fields, record, h⟩ := Option.bind_eq_some_iff.1 h
    obtain ⟨dimension, readDimension, h⟩ := Option.bind_eq_some_iff.1 h
    obtain ⟨granularity, readGranularity, h⟩ := Option.bind_eq_some_iff.1 h
    obtain ⟨⟨first, last⟩, readRange, h⟩ := Option.bind_eq_some_iff.1 h
    obtain ⟨maxBuckets, readCap, h⟩ := Option.bind_eq_some_iff.1 h
    cases h
    exact ⟨fields, record, text_field_iff.1 readDimension, readGranularity,
      textPair_field_iff.1 readRange, setsCap_iff.1 (fieldOr_eq_some_iff.1 readCap)⟩
  · rintro ⟨fields, record, dimension, granularity, range, cap⟩
    refine Option.bind_eq_some_iff.2 ⟨fields, record, ?_⟩
    refine Option.bind_eq_some_iff.2 ⟨_, text_field_iff.2 dimension, ?_⟩
    refine Option.bind_eq_some_iff.2 ⟨_, granularity, ?_⟩
    refine Option.bind_eq_some_iff.2 ⟨_, textPair_field_iff.2 range, ?_⟩
    exact Option.bind_eq_some_iff.2 ⟨_, fieldOr_eq_some_iff.2 (setsCap_iff.2 cap), rfl⟩

/-! ## Caps of profiles -/

/-- Whatever is asked of the profile is asked under this cap. -/
def MakesUnder (p : Profile) (cap : Nat) : Prop :=
  ∀ (dimension : String) (granularity : Granularity) (first last : String),
    p.timeDimension dimension granularity first last = ⟨dimension, granularity, first, last, cap⟩

theorem makesUnder (p : Profile) : MakesUnder p p.series.maxBuckets := fun _ _ _ _ => rfl

theorem counts_series (s : Settings) (name : String) : Counts s.defaults.series
    ((s.override? name).bind Override.series) (s.forDialect name).series := by
  rw [counts_iff, Settings.forDialect]
  cases s.override? name <;> rfl

/-- Whatever the cap is, more buckets than it are refused first, then a boundary behind them that lies
beyond the last day of the calendar; all else is a series of as many buckets as are needed. The cap of
a document is the one that it sets or the default, and that of a profile the one of the selected
override or of the defaults, which in turn is set in the text of the settings or the default. -/
theorem series_decided_by_count :
    (∀ (d : TimeDimension) (first last : Instant),
      Calendar.readBound .first d.first = .ok first → Calendar.readBound .last d.last = .ok last →
      first ≤ last → (bucketStart d.granularity first).InCalendar →
      ∃ next, IsLeast {b | IsBoundary d.granularity b ∧ last < b} next ∧
        DecidedByCount d first last next (bucketsMeeting d.granularity first last).ncard) ∧
    (∀ doc d, ofDocument? doc = some d ↔ ∃ fields,
      doc.record? ["dimension", "granularity", "date_range", "max_buckets"] .refused = some fields ∧
        Describes fields d) ∧
    (∀ (s : Settings) (name : String), ∃ series,
      Counts s.defaults.series ((s.override? name).bind Override.series) series ∧
        MakesUnder (s.forDialect name) series.maxBuckets) ∧
    ∀ (text : String) (s : Settings), Settings.ofText text = .ok s → ∃ doc,
      Toml.parse? text = some doc ∧ ∀ name, ∃ cap,
        SetsCap (Settings.sectionwise doc name "time_series" ["max_buckets"] "max_buckets") cap ∧
          MakesUnder (s.forDialect name) cap := by
  refine ⟨fun _ _ _ => exists_decidedByCount, fun _ _ => ofDocument?_eq_some_iff,
    fun s name => ⟨_, counts_series s name, makesUnder _⟩, fun text s h => ?_⟩
  obtain ⟨doc, parsed, read⟩ := Settings.ofText_eq_ok h
  exact ⟨doc, parsed, fun name =>
    ⟨_, setsCap_iff.1 (Settings.resolves_sectionwise read name).maxBuckets, makesUnder _⟩⟩

/-- The defaults have a lower cap than the override, and a document without a cap a higher one. -/
theorem series_decided_by_count_configured :
    let text := "[defaults.time_series]\nmax_buckets = 1\n" ++
      "[dialects.trino.time_series]\nmax_buckets = 2\n"
    let s : Settings := ⟨{ series := ⟨1⟩ }, [("trino", { series := some ⟨2⟩ })]⟩
    let d : TimeDimension := ⟨"d", .year, "+262141-05-05", "+262142-12-31T23:59:60", 2⟩
    let first : Instant := ⟨8272381737600, 0⟩
    let last : Instant := ⟨8272434095999, 1000000000⟩
    Settings.ofText text = .ok s ∧ (s.forDialect "Presto").timeDimension "d" .year d.first d.last = d ∧
      ofDocument? (.object [("date_range", .array [.string d.first, .string d.last]),
        ("dimension", .string "d"), ("granularity", .string "year")]) =
          some { d with maxBuckets := 50000 } ∧
      Calendar.readBound .first d.first = .ok first ∧ Calendar.readBound .last d.last = .ok last ∧
      first ≤ last ∧ (bucketStart d.granularity first).InCalendar ∧
      ∃ next, IsLeast {b | IsBoundary d.granularity b ∧ last < b} next ∧
        DecidedByCount d first last next (bucketsMeeting d.granularity first last).ncard := by
  have readFirst : Calendar.readBound .first "+262141-05-05" = .ok ⟨8272381737600, 0⟩ := by rfl
  have readLast : Calendar.readBound .last "+262142-12-31T23:59:60" =
      .ok ⟨8272434095999, 1000000000⟩ := by rfl
  intro text s d first last
  obtain ⟨decided, documents, profiles, -⟩ := series_decided_by_count
  obtain ⟨series, counts, makes⟩ := profiles s "Presto"
  have selected : s.override? "Presto" = some { series := some ⟨2⟩ } := by decide +kernel
  rw [selected] at counts
  obtain rfl : (⟨2⟩ : SeriesSettings) = series := counts_iff.1 counts
  have described : Describes [("date_range", .array [.string d.first, .string d.last]),
      ("dimension", .string "d"), ("granularity", .string "year")] { d with maxBuckets := 50000 } :=
    ⟨rfl, rfl, rfl, .absent⟩
  have ordered : first ≤ last := by decide
  have start : (bucketStart d.granularity first).InCalendar := by decide
  exact ⟨by decide +kernel, makes _ _ _ _, (documents _ _).2 ⟨_, rfl, described⟩, readFirst, readLast,
    ordered, start, decided d first last readFirst readLast ordered start⟩

end TimeDimension

end QueryDialect
