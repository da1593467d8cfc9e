import QueryDialect.Dialect.Engine
import QueryDialect.Proofs.Outcome
import QueryDialect.Proofs.Text.Lexer

set_option autoImplicit false

/-!
# The query of a series

A series query carries its rows as literals between texts that are the same for every series of that
length, so that the rows can be read back from it whatever characters they hold.
-/
namespace QueryDialect

open Text

namespace SeriesForm

variable {form : SeriesForm}

/-! ## Reading a query back -/

def rowTokens (form : SeriesForm) (r : String × String) : List Token :=
  match form with
  | valuesList => plain "(" ++ .literal r.1 :: plain ", " ++ .literal r.2 :: plain ")"
  | selectUnion => plain "select " ++ .literal r.1 :: plain " f, " ++ .literal r.2 :: plain " t"

def tokens (form : SeriesForm) (series : Series) : List Token :=
  plain form.opening ++ (plain form.separator).intercalate (series.map form.rowTokens) ++
    plain form.closing

/-- Each literal of a row is followed by a plain text, at which the reading goes on. -/
theorem reads_pair {before between after : String} (plainBefore : '\'' ∉ before.toList)
    (plainBetween : '\'' ∉ between.toList) (plainAfter : '\'' ∉ after.toList)
    (resumes : Resumes between) (resumes' : Resumes after) (r : String × String) :
    Reads (before ++ literal r.1 ++ between ++ literal r.2 ++ after)
      (plain before ++ .literal r.1 :: plain between ++ .literal r.2 :: plain after) := by
  have opened := reads_plain plainBefore
  have first := reads_literal_plain r.1 plainBetween resumes
  have last := reads_literal_plain r.2 plainAfter resumes'
  have whole := (opened.append first).append last
  simpa only [String.append_assoc] using whole

theorem reads_row (form : SeriesForm) (r : String × String) :
    Reads (form.row r) (form.rowTokens r) := by
  cases form with
  | valuesList =>
    exact reads_pair (by decide) (by decide) (by decide) (by decide) (by decide) r
  | selectUnion =>
    exact reads_pair (by decide) (by decide) (by decide) (by decide) (by decide) r

theorem tokens?_query (form : SeriesForm) (series : Series) :
    tokens? (form.query series) = some (form.tokens series) := by
  have opened : Reads form.opening (plain form.opening) :=
    reads_plain (by cases form <;> decide +kernel)
  have between : Reads form.separator (plain form.separator) :=
    reads_plain (by cases form <;> decide +kernel)
  have closed : Reads form.closing (plain form.closing) :=
    reads_plain (by cases form <;> decide +kernel)
  exact ((opened.append (reads_intercalate between form.reads_row series)).append closed).tokens?

/-! ## Rows and frame -/

def rowTexts (series : Series) : List String := series.flatMap fun r => [r.1, r.2]

/-- The query of a series of `n` rows, with its literals struck out. -/
def frame (form : SeriesForm) (n : Nat) : List (Option Char) :=
  outline (form.tokens (List.replicate n ("", "")))

theorem literals_tokens (form : SeriesForm) (series : Series) :
    literals (form.tokens series) = rowTexts series := by
  have row (r : String × String) : literals (form.rowTokens r) = [r.1, r.2] := by
    cases form <;> simp [rowTokens]
  rw [tokens, literals_append, literals_append, literals_intercalate (literals_plain _)]
  simp [rowTexts, List.flatMap_map, row]

theorem outline_tokens (form : SeriesForm) (series : Series) :
    outline (form.tokens series) = form.frame series.length := by
  have row (r : String × String) : outline (form.rowTokens r) = outline (form.rowTokens ("", "")) := by
    cases form <;> simp [rowTokens, outline, Token.mark]
  have rows : (series.map form.rowTokens).map outline =
      ((List.replicate series.length ("", "")).map form.rowTokens).map outline := by
    rw [List.map_replicate, List.map_replicate, List.map_map]
    exact List.map_eq_replicate_iff.2 fun r _ => row r
  have inner := congrArg (outline (plain form.separator)).intercalate rows
  rw [← outline_intercalate, ← outline_intercalate] at inner
  unfold frame tokens
  simp only [outline, List.map_append] at inner ⊢
  rw [inner]

theorem rowTexts_length (series : Series) : (rowTexts series).length = 2 * series.length := by
  induction series with
  | nil => rfl
  | cons r rs ih =>
    rw [rowTexts, List.flatMap_cons, List.length_append, ← rowTexts, ih, List.length_cons]
    simp only [List.length_cons, List.length_nil]
    omega

theorem rowTexts_injective : Function.Injective rowTexts := by
  intro rs ss same
  induction rs generalizing ss with
  | nil =>
    cases ss with
    | nil => rfl
    | cons s ss => simp [rowTexts] at same
  | cons r rs ih =>
    cases ss with
    | nil => simp [rowTexts] at same
    | cons s ss =>
      simp only [rowTexts, List.flatMap_cons, List.cons_append, List.nil_append,
        List.cons.injEq] at same
      obtain ⟨first, last, others⟩ := same
      rw [Prod.ext first last, ih others]

end SeriesForm

namespace Dialect

open SeriesForm

/-- A dialect writes the rows of every series so that they can be read back. -/
structure Encodes (d : Dialect) : Prop where
  /-- Only the fault of a source and an empty series are refused, the latter by the settings. -/
  refused (source : SeriesSource) (e : Error) : d.seriesQuery source = .error e ↔
    source.series = .error e ∨
      source.series = .ok [] ∧ e = .emptySeries d.name ∧ e.kind = .settings
  /-- The literals are the texts of the rows, and all else is set by the number of rows. -/
  encoded (source : SeriesSource) (series : Series) (given : source.series = .ok series)
    (rows : series ≠ []) : ∃ sql ts, d.seriesQuery source = .ok sql ∧ tokens? sql = some ts ∧
      (literals ts).length = 2 * series.length ∧
      literals ts = series.flatMap (fun r => [r.1, r.2]) ∧
      outline ts = d.series.frame series.length
  injective (source source' : SeriesSource) (sql : String) (h : d.seriesQuery source = .ok sql)
    (h' : d.seriesQuery source' = .ok sql) : source.series = source'.series
  /-- Another dialect writes the same rows. -/
  shared (d' : Dialect) (source : SeriesSource) (sql : String)
    (h : d.seriesQuery source = .ok sql) : ∃ sql', d'.seriesQuery source = .ok sql' ∧
      (tokens? sql').map literals = (tokens? sql).map literals

variable {d : Dialect} {source : SeriesSource} {series : Series} {sql : String}

theorem seriesQuery_eq_ok : d.seriesQuery source = .ok sql ↔
    ∃ series, source.series = .ok series ∧ series ≠ [] ∧ sql = d.series.query series := by
  unfold seriesQuery
  rw [bind_eq_ok]
  refine exists_congr fun series => and_congr_right fun _ => ?_
  cases series with
  | nil => simp [throw, throwThe, MonadExceptOf.throw]
  | cons r rs => simp [pure, Except.pure, eq_comm]

theorem seriesQuery_eq_error {e : Error} : d.seriesQuery source = .error e ↔
    source.series = .error e ∨ source.series = .ok [] ∧ e = .emptySeries d.name := by
  unfold seriesQuery
  cases given : source.series with
  | error f => simp [bind, Except.bind]
  | ok series =>
    cases series with
    | nil => simp [bind, Except.bind, throw, throwThe, MonadExceptOf.throw, eq_comm]
    | cons r rs => simp [bind, Except.bind, pure, Except.pure]

theorem literals_seriesQuery (h : d.seriesQuery source = .ok sql)
    (given : source.series = .ok series) : (tokens? sql).map literals = some (rowTexts series) := by
  obtain ⟨_, given', _, rfl⟩ := seriesQuery_eq_ok.1 h
  cases given.symm.trans given'
  rw [tokens?_query, Option.map_some, literals_tokens]

/-- Every dialect writes every series that is not empty, and the query says the series and no more. -/
theorem seriesQuery_encodes (d : Dialect) : d.Encodes where
  refused source e := by
    rw [seriesQuery_eq_error]
    constructor
    · rintro (fault | ⟨empty, rfl⟩)
      · exact .inl fault
      · exact .inr ⟨empty, rfl, rfl⟩
    · rintro (fault | ⟨empty, same, _⟩)
      · exact .inl fault
      · exact .inr ⟨empty, same⟩
  encoded source series given rows := by
    refine ⟨d.series.query series, d.series.tokens series,
      seriesQuery_eq_ok.2 ⟨series, given, rows, rfl⟩, tokens?_query _ series, ?_,
      literals_tokens _ series, outline_tokens _ series⟩
    rw [literals_tokens, rowTexts_length]
  injective source source' sql h h' := by
    obtain ⟨series, given, _⟩ := seriesQuery_eq_ok.1 h
    obtain ⟨series', given', _⟩ := seriesQuery_eq_ok.1 h'
    have texts := literals_seriesQuery h given
    rw [literals_seriesQuery h' given'] at texts
    rw [given, given', rowTexts_injective (Option.some.inj texts)]
  shared d' source sql h := by
    obtain ⟨series, given, rows, _⟩ := seriesQuery_eq_ok.1 h
    have h' : d'.seriesQuery source = .ok (d'.series.query series) :=
      seriesQuery_eq_ok.2 ⟨series, given, rows, rfl⟩
    exact ⟨_, h', (literals_seriesQuery h' given).trans (literals_seriesQuery h given).symm⟩

example : base.seriesQuery (.pairs [("2020-01-01", "it's"), ("", "b")]) =
    .ok ("SELECT date_from::timestamp AS \"date_from\", date_to::timestamp AS \"date_to\" " ++
      "FROM (VALUES ('2020-01-01', 'it''s'), ('', 'b')) AS dates (date_from, date_to)") := by
  decide +kernel

end Dialect

end QueryDialect
