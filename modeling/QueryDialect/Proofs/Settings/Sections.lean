import QueryDialect.Settings
import Mathlib

set_option autoImplicit false

/-!
# Sections of settings

A profile is traced back to the text of its settings, field by field. The section of an override
replaces that of the defaults as a whole: what it leaves open has the built-in value, even where the
defaults set it.
-/
namespace QueryDialect

/-! ## Fields that a text sets -/

namespace Document

/-- The field of a record with the fields `names`, where the record sets it. -/
def setting? (names : List String) (name : String) (d : Document) : Option Document :=
  (d.record? names .ignored).bind (·.lookup name)

/-- Null stands for an absent section. -/
def present? : Document → Option Document
  | .null => none
  | d => some d

end Document

variable {α σ : Type}

/-- A value is the one that was set, if one was, and otherwise the built-in one. -/
def Sets (read : Document → Option α) (builtin : α) (setting : Option Document) (value : α) : Prop :=
  match setting with
  | none => value = builtin
  | some d => read d = some value

theorem fieldOr_eq_some_iff {read : Document → Option α} {builtin value : α} {name : String}
    {fields : List (String × Document)} : Document.fieldOr fields name read builtin = some value ↔
      Sets read builtin (fields.lookup name) value := by
  unfold Document.fieldOr
  cases fields.lookup name with
  | none => exact Option.some_inj.trans eq_comm
  | some d => exact Iff.rfl

/-! ## One section -/

def queryFields : List String := ["db_type", "timezone"]
def seriesFields : List String := ["max_buckets"]

theorem querySettings_sets {d : Document} {q : QuerySettings}
    (h : QuerySettings.ofDocument? d = some q) :
    Sets Document.text? "postgres" (d.setting? queryFields "db_type") q.engine ∧
      Sets (Document.optional? Document.text?) none (d.setting? queryFields "timezone")
        q.timezone := by
  obtain ⟨fields, record, h⟩ := Option.bind_eq_some_iff.1 h
  obtain ⟨engine, readEngine, h⟩ := Option.bind_eq_some_iff.1 h
  obtain ⟨timezone, readTimezone, h⟩ := Option.bind_eq_some_iff.1 h
  cases h
  rw [Document.setting?, Document.setting?, queryFields, record]
  exact ⟨fieldOr_eq_some_iff.1 readEngine, fieldOr_eq_some_iff.1 readTimezone⟩

theorem seriesSettings_sets {d : Document} {s : SeriesSettings}
    (h : SeriesSettings.ofDocument? d = some s) :
    Sets Document.word64? defaultMaxBuckets (d.setting? seriesFields "max_buckets")
      s.maxBuckets := by
  obtain ⟨fields, record, h⟩ := Option.bind_eq_some_iff.1 h
  obtain ⟨maxBuckets, read, h⟩ := Option.bind_eq_some_iff.1 h
  cases h
  rw [Document.setting?, seriesFields, record]
  exact fieldOr_eq_some_iff.1 read

theorem refreshSettings_sets {d : Document} {r : RefreshSettings}
    (h : RefreshSettings.ofDocument? .ignored d = some r) :
    Sets (Document.optional? Document.word64?) none
        (d.setting? RefreshSettings.fieldNames "renewal_threshold_secs") r.renewalThreshold ∧
      Sets (Document.optional? Document.text?) none
        (d.setting? RefreshSettings.fieldNames "every") r.every := by
  obtain ⟨fields, record, h⟩ := Option.bind_eq_some_iff.1 h
  obtain ⟨renewalThreshold, readThreshold, h⟩ := Option.bind_eq_some_iff.1 h
  obtain ⟨every, readEvery, h⟩ := Option.bind_eq_some_iff.1 h
  cases h
  rw [Document.setting?, Document.setting?, record]
  exact ⟨fieldOr_eq_some_iff.1 readThreshold, fieldOr_eq_some_iff.1 readEvery⟩

/-! ## The sections of a profile and of an override -/

theorem profile_sets {d : Document} {p : Profile} (h : Profile.ofDocument? d = some p) :
    Sets QuerySettings.ofDocument? {} (d.setting? sectionNames "query") p.query ∧
      Sets SeriesSettings.ofDocument? {} (d.setting? sectionNames "time_series") p.series ∧
      Sets (RefreshSettings.ofDocument? .ignored) {} (d.setting? sectionNames "refresh")
        p.refresh := by
  obtain ⟨fields, record, h⟩ := Option.bind_eq_some_iff.1 h
  obtain ⟨query, readQuery, h⟩ := Option.bind_eq_some_iff.1 h
  obtain ⟨series, readSeries, h⟩ := Option.bind_eq_some_iff.1 h
  obtain ⟨refresh, readRefresh, h⟩ := Option.bind_eq_some_iff.1 h
  cases h
  simp only [Document.setting?, record]
  exact ⟨fieldOr_eq_some_iff.1 readQuery, fieldOr_eq_some_iff.1 readSeries, fieldOr_eq_some_iff.1 readRefresh⟩

theorem override_sets {d : Document} {o : Override} (h : Override.ofDocument? d = some o) :
    Sets (Document.optional? QuerySettings.ofDocument?) none (d.setting? sectionNames "query")
        o.query ∧
      Sets (Document.optional? SeriesSettings.ofDocument?) none
        (d.setting? sectionNames "time_series") o.series ∧
      Sets (Document.optional? (RefreshSettings.ofDocument? .ignored)) none
        (d.setting? sectionNames "refresh") o.refresh := by
  obtain ⟨fields, record, h⟩ := Option.bind_eq_some_iff.1 h
  obtain ⟨query, readQuery, h⟩ := Option.bind_eq_some_iff.1 h
  obtain ⟨series, readSeries, h⟩ := Option.bind_eq_some_iff.1 h
  obtain ⟨refresh, readRefresh, h⟩ := Option.bind_eq_some_iff.1 h
  cases h
  simp only [Document.setting?, record]
  exact ⟨fieldOr_eq_some_iff.1 readQuery, fieldOr_eq_some_iff.1 readSeries, fieldOr_eq_some_iff.1 readRefresh⟩

theorem sets_getD {read : Document → Option σ} {builtin value : σ} {own other : Option Document}
    {o : Option σ} (h : Sets (Document.optional? read) none own o)
    (h' : Sets read builtin other value) :
    Sets read builtin ((own.bind Document.present?).or other) (o.getD value) := by
  cases own with
  | none =>
    cases h
    exact h'
  | some d =>
    change Document.optional? read d = some o at h
    cases d with
    | null =>
      cases h
      exact h'
    | _ =>
      obtain ⟨a, readA, rfl⟩ := Option.map_eq_some_iff.1 h
      exact readA

theorem sets_bind {read : Document → Option σ} {readField : Document → Option α} {builtin value : σ}
    {builtinField : α} {names : List String} {name : String} {setting : Option Document}
    (field : σ → α) (start : field builtin = builtinField)
    (fields : ∀ d s, read d = some s →
      Sets readField builtinField (d.setting? names name) (field s))
    (h : Sets read builtin setting value) :
    Sets readField builtinField (setting.bind (Document.setting? names name)) (field value) := by
  cases setting with
  | none =>
    cases h
    exact start
  | some d => exact fields d value h

/-! ## The selected override -/

/-- The entry under exactly this name, and otherwise the one with the least name of the engine. -/
def selectedEntry (entries : List (String × α)) (name : String) : Option (String × α) :=
  match entries.lookup name with
  | some a => some (name, a)
  | none => do
    let engine ← Engine.ofName? name
    leastNamed? (entries.filter fun e => Engine.ofName? e.1 = some engine)

theorem override?_eq (s : Settings) (name : String) :
    s.override? name = (selectedEntry s.dialects name).map Prod.snd := by
  unfold Settings.override? selectedEntry
  cases s.dialects.lookup name with
  | some o => rfl
  | none =>
    cases Engine.ofName? name with
    | none => rfl
    | some engine =>
      change ((leastNamed? _).bind fun named => some named.2) = (leastNamed? _).map Prod.snd
      rw [Option.map_eq_bind]
      rfl

/-- Two entries of one name, of which the second holds what the first is read as. -/
def ReadAs (read : Document → Option σ) (e : String × Document) (e' : String × σ) : Prop :=
  e.1 = e'.1 ∧ read e.2 = some e'.2

section ReadAs

variable {read : Document → Option σ} {entries : List (String × Document)} {out : List (String × σ)}

theorem forall₂_of_readEntries (h : Document.readEntries? read entries = some out) :
    List.Forall₂ (ReadAs read) entries out := by
  induction entries generalizing out with
  | nil =>
    cases h
    exact .nil
  | cons e entries ih =>
    obtain ⟨a, readHead, h⟩ := Option.bind_eq_some_iff.1 h
    obtain ⟨rest, readRest, h⟩ := Option.bind_eq_some_iff.1 h
    cases h
    exact .cons ⟨rfl, readHead⟩ (ih readRest)

theorem lookup_readAs (h : List.Forall₂ (ReadAs read) entries out) (name : String) :
    Option.Rel (fun d a => read d = some a) (entries.lookup name) (out.lookup name) := by
  induction h with
  | nil => exact .none
  | @cons e e' entries out same _ ih =>
    obtain ⟨n, d⟩ := e
    obtain ⟨n', a⟩ := e'
    obtain ⟨rfl, readHead⟩ : n = n' ∧ read d = some a := same
    by_cases found : name = n
    · subst found
      rw [List.lookup_cons_self, List.lookup_cons_self]
      exact .some readHead
    · rw [List.lookup_cons, List.lookup_cons, beq_false_of_ne found]
      exact ih

theorem filter_readAs (h : List.Forall₂ (ReadAs read) entries out) (p : String → Bool) :
    List.Forall₂ (ReadAs read) (entries.filter fun e => p e.1) (out.filter fun e => p e.1) := by
  induction h with
  | nil => exact .nil
  | @cons e e' entries out same _ ih =>
    rw [List.filter_cons, List.filter_cons, same.1]
    split_ifs
    · exact .cons same ih
    · exact ih

theorem leastNamed?_readAs (h : List.Forall₂ (ReadAs read) entries out) :
    Option.Rel (ReadAs read) (leastNamed? entries) (leastNamed? out) := by
  induction h with
  | nil => exact .none
  | @cons e e' entries out same _ ih =>
    unfold leastNamed?
    cases hd : leastNamed? entries with
    | none =>
      rw [hd] at ih
      cases ho : leastNamed? out with
      | none => exact .some same
      | some least => rw [ho] at ih; cases ih
    | some least =>
      rw [hd] at ih
      cases ho : leastNamed? out with
      | none => rw [ho] at ih; cases ih
      | some least' =>
        rw [ho] at ih
        cases ih with
        | some rest =>
          dsimp only
          rw [rest.1, same.1]
          split_ifs
          · exact .some rest
          · exact .some same

theorem selectedEntry_readAs (h : List.Forall₂ (ReadAs read) entries out) (name : String) :
    Option.Rel (ReadAs read) (selectedEntry entries name) (selectedEntry out name) := by
  have named := lookup_readAs h name
  unfold selectedEntry
  cases hd : entries.lookup name with
  | some d =>
    rw [hd] at named
    cases ho : out.lookup name with
    | none => rw [ho] at named; cases named
    | some a =>
      rw [ho] at named
      cases named with
      | some readHead => exact .some ⟨rfl, readHead⟩
  | none =>
    rw [hd] at named
    cases ho : out.lookup name with
    | some a => rw [ho] at named; cases named
    | none =>
      cases Engine.ofName? name with
      | none => exact .none
      | some engine =>
        exact leastNamed?_readAs
          (filter_readAs h fun n => decide (Engine.ofName? n = some engine))

end ReadAs

/-! ## A profile in the text of its settings -/

namespace Settings

def fieldNames : List String := ["defaults", "dialects"]

def dialectEntries (doc : Document) : List (String × Document) :=
  ((doc.setting? fieldNames "dialects").bind Document.entries?).getD []

def overrideSection? (doc : Document) (name part : String) : Option Document :=
  ((selectedEntry (dialectEntries doc) name).bind fun e => e.2.setting? sectionNames part).bind
    Document.present?

def defaultsSection? (doc : Document) (part : String) : Option Document :=
  (doc.setting? fieldNames "defaults").bind (Document.setting? sectionNames part)

/-- The field of the section that counts, which is that of the override if it has one. -/
def sectionwise (doc : Document) (name part : String) (names : List String) (field : String) :
    Option Document :=
  ((overrideSection? doc name part).or (defaultsSection? doc part)).bind
    (Document.setting? names field)

/-- Every field of the profile is the one that was set, or the built-in one. -/
structure Resolves (setting : (part : String) → (names : List String) → String → Option Document)
    (p : Profile) : Prop where
  engine : Sets Document.text? "postgres" (setting "query" queryFields "db_type") p.query.engine
  timezone : Sets (Document.optional? Document.text?) none
    (setting "query" queryFields "timezone") p.query.timezone
  maxBuckets : Sets Document.word64? 50000
    (setting "time_series" seriesFields "max_buckets") p.series.maxBuckets
  renewalThreshold : Sets (Document.optional? Document.word64?) none
    (setting "refresh" RefreshSettings.fieldNames "renewal_threshold_secs")
    p.refresh.renewalThreshold
  every : Sets (Document.optional? Document.text?) none
    (setting "refresh" RefreshSettings.fieldNames "every") p.refresh.every

theorem sections_of_ofDocument {doc : Document} {s : Settings} (h : ofDocument? doc = some s) :
    Sets Profile.ofDocument? {} (doc.setting? fieldNames "defaults") s.defaults ∧
      List.Forall₂ (ReadAs Override.ofDocument?) (dialectEntries doc) s.dialects := by
  obtain ⟨fields, record, h⟩ := Option.bind_eq_some_iff.1 h
  obtain ⟨defaults, readDefaults, h⟩ := Option.bind_eq_some_iff.1 h
  obtain ⟨dialects, readDialects, h⟩ := Option.bind_eq_some_iff.1 h
  cases h
  simp only [dialectEntries, Document.setting?, fieldNames, record]
  refine ⟨fieldOr_eq_some_iff.1 readDefaults, ?_⟩
  have sets := fieldOr_eq_some_iff.1 readDialects
  change List.Forall₂ _ (((fields.lookup "dialects").bind Document.entries?).getD []) dialects
  cases found : fields.lookup "dialects" with
  | none =>
    rw [found] at sets
    cases sets
    exact .nil
  | some d =>
    rw [found] at sets
    obtain ⟨entries, record, read⟩ := Option.bind_eq_some_iff.1 sets
    rw [Option.bind_some, record]
    exact forall₂_of_readEntries read

theorem forDialect_sections {doc : Document} {s : Settings} (h : ofDocument? doc = some s)
    (name : String) :
    Sets QuerySettings.ofDocument? {}
        ((overrideSection? doc name "query").or (defaultsSection? doc "query"))
        (s.forDialect name).query ∧
      Sets SeriesSettings.ofDocument? {}
        ((overrideSection? doc name "time_series").or (defaultsSection? doc "time_series"))
        (s.forDialect name).series ∧
      Sets (RefreshSettings.ofDocument? .ignored) {}
        ((overrideSection? doc name "refresh").or (defaultsSection? doc "refresh"))
        (s.forDialect name).refresh := by
  obtain ⟨defaults, dialects⟩ := sections_of_ofDocument h
  have query := sets_bind Profile.query rfl (fun d p hp => (profile_sets hp).1) defaults
  have series := sets_bind Profile.series rfl (fun d p hp => (profile_sets hp).2.1) defaults
  have refresh := sets_bind Profile.refresh rfl (fun d p hp => (profile_sets hp).2.2) defaults
  have selected := selectedEntry_readAs dialects name
  unfold overrideSection? forDialect
  rw [override?_eq]
  cases found : selectedEntry (dialectEntries doc) name with
  | none =>
    rw [found] at selected
    cases found' : selectedEntry s.dialects name with
    | none => exact ⟨query, series, refresh⟩
    | some e' => rw [found'] at selected; cases selected
  | some e =>
    rw [found] at selected
    cases found' : selectedEntry s.dialects name with
    | none => rw [found'] at selected; cases selected
    | some e' =>
      rw [found'] at selected
      cases selected with
      | some same =>
        obtain ⟨ownQuery, ownSeries, ownRefresh⟩ := override_sets same.2
        exact ⟨sets_getD ownQuery query, sets_getD ownSeries series, sets_getD ownRefresh refresh⟩

theorem resolves_sectionwise {doc : Document} {s : Settings} (h : ofDocument? doc = some s)
    (name : String) : Resolves (sectionwise doc name) (s.forDialect name) := by
  obtain ⟨query, series, refresh⟩ := forDialect_sections h name
  refine ⟨?_, ?_, ?_, ?_, ?_⟩
  · exact sets_bind QuerySettings.engine rfl
      (fun d q hq => (querySettings_sets hq).1) query
  · exact sets_bind QuerySettings.timezone rfl
      (fun d q hq => (querySettings_sets hq).2) query
  · exact sets_bind SeriesSettings.maxBuckets rfl
      (fun d q hq => seriesSettings_sets hq) series
  · exact sets_bind RefreshSettings.renewalThreshold rfl
      (fun d q hq => (refreshSettings_sets hq).1) refresh
  · exact sets_bind RefreshSettings.every rfl
      (fun d q hq => (refreshSettings_sets hq).2) refresh

theorem ofText_eq_ok {text : String} {s : Settings} (h : ofText text = .ok s) :
    ∃ doc, Toml.parse? text = some doc ∧ ofDocument? doc = some s := by
  unfold ofText at h
  split at h
  · rename_i settings read
    cases h
    exact Option.bind_eq_some_iff.1 read
  · cases h

end Settings

end QueryDialect
