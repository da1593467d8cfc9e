import QueryDialect.Proofs.Settings.Sections
import QueryDialect.Proofs.Text.ByteOrder
import QueryDialect.Proofs.Text.LetterCase
import QueryDialect.Proofs.Text.Runs
import QueryDialect.Proofs.Toml.Ordered

set_option autoImplicit false

/-!
# The override of a name

A name selects the override under exactly this name, and otherwise, of the overrides under other names
of the same engine, the one whose name is first in the order of bytes. What is selected depends on
which overrides there are, and not on the order in which they are listed.
-/
namespace QueryDialect

/-! ## Names of an engine -/

namespace Engine

/-- One of the names of the engine in any letter case, with blanks around it or none. -/
def Spells (s : String) (e : Engine) : Prop :=
  ∃ before word after : List Char, (∀ c ∈ before, Text.isBlank c = true) ∧
    (∀ c ∈ after, Text.isBlank c = true) ∧ s.toList = before ++ (word ++ after) ∧
    String.ofList (word.map Char.toLower) ∈ e.aliases

theorem aliases_solid {e : Engine} {name : String} (h : name ∈ e.aliases) :
    name.toList ≠ [] ∧ ∀ c ∈ name.toList, Text.isBlank c = false := by
  have solid : ∀ name ∈ e.aliases,
      name.toList ≠ [] ∧ name.toList.all (fun c => !Text.isBlank c) = true := by
    cases e <;> decide
  simpa using solid name h

theorem ofList_map_toLower (cs : List Char) :
    String.ofList (cs.map Char.toLower) = (String.ofList cs).map Char.toLower := by
  apply String.toList_injective
  rw [String.toList_map, String.toList_ofList, String.toList_ofList]

theorem normalName_mem_iff {s : String} {e : Engine} : normalName s ∈ e.aliases ↔ Spells s e := by
  constructor
  · intro h
    obtain ⟨before, after, blank, blank', parts⟩ := Text.trim_parts s.toList
    refine ⟨before, Text.trim s.toList, after, blank, blank', parts, ?_⟩
    rwa [ofList_map_toLower]
  · rintro ⟨before, word, after, blank, blank', parts, named⟩
    obtain ⟨nonempty, solid⟩ := aliases_solid named
    rw [String.toList_ofList] at nonempty solid
    have trimmed : Text.trim s.toList = word := by
      rw [parts]
      apply Text.trim_between blank blank'
      · intro empty
        exact nonempty (by rw [empty]; rfl)
      · intro c hc
        by_contra h
        rw [Bool.not_eq_false] at h
        have lower := solid _ (List.mem_map_of_mem hc)
        rw [Text.toLower_of_not_isAlpha (Text.isAlpha_of_isBlank h), h] at lower
        cases lower
    rwa [normalName, trimmed, ← ofList_map_toLower]

theorem ofName?_eq_some_iff {s : String} {e : Engine} : ofName? s = some e ↔ Spells s e := by
  rw [← normalName_mem_iff, ofName?]
  generalize normalName s = name
  constructor
  · intro h
    simpa using List.find?_some h
  · intro h
    cases e <;> simp only [aliases, List.mem_cons, List.not_mem_nil, or_false] at h
    · rcases h with rfl | rfl | rfl <;> decide
    · rcases h with rfl | rfl <;> decide
    · subst h
      decide

theorem Spells.unique {s : String} {e e' : Engine} (h : Spells s e) (h' : Spells s e') : e = e' := by
  rw [← ofName?_eq_some_iff] at h h'
  exact Option.some.inj (h.symm.trans h')

end Engine

/-! ## Entries with names of their own -/

variable {α : Type} {entries entries' : List (String × α)} {name : String} {entry : String × α}

/-- No two entries have the same name. -/
def DistinctNames (entries : List (String × α)) : Prop := (entries.map Prod.fst).Nodup

theorem lookup_eq_some_iff_mem (distinct : DistinctNames entries) {a : α} :
    entries.lookup name = some a ↔ (name, a) ∈ entries := by
  induction entries with
  | nil => simp
  | cons e entries ih =>
    obtain ⟨n, b⟩ := e
    obtain ⟨new, others⟩ := List.nodup_cons.1 distinct
    by_cases found : name = n
    · subst found
      have absent : (name, a) ∉ entries := fun mem => new (List.mem_map.2 ⟨_, mem, rfl⟩)
      rw [List.lookup_cons_self, List.mem_cons, or_iff_left absent]
      simp [eq_comm]
    · rw [List.lookup_cons, beq_false_of_ne found, List.mem_cons, or_iff_right, ← ih others]
      intro same
      exact found (Prod.mk.inj same).1

theorem leastNamed?_eq_none_iff : leastNamed? entries = none ↔ entries = [] := by
  cases entries with
  | nil => simp [leastNamed?]
  | cons e entries =>
    unfold leastNamed?
    split <;> simp

/-- By induction on the entries: the least of those behind the first stays the least, or gives way to
the first. -/
theorem leastNamed?_least (h : leastNamed? entries = some entry) :
    entry ∈ entries ∧ ∀ other ∈ entries, entry.1 ≤ other.1 := by
  induction entries generalizing entry with
  | nil => cases h
  | cons e entries ih =>
    unfold leastNamed? at h
    cases rest : leastNamed? entries with
    | none =>
      rw [rest] at h
      obtain rfl := Option.some.inj h
      obtain rfl := leastNamed?_eq_none_iff.1 rest
      exact ⟨List.mem_cons_self, by simp⟩
    | some least =>
      rw [rest] at h
      obtain ⟨mem, le⟩ := ih rest
      dsimp only at h
      split_ifs at h with smaller
      · obtain rfl := Option.some.inj h
        exact ⟨List.mem_cons_of_mem _ mem, List.forall_mem_cons.2 ⟨smaller.le, le⟩⟩
      · obtain rfl := Option.some.inj h
        refine ⟨List.mem_cons_self, List.forall_mem_cons.2 ⟨le_refl _, fun other hother => ?_⟩⟩
        exact (not_lt.1 smaller).trans (le other hother)

theorem DistinctNames.eq_of_name (distinct : DistinctNames entries) {other : String × α}
    (mem : entry ∈ entries) (mem' : other ∈ entries) (same : entry.1 = other.1) : entry = other :=
  List.inj_on_of_nodup_map distinct mem mem' same

theorem DistinctNames.filter (distinct : DistinctNames entries) (p : String × α → Bool) :
    DistinctNames (entries.filter p) :=
  List.Nodup.sublist (List.filter_sublist.map Prod.fst) distinct

theorem leastNamed?_eq_some_iff (distinct : DistinctNames entries) : leastNamed? entries = some entry ↔
    entry ∈ entries ∧ ∀ other ∈ entries, entry.1 ≤ other.1 := by
  refine ⟨leastNamed?_least, fun ⟨mem, le⟩ => ?_⟩
  cases h : leastNamed? entries with
  | none =>
    rw [leastNamed?_eq_none_iff.1 h] at mem
    cases mem
  | some least =>
    obtain ⟨mem', le'⟩ := leastNamed?_least h
    rw [distinct.eq_of_name mem' mem (le_antisymm (le' _ mem) (le _ mem'))]

/-! ## The selected entry -/

/-- The name stands for the entry under exactly this name, and without one for the entry whose name is
first, in the order of bytes, of those that spell the same engine. -/
inductive Selects (entries : List (String × α)) (name : String) : String × α → Prop
  | exact {a : α} (mem : (name, a) ∈ entries) : Selects entries name (name, a)
  | least {entry : String × α} {e : Engine} (absent : ∀ a, (name, a) ∉ entries)
    (spelled : Engine.Spells name e) (mem : entry ∈ entries) (same : Engine.Spells entry.1 e)
    (first : ∀ other ∈ entries, Engine.Spells other.1 e →
      Text.bytes entry.1 ≤ Text.bytes other.1) : Selects entries name entry

theorem selectedEntry_eq_some_iff (distinct : DistinctNames entries) :
    selectedEntry entries name = some entry ↔ Selects entries name entry := by
  unfold selectedEntry
  cases found : entries.lookup name with
  | some a =>
    have mem := (lookup_eq_some_iff_mem distinct).1 found
    constructor
    · intro h
      obtain rfl := Option.some.inj h
      exact .exact mem
    · intro h
      cases h with
      | exact mem' => exact congrArg some (distinct.eq_of_name mem mem' rfl)
      | least absent => exact absurd mem (absent a)
  | none =>
    have absent (a : α) : (name, a) ∉ entries := by
      rw [← lookup_eq_some_iff_mem distinct, found]
      exact Option.some_ne_none a ∘ Eq.symm
    constructor
    · intro h
      obtain ⟨e, spelled, h⟩ := Option.bind_eq_some_iff.1 h
      obtain ⟨mem, le⟩ := leastNamed?_least h
      simp only [List.mem_filter, decide_eq_true_eq, Engine.ofName?_eq_some_iff, and_imp] at mem le
      exact .least absent (Engine.ofName?_eq_some_iff.1 spelled) mem.1 mem.2
        fun other hother same => Text.bytes_le_iff.2 (le other hother same)
    · intro h
      cases h with
      | exact mem => exact absurd mem (absent _)
      | @least _ e _ spelled mem same first =>
        refine Option.bind_eq_some_iff.2 ⟨e, Engine.ofName?_eq_some_iff.2 spelled, ?_⟩
        rw [leastNamed?_eq_some_iff (distinct.filter _)]
        simp only [List.mem_filter, decide_eq_true_eq, Engine.ofName?_eq_some_iff, and_imp]
        exact ⟨⟨mem, same⟩, fun other hother same' =>
          Text.bytes_le_iff.1 (first other hother same')⟩

/-- Whether an entry of the name `key` can matter to `name`. -/
def Related (name key : String) : Prop :=
  key = name ∨ ∃ e, Engine.Spells name e ∧ Engine.Spells key e

theorem Selects.related (h : Selects entries name entry) :
    entry ∈ entries ∧ Related name entry.1 := by
  cases h with
  | exact mem => exact ⟨mem, .inl rfl⟩
  | @least _ e _ spelled mem same _ => exact ⟨mem, .inr ⟨e, spelled, same⟩⟩

theorem exists_selects (distinct : DistinctNames entries) (mem : entry ∈ entries)
    (related : Related name entry.1) : ∃ entry, Selects entries name entry := by
  cases h : selectedEntry entries name with
  | some selected => exact ⟨selected, (selectedEntry_eq_some_iff distinct).1 h⟩
  | none =>
    exfalso
    unfold selectedEntry at h
    cases found : entries.lookup name with
    | some a =>
      rw [found] at h
      cases h
    | none =>
      rw [found] at h
      rcases related with rfl | ⟨e, spelled, same⟩
      · cases found.symm.trans ((lookup_eq_some_iff_mem distinct).2 mem)
      · dsimp only at h
        rw [Engine.ofName?_eq_some_iff.2 spelled] at h
        have unlike := List.filter_eq_nil_iff.1 (leastNamed?_eq_none_iff.1 h) entry mem
        rw [decide_eq_true_eq, Engine.ofName?_eq_some_iff] at unlike
        exact unlike same

/-- Entries that cannot matter do not. -/
theorem Selects.of_agree
    (agree : ∀ entry, Related name entry.1 → (entry ∈ entries ↔ entry ∈ entries'))
    (h : Selects entries name entry) : Selects entries' name entry := by
  cases h with
  | exact mem => exact .exact ((agree _ (.inl rfl)).1 mem)
  | least absent spelled mem same first =>
    refine .least (fun a mem' => absent a ((agree _ (.inl rfl)).2 mem')) spelled
      ((agree _ (.inr ⟨_, spelled, same⟩)).1 mem) same fun other mem' same' => ?_
    exact first other ((agree _ (.inr ⟨_, spelled, same'⟩)).2 mem') same'

theorem selectedEntry_agree (distinct : DistinctNames entries) (distinct' : DistinctNames entries')
    (agree : ∀ entry, Related name entry.1 → (entry ∈ entries ↔ entry ∈ entries')) :
    selectedEntry entries name = selectedEntry entries' name := by
  apply Option.ext
  intro entry
  rw [selectedEntry_eq_some_iff distinct, selectedEntry_eq_some_iff distinct']
  exact ⟨Selects.of_agree agree, Selects.of_agree fun entry h => (agree entry h).symm⟩

/-- Apart from an entry of its own, a name counts as the engine that it spells. -/
theorem Selects.of_alike {name' : String} {e : Engine} (spelled : Engine.Spells name e)
    (spelled' : Engine.Spells name' e) (absent : ∀ a, (name, a) ∉ entries)
    (absent' : ∀ a, (name', a) ∉ entries) (h : Selects entries name entry) :
    Selects entries name' entry := by
  cases h with
  | exact mem => exact absurd mem (absent _)
  | least _ spelled'' mem same first =>
    obtain rfl := spelled.unique spelled''
    exact .least absent' spelled' mem same first

theorem selectedEntry_alike {name' : String} {e : Engine} (distinct : DistinctNames entries)
    (spelled : Engine.Spells name e) (spelled' : Engine.Spells name' e)
    (absent : ∀ a, (name, a) ∉ entries) (absent' : ∀ a, (name', a) ∉ entries) :
    selectedEntry entries name = selectedEntry entries name' := by
  apply Option.ext
  intro entry
  rw [selectedEntry_eq_some_iff distinct, selectedEntry_eq_some_iff distinct]
  exact ⟨Selects.of_alike spelled spelled' absent absent',
    Selects.of_alike spelled' spelled absent' absent⟩

/-! ## The profile of a name -/

/-- A section counts where there is one, and otherwise the section that stands in for it. -/
inductive Counts {σ : Type} (standIn : σ) : Option σ → σ → Prop
  | own (a : σ) : Counts standIn (some a) a
  | standIn : Counts standIn none standIn

theorem counts_iff {σ : Type} {standIn value : σ} {own : Option σ} :
    Counts standIn own value ↔ own.getD standIn = value := by
  constructor
  · rintro (_ | _) <;> rfl
  · rintro rfl
    cases own with
    | none => exact .standIn
    | some a => exact .own a

namespace Settings

/-- The override is the one selected for the name. Its sections are those of the profile, and what it
does not have is as in the defaults. -/
structure Uses (s : Settings) (name : String) (o : Override) : Prop where
  selected : s.override? name = some o
  query : Counts s.defaults.query o.query (s.forDialect name).query
  series : Counts s.defaults.series o.series (s.forDialect name).series
  refresh : Counts s.defaults.refresh o.refresh (s.forDialect name).refresh

/-- One override at most counts for a name, whatever the order in which they are listed. -/
structure SelectsOne (s : Settings) : Prop where
  exact (name : String) (o : Override) (mem : (name, o) ∈ s.dialects) : s.Uses name o
  least (name : String) (e : Engine) (absent : ∀ o, (name, o) ∉ s.dialects)
    (spelled : Engine.Spells name e) (listed : ∃ entry ∈ s.dialects, Engine.Spells entry.1 e) :
    ∃ entry ∈ s.dialects, Engine.Spells entry.1 e ∧
      (∀ other ∈ s.dialects, Engine.Spells other.1 e →
        Text.bytes entry.1 ≤ Text.bytes other.1) ∧
      s.Uses name entry.2
  unused (name : String) (absent : ∀ o, (name, o) ∉ s.dialects)
    (other : ∀ e, Engine.Spells name e → ∀ entry ∈ s.dialects, ¬ Engine.Spells entry.1 e) :
    s.override? name = none ∧ s.forDialect name = s.defaults
  unordered (dialects : List (String × Override)) (order : dialects.Perm s.dialects)
    (name : String) : forDialect { s with dialects } name = s.forDialect name
  /-- Overrides of other engines, and those under names of no engine, count for no other name. -/
  unrelated (dialects : List (String × Override)) (distinct : DistinctNames dialects) (name : String)
    (same : ∀ entry, Related name entry.1 → (entry ∈ dialects ↔ entry ∈ s.dialects)) :
    forDialect { s with dialects } name = s.forDialect name
  only (e : Engine) (entry : String × Override) (mem : entry ∈ s.dialects)
    (spelled : Engine.Spells entry.1 e)
    (only : ∀ other ∈ s.dialects, Engine.Spells other.1 e → other = entry) (name : String)
    (spelled' : Engine.Spells name e) : s.Uses name entry.2
  alike (e : Engine) (name name' : String) (spelled : Engine.Spells name e)
    (spelled' : Engine.Spells name' e) (absent : ∀ o, (name, o) ∉ s.dialects)
    (absent' : ∀ o, (name', o) ∉ s.dialects) :
    s.override? name = s.override? name' ∧ s.forDialect name = s.forDialect name'

variable {s : Settings} {name : String}

theorem uses_of_override? {o : Override} (h : s.override? name = some o) : s.Uses name o := by
  have profile : s.forDialect name = s.defaults.overriddenBy o := by
    rw [forDialect, h]
  refine ⟨h, ?_, ?_, ?_⟩ <;> rw [profile] <;> exact counts_iff.2 rfl

theorem uses_of_selects (distinct : DistinctNames s.dialects) {entry : String × Override}
    (h : Selects s.dialects name entry) : s.Uses name entry.2 := by
  apply uses_of_override?
  rw [override?_eq, (selectedEntry_eq_some_iff distinct).2 h]
  rfl

theorem forDialect_agree (distinct : DistinctNames s.dialects) {dialects : List (String × Override)}
    (distinct' : DistinctNames dialects)
    (agree : ∀ entry, Related name entry.1 → (entry ∈ dialects ↔ entry ∈ s.dialects)) :
    forDialect { s with dialects } name = s.forDialect name := by
  rw [forDialect, forDialect, override?_eq, override?_eq, selectedEntry_agree distinct' distinct agree]

theorem selectsOne (distinct : DistinctNames s.dialects) : s.SelectsOne where
  exact name o mem := uses_of_selects distinct (.exact mem)
  least name e absent spelled listed := by
    obtain ⟨entry, mem, same⟩ := listed
    obtain ⟨first, selects⟩ := exists_selects distinct mem (.inr ⟨e, spelled, same⟩)
    -- The name is not that of an entry, so the entry is selected as the first of its engine.
    have uses := uses_of_selects distinct selects
    cases selects with
    | exact mem => exact absurd mem (absent _)
    | least _ spelled' mem same first =>
      obtain rfl := spelled.unique spelled'
      exact ⟨_, mem, same, first, uses⟩
  unused name absent other := by
    rw [forDialect, override?_eq]
    cases h : selectedEntry s.dialects name with
    | none => exact ⟨rfl, rfl⟩
    | some entry =>
      cases (selectedEntry_eq_some_iff distinct).1 h with
      | exact mem => exact absurd mem (absent _)
      | least _ spelled mem same => exact absurd same (other _ spelled entry mem)
  unordered dialects order name :=
    forDialect_agree distinct ((order.map Prod.fst).nodup_iff.2 distinct) fun _ _ => order.mem_iff
  unrelated dialects distinct' name same := forDialect_agree distinct distinct' same
  only e entry mem spelled only name spelled' := by
    obtain ⟨selected, selects⟩ := exists_selects distinct mem (.inr ⟨e, spelled', spelled⟩)
    obtain ⟨mem', related⟩ := selects.related
    have same : Engine.Spells selected.1 e := by
      rcases related with rfl | ⟨e', spelled'', same⟩
      · exact spelled'
      · rwa [spelled'.unique spelled'']
    exact only selected mem' same ▸ uses_of_selects distinct selects
  alike e name name' spelled spelled' absent absent' := by
    rw [forDialect, forDialect, override?_eq, override?_eq,
      selectedEntry_alike distinct spelled spelled' absent absent']
    exact ⟨rfl, rfl⟩

/-! ## Settings of a text -/

theorem names_readAs {σ : Type} {read : Document → Option σ} {entries : List (String × Document)}
    {out : List (String × σ)} (h : List.Forall₂ (ReadAs read) entries out) :
    entries.map Prod.fst = out.map Prod.fst := by
  induction h with
  | nil => rfl
  | cons same _ ih => rw [List.map_cons, List.map_cons, same.1, ih]

theorem setting_ordered {doc d : Document} {names : List String} {field : String}
    (ordered : doc.Ordered) (h : doc.setting? names field = some d) : d.Ordered := by
  obtain ⟨fields, record, found⟩ := Option.bind_eq_some_iff.1 h
  obtain ⟨before, after, rfl, -⟩ := List.lookup_eq_some_iff.1 found
  have mem : (field, d) ∈ before ++ (field, d) :: after := by simp
  cases ordered with
  | object _ each =>
    obtain rfl := Option.some.inj record
    exact each _ mem
  | array each =>
    dsimp only [Document.record?] at record
    split_ifs at record
    rw [← Option.some.inj record] at mem
    exact each d (List.of_mem_zip mem).2
  | _ => cases record

theorem dialectEntries_ascending {doc : Document} (ordered : doc.Ordered) :
    Ascending (dialectEntries doc) := by
  unfold dialectEntries
  cases found : doc.setting? fieldNames "dialects" with
  | none => exact List.Pairwise.nil
  | some d =>
    cases setting_ordered ordered found with
    | object ascending _ => exact ascending
    | _ => exact List.Pairwise.nil

theorem ofText_distinct {text : String} (h : ofText text = .ok s) : DistinctNames s.dialects := by
  obtain ⟨doc, parsed, read⟩ := ofText_eq_ok h
  unfold DistinctNames
  rw [← names_readAs (sections_of_ofDocument read).2]
  exact (dialectEntries_ascending (Toml.parse_ordered parsed)).distinct

/-- Settings, of which those of a text have no name twice, select one override at most. -/
theorem forDialect_selects :
    (∀ text s, ofText text = .ok s → DistinctNames s.dialects) ∧
      ∀ s : Settings, DistinctNames s.dialects → s.SelectsOne :=
  ⟨fun _ _ => ofText_distinct, fun _ => selectsOne⟩

/-- The exact name is that of the later override, and every other spelling goes by the padded name,
which a blank puts first. -/
theorem forDialect_selects_padded :
    let text := "[defaults.time_series]\nmax_buckets = 5\n[dialects.presto.time_series]\n" ++
      "max_buckets = 10\n[dialects.\" TRINO\".time_series]\nmax_buckets = 20\n[dialects.mssql]\n"
    let presto : Override := { series := some ⟨10⟩ }
    let padded : Override := { series := some ⟨20⟩ }
    let s : Settings := ⟨{ series := ⟨5⟩ }, [(" TRINO", padded), ("mssql", {}), ("presto", presto)]⟩
    ofText text = .ok s ∧ s.SelectsOne ∧ s.Uses "presto" presto ∧ s.Uses "Presto\t" padded ∧
      (s.forDialect "presto").series = ⟨10⟩ ∧ (s.forDialect "Presto\t").series = ⟨20⟩ ∧
      (s.forDialect "duckdb").series = ⟨5⟩ := by
  intro text presto padded s
  have read : ofText text = .ok s := by decide +kernel
  have selects : s.SelectsOne := forDialect_selects.2 s (forDialect_selects.1 text s read)
  have exact : s.Uses "presto" presto := selects.exact "presto" presto (by simp [s])
  have spells {name : String} {e : Engine} (h : Engine.ofName? name = some e) :
      Engine.Spells name e := Engine.ofName?_eq_some_iff.1 h
  obtain ⟨entry, mem, same, first, least⟩ := selects.least "Presto\t" .presto (by simp [s])
    (spells (by decide +kernel)) ⟨_, List.mem_cons_self, spells (by decide +kernel)⟩
  -- Of the two names of this engine, the exact one does not come first.
  obtain rfl : entry = (" TRINO", padded) := by
    have before := first _ List.mem_cons_self (spells (by decide +kernel))
    simp only [s, List.mem_cons, List.not_mem_nil, or_false] at mem
    rcases mem with rfl | rfl | rfl
    · rfl
    · exact absurd (Engine.ofName?_eq_some_iff.2 same) (by decide +kernel)
    · exact absurd before (by decide +kernel)
  obtain ⟨-, unused⟩ := selects.unused "duckdb" (by simp [s]) fun e spelled other mem same => by
    obtain rfl := spelled.unique (spells (by decide +kernel : Engine.ofName? "duckdb" = some .duckDb))
    have others : ∀ other ∈ s.dialects, Engine.ofName? other.1 ≠ some .duckDb := by decide +kernel
    exact others other mem (Engine.ofName?_eq_some_iff.2 same)
  exact ⟨read, selects, exact, least, (counts_iff.1 exact.series).symm,
    (counts_iff.1 least.series).symm, by rw [unused]⟩

end Settings

end QueryDialect
