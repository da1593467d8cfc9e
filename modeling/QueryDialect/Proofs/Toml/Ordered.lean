import QueryDialect.Toml.Text
import Mathlib

set_option autoImplicit false

/-!
# Names of TOML tables

In what a TOML text describes no table has a name twice, and its names are in ascending order. This
holds of the tables under construction, and every step of the construction keeps it.
-/
namespace QueryDialect

/-! ## Ordered documents -/

section

variable {α : Type} {fields : List (String × α)} {name : String} {value : α}

def Ascending (fields : List (String × α)) : Prop := fields.Pairwise (·.1 < ·.1)

theorem Ascending.distinct (h : Ascending fields) : (fields.map Prod.fst).Nodup :=
  List.pairwise_map.2 (h.imp ne_of_lt)

theorem mem_insertField {field : String × α}
    (h : field ∈ Document.insertField name value fields) : field = (name, value) ∨ field ∈ fields := by
  induction fields with
  | nil => exact .inl (List.mem_singleton.1 h)
  | cons first rest ih =>
    unfold Document.insertField at h
    split_ifs at h
    · exact List.mem_cons.1 h
    · exact (List.mem_cons.1 h).imp_right (List.mem_cons_of_mem first)
    · rcases List.mem_cons.1 h with rfl | h
      · exact .inr List.mem_cons_self
      · exact (ih h).imp_right (List.mem_cons_of_mem first)

theorem Ascending.insertField (h : Ascending fields) :
    Ascending (Document.insertField name value fields) := by
  induction fields with
  | nil => exact List.pairwise_singleton _ _
  | cons first rest ih =>
    obtain ⟨below, ascending⟩ := List.pairwise_cons.1 h
    unfold Document.insertField
    split_ifs with before same
    · refine List.pairwise_cons.2 ⟨List.forall_mem_cons.2 ⟨before, ?_⟩, h⟩
      exact fun field mem => before.trans (below field mem)
    · subst same
      exact List.pairwise_cons.2 ⟨below, ascending⟩
    · refine List.pairwise_cons.2 ⟨fun field mem => ?_, ih ascending⟩
      rcases mem_insertField mem with rfl | mem
      · exact lt_of_le_of_ne (not_lt.1 before) (Ne.symm same)
      · exact below field mem

end

/-- Every table in the document, at any depth, has its names in ascending order. -/
inductive Document.Ordered : Document → Prop
  | null : Ordered .null
  | bool (value : Bool) : Ordered (.bool value)
  | int (value : Int) : Ordered (.int value)
  | float (value : Float) : Ordered (.float value)
  | string (value : String) : Ordered (.string value)
  | array {items : List Document} (each : ∀ d ∈ items, Ordered d) : Ordered (.array items)
  | object {fields : List (String × Document)} (ascending : Ascending fields)
    (each : ∀ f ∈ fields, Ordered f.2) : Ordered (.object fields)

namespace Toml

inductive Node.Ordered : Node → Prop
  | value {d : Document} (ordered : d.Ordered) : Ordered (.value d)
  | table (origin : Origin) {entries : Entries} (ascending : Ascending entries)
    (each : ∀ e ∈ entries, Ordered e.2) : Ordered (.table origin entries)
  | tables {elements : List Entries} (ascending : ∀ entries ∈ elements, Ascending entries)
    (each : ∀ entries ∈ elements, ∀ e ∈ entries, Ordered e.2) : Ordered (.tables elements)

/-! ## Tables under construction -/

def Entries.Ordered (entries : Entries) : Prop :=
  Ascending entries ∧ ∀ e ∈ entries, e.2.Ordered

variable {entries entries' : Entries} {name : String} {node : Node} {origin made : Origin}

theorem entryDocuments_eq (entries : Entries) :
    entryDocuments entries = entries.map fun e => (e.1, e.2.toDocument) := by
  induction entries with
  | nil => rfl
  | cons e rest ih => rw [entryDocuments, ih, List.map_cons]

theorem elementDocuments_eq (elements : List Entries) :
    elementDocuments elements = elements.map fun entries => .object (entryDocuments entries) := by
  induction elements with
  | nil => rfl
  | cons e rest ih => rw [elementDocuments, ih, List.map_cons]

theorem entryDocuments_ordered (ascending : Ascending entries)
    (each : ∀ e ∈ entries, e.2.toDocument.Ordered) :
    (Document.object (entryDocuments entries)).Ordered := by
  rw [entryDocuments_eq]
  refine .object (List.pairwise_map.2 ascending) fun f hf => ?_
  obtain ⟨e, mem, rfl⟩ := List.mem_map.1 hf
  exact each e mem

theorem Node.Ordered.toDocument (h : node.Ordered) : node.toDocument.Ordered := by
  induction h with
  | value ordered => exact ordered
  | table origin ascending _ ih => exact entryDocuments_ordered ascending ih
  | tables ascending _ ih =>
    rw [Node.toDocument, elementDocuments_eq]
    refine .array fun d hd => ?_
    obtain ⟨entries, mem, rfl⟩ := List.mem_map.1 (List.mem_reverse.1 hd)
    exact entryDocuments_ordered (ascending entries mem) (ih entries mem)

namespace Entries

theorem Ordered.nil : Ordered [] := ⟨List.Pairwise.nil, by simp⟩

theorem Ordered.toDocument (h : entries.Ordered) :
    (Document.object (entryDocuments entries)).Ordered :=
  entryDocuments_ordered h.1 fun e mem => (h.2 e mem).toDocument

theorem Ordered.insertField (h : entries.Ordered) (ordered : node.Ordered) :
    Ordered (Document.insertField name node entries) := by
  refine ⟨h.1.insertField, fun e mem => ?_⟩
  rcases mem_insertField mem with rfl | mem
  · exact ordered
  · exact h.2 e mem

theorem Ordered.lookup (h : entries.Ordered) (found : entries.lookup name = some node) :
    node.Ordered := by
  obtain ⟨before, after, rfl, -⟩ := List.lookup_eq_some_iff.1 found
  exact h.2 (name, node) (by simp)

theorem Ordered.table (h : entries.Ordered) : (Node.table origin entries).Ordered :=
  .table origin h.1 h.2

theorem ordered_of_table (h : (Node.table origin entries).Ordered) : entries.Ordered := by
  cases h with
  | table _ ascending each => exact ⟨ascending, each⟩

theorem ordered_tables_iff {newest : Entries} {older : List Entries} :
    (Node.tables (newest :: older)).Ordered ↔ newest.Ordered ∧ (Node.tables older).Ordered := by
  constructor
  · intro h
    cases h with
    | tables ascending each =>
      obtain ⟨ascending, others⟩ := List.forall_mem_cons.1 ascending
      obtain ⟨each, each'⟩ := List.forall_mem_cons.1 each
      exact ⟨⟨ascending, each⟩, .tables others each'⟩
  · rintro ⟨⟨ascending, each⟩, h⟩
    cases h with
    | tables others each' =>
      exact .tables (List.forall_mem_cons.2 ⟨ascending, others⟩) (List.forall_mem_cons.2 ⟨each, each'⟩)

/-- What a change makes of the node under the next name of its path. -/
def changeNode? (made : Origin) (f : Origin → Entries → Option Entries) (path : List String) :
    Option Node → Option Node
  | none => (change? made f path made []).map (Node.table made)
  | some (.table origin inner) =>
    if made = .dotted ∧ origin = .header then none
    else (change? made f path origin inner).map (Node.table origin)
  | some (.tables (newest :: older)) =>
    (change? made f path .header newest).map fun newest => .tables (newest :: older)
  | some (.tables []) | some (.value _) => none

variable {f : Origin → Entries → Option Entries} {path : List String}

theorem change?_cons : entries.change? made f (name :: path) origin =
    (changeNode? made f path (entries.lookup name)).bind fun node =>
      some (Document.insertField name node entries) := by
  rw [change?.eq_def]
  dsimp only
  match entries.lookup name with
  | none | some (.value _) | some (.tables []) | some (.tables (_ :: _)) => rfl
  | some (.table inside inner) =>
    dsimp only [changeNode?]
    split_ifs <;> rfl

/-- By induction on the path: a change that keeps the order of the table at its end keeps that of
every table on the way. -/
theorem Ordered.change
    (keeps : ∀ origin inner inner', Ordered inner → f origin inner = some inner' → Ordered inner')
    (h : entries.Ordered) (changed : entries.change? made f path origin = some entries') :
    entries'.Ordered := by
  induction path generalizing origin entries entries' with
  | nil => exact keeps origin entries entries' h changed
  | cons name path ih =>
    rw [change?_cons] at changed
    obtain ⟨node, step, result⟩ := Option.bind_eq_some_iff.1 changed
    obtain rfl := Option.some.inj result
    apply h.insertField
    cases found : entries.lookup name with
    | none =>
      rw [found] at step
      obtain ⟨inner, made, rfl⟩ := Option.map_eq_some_iff.1 step
      exact (ih Ordered.nil made).table
    | some old =>
      have ordered := h.lookup found
      rw [found] at step
      match old with
      | .value _ | .tables [] => cases step
      | .table origin inner =>
        dsimp only [changeNode?] at step
        split_ifs at step
        obtain ⟨inner', inside, rfl⟩ := Option.map_eq_some_iff.1 step
        exact (ih (ordered_of_table ordered) inside).table
      | .tables (newest :: older) =>
        obtain ⟨newest', inside, rfl⟩ := Option.map_eq_some_iff.1 step
        obtain ⟨newest, older⟩ := ordered_tables_iff.1 ordered
        exact ordered_tables_iff.2 ⟨ih newest inside, older⟩

theorem Ordered.assign {key : Key} {value : Document} (h : entries.Ordered)
    (ordered : value.Ordered) (assigned : entries.assign? key value = some entries') :
    entries'.Ordered := by
  refine h.change (fun origin inner inner' h assigned => ?_) assigned
  split_ifs at assigned
  obtain rfl := Option.some.inj assigned
  exact h.insertField (.value ordered)

theorem Ordered.ofAssignments {assignments : List (Key × Document)} (h : entries.Ordered)
    (ordered : ∀ a ∈ assignments, a.2.Ordered)
    (assigned : entries.ofAssignments? assignments = some entries') : entries'.Ordered := by
  induction assignments generalizing entries with
  | nil =>
    obtain rfl := Option.some.inj assigned
    exact h
  | cons a rest ih =>
    obtain ⟨first, others⟩ := List.forall_mem_cons.1 ordered
    obtain ⟨next, step, assigned⟩ := Option.bind_eq_some_iff.1 assigned
    exact ih (h.assign first step) others assigned

/-- What a section makes of the node under its name. -/
def sectionNode? (s : Section) (old : Option Node) : Option Node :=
  match s.repeated, old with
  | false, none => (ofAssignments? [] s.assignments).map (Node.table .header)
  | false, some (.table .implied start) =>
    (ofAssignments? start s.assignments).map (Node.table .header)
  | true, none => (ofAssignments? [] s.assignments).map fun e => .tables [e]
  | true, some (.tables elements) =>
    (ofAssignments? [] s.assignments).map fun e => .tables (e :: elements)
  | _, _ => none

theorem add?_eq (s : Section) : entries.add? s = entries.change? .implied (fun _ inner =>
    (sectionNode? s (inner.lookup s.key.name)).bind fun node =>
      some (Document.insertField s.key.name node inner)) s.key.path .header := by
  unfold add?
  congr
  funext origin inner
  unfold sectionNode?
  match s.repeated, inner.lookup s.key.name with
  | false, none | false, some (.value _) | false, some (.tables _) => rfl
  | false, some (.table .header _) | false, some (.table .implied _)
  | false, some (.table .dotted _) => rfl
  | true, none | true, some (.value _) | true, some (.table _ _) | true, some (.tables _) => rfl

theorem Ordered.add {s : Section} (h : entries.Ordered) (ordered : ∀ a ∈ s.assignments, a.2.Ordered)
    (added : entries.add? s = some entries') : entries'.Ordered := by
  rw [add?_eq] at added
  refine h.change (fun _ inner inner' h step => ?_) added
  obtain ⟨node, made, result⟩ := Option.bind_eq_some_iff.1 step
  obtain rfl := Option.some.inj result
  apply h.insertField
  unfold sectionNode? at made
  split at made
  · obtain ⟨entries, assigned, rfl⟩ := Option.map_eq_some_iff.1 made
    exact (Ordered.nil.ofAssignments ordered assigned).table
  · rename_i found
    obtain ⟨entries, assigned, rfl⟩ := Option.map_eq_some_iff.1 made
    exact ((ordered_of_table (h.lookup found)).ofAssignments ordered assigned).table
  · obtain ⟨entries, assigned, rfl⟩ := Option.map_eq_some_iff.1 made
    exact ordered_tables_iff.2
      ⟨Ordered.nil.ofAssignments ordered assigned, .tables (by simp) (by simp)⟩
  · rename_i found
    obtain ⟨entries, assigned, rfl⟩ := Option.map_eq_some_iff.1 made
    exact ordered_tables_iff.2 ⟨Ordered.nil.ofAssignments ordered assigned, h.lookup found⟩
  · cases made

end Entries

/-! ## Values -/

/-- The values that it reads are ordered. -/
def ReadsOrdered (read : List Char → Option (Document × List Char)) : Prop :=
  ∀ cs d rest, read cs = some (d, rest) → d.Ordered

variable {read : List Char → Option (Document × List Char)} {cs rest : List Char}

theorem assignment_ordered (h : ReadsOrdered read) {a : Key × Document}
    (assigned : assignment? read cs = some (a, rest)) : a.2.Ordered := by
  obtain ⟨_, -, assigned⟩ := Option.bind_eq_some_iff.1 assigned
  obtain ⟨_, -, assigned⟩ := Option.bind_eq_some_iff.1 assigned
  obtain ⟨⟨_, _⟩, value, result⟩ := Option.bind_eq_some_iff.1 assigned
  cases result
  exact h _ _ _ value

theorem items_ordered (h : ReadsOrdered read) {fuel : Nat} {items : List Document}
    (parsed : items? read fuel cs = some (items, rest)) : ∀ d ∈ items, d.Ordered := by
  induction fuel generalizing cs items with
  | zero => cases parsed
  | succ fuel ih =>
    unfold items? at parsed
    split at parsed
    · cases parsed
      simp
    · obtain ⟨⟨_, _⟩, item, parsed⟩ := Option.bind_eq_some_iff.1 parsed
      have first := h _ _ _ item
      dsimp only at parsed
      split at parsed
      · cases parsed
        exact List.forall_mem_singleton.2 first
      · obtain ⟨⟨_, _⟩, others, result⟩ := Option.bind_eq_some_iff.1 parsed
        cases result
        exact List.forall_mem_cons.2 ⟨first, ih others⟩
      · cases parsed

theorem inlineAssignments_ordered (h : ReadsOrdered read) {fuel : Nat}
    {assignments : List (Key × Document)}
    (parsed : inlineAssignments? read fuel cs = some (assignments, rest)) :
    ∀ a ∈ assignments, a.2.Ordered := by
  induction fuel generalizing cs assignments with
  | zero => cases parsed
  | succ fuel ih =>
    unfold inlineAssignments? at parsed
    obtain ⟨⟨_, _⟩, item, parsed⟩ := Option.bind_eq_some_iff.1 parsed
    have first := assignment_ordered h item
    dsimp only at parsed
    split at parsed
    · cases parsed
      exact List.forall_mem_singleton.2 first
    · obtain ⟨⟨_, _⟩, others, result⟩ := Option.bind_eq_some_iff.1 parsed
      cases result
      exact List.forall_mem_cons.2 ⟨first, ih others⟩
    · cases parsed

theorem inlineTable_ordered (h : ReadsOrdered read) : ReadsOrdered (inlineTable? read) := by
  intro cs d rest parsed
  unfold inlineTable? at parsed
  split at parsed
  · cases parsed
    exact Entries.Ordered.nil.toDocument
  · obtain ⟨⟨_, _⟩, assignments, parsed⟩ := Option.bind_eq_some_iff.1 parsed
    obtain ⟨entries, assigned, result⟩ := Option.bind_eq_some_iff.1 parsed
    cases result
    exact (Entries.Ordered.nil.ofAssignments (inlineAssignments_ordered h assignments)
      assigned).toDocument

theorem moment_ordered : ReadsOrdered moment? := by
  intro cs d rest parsed
  obtain ⟨_, -, result⟩ := Option.bind_eq_some_iff.1 parsed
  cases result
  exact .object (List.pairwise_singleton _ _) (List.forall_mem_singleton.2 (.string _))

theorem decimalFloat_ordered : ReadsOrdered decimalFloat? := by
  intro cs d rest parsed
  unfold decimalFloat? at parsed
  generalize sign cs = signed at parsed
  obtain ⟨⟨_, _⟩, -, parsed⟩ := Option.bind_eq_some_iff.1 parsed
  dsimp only at parsed
  split at parsed
  · cases parsed
  · split at parsed
    · cases parsed
    · cases parsed
      exact .float _

theorem specialFloat_ordered : ReadsOrdered specialFloat? := by
  intro cs d rest parsed
  unfold specialFloat? at parsed
  generalize sign cs = signed at parsed
  dsimp only at parsed
  split at parsed
  · cases parsed
    exact .float _
  · cases parsed
    exact .float _
  · cases parsed

theorem integer_ordered : ReadsOrdered integer? := by
  intro cs d rest parsed
  have whole (read : Option (Int × List Char)) (h : (read.bind fun r =>
      if Number.FitsInt64 r.1 then some (Document.int r.1, r.2) else none) = some (d, rest)) :
      d.Ordered := by
    obtain ⟨r, -, h⟩ := Option.bind_eq_some_iff.1 h
    split_ifs at h
    cases h
    exact .int r.1
  unfold integer? at parsed
  dsimp only at parsed
  split at parsed
  · exact whole _ parsed
  · exact whole _ parsed
  · exact whole _ parsed
  · exact whole _ parsed

theorem scalar_ordered : ReadsOrdered scalar? := by
  intro cs d rest parsed
  have quoted (h : ((quotedText? cs).map fun r => (Document.string r.1, r.2)) = some (d, rest)) :
      d.Ordered := by
    obtain ⟨r, -, result⟩ := Option.map_eq_some_iff.1 h
    cases result
    exact .string r.1
  unfold scalar? at parsed
  split at parsed
  · exact quoted parsed
  · exact quoted parsed
  · cases parsed
    exact .bool true
  · cases parsed
    exact .bool false
  · simp only [Option.or_eq_some_iff] at parsed
    rcases parsed with parsed | ⟨-, parsed | ⟨-, parsed | ⟨-, parsed⟩⟩⟩
    · exact moment_ordered _ _ _ parsed
    · exact decimalFloat_ordered _ _ _ parsed
    · exact specialFloat_ordered _ _ _ parsed
    · exact integer_ordered _ _ _ parsed

theorem value_ordered (depth : Nat) : ReadsOrdered (value? depth) := by
  induction depth with
  | zero => exact scalar_ordered
  | succ depth ih =>
    intro cs d rest parsed
    unfold value? at parsed
    split at parsed
    · -- The values within an array or an inline table are read with the depth that is left.
      rename_i same
      cases same
      obtain ⟨⟨_, _⟩, items, result⟩ := Option.map_eq_some_iff.1 parsed
      cases result
      exact .array (items_ordered ih items)
    · rename_i same
      cases same
      exact inlineTable_ordered ih _ _ _ parsed
    · exact scalar_ordered _ _ _ parsed

/-! ## Texts -/

theorem sections_ordered {fuel : Nat} {assignments : List (Key × Document)}
    {sections : List Section} (parsed : sections? fuel cs = some (assignments, sections)) :
    (∀ a ∈ assignments, a.2.Ordered) ∧ ∀ s ∈ sections, ∀ a ∈ s.assignments, a.2.Ordered := by
  induction fuel generalizing cs assignments sections with
  | zero =>
    unfold sections? at parsed
    split_ifs at parsed
    cases parsed
    simp
  | succ fuel ih =>
    unfold sections? at parsed
    split at parsed
    · cases parsed
      simp
    · exact ih parsed
    · obtain ⟨⟨⟨_, _⟩, _⟩, -, parsed⟩ := Option.bind_eq_some_iff.1 parsed
      obtain ⟨⟨_, _⟩, others, result⟩ := Option.bind_eq_some_iff.1 parsed
      cases result
      obtain ⟨first, sections⟩ := ih others
      exact ⟨by simp, List.forall_mem_cons.2 ⟨first, sections⟩⟩
    · obtain ⟨⟨_, _⟩, assigned, parsed⟩ := Option.bind_eq_some_iff.1 parsed
      obtain ⟨_, -, parsed⟩ := Option.bind_eq_some_iff.1 parsed
      obtain ⟨⟨_, _⟩, others, result⟩ := Option.bind_eq_some_iff.1 parsed
      cases result
      obtain ⟨assignments, sections⟩ := ih others
      exact ⟨List.forall_mem_cons.2
        ⟨assignment_ordered (value_ordered _) assigned, assignments⟩, sections⟩

theorem Entries.Ordered.addAll {sections : List Section} (h : entries.Ordered)
    (ordered : ∀ s ∈ sections, ∀ a ∈ s.assignments, a.2.Ordered)
    (added : sections.foldlM Entries.add? entries = some entries') : entries'.Ordered := by
  induction sections generalizing entries with
  | nil =>
    cases added
    exact h
  | cons s sections ih =>
    obtain ⟨first, others⟩ := List.forall_mem_cons.1 ordered
    obtain ⟨next, step, added⟩ := Option.bind_eq_some_iff.1 added
    exact ih (h.add first step) others added

theorem parse_ordered {text : String} {d : Document} (parsed : parse? text = some d) :
    d.Ordered := by
  obtain ⟨⟨assignments, sections⟩, read, parsed⟩ := Option.bind_eq_some_iff.1 parsed
  obtain ⟨root, assigned, parsed⟩ := Option.bind_eq_some_iff.1 parsed
  obtain ⟨entries, added, result⟩ := Option.bind_eq_some_iff.1 parsed
  cases result
  obtain ⟨ordered, ordered'⟩ := sections_ordered read
  exact ((Entries.Ordered.nil.ofAssignments ordered assigned).addAll ordered' added).toDocument

end Toml

end QueryDialect
