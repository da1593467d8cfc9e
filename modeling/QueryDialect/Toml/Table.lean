import QueryDialect.Document

set_option autoImplicit false

/-!
# Tables under construction

While a TOML text is read, each table remembers how it came to be, because that decides what may
still be added to it. A table with a header is complete once its section ends, but a header may
still claim a table that was only implied by a longer one. A table made by a dotted key grows by
dotted keys only. A value is closed, even if it is an inline table.
-/
namespace QueryDialect.Toml

inductive Origin where
  /-- The whole text, a header, or an element of an array of tables. -/
  | header
  /-- A name on the way to the table of a header. -/
  | implied
  /-- A name on the way to the value of a dotted key. -/
  | dotted
  deriving DecidableEq, Repr

inductive Node where
  | value (document : Document)
  | table (origin : Origin) (entries : List (String × Node))
  /-- An array of tables, the newest element first. -/
  | tables (elements : List (List (String × Node)))

abbrev Entries := List (String × Node)

mutual

def Node.toDocument : Node → Document
  | .value d => d
  | .table _ entries => .object (entryDocuments entries)
  | .tables elements => .array (elementDocuments elements).reverse

def entryDocuments : List (String × Node) → List (String × Document)
  | [] => []
  | (name, node) :: rest => (name, node.toDocument) :: entryDocuments rest

def elementDocuments : List (List (String × Node)) → List Document
  | [] => []
  | entries :: rest => .object (entryDocuments entries) :: elementDocuments rest

end

structure Key where
  path : List String
  name : String
  deriving DecidableEq, Repr

/-- Changes the entries of the table that `path` leads to, and makes the tables that are missing on
the way. An array of tables stands for its newest element. The path of a dotted key does not lead
through a table that has a header. -/
def Entries.change? (made : Origin) (f : Origin → Entries → Option Entries) :
    (path : List String) → (origin : Origin) → Entries → Option Entries
  | [], origin, entries => f origin entries
  | name :: path, _, entries => do
    let node ← match entries.lookup name with
      | none => (change? made f path made []).map (Node.table made)
      | some (.table origin inner) =>
        if made = .dotted ∧ origin = .header then none
        else (change? made f path origin inner).map (Node.table origin)
      | some (.tables (newest :: older)) =>
        (change? made f path .header newest).map fun newest => .tables (newest :: older)
      | some (.tables []) | some (.value _) => none
    return Document.insertField name node entries

/-- Gives a key its value. No key has two values, and a dotted key adds only to tables that dotted
keys made. -/
def Entries.assign? (entries : Entries) (key : Key) (value : Document) : Option Entries :=
  entries.change? .dotted (fun origin inner =>
    if (key.path = [] ∨ origin = .dotted) ∧ (inner.lookup key.name).isNone then
      some (Document.insertField key.name (.value value) inner)
    else none) key.path .header

def Entries.ofAssignments? (start : Entries) : List (Key × Document) → Option Entries
  | [] => some start
  | (key, value) :: rest =>
    (start.assign? key value).bind fun entries => ofAssignments? entries rest

structure Section where
  key : Key
  repeated : Bool
  assignments : List (Key × Document)

/-- Adds a section: a new element of an array of tables if the header is a repeated one, and
otherwise a table, which is new or was only implied so far. -/
def Entries.add? (entries : Entries) (s : Section) : Option Entries :=
  entries.change? .implied (fun _ inner => do
    let node ← match s.repeated, inner.lookup s.key.name with
      | false, none => (Entries.ofAssignments? [] s.assignments).map (Node.table .header)
      | false, some (.table .implied start) =>
        (Entries.ofAssignments? start s.assignments).map (Node.table .header)
      | true, none => (Entries.ofAssignments? [] s.assignments).map fun e => .tables [e]
      | true, some (.tables elements) =>
        (Entries.ofAssignments? [] s.assignments).map fun e => .tables (e :: elements)
      | _, _ => none
    return Document.insertField s.key.name node inner) s.key.path .header

end QueryDialect.Toml
