import QueryDialect.Toml.Value

set_option autoImplicit false

/-!
# TOML texts

A text is read line by line into sections: the assignments before the first header, and those of
each header. The sections make one table.
-/
namespace QueryDialect.Toml

/-- A header, from behind its first bracket, with the next line. -/
def header? (cs : List Char) : Option ((Key × Bool) × List Char) := do
  let (repeated, cs) := match cs with
    | '[' :: cs => (true, cs)
    | cs => (false, cs)
  let (key, cs) ← key? cs
  let cs ← mark? ']' cs
  let cs ← if repeated then mark? ']' cs else some cs
  return ((key, repeated), ← lineEnd? cs)

/-- The assignments before the first header, and the sections. Every line has a character, so the
number of characters bounds the number of lines. -/
def sections? : (fuel : Nat) → List Char → Option (List (Key × Document) × List Section)
  | 0, cs => if cs.isEmpty then some ([], []) else none
  | fuel + 1, cs =>
    match lineEnd? cs, skipSpaces cs with
    | some [], _ => some ([], [])
    | some cs, _ => sections? fuel cs
    | none, '[' :: cs => do
      let ((key, repeated), cs) ← header? cs
      let (assignments, sections) ← sections? fuel cs
      return ([], ⟨key, repeated, assignments⟩ :: sections)
    | none, cs => do
      let (assignment, cs) ← assignment? (value? (depthLimit - 1)) cs
      let (assignments, sections) ← sections? fuel (← lineEnd? cs)
      return (assignment :: assignments, sections)

/-- The mark that a text may begin with. -/
def byteOrderMark : Char := '\ufeff'

/-- The table that a text describes. -/
def parse? (s : String) : Option Document := do
  let cs := match s.toList with
    | c :: cs => if c = byteOrderMark then cs else c :: cs
    | [] => []
  let (assignments, sections) ← sections? (cs.length + 1) cs
  let root ← Entries.ofAssignments? [] assignments
  let entries ← sections.foldlM Entries.add? root
  return .object (entryDocuments entries)

end QueryDialect.Toml
