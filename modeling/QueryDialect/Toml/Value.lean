import QueryDialect.Toml.Scalar
import QueryDialect.Toml.Table

set_option autoImplicit false

/-!
# Values of TOML

Scalars, arrays and inline tables. Arrays and inline tables may lie in each other up to a fixed
depth, on which the reader recurs; within one of them its fuel is the number of characters left.
-/
namespace QueryDialect.Toml

/-- Names in a key, and values within values, are fewer than this. -/
def depthLimit : Nat := 80

def isBareKeyChar (c : Char) : Bool := c.isAlphanum || c == '-' || c == '_'

def keyName? (cs : List Char) : Option (String × List Char) :=
  match cs with
  | '"' :: cs => (basicText? cs.length cs).map fun (text, rest) => (String.ofList text, rest)
  | '\'' :: cs => (literalText? cs).map fun (text, rest) => (String.ofList text, rest)
  | cs =>
    let (name, rest) := cs.span isBareKeyChar
    if name.isEmpty then none else some (String.ofList name, rest)

/-- Names parted by points, with the spaces around each of them. -/
def keyNames? : (fuel : Nat) → List Char → Option (List String × List Char)
  | 0, _ => none
  | fuel + 1, cs => do
    let (name, cs) ← keyName? (skipSpaces cs)
    match skipSpaces cs with
    | '.' :: cs => (keyNames? fuel cs).map fun (names, cs) => (name :: names, cs)
    | cs => return ([name], cs)

def key? (cs : List Char) : Option (Key × List Char) := do
  let (names, rest) ← keyNames? depthLimit cs
  let name ← names.getLast?
  if names.length < depthLimit then some (⟨names.dropLast, name⟩, rest) else none

/-- A key with its value, from the spaces before the key to those behind the value. -/
def assignment? (value? : List Char → Option (Document × List Char)) (cs : List Char) :
    Option ((Key × Document) × List Char) := do
  let (key, cs) ← key? cs
  let cs ← mark? '=' cs
  let (value, cs) ← value? (skipSpaces cs)
  return ((key, value), skipSpaces cs)

/-- The items of an array, from the first of those left to behind the closing bracket. Items may
stand on several lines, and a comma may follow the last. -/
def items? (value? : List Char → Option (Document × List Char)) :
    (fuel : Nat) → List Char → Option (List Document × List Char)
  | 0, _ => none
  | fuel + 1, cs =>
    match cs with
    | ']' :: cs => some ([], cs)
    | cs => do
      let (item, cs) ← value? cs
      match skipLines cs with
      | ']' :: cs => return ([item], cs)
      | ',' :: cs =>
        let (items, cs) ← items? value? fuel (skipLines cs)
        return (item :: items, cs)
      | _ => none

/-- The assignments of an inline table, of which there is one at least, from the first of those
left to behind the closing brace. -/
def inlineAssignments? (value? : List Char → Option (Document × List Char)) :
    (fuel : Nat) → List Char → Option (List (Key × Document) × List Char)
  | 0, _ => none
  | fuel + 1, cs => do
    let (first, cs) ← assignment? value? cs
    match cs with
    | '}' :: cs => return ([first], cs)
    | ',' :: cs =>
      let (rest, cs) ← inlineAssignments? value? fuel cs
      return (first :: rest, cs)
    | _ => none

def inlineTable? (value? : List Char → Option (Document × List Char)) (cs : List Char) :
    Option (Document × List Char) :=
  match skipSpaces cs with
  | '}' :: cs => some (.object [], cs)
  | cs => do
    let (assignments, rest) ← inlineAssignments? value? cs.length cs
    let entries ← Entries.ofAssignments? [] assignments
    return (.object (entryDocuments entries), rest)

/-- A value in which at most `depth` arrays and inline tables lie in each other. -/
def value? : (depth : Nat) → List Char → Option (Document × List Char)
  | depth + 1, '[' :: cs =>
    (items? (fun cs => value? depth cs) cs.length (skipLines cs)).map fun (items, rest) =>
      (.array items, rest)
  | depth + 1, '{' :: cs => inlineTable? (fun cs => value? depth cs) cs
  | _, cs => scalar? cs

end QueryDialect.Toml
