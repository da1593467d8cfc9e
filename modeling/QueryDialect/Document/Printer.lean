import QueryDialect.Document
import QueryDialect.Number.Shortest

set_option autoImplicit false

/-!
# Compact text of a document

The text is JSON without any blank between its tokens.
-/
namespace QueryDialect.Document

/-- The escape of a character inside a quoted text: two characters where a short form exists, four
hexadecimal digits for the other controls, and the character itself otherwise. -/
def escape (c : Char) : List Char :=
  match c with
  | '"' => ['\\', '"']
  | '\\' => ['\\', '\\']
  | '\x08' => ['\\', 'b']
  | '\x0c' => ['\\', 'f']
  | '\n' => ['\\', 'n']
  | '\r' => ['\\', 'r']
  | '\t' => ['\\', 't']
  | c =>
    if c.toNat < 0x20 then
      '\\' :: 'u' :: '0' :: '0' :: [Nat.digitChar (c.toNat / 16), Nat.digitChar (c.toNat % 16)]
    else [c]

def quotedText (s : String) : String :=
  String.ofList ('"' :: (s.toList.flatMap escape ++ ['"']))

mutual

def compact : Document → String
  | .null => "null"
  | .bool b => if b then "true" else "false"
  | .int n => toString n
  | .float x => Number.floatText x
  | .string s => quotedText s
  | .array items => "[" ++ ",".intercalate (compactItems items) ++ "]"
  | .object fields => "\x7b" ++ ",".intercalate (compactFields fields) ++ "\x7d"

def compactItems : List Document → List String
  | [] => []
  | d :: rest => compact d :: compactItems rest

def compactFields : List (String × Document) → List String
  | [] => []
  | (name, d) :: rest => (quotedText name ++ ":" ++ compact d) :: compactFields rest

end

end QueryDialect.Document
