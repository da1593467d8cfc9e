set_option autoImplicit false

/-!
# Blanks, comments and line ends of TOML

A line ends with a line feed, or with a carriage return and a line feed. A comment runs from `#` to
the end of its line.
-/
namespace QueryDialect.Toml

/-- Tab, and every character but the controls. -/
def isTextChar (c : Char) : Bool := c == '\t' || (0x20 ≤ c.toNat && c.toNat != 0x7F)

def isSpace (c : Char) : Bool := c == ' ' || c == '\t'

def skipSpaces (cs : List Char) : List Char := cs.dropWhile isSpace

def lineBreak? : List Char → Option (List Char)
  | '\n' :: cs | '\r' :: '\n' :: cs => some cs
  | _ => none

/-- What follows the spaces, comments and line breaks at the front, where the text may begin inside
a comment. -/
def skipLinesFrom (inComment : Bool) : List Char → List Char
  | [] => []
  | '\n' :: cs => skipLinesFrom false cs
  | '\r' :: '\n' :: cs => skipLinesFrom false cs
  | c :: cs =>
    if inComment then if isTextChar c then skipLinesFrom true cs else c :: cs
    else if isSpace c then skipLinesFrom false cs
    else if c = '#' then skipLinesFrom true cs
    else c :: cs

def skipLines (cs : List Char) : List Char := skipLinesFrom false cs

/-- The next line, when nothing but spaces and a comment is left of this one. -/
def lineEnd? (cs : List Char) : Option (List Char) :=
  let rest := match skipSpaces cs with
    | '#' :: rest => rest.dropWhile isTextChar
    | rest => rest
  if rest.isEmpty then some [] else lineBreak? rest

end QueryDialect.Toml
