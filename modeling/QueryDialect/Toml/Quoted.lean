import QueryDialect.Toml.Blank

set_option autoImplicit false

/-!
# Quoted texts of TOML

Texts in double quotes know escapes, texts in single quotes do not. Three quotes begin a text of
several lines, in which a line break is a line feed and one directly after the opening is dropped.
Every reader returns the text and what follows its closing quotes; its fuel is the number of
characters that it may still pass.
-/
namespace QueryDialect.Toml

def hexValue? (c : Char) : Option Nat :=
  if c.isDigit then some (c.toNat - '0'.toNat)
  else if 'a' ≤ c ∧ c ≤ 'f' then some (c.toNat - 'a'.toNat + 10)
  else if 'A' ≤ c ∧ c ≤ 'F' then some (c.toNat - 'A'.toNat + 10)
  else none

def hexNumber? (cs : List Char) : Option Nat :=
  cs.foldl (fun n c => do return 16 * (← n) + (← hexValue? c)) (some 0)

/-- The character with a code point of `width` hexadecimal digits; surrogates are no characters. -/
def codePoint? (width : Nat) (cs : List Char) : Option (Char × List Char) := do
  let ds := cs.take width
  if ds.length < width then none
  else
    let n ← hexNumber? ds
    if n.isValidChar then some (Char.ofNat n, cs.drop width) else none

/-- The character that an escape stands for, read from behind its backslash. -/
def escaped? : List Char → Option (Char × List Char)
  | 'b' :: cs => some ('\x08', cs)
  | 't' :: cs => some ('\t', cs)
  | 'n' :: cs => some ('\n', cs)
  | 'f' :: cs => some ('\x0c', cs)
  | 'r' :: cs => some ('\r', cs)
  | '"' :: cs => some ('"', cs)
  | '\\' :: cs => some ('\\', cs)
  | 'u' :: cs => codePoint? 4 cs
  | 'U' :: cs => codePoint? 8 cs
  | _ => none

def prepend (c : Char) (read : Option (List Char × List Char)) : Option (List Char × List Char) :=
  read.map fun (text, rest) => (c :: text, rest)

/-- A text of one line in double quotes, from behind the opening quote. -/
def basicText? : (fuel : Nat) → List Char → Option (List Char × List Char)
  | 0, _ | _, [] => none
  | fuel + 1, c :: cs =>
    if c = '"' then some ([], cs)
    else if c = '\\' then (escaped? cs).bind fun (c, cs) => prepend c (basicText? fuel cs)
    else if isTextChar c then prepend c (basicText? fuel cs)
    else none

def literalText? (cs : List Char) : Option (List Char × List Char) :=
  match cs.span fun c => isTextChar c && c != '\'' with
  | (text, '\'' :: cs) => some (text, cs)
  | _ => none

/-- Three quotes or more close a text of several lines; two of them at most belong to the text. -/
def closingQuotes? (quote : Char) (cs : List Char) : Option (List Char × List Char) :=
  let n := (cs.takeWhile (· == quote)).length
  if n < 3 then none
  else
    let kept := min (n - 3) 2
    some (List.replicate kept quote, cs.drop (kept + 3))

def skipBreaks : List Char → List Char
  | '\n' :: cs | '\r' :: '\n' :: cs => skipBreaks cs
  | c :: cs => if isSpace c then skipBreaks cs else c :: cs
  | [] => []

/-- What follows a backslash at the end of a line: the line break and all blanks behind it. -/
def joinedLine? (cs : List Char) : Option (List Char) :=
  (lineBreak? (skipSpaces cs)).map skipBreaks

/-- A text of several lines, from behind the opening quotes and their line break. Only the one in
double quotes knows escapes. -/
def linesText? (quote : Char) : (fuel : Nat) → List Char → Option (List Char × List Char)
  | 0, _ | _, [] => none
  | fuel + 1, c :: cs =>
    match closingQuotes? quote (c :: cs), lineBreak? (c :: cs) with
    | some closed, _ => some closed
    | none, some cs => prepend '\n' (linesText? quote fuel cs)
    | none, none =>
      if c = '\\' ∧ quote = '"' then
        match joinedLine? cs with
        | some cs => linesText? quote fuel cs
        | none => (escaped? cs).bind fun (c, cs) => prepend c (linesText? quote fuel cs)
      else if isTextChar c then prepend c (linesText? quote fuel cs)
      else none

def quotedText? (cs : List Char) : Option (String × List Char) :=
  let read := match cs with
    | '"' :: '"' :: '"' :: cs => linesText? '"' cs.length ((lineBreak? cs).getD cs)
    | '\'' :: '\'' :: '\'' :: cs => linesText? '\'' cs.length ((lineBreak? cs).getD cs)
    | '"' :: cs => basicText? cs.length cs
    | '\'' :: cs => literalText? cs
    | _ => none
  read.map fun (text, rest) => (String.ofList text, rest)

end QueryDialect.Toml
