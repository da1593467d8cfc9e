set_option autoImplicit false

/-!
# SQL string literals

A literal stands between single quotes, and a quote inside it is written twice.
-/
namespace QueryDialect.Text

/-- Every single quote is written twice and all else once. -/
def doubleQuotes : List Char → List Char
  | [] => []
  | c :: cs => if c = '\'' then '\'' :: '\'' :: doubleQuotes cs else c :: doubleQuotes cs

/-- The characters of a literal that denotes `cs`. -/
def literalChars (cs : List Char) : List Char := '\'' :: (doubleQuotes cs ++ ['\''])

def literal (s : String) : String := String.ofList (literalChars s.toList)

theorem doubleQuotes_append (cs ds : List Char) :
    doubleQuotes (cs ++ ds) = doubleQuotes cs ++ doubleQuotes ds := by
  induction cs with
  | nil => rfl
  | cons c cs ih => by_cases h : c = '\'' <;> simp [doubleQuotes, h, ih]

end QueryDialect.Text
