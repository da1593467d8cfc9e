import QueryDialect.Error
import QueryDialect.Text.Occurs
import Std.Data.ExtTreeMap

set_option autoImplicit false

/-!
# Function templates

A registry holds a template for each function name. An overlay is laid over a registry as a whole:
its entries win, and a single entry without the placeholder for arguments refuses all of it.
-/
namespace QueryDialect

/-- Templates by function name, in the order of names. -/
abbrev Templates := Std.ExtTreeMap String String

namespace Templates

/-- The place where the rendered arguments go. -/
def argsPlaceholder : String := "\x7b\x7b args_concat \x7d\x7d"

def hasPlaceholder (template : String) : Bool :=
  Text.occursIn argsPlaceholder.toList template.toList

/-- The template of a plain call. -/
def call (function : String) : String := function ++ "(" ++ argsPlaceholder ++ ")"

def ofCalls (calls : List (String × String)) : Templates :=
  .ofList (calls.map fun c => (c.1, call c.2))

def baseNames : List String :=
  ["SUM", "MIN", "MAX", "COUNT", "AVG", "STDDEV_POP", "STDDEV_SAMP", "VAR_POP", "VAR_SAMP",
    "COALESCE", "CONCAT", "LOWER", "UPPER", "LEFT", "RIGHT", "TRIM", "NULLIF", "GREATEST",
    "LEAST", "ABS", "CEIL", "FLOOR", "ROUND"]

/-- The registry that every dialect starts from. -/
def base : Templates := ofCalls (baseNames.map fun n => (n, n))

/-- Lays `overlay` over `base`. The first entry in the order of names that lacks the placeholder is
the one reported. -/
def withOverlay (base overlay : Templates) : Except Error Templates :=
  match overlay.toList.find? fun e => !hasPlaceholder e.2 with
  | some (name, template) => .error (.missingPlaceholder name template)
  | none => .ok (base ∪ overlay)

def toDocument (t : Templates) : Document :=
  .ofFields (t.toList.map fun e => (e.1, .string e.2))

def ofDocument? (d : Document) : Option Templates := do
  let entries ← d.entries?
  let entries ← Document.readEntries? Document.text? entries
  return .ofList entries

end Templates

end QueryDialect
