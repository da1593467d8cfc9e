import QueryDialect.Filter
import QueryDialect.Text.Literal

set_option autoImplicit false

/-!
# Text matches

A text match that ignores letter case is one predicate whose pattern is made from a parameter and
wildcards. Engines write it with an operator that ignores case by itself, or lower both operands.
-/
namespace QueryDialect

inductive TextExpr where
  /-- A column or a parameter, as it was given. -/
  | given (sql : String)
  | quoted (text : String)
  | lower (operand : TextExpr)
  | append (left right : TextExpr)
  | concat (first second third : TextExpr)
  deriving DecidableEq, Repr

def TextExpr.text : TextExpr → String
  | given sql => sql
  | quoted s => Text.literal s
  | lower e => "LOWER(" ++ e.text ++ ")"
  | append l r => l.text ++ " || " ++ r.text
  | concat a b c => "CONCAT(" ++ a.text ++ ", " ++ b.text ++ ", " ++ c.text ++ ")"

/-- That `subject` matches `pattern`, in which a backslash escapes. -/
structure LikePredicate where
  subject : TextExpr
  negate : Bool
  ignoreCase : Bool
  pattern : TextExpr
  deriving DecidableEq, Repr

def LikePredicate.text (p : LikePredicate) : String :=
  p.subject.text ++ (if p.negate then " NOT" else "") ++
    (if p.ignoreCase then " ILIKE " else " LIKE ") ++ p.pattern.text ++ " ESCAPE '\\'"

inductive LikeForm where
  | ignoringOperator
  | loweredOperands
  deriving DecidableEq, Repr

def wildcard : TextExpr := .quoted "%"

/-- The match of `column` with `param`, with wildcards where the type of the match has them. -/
def LikeForm.predicate (form : LikeForm) (column : String) (negate : Bool) (param : String)
    (type : MatchType) : LikePredicate :=
  match form with
  | ignoringOperator =>
    let lead := if type.leadingWildcard then .append wildcard (.given param) else .given param
    { subject := .given column
      negate
      ignoreCase := true
      pattern := if type.trailingWildcard then .append lead wildcard else lead }
  | loweredOperands =>
    let orNothing (present : Bool) := if present then wildcard else .quoted ""
    { subject := .lower (.given column)
      negate
      ignoreCase := false
      pattern := .concat (orNothing type.leadingWildcard) (.lower (.given param))
        (orNothing type.trailingWildcard) }

end QueryDialect
