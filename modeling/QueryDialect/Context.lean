import QueryDialect.Page

set_option autoImplicit false

/-!
# Query context

What a single query brings to every fragment: a time zone, an expression for the current time, and
a page.
-/
namespace QueryDialect

structure Context where
  timezone : Option String := none
  now : String := "NOW()"
  page : Page := {}
  deriving DecidableEq, Repr

/-- The time zone, where a name of blanks only counts as none. -/
def Context.zone (c : Context) : Option String := c.timezone.filter fun z => !Text.isBlankText z

end QueryDialect
