import QueryDialect.Dialect.Engine
import QueryDialect.Proofs.Outcome
import QueryDialect.Proofs.Page.Integers

set_option autoImplicit false

/-!
# The clauses of a page

A page reaches a query as two numbers and nothing else, each in plain digits behind its keyword. The
dialects differ in the order of the two clauses alone.
-/
namespace QueryDialect

open Number

/-! ## One clause -/

/-- Nothing where there is no number, and otherwise the keyword and the number in plain digits. -/
inductive IsClause (keyword : String) : Option Nat → String → Prop
  | absent : IsClause keyword none ""
  | present {n : Nat} {digits : String} (pos : 1 ≤ n) (small : n ≤ 2 ^ 63 - 1)
      (plain : Plain digits n) : IsClause keyword (some n) (" " ++ keyword ++ " " ++ digits)

theorem isClause_clause (keyword : String) {number : Option Nat}
    (range : ∀ n, number = some n → 1 ≤ n ∧ (n : Int) ≤ int64Max) :
    IsClause keyword number (Page.clause keyword number) := by
  cases number with
  | none => exact .absent
  | some n =>
    obtain ⟨pos, small⟩ := range n rfl
    simp only [int64Max] at small
    exact .present pos (by omega) (toString_plain pos)

theorem IsClause.chars {keyword text : String} {number : Option Nat}
    (h : IsClause keyword number text) :
    ∀ c ∈ text.toList, c.isDigit = true ∨ c ∈ (" " ++ keyword ++ " ").toList := by
  intro c hc
  cases h with
  | absent => exact absurd hc List.not_mem_nil
  | present _ _ plain =>
    rw [String.toList_append, List.mem_append] at hc
    rcases hc with word | digit
    · exact .inr word
    · exact .inl (plain.digits c digit)

/-! ## Both clauses -/

def PageForm.join (form : PageForm) (limit offset : String) : String :=
  match form with
  | limitFirst => limit ++ offset
  | offsetFirst => offset ++ limit

theorem PageForm.mem_join {form : PageForm} {limit offset : String} {c : Char}
    (hc : c ∈ (form.join limit offset).toList) : c ∈ limit.toList ∨ c ∈ offset.toList := by
  cases form with
  | limitFirst => simpa [join] using hc
  | offsetFirst => simpa [join, or_comm] using hc

namespace Dialect

/-- The clauses follow from the limit and the rows to skip, whatever documents gave these. -/
theorem pageClauses_eq (d : Dialect) (c : Context) : d.pageClauses c =
    c.page.skip.map fun skip => d.page.join c.page.limitClause (Page.clause "OFFSET" skip) := by
  unfold pageClauses PageForm.clauses Page.offsetClause
  cases d.page <;> cases c.page.skip <;> rfl

/-- A page is refused for its offset alone, and is otherwise written as its two numbers. All
dialects write the same two clauses. -/
structure PagesPlainly (c : Context) : Prop where
  refused (d : Dialect) (e : Error) : d.pageClauses c = .error e ↔ c.page.skip = .error e
  kind (d : Dialect) (e : Error) (h : d.pageClauses c = .error e) : e.kind = .page
  written (skip : Option Nat) (h : c.page.skip = .ok skip) :
    ∃ limit offset, IsClause "LIMIT" c.page.limit limit ∧ IsClause "OFFSET" skip offset ∧
      (∀ d : Dialect, d.pageClauses c = .ok (d.page.join limit offset)) ∧
      base.pageClauses c = .ok (limit ++ offset) ∧ presto.pageClauses c = .ok (offset ++ limit)
  chars (d : Dialect) (text : String) (h : d.pageClauses c = .ok text) :
    ∀ ch ∈ text.toList, ch.isDigit = true ∨ ch ∈ " LIMIT OFFSET ".toList
  unlimited : c.page.limit = none ↔ c.page.rowLimit = .unlimited ∨ c.page.rowLimit = .value .null

variable {c : Context}

theorem pageClauses_eq_error (d : Dialect) (e : Error) :
    d.pageClauses c = .error e ↔ c.page.skip = .error e := by
  rw [pageClauses_eq, map_eq_error]

theorem limitClause_isClause (p : Page) : IsClause "LIMIT" p.limit p.limitClause :=
  isClause_clause "LIMIT" fun _ => RowLimit.resolve_range

theorem offsetClause_isClause {p : Page} {skip : Option Nat} (h : p.skip = .ok skip) :
    IsClause "OFFSET" skip (Page.clause "OFFSET" skip) := by
  refine isClause_clause "OFFSET" fun n same => ?_
  subst same
  exact Page.skip_range h

/-- Whatever a limit and an offset hold, what a query gets of them are two plain numbers. -/
theorem pageClauses_plain (c : Context) : PagesPlainly c where
  refused := pageClauses_eq_error
  kind d e h := Page.skip_error_kind ((pageClauses_eq_error d e).1 h)
  written skip h := by
    refine ⟨_, _, limitClause_isClause c.page, offsetClause_isClause h, fun d => ?_, ?_, ?_⟩ <;>
      rw [pageClauses_eq, h] <;> rfl
  chars d text h ch hc := by
    rw [pageClauses_eq] at h
    obtain ⟨skip, skips, rfl⟩ := map_eq_ok.1 h
    have limitWords : ∀ c ∈ (" " ++ "LIMIT" ++ " ").toList, c ∈ " LIMIT OFFSET ".toList := by simp
    have offsetWords : ∀ c ∈ (" " ++ "OFFSET" ++ " ").toList, c ∈ " LIMIT OFFSET ".toList := by simp
    rcases PageForm.mem_join hc with limit | offset
    · exact ((limitClause_isClause c.page).chars ch limit).imp_right (limitWords ch)
    · exact ((offsetClause_isClause skips).chars ch offset).imp_right (offsetWords ch)
  unlimited := RowLimit.resolve_eq_none_iff c.page.rowLimit

example : presto.pageClauses
    { page := { rowLimit := .value (.string "12 rows"), offset := some (.float 7.5) } } =
      .ok " OFFSET 7 LIMIT 12" := by decide +kernel

end Dialect

end QueryDialect
