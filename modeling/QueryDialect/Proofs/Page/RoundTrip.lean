import QueryDialect.Proofs.Dialect.PageClauses

set_option autoImplicit false

/-!
# Pages written and read back

Written as a document, an unset limit is left out, and an explicit null looks like an unlimited
query or like an absent offset. It is read back as these, and means the same.
-/
namespace QueryDialect

/-! ## Explicit nulls -/

/-- A null is taken for the absence that it is written like. -/
def Document.nonNull? : Document → Option Document
  | .null => none
  | d => some d

theorem Document.optional?_some (d : Document) : d.optional? some = some d.nonNull? := by
  cases d <;> rfl

def RowLimit.withoutNull : RowLimit → RowLimit
  | value .null => unlimited
  | l => l

def Page.withoutNulls (p : Page) : Page where
  rowLimit := p.rowLimit.withoutNull
  offset := p.offset.bind Document.nonNull?

namespace RowLimit

variable (l : RowLimit)

theorem ofDocument_toDocument (set : l ≠ unset) : ofDocument l.toDocument = l.withoutNull := by
  cases l with
  | unset => exact absurd rfl set
  | unlimited => rfl
  | value d => cases d <;> rfl

theorem resolve_withoutNull : l.withoutNull.resolve = l.resolve := by
  cases l with
  | unset | unlimited => rfl
  | value d => cases d <;> rfl

theorem withoutNull_eq_iff : l.withoutNull = l ↔ l ≠ value .null := by
  cases l with
  | unset | unlimited => simp [withoutNull]
  | value d => cases d <;> simp [withoutNull]

theorem withoutNull_ne_null : l.withoutNull ≠ value .null := by
  cases l with
  | unset | unlimited => exact RowLimit.noConfusion
  | value d => cases d <;> simp [withoutNull]

end RowLimit

namespace Page

variable (p : Page)

theorem limit_withoutNulls : p.withoutNulls.limit = p.limit := p.rowLimit.resolve_withoutNull

theorem skip_withoutNulls : p.withoutNulls.skip = p.skip := by
  unfold skip withoutNulls
  cases p.offset with
  | none => rfl
  | some d => cases d <;> rfl

theorem withoutNulls_eq_iff :
    p.withoutNulls = p ↔ p.rowLimit ≠ .value .null ∧ p.offset ≠ some .null := by
  have offset : p.offset.bind Document.nonNull? = p.offset ↔ p.offset ≠ some .null := by
    cases p.offset with
    | none => simp
    | some d => cases d <;> simp [Document.nonNull?]
  rw [← offset, ← p.rowLimit.withoutNull_eq_iff]
  constructor
  · intro same
    exact ⟨congrArg rowLimit same, congrArg Page.offset same⟩
  · rintro ⟨limit, offset⟩
    rw [withoutNulls, limit, offset]

/-! ## Reading back -/

theorem toDocument_unset (h : p.rowLimit = .unset) :
    p.toDocument = .object [("offset", .ofOption id p.offset)] := by
  unfold toDocument
  rw [h]
  rfl

theorem toDocument_set (h : p.rowLimit ≠ .unset) : p.toDocument =
    .object [("offset", .ofOption id p.offset), ("row_limit", p.rowLimit.toDocument)] := by
  have order : ¬ "row_limit" < "offset" := by decide
  have fields (d d' : Document) : Document.ofFields [("offset", d), ("row_limit", d')] =
      .object [("offset", d), ("row_limit", d')] := by
    simp [Document.ofFields, Document.sortFields, Document.insertField, order]
  rw [← fields]
  unfold toDocument
  cases limit : p.rowLimit with
  | unset => exact absurd limit h
  | unlimited | value => rfl

theorem ofDocument?_unset (offset : Document) :
    ofDocument? (.object [("offset", offset)]) = some { offset := offset.nonNull? } := by
  simp [ofDocument?, Document.record?, Document.fieldOr, List.lookup, Document.optional?_some]

theorem ofDocument?_set (offset limit : Document) :
    ofDocument? (.object [("offset", offset), ("row_limit", limit)]) =
      some { rowLimit := .ofDocument limit, offset := offset.nonNull? } := by
  simp [ofDocument?, Document.record?, Document.fieldOr, List.lookup, Document.optional?_some]

/-- Every page can be read back, and its explicit nulls are all that is lost. -/
theorem ofDocument?_toDocument : ofDocument? p.toDocument = some p.withoutNulls := by
  have offset : (Document.ofOption id p.offset).nonNull? = p.offset.bind Document.nonNull? := by
    cases p.offset <;> rfl
  by_cases unset : p.rowLimit = .unset
  · rw [p.toDocument_unset unset, ofDocument?_unset, offset, withoutNulls, unset]
    rfl
  · rw [p.toDocument_set unset, ofDocument?_set, offset, withoutNulls,
      p.rowLimit.ofDocument_toDocument unset]

/-- The page `q` means what `p` does, and is a page that is read back as it was. -/
structure Restores (p q : Page) : Prop where
  limit : q.limit = p.limit
  skip : q.skip = p.skip
  limitClause : q.limitClause = p.limitClause
  offsetClause : q.offsetClause = p.offsetClause
  clauses (d : Dialect) (c : Context) :
    d.pageClauses { c with page := q } = d.pageClauses { c with page := p }
  same_iff : q = p ↔ p.rowLimit ≠ .value .null ∧ p.offset ≠ some .null
  again : ofDocument? q.toDocument = some q

theorem withoutNulls_withoutNulls : p.withoutNulls.withoutNulls = p.withoutNulls := by
  rw [withoutNulls_eq_iff]
  refine ⟨p.rowLimit.withoutNull_ne_null, ?_⟩
  unfold withoutNulls
  cases p.offset with
  | none => simp
  | some d => cases d <;> simp [Document.nonNull?]

/-- A page that was written and read back means the same in every dialect. -/
theorem toDocument_restores (p : Page) :
    ∃ q, ofDocument? p.toDocument = some q ∧ Restores p q := by
  refine ⟨p.withoutNulls, p.ofDocument?_toDocument, p.limit_withoutNulls, p.skip_withoutNulls, ?_,
    ?_, fun d c => ?_, p.withoutNulls_eq_iff, ?_⟩
  · rw [limitClause, limitClause, limit_withoutNulls]
  · rw [offsetClause, offsetClause, skip_withoutNulls]
  · rw [Dialect.pageClauses_eq, Dialect.pageClauses_eq]
    dsimp only
    rw [skip_withoutNulls, limitClause, limitClause, limit_withoutNulls]
  · rw [ofDocument?_toDocument, withoutNulls_withoutNulls]

end Page

end QueryDialect
