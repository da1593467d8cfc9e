import QueryDialect.Dialect.Engine
import QueryDialect.Proofs.Text.Pattern
import QueryDialect.Proofs.Dialect.LikeGrammar

set_option autoImplicit false

/-!
# Meaning of text matches

A text match evaluates its operands and matches the one with the pattern that the other makes. Whether
a dialect lowers the operands itself or leaves that to the operator, the pattern is the parameter in
lower case between the wildcards of the match, so that all dialects find the same texts.
-/
namespace QueryDialect

open Text

variable (l : Lowering) (values : String → List Char)

/-! ## Evaluation -/

namespace TextExpr

/-- The value of a text, given those of the names in it. -/
def value : TextExpr → List Char
  | .given name => values name
  | .quoted text => text.toList
  | .lower e => l.lower e.value
  | .append e f => e.value ++ f.value
  | .concat e f g => e.value ++ (f.value ++ g.value)

end TextExpr

namespace LikePredicate

/-- Whether the subject matches, unless the pattern ends in a backslash that escapes nothing. -/
def truth? (p : LikePredicate) : Option Bool :=
  let fold := if p.ignoreCase then l.lower else id
  (patternItems? (fold (p.pattern.value l values))).map fun items =>
    matchesItems items (fold (p.subject.value l values)) != p.negate

/-- The text can be read, and however it is read this is its truth value. -/
structure Means (text : String) (truth : Option Bool) : Prop where
  readable : ∃ p : LikePredicate, p.ReadAs text
  agreed : ∀ p : LikePredicate, p.ReadAs text → p.truth? l values = truth

theorem means_of_readAs {l : Lowering} {values : String → List Char} {text : String}
    {p : LikePredicate} (h : p.ReadAs text) : Means l values text (p.truth? l values) :=
  ⟨⟨p, h⟩, fun _ h' => by rw [h'.unique h]⟩

end LikePredicate

/-! ## Operands -/

namespace TextExpr

variable {s t : String} {e f : TextExpr}

theorem readAs_literal (text : String) : (quoted text).ReadAs (literal text) := by
  have empty : Reads "" [] := reads_plain (by simp)
  refine .quoted ?_
  simpa using tokens?_append_literal empty text

/-- By induction on the reading behind the bars, of which the last operand stays the last. -/
theorem ReadAs.join (h : e.ReadAs s) (h' : f.ReadAs t) : ∃ g : TextExpr, g.ReadAs (s ++ " || " ++ t) ∧
    g.value l values = e.value l values ++ f.value l values := by
  induction h' using ReadAs.induction_append with
  | operand h' single => exact ⟨_, h.append h' single, rfl⟩
  | @append _ _ _ last _ right single ih =>
    obtain ⟨g, read, same⟩ := ih
    refine ⟨.append g last, ?_, ?_⟩
    · have joined := read.append right single
      simpa only [String.append_assoc] using joined
    · rw [value, same, value, List.append_assoc]

end TextExpr

/-! ## Both forms -/

/-- The truth value of the match of a part in a text, unless its pattern cannot be read. -/
def MatchType.truth? (type : MatchType) (negate : Bool) (part text : List Char) : Option Bool :=
  (patternItems? (type.around part)).map fun items => matchesItems items text != negate

theorem MatchType.truth?_plain (type : MatchType) (negate : Bool) {part : List Char}
    (plain : IsPlain part) (text : List Char) :
    type.truth? negate part text = some (decide (type.Finds part text) != negate) := by
  obtain ⟨items, read, finds⟩ := type.around_matches plain text
  have same : matchesItems items text = decide (type.Finds part text) := by
    rw [Bool.eq_iff_iff, finds, decide_eq_true_iff]
  rw [truth?, read, Option.map_some, same]

namespace LikeForm

variable {column param : String} {c p : TextExpr}

/-- With the bars the wildcards stand before and behind the parameter as it is. -/
theorem ignoringOperator_pattern (column : String) (hp : p.ReadAs param) (negate : Bool)
    (type : MatchType) : ∃ g : TextExpr,
      g.ReadAs (ignoringOperator.predicate column negate param type).pattern.text ∧
      g.value l values = type.around (p.value l values) := by
  have wild : wildcard.ReadAs wildcard.text := TextExpr.readAs_literal "%"
  obtain ⟨lead, leadRead, leadValue⟩ := wild.join l values hp
  cases type with
  | contains =>
    obtain ⟨g, read, same⟩ := leadRead.join l values wild
    refine ⟨g, read, ?_⟩
    rw [same, leadValue]
    rfl
  | starts =>
    obtain ⟨g, read, same⟩ := hp.join l values wild
    exact ⟨g, read, same⟩
  | ends =>
    refine ⟨lead, leadRead, ?_⟩
    rw [leadValue, MatchType.around]
    exact congrArg ('%' :: ·) (List.append_nil _).symm

/-- In the call they stand before and behind the parameter in lower case. -/
theorem loweredOperands_pattern (column : String) (hp : p.ReadAs param) (negate : Bool)
    (type : MatchType) : ∃ g : TextExpr,
      g.ReadAs (loweredOperands.predicate column negate param type).pattern.text ∧
      g.value l values = type.around (l.lower (p.value l values)) := by
  have present (there : Bool) : (if there then wildcard else .quoted "").ReadAs
      (if there then wildcard else .quoted "").text := by
    cases there <;> exact TextExpr.readAs_literal _
  refine ⟨_, (present type.leadingWildcard).concat hp.lower (present type.trailingWildcard), ?_⟩
  cases type <;> rfl

theorem means_predicate (form : LikeForm) (hc : c.ReadAs column) (hp : p.ReadAs param) (negate : Bool)
    (type : MatchType) : LikePredicate.Means l values (form.predicate column negate param type).text
      (type.truth? negate (l.lower (p.value l values)) (l.lower (c.value l values))) := by
  cases form with
  | ignoringOperator =>
    obtain ⟨g, read, same⟩ := ignoringOperator_pattern l values column hp negate type
    have truth : (LikePredicate.mk c negate true g).truth? l values =
        type.truth? negate (l.lower (p.value l values)) (l.lower (c.value l values)) := by
      simp only [LikePredicate.truth?, MatchType.truth?, if_true, same, type.lower_around l]
    rw [← truth]
    exact LikePredicate.means_of_readAs (.mk negate true hc read)
  | loweredOperands =>
    obtain ⟨g, read, same⟩ := loweredOperands_pattern l values column hp negate type
    have truth : (LikePredicate.mk (.lower c) negate false g).truth? l values =
        type.truth? negate (l.lower (p.value l values)) (l.lower (c.value l values)) := by
      rw [LikePredicate.truth?, MatchType.truth?, same]
      rfl
    rw [← truth]
    exact LikePredicate.means_of_readAs (.mk negate false hc.lower read)

end LikeForm

/-! ## All dialects -/

namespace Dialect

/-- Whatever the texts are, all dialects give their match one truth value, that of the parameter in lower
case between the wildcards. Without a mark of a pattern it is whether the part is found in the text. -/
theorem likeIgnoreCase_alike {column param : String} {c p : TextExpr} (hc : c.ReadAs column)
    (hp : p.ReadAs param) (negate : Bool) (type : MatchType) :
    let part := l.lower (p.value l values)
    let text := l.lower (c.value l values)
    (∀ d : Dialect, LikePredicate.Means l values (d.likeIgnoreCase column negate param type)
      (type.truth? negate part text)) ∧
    (IsPlain (p.value l values) →
      type.truth? negate part text = some (decide (type.Finds part text) != negate)) :=
  ⟨fun d => d.like.means_predicate l values hc hp negate type,
    fun plain => type.truth?_plain negate (l.lower_plain _ plain) _⟩

theorem likeIgnoreCase_alike_ends :
    let values : String → List Char := fun name => (if name = "?" then "FOX" else "Quick Fox").toList
    presto.likeIgnoreCase "t.name" true "?" .ends =
      "LOWER(t.name) NOT LIKE CONCAT('%', LOWER(?), '') ESCAPE '\\'" ∧
    base.likeIgnoreCase "t.name" true "?" .ends = "t.name NOT ILIKE '%' || ? ESCAPE '\\'" ∧
    ∀ d : Dialect, LikePredicate.Means .ascii values (d.likeIgnoreCase "t.name" true "?" .ends)
      (some false) := by
  intro values
  have column : (TextExpr.given "t.name").ReadAs "t.name" := .given (by decide)
  have param : (TextExpr.given "?").ReadAs "?" := .given (by decide)
  obtain ⟨means, found⟩ := likeIgnoreCase_alike .ascii values column param true .ends
  have plain : IsPlain ((TextExpr.given "?").value .ascii values) := by
    change ∀ c ∈ "FOX".toList, isPatternMark c = false
    simp [isPatternMark]
  have ends : MatchType.ends.truth? true "fox".toList "quick fox".toList = some false := found plain
  refine ⟨by decide, by decide, fun d => ?_⟩
  rw [← ends]
  exact means d

end Dialect

end QueryDialect
