import QueryDialect.Dialect.Like
import QueryDialect.Text.WordCharacter
import QueryDialect.Proofs.Text.Nesting
import QueryDialect.Proofs.Text.Runs

set_option autoImplicit false

/-!
# Grammar of text matches

A text match is read from its text. Its operands are names, literals, and calls that lower a text or
join three; bars join operands from the left, and the operator of the match binds weaker than they do.
No text is read in two ways.
-/
namespace QueryDialect

open Text

/-! ## Grammar -/

def keywords : List (List Char) := ["NOT", "LIKE", "ILIKE", "ESCAPE"].map String.toList

/-- A keyword may be written in any letter case. -/
def isKeyword (word : List Char) : Bool := word.map Char.toUpper ∈ keywords

def endsOperand (c : Char) : Bool := !(".:?$@()'\"".toList.contains c || isWordCharacter c)

namespace TextExpr

inductive Kind where
  | given
  | quoted
  | lower
  | append
  | concat
  deriving DecidableEq, Repr

def kind : TextExpr → Kind
  | .given _ => .given
  | .quoted _ => .quoted
  | .lower _ => .lower
  | .append _ _ => .append
  | .concat _ _ _ => .concat

/-- The kind of a text by its first characters, where it is one operand. -/
def kindOf (cs : List Char) : Kind :=
  if walk? endsOperand .top cs ≠ some .top then .append
  else if "'".toList <+: cs then .quoted
  else if "LOWER(".toList <+: cs then .lower
  else if "CONCAT(".toList <+: cs then .concat
  else .given

/-- A column, a parameter, the call of another function or any text in parentheses. -/
def IsName (s : String) : Prop := s ≠ "" ∧ kindOf s.toList = .given ∧ isKeyword s.toList = false

instance (s : String) : Decidable (IsName s) := inferInstanceAs (Decidable (_ ∧ _))

example : IsName "CAST(t.\"a, b\" AS VARCHAR)" ∧ IsName "(a OR b)" ∧ ¬ IsName "a OR b" := by
  decide +kernel

inductive ReadAs : String → TextExpr → Prop where
  | given {s : String} (name : IsName s) : ReadAs s (.given s)
  | quoted {s t : String} (read : tokens? s = some [.literal t]) : ReadAs s (.quoted t)
  | lower {s : String} {e : TextExpr} (operand : ReadAs s e) : ReadAs ("LOWER(" ++ s ++ ")") (.lower e)
  | concat {s t u : String} {e f g : TextExpr} (first : ReadAs s e) (second : ReadAs t f)
      (third : ReadAs u g) : ReadAs ("CONCAT(" ++ s ++ ", " ++ t ++ ", " ++ u ++ ")") (.concat e f g)
  | append {s t : String} {e f : TextExpr} (left : ReadAs s e) (right : ReadAs t f)
      (operand : f.kind ≠ .append) : ReadAs (s ++ " || " ++ t) (.append e f)

end TextExpr

inductive LikePredicate.ReadAs : String → LikePredicate → Prop where
  | mk {s t : String} {e f : TextExpr} (negate ignoreCase : Bool) (subject : e.ReadAs s)
      (pattern : f.ReadAs t) : ReadAs (s ++ (if negate then " NOT" else "") ++
        (if ignoreCase then " ILIKE " else " LIKE ") ++ t ++ " ESCAPE '\\'") ⟨e, negate, ignoreCase, f⟩

/-! ## Operands -/

namespace TextExpr

variable {s t : String} {e f : TextExpr} {cs : List Char}

theorem endsOperand_blank : endsOperand ' ' = true := by decide +kernel

theorem endsOperand_comma : endsOperand ',' = true := by decide +kernel

/-- An operand has no blank and no comma at its top. -/
theorem walk?_operand {sep : Char} (ends : endsOperand sep = true) {n m : Nesting}
    (walk : walk? endsOperand n cs = some m) : walk? (· = sep) n cs = some m :=
  walk?_weaken (fun c same => by rwa [of_decide_eq_true same]) walk

theorem walk?_kindOf (h : kindOf cs ≠ .append) : walk? endsOperand .top cs = some .top := by
  by_contra other
  exact h (if_pos other)

theorem toList_lower (s : String) :
    ("LOWER(" ++ s ++ ")").toList = "LOWER(".toList ++ (s.toList ++ [')']) := by
  simp

theorem toList_concat (s t u : String) : ("CONCAT(" ++ s ++ ", " ++ t ++ ", " ++ u ++ ")").toList =
    "CONCAT(".toList ++ ((s.toList ++ ',' :: ' ' :: (t.toList ++ ',' :: ' ' :: u.toList)) ++
      [')']) := by
  simp

theorem toList_append (s t : String) :
    (s ++ " || " ++ t).toList = s.toList ++ ' ' :: ("||".toList ++ ' ' :: t.toList) := by
  simp

/-- By induction on the reading: what stands in the parentheses of a call never closes them. -/
theorem ReadAs.scan (h : ReadAs s e) : walk? (· = ',') .top s.toList = some .top ∧
    (e.kind ≠ .append → walk? endsOperand .top s.toList = some .top) := by
  have operand {s : String} {e : TextExpr} (walk : walk? endsOperand .top s.toList = some .top) :
      walk? (· = ',') .top s.toList = some .top ∧
        (e.kind ≠ .append → walk? endsOperand .top s.toList = some .top) :=
    ⟨walk?_operand endsOperand_comma walk, fun _ => walk⟩
  induction h with
  | given name => exact operand (walk?_kindOf (by simp [name.2.1]))
  | quoted read => exact operand (walk?_literal (by decide) read)
  | lower _ ih =>
    have inside := isBalanced_of_walk? ih.1
    refine operand ?_
    rw [toList_lower]
    exact inside.walk?_enclosed (by decide)
  | concat _ _ _ ih ih' ih'' =>
    have comma : IsBalanced ", ".toList := rfl
    have inside := (isBalanced_of_walk? ih.1).append
      (comma.append ((isBalanced_of_walk? ih'.1).append (comma.append (isBalanced_of_walk? ih''.1))))
    refine operand ?_
    rw [toList_concat]
    exact inside.walk?_enclosed (by decide)
  | append _ _ _ ih ih' =>
    refine ⟨?_, fun single => absurd rfl single⟩
    rw [toList_append, walk?_append, ih.1]
    exact ih'.1

theorem ReadAs.scan_operand (h : ReadAs s e) (single : e.kind ≠ .append) :
    walk? endsOperand .top s.toList = some .top := h.scan.2 single

/-! ## Words -/

/-- Keywords consist of letters. -/
theorem isKeyword_of_mem {word : List Char} {c : Char} (mem : c ∈ word)
    (other : c.toUpper.isAlpha = false) : isKeyword word = false := by
  have letters : ∀ w ∈ keywords, ∀ c ∈ w, c.isAlpha = true := by simp [keywords]
  refine decide_eq_false fun keyword => ?_
  have letter := letters _ keyword _ (List.mem_map_of_mem mem)
  rw [other] at letter
  cases letter

theorem ReadAs.not_isKeyword (h : ReadAs s e) (single : e.kind ≠ .append) :
    isKeyword s.toList = false := by
  cases h with
  | given name => exact name.2.2
  | quoted read =>
    obtain ⟨cs, opened, -⟩ := tokens?_literal read
    exact isKeyword_of_mem (c := '\'') (by simp [opened]) rfl
  | lower => exact isKeyword_of_mem (c := '(') (by simp) rfl
  | concat => exact isKeyword_of_mem (c := '(') (by simp) rfl
  | append => exact absurd rfl single

theorem ReadAs.word (h : ReadAs s e) (single : e.kind ≠ .append) :
    parts? ' ' .top s.toList = some [s.toList] :=
  parts?_solid (walk?_operand endsOperand_blank (h.scan_operand single))

theorem parts?_append_bars {ws : List (List Char)} (parts : parts? ' ' .top s.toList = some ws)
    (h : ReadAs t f) (single : f.kind ≠ .append) :
    parts? ' ' .top (s ++ " || " ++ t).toList = some (ws ++ ["||".toList, t.toList]) := by
  have bars : parts? ' ' .top "||".toList = some ["||".toList] := rfl
  rw [toList_append, parts?_append parts, parts?_append bars, h.word single]
  rfl

/-- A text is one operand, or one more is joined to the operands before it. -/
theorem ReadAs.induction_append {motive : (s : String) → (e : TextExpr) → ReadAs s e → Prop}
    (operand : ∀ {s e} (h : ReadAs s e), e.kind ≠ .append → motive s e h)
    (append : ∀ {s t e f} (left : ReadAs s e) (right : ReadAs t f) (single : f.kind ≠ .append),
      motive s e left → motive (s ++ " || " ++ t) (.append e f) (left.append right single))
    (h : ReadAs s e) : motive s e h := by
  induction h with
  | given name => exact operand (.given name) (by simp [kind])
  | quoted read => exact operand (.quoted read) (by simp [kind])
  | lower h => exact operand (.lower h) (by simp [kind])
  | concat h h' h'' => exact operand (.concat h h' h'') (by simp [kind])
  | append left right single ih => exact append left right single ih

/-- The words of a text, between the blanks at its top, are none of the keywords. -/
theorem ReadAs.words (h : ReadAs s e) : ∃ ws, parts? ' ' .top s.toList = some ws ∧
    ∀ w ∈ ws, isKeyword w = false := by
  induction h using ReadAs.induction_append with
  | operand h single => exact ⟨_, h.word single, by simpa using h.not_isKeyword single⟩
  | append _ right single ih =>
    obtain ⟨ws, parts, others⟩ := ih
    refine ⟨_, parts?_append_bars parts right single, ?_⟩
    simp only [List.mem_append, List.mem_cons, List.not_mem_nil, or_false]
    rintro w (before | rfl | rfl)
    · exact others w before
    · decide
    · exact right.not_isKeyword single

/-! ## One reading -/

theorem ReadAs.kindOf_eq (h : ReadAs s e) : kindOf s.toList = e.kind := by
  have opened {cs : List Char} (walk : walk? endsOperand .top cs = some .top) :
      kindOf cs = if "'".toList <+: cs then .quoted else
        if "LOWER(".toList <+: cs then .lower else if "CONCAT(".toList <+: cs then .concat else .given :=
    if_neg (not_not.2 walk)
  by_cases single : e.kind ≠ .append
  · have walk := h.scan_operand single
    cases h with
    | given name => exact name.2.1
    | quoted read =>
      obtain ⟨cs, quote, -⟩ := tokens?_literal read
      rw [opened walk]
      simp [quote, kind]
    | lower =>
      rw [opened walk]
      simp [kind]
    | concat =>
      rw [opened walk]
      simp [kind]
    | append => exact absurd rfl single
  · cases h with
    | append left right solid =>
      obtain ⟨ws, parts, -⟩ := left.words
      -- Were it one operand, it would be one word.
      refine if_pos fun walk => ?_
      have one := parts?_solid (walk?_operand endsOperand_blank walk)
      rw [parts?_append_bars parts right solid] at one
      have lengths := congrArg List.length (Option.some.inj one)
      simp at lengths
    | _ => simp [kind] at single

theorem ReadAs.kind_eq (h : ReadAs s e) (h' : ReadAs s f) : e.kind = f.kind :=
  h.kindOf_eq.symm.trans h'.kindOf_eq

theorem lower_inj (same : "LOWER(" ++ s ++ ")" = "LOWER(" ++ t ++ ")") : s = t := by
  have lists := congrArg String.toList same
  rw [toList_lower, toList_lower] at lists
  exact String.toList_injective (List.append_cancel_right (List.append_cancel_left lists))

/-- The arguments of a call are the parts between its commas. -/
theorem parts?_arguments {s t u : String} {e f g : TextExpr} (h : ReadAs s e) (h' : ReadAs t f)
    (h'' : ReadAs u g) :
    parts? ',' .top (s.toList ++ ',' :: ' ' :: (t.toList ++ ',' :: ' ' :: u.toList)) =
      some [s.toList, ' ' :: t.toList, ' ' :: u.toList] := by
  have first := parts?_solid h.scan.1
  have second : parts? ',' .top (' ' :: t.toList) = some [' ' :: t.toList] := parts?_solid h'.scan.1
  have third : parts? ',' .top (' ' :: u.toList) = some [' ' :: u.toList] := parts?_solid h''.scan.1
  rw [parts?_append first, ← List.cons_append, parts?_append second, third]
  rfl

theorem concat_inj {s s' t t' u u' : String} {e e' f f' g g' : TextExpr} (first : ReadAs s e)
    (second : ReadAs t f) (third : ReadAs u g) (first' : ReadAs s' e') (second' : ReadAs t' f')
    (third' : ReadAs u' g') (same : "CONCAT(" ++ s ++ ", " ++ t ++ ", " ++ u ++ ")" =
      "CONCAT(" ++ s' ++ ", " ++ t' ++ ", " ++ u' ++ ")") : s = s' ∧ t = t' ∧ u = u' := by
  have lists := congrArg String.toList same
  rw [toList_concat, toList_concat] at lists
  have parts := parts?_arguments first second third
  rw [List.append_cancel_right (List.append_cancel_left lists),
    parts?_arguments first' second' third'] at parts
  simp only [Option.some.injEq, List.cons.injEq, true_and, and_true, String.toList_inj] at parts
  obtain ⟨rfl, rfl, rfl⟩ := parts
  exact ⟨rfl, rfl, rfl⟩

/-- The last word of joined operands is the last operand. -/
theorem append_inj {s s' t t' : String} {e e' f f' : TextExpr} (left : ReadAs s e) (right : ReadAs t f)
    (single : f.kind ≠ .append) (left' : ReadAs s' e') (right' : ReadAs t' f')
    (single' : f'.kind ≠ .append) (same : s ++ " || " ++ t = s' ++ " || " ++ t') :
    s = s' ∧ t = t' := by
  obtain ⟨ws, parts, -⟩ := left.words
  obtain ⟨vs, parts', -⟩ := left'.words
  have joined := parts?_append_bars parts right single
  rw [same, parts?_append_bars parts' right' single'] at joined
  obtain ⟨rfl, last⟩ := List.append_inj' (Option.some.inj joined) rfl
  simp only [List.cons.injEq, true_and, and_true, String.toList_inj] at last
  exact ⟨String.toList_injective (parts?_inj parts parts'), last.symm⟩

/-- By induction on one reading: the other is of the same kind, and its parts are the same texts. -/
theorem ReadAs.unique (h : ReadAs s e) (h' : ReadAs s f) : e = f := by
  induction h generalizing f with
  | given name =>
    have kinds := (ReadAs.given name).kind_eq h'
    cases h' with
    | given => rfl
    | _ => simp [kind] at kinds
  | quoted read =>
    have kinds := (ReadAs.quoted read).kind_eq h'
    cases h' with
    | quoted read' =>
      obtain ⟨⟩ := read.symm.trans read'
      rfl
    | _ => simp [kind] at kinds
  | @lower s _ h ih =>
    have kinds := h.lower.kind_eq h'
    generalize same : "LOWER(" ++ s ++ ")" = text at h'
    cases h' with
    | lower h' =>
      obtain rfl := lower_inj same
      rw [ih h']
    | _ => simp [kind] at kinds
  | @concat s t u _ _ _ first second third ih ih' ih'' =>
    have kinds := (first.concat second third).kind_eq h'
    generalize same : "CONCAT(" ++ s ++ ", " ++ t ++ ", " ++ u ++ ")" = text at h'
    cases h' with
    | concat first' second' third' =>
      obtain ⟨rfl, rfl, rfl⟩ := concat_inj first second third first' second' third' same
      rw [ih first', ih' second', ih'' third']
    | _ => simp [kind] at kinds
  | @append s t _ _ left right single ih ih' =>
    have kinds := (left.append right single).kind_eq h'
    generalize same : s ++ " || " ++ t = text at h'
    cases h' with
    | append left' right' single' =>
      obtain ⟨rfl, rfl⟩ := append_inj left right single left' right' single' same
      rw [ih left', ih' right']
    | _ => simp [kind] at kinds

end TextExpr

/-! ## Predicates -/

namespace LikePredicate

variable {p q : LikePredicate} {text : String}

def operator (negate ignoreCase : Bool) : List (List Char) :=
  (if negate then ["NOT".toList] else []) ++ [(if ignoreCase then "ILIKE" else "LIKE").toList]

def ending : List (List Char) := ["ESCAPE".toList, "'\\'".toList]

theorem operator_append_inj {negate negate' ignoreCase ignoreCase' : Bool} {ws vs : List (List Char)}
    (same : operator negate ignoreCase ++ ws = operator negate' ignoreCase' ++ vs) :
    negate = negate' ∧ ignoreCase = ignoreCase' ∧ ws = vs := by
  revert same
  cases negate <;> cases negate' <;> cases ignoreCase <;> cases ignoreCase' <;> simp [operator]

/-- The first keyword begins the operator. -/
theorem words_run {ws : List (List Char)} (others : ∀ w ∈ ws, isKeyword w = false)
    (negate ignoreCase : Bool) (vs : List (List Char)) :
    (ws ++ (operator negate ignoreCase ++ vs)).takeWhile (!isKeyword ·) = ws ∧
      (ws ++ (operator negate ignoreCase ++ vs)).dropWhile (!isKeyword ·) =
        operator negate ignoreCase ++ vs := by
  refine span_run (fun w hw => by rw [others w hw]; rfl) ?_
  cases negate <;> cases ignoreCase <;> simp [operator, isKeyword, keywords]

theorem toList_predicate (s t : String) (negate ignoreCase : Bool) :
    (s ++ (if negate then " NOT" else "") ++ (if ignoreCase then " ILIKE " else " LIKE ") ++ t ++
      " ESCAPE '\\'").toList = s.toList ++ ' ' :: ([' '].intercalate (operator negate ignoreCase) ++
        ' ' :: (t.toList ++ ' ' :: "ESCAPE '\\'".toList)) := by
  cases negate <;> cases ignoreCase <;> simp [operator]

/-- The words of the operator stand between those of the operands. -/
theorem ReadAs.words (h : p.ReadAs text) : ∃ s t ws vs, p.subject.ReadAs s ∧ p.pattern.ReadAs t ∧
    parts? ' ' .top s.toList = some ws ∧ parts? ' ' .top t.toList = some vs ∧
      (∀ w ∈ ws, isKeyword w = false) ∧ parts? ' ' .top text.toList =
        some (ws ++ (operator p.negate p.ignoreCase ++ (vs ++ ending))) := by
  obtain @⟨s, t, e, f, negate, ignoreCase, subject, pattern⟩ := h
  obtain ⟨ws, parts, others⟩ := subject.words
  obtain ⟨vs, parts', -⟩ := pattern.words
  have middle : parts? ' ' .top ([' '].intercalate (operator negate ignoreCase)) =
      some (operator negate ignoreCase) := by
    cases negate <;> cases ignoreCase <;> decide
  have last : parts? ' ' .top "ESCAPE '\\'".toList = some ending := by decide
  refine ⟨s, t, ws, vs, subject, pattern, parts, parts', others, ?_⟩
  rw [toList_predicate, parts?_append parts, parts?_append middle, parts?_append parts', last]
  rfl

theorem ReadAs.unique (h : p.ReadAs text) (h' : q.ReadAs text) : p = q := by
  obtain ⟨s, t, ws, vs, subject, pattern, left, right, others, parts⟩ := h.words
  obtain ⟨s', t', ws', vs', subject', pattern', left', right', others', parts'⟩ := h'.words
  have same := Option.some.inj (parts.symm.trans parts')
  have run := words_run others p.negate p.ignoreCase (vs ++ ending)
  have run' := words_run others' q.negate q.ignoreCase (vs' ++ ending)
  rw [same] at run
  obtain rfl : ws = ws' := run.1.symm.trans run'.1
  obtain ⟨negate, ignoreCase, ends⟩ := operator_append_inj (run.2.symm.trans run'.2)
  obtain rfl : vs = vs' := List.append_cancel_right ends
  obtain rfl := String.toList_injective (parts?_inj left left')
  obtain rfl := String.toList_injective (parts?_inj right right')
  calc
    p = ⟨p.subject, p.negate, p.ignoreCase, p.pattern⟩ := rfl
    _ = ⟨q.subject, q.negate, q.ignoreCase, q.pattern⟩ := by
      rw [subject.unique subject', negate, ignoreCase, pattern.unique pattern']
    _ = q := rfl

end LikePredicate

end QueryDialect
