import QueryDialect.Text.Literal
import Mathlib

set_option autoImplicit false

/-!
# Literals found in a query

A query is read by the standard rule. A literal runs from a quote to the next quote that is not
doubled, and a doubled quote in it denotes one. A text that is written with its literals in place is
read back whatever they hold, because no character after a literal can be taken for part of it.
-/
namespace QueryDialect.Text

/-- A literal with the text it denotes, or a character outside the literals. -/
inductive Token where
  | outside (c : Char)
  | literal (text : String)
  deriving DecidableEq, Repr

/-- Reads on, outside the literals or in one of which some characters are read, the last of them
first. A literal that is never closed cannot be read. -/
def readOn : Option (List Char) → List Char → Option (List Token)
  | none, [] => some []
  | some _, [] => none
  | none, c :: cs => if c = '\'' then readOn (some []) cs else (readOn none cs).map (.outside c :: ·)
  | some text, '\'' :: '\'' :: cs => readOn (some ('\'' :: text)) cs
  | some text, c :: cs =>
    if c = '\'' then (readOn none cs).map (.literal (String.ofList text.reverse) :: ·)
    else readOn (some (c :: text)) cs

def tokens? (s : String) : Option (List Token) := readOn none s.toList

namespace Token

def text? : Token → Option String
  | outside _ => none
  | literal text => some text

/-- What is left of a token when the texts of the literals are struck out. -/
def mark : Token → Option Char
  | outside c => some c
  | literal _ => none

end Token

def literals (ts : List Token) : List String := ts.filterMap Token.text?

/-- The characters outside the literals, with a gap for each literal. -/
def outline (ts : List Token) : List (Option Char) := ts.map Token.mark

def plain (s : String) : List Token := s.toList.map .outside

/-! ## Reading one literal -/

/-- The text goes on with a character other than a quote. -/
def Resumes (s : String) : Prop := ∃ c ∈ s.toList.head?, c ≠ '\''

instance (s : String) : Decidable (Resumes s) :=
  decidable_of_iff (s.toList.head?.any (· ≠ '\'') = true) (by
    rw [Option.any_eq_true]
    simp [Resumes])

theorem readOn_outside {c : Char} (h : c ≠ '\'') (cs : List Char) :
    readOn none (c :: cs) = (readOn none cs).map (.outside c :: ·) := by
  rw [readOn, if_neg h]

theorem readOn_inside {c : Char} (h : c ≠ '\'') (text cs : List Char) :
    readOn (some text) (c :: cs) = readOn (some (c :: text)) cs := by
  rw [readOn]
  · rw [if_neg h]
  · intro _ head
    exact absurd head h

theorem readOn_close {rest : List Char} (h : '\'' ∉ rest.head?) (text : List Char) :
    readOn (some text) ('\'' :: rest) =
      (readOn none rest).map (.literal (String.ofList text.reverse) :: ·) := by
  rw [readOn]
  · rw [if_pos rfl]
  · intro _ cs doubled
    rw [doubled] at h
    exact h rfl

/-- By induction on the text: its doubled quotes never close the literal, so that what is read of it
grows by one character at each step. -/
theorem readOn_doubleQuotes {rest : List Char} (h : '\'' ∉ rest.head?) (ds text : List Char) :
    readOn (some text) (doubleQuotes ds ++ '\'' :: rest) =
      (readOn none rest).map (.literal (String.ofList (text.reverse ++ ds)) :: ·) := by
  induction ds generalizing text with
  | nil => rw [doubleQuotes, List.nil_append, readOn_close h, List.append_nil]
  | cons d ds ih =>
    have grown : (d :: text).reverse ++ ds = text.reverse ++ d :: ds := by simp
    rw [← grown, ← ih (d :: text)]
    by_cases quote : d = '\''
    · subst quote
      rfl
    · rw [doubleQuotes, if_neg quote, List.cons_append, readOn_inside quote]

theorem Resumes.no_quote {s : String} (h : Resumes s) : '\'' ∉ s.toList.head? := by
  obtain ⟨c, head, other⟩ := h
  intro quote
  exact other (Option.some.inj ((Option.mem_def.1 head).symm.trans quote))

theorem Resumes.append {s t : String} (h : Resumes s) : Resumes (s ++ t) := by
  obtain ⟨c, head, other⟩ := h
  refine ⟨c, ?_, other⟩
  rw [String.toList_append, List.head?_append, Option.mem_def.1 head]
  rfl

theorem doubleQuotes_cons (c : Char) (cs : List Char) : doubleQuotes (c :: cs) =
    (if c = '\'' then ['\'', '\''] else [c]) ++ doubleQuotes cs := by
  rw [doubleQuotes]
  split_ifs <;> rfl

/-- A quote that no other follows stands at the end of a literal only. -/
theorem eq_nil_of_quote {ds rest rest' : List Char} (stop : '\'' ∉ rest.head?)
    (same : '\'' :: rest = doubleQuotes ds ++ '\'' :: rest') : ds = [] ∧ rest = rest' := by
  cases ds with
  | nil => exact ⟨rfl, (List.cons.inj same).2⟩
  | cons d ds =>
    rw [doubleQuotes_cons] at same
    by_cases quote : d = '\''
    · rw [if_pos quote] at same
      exact absurd (by rw [(List.cons.inj same).2]; rfl) stop
    · rw [if_neg quote] at same
      exact absurd (List.cons.inj same).1.symm quote

/-- By induction on both texts: the quotes come in pairs up to the one that closes the literal. -/
theorem doubleQuotes_append_inj {cs ds rest rest' : List Char} (stop : '\'' ∉ rest.head?)
    (stop' : '\'' ∉ rest'.head?)
    (same : doubleQuotes cs ++ '\'' :: rest = doubleQuotes ds ++ '\'' :: rest') :
    cs = ds ∧ rest = rest' := by
  induction cs generalizing ds with
  | nil =>
    obtain ⟨rfl, ends⟩ := eq_nil_of_quote stop same
    exact ⟨rfl, ends⟩
  | cons c cs ih =>
    cases ds with
    | nil =>
      obtain ⟨impossible, -⟩ := eq_nil_of_quote stop' same.symm
      cases impossible
    | cons d ds =>
      rw [doubleQuotes_cons, doubleQuotes_cons, List.append_assoc, List.append_assoc] at same
      have first : c = d := by
        split_ifs at same with quote quote' quote'
        · exact quote.trans quote'.symm
        · exact quote.trans (List.cons.inj same).1
        · exact (List.cons.inj same).1.trans quote'.symm
        · exact (List.cons.inj same).1
      subst first
      obtain ⟨rfl, ends⟩ := ih (List.append_cancel_left same)
      exact ⟨rfl, ends⟩

/-- No literal is the beginning of another, where the texts go on behind them. -/
theorem literal_append_inj {r r' s s' : String} (resumes : Resumes s) (resumes' : Resumes s')
    (same : literal r ++ s = literal r' ++ s') : r = r' ∧ s = s' := by
  have lists := congrArg String.toList same
  simp only [String.toList_append, literal, String.toList_ofList, literalChars, List.cons_append,
    List.append_assoc, List.nil_append, List.cons.injEq, true_and] at lists
  obtain ⟨texts, others⟩ := doubleQuotes_append_inj resumes.no_quote resumes'.no_quote lists
  exact ⟨String.toList_injective texts, String.toList_injective others⟩

/-! ## Texts read whatever follows them -/

/-- The text is read as these tokens, and what follows it as if it stood alone. -/
def Reads (s : String) (ts : List Token) : Prop :=
  ∀ rest, readOn none (s.toList ++ rest) = (readOn none rest).map (ts ++ ·)

variable {s t : String} {ts us : List Token}

theorem Reads.tokens? (h : Reads s ts) : tokens? s = some ts := by
  have whole := h []
  rw [List.append_nil] at whole
  rw [Text.tokens?, whole]
  change some (ts ++ []) = some ts
  rw [List.append_nil]

theorem Reads.append (h : Reads s ts) (h' : Reads t us) : Reads (s ++ t) (ts ++ us) := by
  intro rest
  rw [String.toList_append, List.append_assoc, h, h', Option.map_map]
  congr 1
  funext vs
  exact (List.append_assoc ts us vs).symm

theorem reads_plain (h : '\'' ∉ s.toList) : Reads s (plain s) := by
  unfold Reads plain
  generalize s.toList = cs at h
  intro rest
  induction cs with
  | nil => simp
  | cons c cs ih =>
    obtain ⟨first, others⟩ := not_or.1 (List.mem_cons.not.1 h)
    rw [List.cons_append, readOn_outside (Ne.symm first), ih others, Option.map_map]
    rfl

/-- A literal is read once the text goes on: at its last quote alone it could go on as a literal. -/
theorem reads_literal (r : String) (h : Reads s ts) (resumes : Resumes s) :
    Reads (literal r ++ s) (.literal r :: ts) := by
  intro rest
  have goesOn : '\'' ∉ (s.toList ++ rest).head? := by
    rw [← String.toList_ofList (l := rest), ← String.toList_append]
    exact (resumes.append (t := String.ofList rest)).no_quote
  have opened : (literal r ++ s).toList ++ rest =
      '\'' :: (doubleQuotes r.toList ++ '\'' :: (s.toList ++ rest)) := by
    rw [String.toList_append, literal, String.toList_ofList, literalChars]
    simp
  rw [opened, readOn, if_pos rfl, readOn_doubleQuotes goesOn, h, Option.map_map]
  simp only [List.reverse_nil, List.nil_append, String.ofList_toList]
  rfl

theorem reads_literal_plain (r : String) (h : '\'' ∉ s.toList) (resumes : Resumes s) :
    Reads (literal r ++ s) (.literal r :: plain s) := reads_literal r (reads_plain h) resumes

/-- At the end of the text the last quote of a literal closes it. -/
theorem tokens?_append_literal (h : Reads s ts) (r : String) :
    tokens? (s ++ literal r) = some (ts ++ [.literal r]) := by
  have ended : '\'' ∉ ([] : List Char).head? := Option.not_mem_none _
  have last := readOn_doubleQuotes ended r.toList []
  rw [Text.tokens?, String.toList_append, h, literal, String.toList_ofList, literalChars, readOn,
    if_pos rfl, last]
  simp only [List.reverse_nil, List.nil_append, String.ofList_toList]
  rfl

theorem literal_of_no_quote {r : String} (h : '\'' ∉ r.toList) : literal r = "'" ++ r ++ "'" := by
  have same (cs : List Char) (h : '\'' ∉ cs) : doubleQuotes cs = cs := by
    induction cs with
    | nil => rfl
    | cons c cs ih =>
      obtain ⟨first, others⟩ := not_or.1 (List.mem_cons.not.1 h)
      rw [doubleQuotes, if_neg (Ne.symm first), ih others]
  apply String.toList_injective
  rw [literal, String.toList_ofList, literalChars, same _ h]
  simp

example : (tokens? "'it''s', ''''").map literals = some ["it's", "'"] := by decide

theorem reads_intercalate {α : Type} {write : α → String} {read : α → List Token}
    (separator : Reads s ts) (each : ∀ a, Reads (write a) (read a)) (as : List α) :
    Reads (s.intercalate (as.map write)) (ts.intercalate (as.map read)) := by
  induction as with
  | nil =>
    intro rest
    simp
  | cons a as ih =>
    cases as with
    | nil => simpa using each a
    | cons b bs =>
      simp only [List.map_cons] at ih ⊢
      rw [String.intercalate_cons_cons, List.intercalate_cons_cons]
      exact ((each a).append separator).append ih

/-! ## Literals and outline of a text put together -/

@[simp] theorem literals_append (ts us : List Token) :
    literals (ts ++ us) = literals ts ++ literals us := List.filterMap_append

@[simp] theorem literals_literal (r : String) (ts : List Token) :
    literals (.literal r :: ts) = r :: literals ts := rfl

@[simp] theorem literals_plain (s : String) : literals (plain s) = [] := by
  rw [literals, plain, List.filterMap_map]
  exact List.filterMap_eq_nil_iff.2 fun _ _ => rfl

theorem literals_intercalate (bare : literals ts = []) (rows : List (List Token)) :
    literals (ts.intercalate rows) = rows.flatMap literals := by
  induction rows with
  | nil => rfl
  | cons r rs ih =>
    cases rs with
    | nil => simp
    | cons q qs =>
      rw [List.intercalate_cons_cons, literals_append, literals_append, bare, ih]
      simp

theorem outline_intercalate (ts : List Token) (rows : List (List Token)) :
    outline (ts.intercalate rows) = (outline ts).intercalate (rows.map outline) := by
  induction rows with
  | nil => rfl
  | cons r rs ih =>
    cases rs with
    | nil => simp
    | cons q qs =>
      simp only [List.map_cons, List.intercalate_cons_cons] at ih ⊢
      rw [← ih]
      simp [outline]

end QueryDialect.Text
