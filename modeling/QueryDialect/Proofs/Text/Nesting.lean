import QueryDialect.Proofs.Text.Lexer

set_option autoImplicit false

/-!
# Nesting of a query text

A scan of a query knows in how many open parentheses and in which quotes it stands. Separators count
at the top only, outside all of them, and there they cut a text into its parts.
-/
namespace QueryDialect.Text

/-- The number of open parentheses, and the mark of open quotes. -/
structure Nesting where
  depth : Nat
  quote : Option Char
  deriving DecidableEq, Repr

namespace Nesting

def top : Nesting := ⟨0, none⟩

/-- In quotes only their own mark counts. A parenthesis closes one that is open. -/
def next? (n : Nesting) (c : Char) : Option Nesting :=
  match n.quote with
  | some mark => some (if c = mark then ⟨n.depth, none⟩ else n)
  | none =>
    if c = '\'' ∨ c = '"' then some ⟨n.depth, some c⟩
    else if c = '(' then some ⟨n.depth + 1, none⟩
    else if c = ')' then (if n.depth = 0 then none else some ⟨n.depth - 1, none⟩)
    else some n

theorem next?_deeper {d d' : Nat} {q q' : Option Char} {c : Char}
    (h : next? ⟨d, q⟩ c = some ⟨d', q'⟩) : next? ⟨d + 1, q⟩ c = some ⟨d' + 1, q'⟩ := by
  cases q <;> grind [next?]

end Nesting

variable {stop stop' : Char → Bool} {sep : Char} {n m : Nesting} {cs ds : List Char}

/-! ## Texts without a separator -/

/-- The scan of a text, unless it meets a character of the class at the top. -/
def walk? (stop : Char → Bool) : Nesting → List Char → Option Nesting
  | n, [] => some n
  | n, c :: cs => if n = .top ∧ stop c = true then none else (n.next? c).bind (walk? stop · cs)

theorem walk?_append (n : Nesting) (cs ds : List Char) :
    walk? stop n (cs ++ ds) = (walk? stop n cs).bind (walk? stop · ds) := by
  induction cs generalizing n with
  | nil => rfl
  | cons c cs ih =>
    rw [List.cons_append, walk?, walk?]
    split_ifs
    · rfl
    · rw [Option.bind_assoc]
      simp only [ih]

theorem walk?_weaken (h : ∀ c, stop' c = true → stop c = true) (walk : walk? stop n cs = some m) :
    walk? stop' n cs = some m := by
  induction cs generalizing n with
  | nil => exact walk
  | cons c cs ih =>
    rw [walk?] at walk ⊢
    split_ifs at walk with stopped
    obtain ⟨next, step, rest⟩ := Option.bind_eq_some_iff.1 walk
    rw [if_neg fun stopped' => stopped ⟨stopped'.1, h c stopped'.2⟩, step]
    exact ih rest

/-- In an open parenthesis no character is at the top. -/
theorem walk?_deeper {d d' : Nat} {q q' : Option Char}
    (walk : walk? stop ⟨d, q⟩ cs = some ⟨d', q'⟩) :
    walk? stop' ⟨d + 1, q⟩ cs = some ⟨d' + 1, q'⟩ := by
  induction cs generalizing d q with
  | nil =>
    obtain ⟨rfl, rfl⟩ := Nesting.mk.inj (Option.some.inj walk)
    rfl
  | cons c cs ih =>
    rw [walk?] at walk ⊢
    split_ifs at walk
    obtain ⟨⟨e, r⟩, step, rest⟩ := Option.bind_eq_some_iff.1 walk
    rw [if_neg (by simp [Nesting.top]), Nesting.next?_deeper step]
    exact ih rest

/-- Every parenthesis is closed by another and every quote by its own mark. -/
def IsBalanced (cs : List Char) : Prop := walk? (fun _ => false) .top cs = some .top

theorem isBalanced_of_walk? (walk : walk? stop .top cs = some .top) : IsBalanced cs :=
  walk?_weaken (by simp) walk

theorem IsBalanced.append (h : IsBalanced cs) (h' : IsBalanced ds) : IsBalanced (cs ++ ds) := by
  rw [IsBalanced, walk?_append, h]
  exact h'

/-- A parenthesis that is open stays so over a balanced text, and no character in it is at the top. -/
theorem IsBalanced.walk?_enclosed (h : IsBalanced cs) {opener : List Char}
    (opened : walk? stop .top opener = some ⟨1, none⟩) :
    walk? stop .top (opener ++ (cs ++ [')'])) = some .top := by
  rw [walk?_append, opened, Option.bind_some, walk?_append, walk?_deeper h]
  rfl

/-- Only the empty text has no token, and it opens no literal. -/
theorem readOn_eq_nil {open? : Option (List Char)} (read : readOn open? cs = some []) :
    open? = none ∧ cs = [] := by
  fun_induction readOn open? cs with
  | case1 => exact ⟨rfl, rfl⟩
  | case2 => cases read
  | case3 cs ih => cases (ih read).1
  | case4 => simp at read
  | case5 text cs ih => cases (ih read).1
  | case6 => simp at read
  | case7 text c cs _ _ ih => cases (ih read).1

/-- By induction on the reading of a literal: its doubled quotes close it and open it again. -/
theorem walk?_inside (quote : stop '\'' = false) {text : List Char} {t : String}
    (read : readOn (some text) cs = some [.literal t]) :
    walk? stop ⟨0, some '\''⟩ cs = some .top := by
  have close (rest : List Char) :
      walk? stop ⟨0, some '\''⟩ ('\'' :: rest) = walk? stop .top rest := by
    simp [walk?, Nesting.next?, Nesting.top]
  generalize state : some text = open? at read
  fun_induction readOn open? cs generalizing text t with
  | case1 | case2 | case3 | case4 => simp_all
  | case5 _ cs ih =>
    have reopen : walk? stop .top ('\'' :: cs) = walk? stop ⟨0, some '\''⟩ cs := by
      simp [walk?, Nesting.next?, Nesting.top, quote]
    rw [close, reopen]
    exact ih rfl read
  | case6 _ rest _ _ =>
    obtain ⟨ts, finished, single⟩ := Option.map_eq_some_iff.1 read
    obtain rfl := (List.cons.inj single).2
    rw [(readOn_eq_nil finished).2, close]
    rfl
  | case7 _ c rest _ other ih =>
    have stay : walk? stop ⟨0, some '\''⟩ (c :: rest) = walk? stop ⟨0, some '\''⟩ rest := by
      simp [walk?, Nesting.next?, Nesting.top, other]
    rw [stay]
    exact ih rfl read

theorem tokens?_literal {s t : String} (read : tokens? s = some [.literal t]) :
    ∃ cs, s.toList = '\'' :: cs ∧ readOn (some []) cs = some [.literal t] := by
  rw [tokens?] at read
  cases opened : s.toList with
  | nil => simp [opened, readOn] at read
  | cons c cs =>
    rw [opened, readOn] at read
    split_ifs at read with quote
    · exact ⟨cs, by rw [quote], read⟩
    · obtain ⟨ts, -, first⟩ := Option.map_eq_some_iff.1 read
      cases (List.cons.inj first).1

theorem walk?_literal (quote : stop '\'' = false) {s t : String}
    (read : tokens? s = some [.literal t]) : walk? stop .top s.toList = some .top := by
  obtain ⟨cs, opened, inside⟩ := tokens?_literal read
  rw [opened, walk?, if_neg (by simp [quote])]
  exact walk?_inside quote inside

/-! ## Parts of a text -/

/-- The parts of a text between the separators at its top. -/
def parts? (sep : Char) : Nesting → List Char → Option (List (List Char))
  | n, [] => if n = .top then some [[]] else none
  | n, c :: cs =>
    if n = .top ∧ c = sep then (parts? sep .top cs).map ([] :: ·)
    else (n.next? c).bind fun n => (parts? sep n cs).map (List.modifyHead (c :: ·))

theorem parts?_of_walk (walk : walk? (· = sep) n cs = some m) (ds : List Char) :
    parts? sep n (cs ++ ds) = (parts? sep m ds).map (List.modifyHead (cs ++ ·)) := by
  induction cs generalizing n with
  | nil =>
    obtain rfl := Option.some.inj walk
    have same : List.modifyHead (([] : List Char) ++ ·) = id := by
      funext ws
      cases ws <;> rfl
    rw [List.nil_append, same, Option.map_id_apply]
  | cons c cs ih =>
    rw [walk?] at walk
    split_ifs at walk with stopped
    obtain ⟨next, step, rest⟩ := Option.bind_eq_some_iff.1 walk
    rw [decide_eq_true_eq] at stopped
    rw [List.cons_append, parts?, if_neg stopped, step, Option.bind_some, ih rest, Option.map_map]
    congr 1
    funext ws
    cases ws <;> rfl

theorem parts?_ne_nil {ws : List (List Char)} (parts : parts? sep n cs = some ws) : ws ≠ [] := by
  induction cs generalizing n ws with
  | nil =>
    rw [parts?] at parts
    split_ifs at parts
    cases parts
    exact List.cons_ne_nil _ _
  | cons c cs ih =>
    rw [parts?] at parts
    split_ifs at parts
    · obtain ⟨vs, -, rfl⟩ := Option.map_eq_some_iff.1 parts
      exact List.cons_ne_nil _ _
    · obtain ⟨next, -, rest⟩ := Option.bind_eq_some_iff.1 parts
      obtain ⟨vs, found, rfl⟩ := Option.map_eq_some_iff.1 rest
      cases vs with
      | nil => exact absurd rfl (ih found)
      | cons v vs => exact List.cons_ne_nil _ _

/-- A separator at the top begins a part, and any other character belongs to the first one. -/
theorem parts?_cases {c : Char} {ws : List (List Char)} (parts : parts? sep n (c :: cs) = some ws) :
    (n = .top ∧ c = sep) ∧ (∃ v vs, parts? sep .top cs = some (v :: vs) ∧ ws = [] :: v :: vs) ∨
      ¬ (n = .top ∧ c = sep) ∧ ∃ next v vs, n.next? c = some next ∧
        parts? sep next cs = some (v :: vs) ∧ ws = (c :: v) :: vs := by
  rw [parts?] at parts
  split_ifs at parts with cut
  · obtain ⟨vs, found, rfl⟩ := Option.map_eq_some_iff.1 parts
    obtain ⟨v, vs, rfl⟩ := List.exists_cons_of_ne_nil (parts?_ne_nil found)
    exact .inl ⟨cut, v, vs, found, rfl⟩
  · obtain ⟨next, step, rest⟩ := Option.bind_eq_some_iff.1 parts
    obtain ⟨vs, found, rfl⟩ := Option.map_eq_some_iff.1 rest
    obtain ⟨v, vs, rfl⟩ := List.exists_cons_of_ne_nil (parts?_ne_nil found)
    exact .inr ⟨cut, next, v, vs, step, found, rfl⟩

/-- By induction on the text: its parts stay as they are when a separator follows. -/
theorem parts?_append {ws : List (List Char)} (parts : parts? sep n cs = some ws) (ds : List Char) :
    parts? sep n (cs ++ sep :: ds) = (parts? sep .top ds).map (ws ++ ·) := by
  induction cs generalizing n ws with
  | nil =>
    rw [parts?] at parts
    split_ifs at parts with ended
    cases parts
    rw [List.nil_append, parts?, if_pos ⟨ended, rfl⟩]
    rfl
  | cons c cs ih =>
    rw [List.cons_append, parts?]
    rcases parts?_cases parts with ⟨cut, v, vs, found, rfl⟩ | ⟨cut, next, v, vs, step, found, rfl⟩
    · rw [if_pos cut, ih found, Option.map_map]
      rfl
    · rw [if_neg cut, step, Option.bind_some, ih found, Option.map_map]
      rfl

/-- Joined again with their separators the parts are the text. -/
theorem parts?_join {ws : List (List Char)} (parts : parts? sep n cs = some ws) :
    [sep].intercalate ws = cs := by
  induction cs generalizing n ws with
  | nil =>
    rw [parts?] at parts
    split_ifs at parts
    cases parts
    rfl
  | cons c cs ih =>
    rcases parts?_cases parts with ⟨cut, v, vs, found, rfl⟩ | ⟨-, next, v, vs, -, found, rfl⟩
    · rw [List.intercalate_cons_cons, ih found, cut.2]
      rfl
    · rw [← ih found]
      cases vs <;> simp

theorem parts?_inj {ws : List (List Char)} (parts : parts? sep n cs = some ws)
    (parts' : parts? sep m ds = some ws) : cs = ds :=
  (parts?_join parts).symm.trans (parts?_join parts')

theorem parts?_solid (walk : walk? (· = sep) .top cs = some .top) :
    parts? sep .top cs = some [cs] := by
  have whole := parts?_of_walk walk []
  rw [List.append_nil] at whole
  rw [whole, parts?, if_pos rfl]
  simp

end QueryDialect.Text
