import QueryDialect.Number.Whole
import QueryDialect.Proofs.Text.Runs

set_option autoImplicit false

/-!
# Runs of digits

A run of digits ends where no digit follows. Padded digits write the number they were made from, and
so do plain ones, which begin with no zero.
-/
namespace QueryDialect.Number

/-- The text does not begin with a digit. -/
def Stops (rest : List Char) : Prop := ∀ c ∈ rest.head?, c.isDigit = false

theorem stops_nil : Stops [] := by
  intro c h
  exact absurd h (Option.not_mem_none c)

theorem stops_cons {c : Char} {rest : List Char} (h : c.isDigit = false) : Stops (c :: rest) := by
  rintro d ⟨⟩
  exact h

theorem digitRun_digits {ds rest : List Char} (digits : ∀ c ∈ ds, c.isDigit = true)
    (stop : Stops rest) : digitRun (ds ++ rest) = (ds, rest) := by
  obtain ⟨run, others⟩ := Text.span_run digits stop
  rw [digitRun, run, others]

theorem readNat?_digits {ds rest : List Char} (nonempty : ds ≠ [])
    (digits : ∀ c ∈ ds, c.isDigit = true) (stop : Stops rest) :
    readNat? (ds ++ rest) = some (ofDigits ds, rest) := by
  rw [readNat?, digitRun_digits digits stop]
  simp [nonempty]

theorem readNat?_eq_some_iff {cs rest : List Char} {n : Nat} :
    readNat? cs = some (n, rest) ↔ ∃ digits, digits ≠ [] ∧ (∀ c ∈ digits, c.isDigit = true) ∧
      Stops rest ∧ cs = digits ++ rest ∧ n = ofDigits digits := by
  constructor
  · intro h
    unfold readNat? digitRun at h
    dsimp only at h
    split_ifs at h with empty
    obtain ⟨rfl, rfl⟩ := Prod.mk.inj (Option.some.inj h)
    refine ⟨_, by simpa using empty, fun c hc => List.mem_takeWhile_imp hc, ?_,
      List.takeWhile_append_dropWhile.symm, rfl⟩
    intro c head
    have past := List.head?_dropWhile_not Char.isDigit cs
    rwa [head] at past
  · rintro ⟨digits, nonempty, all, stop, rfl, rfl⟩
    exact readNat?_digits nonempty all stop

/-! ## The value of a run -/

theorem ofDigits_append (ds es : List Char) :
    ofDigits (ds ++ es) = 10 ^ es.length * ofDigits ds + ofDigits es := by
  rw [ofDigits, Nat.ofDigitChars_append, Nat.ofDigitChars_eq_ofDigitChars_zero]
  rfl

theorem ofDigits_lt {ds : List Char} (digits : ∀ c ∈ ds, c.isDigit = true) :
    ofDigits ds < 10 ^ ds.length := by
  induction ds with
  | nil => decide
  | cons d ds ih =>
    have rest := ih fun c hc => digits c (List.mem_cons_of_mem d hc)
    have range : 48 ≤ d.toNat ∧ d.toNat ≤ 57 := Char.isDigit_iff_toNat.1 (digits d List.mem_cons_self)
    have first : ofDigits [d] ≤ 9 := by
      rw [ofDigits, Nat.ofDigitChars_cons, Nat.ofDigitChars_nil, show '0'.toNat = 48 from rfl]
      omega
    have value := ofDigits_append [d] ds
    have scaled := Nat.mul_le_mul_left (10 ^ ds.length) first
    rw [List.singleton_append] at value
    rw [List.length_cons, Nat.pow_succ]
    omega

/-! ## Digits are no blanks -/

theorem isBlank_digit {c : Char} (h : c.isDigit = true) : Text.isBlank c = false := by
  have range : 48 ≤ c.toNat ∧ c.toNat ≤ 57 := Char.isDigit_iff_toNat.1 h
  refine Text.CharRanges.disjoint [(48, 57)] Text.blankRanges (by decide) ?_
  simp [Text.CharRanges.has, range]

/-! ## Plain digits -/

theorem toDigits_isDigit (n : Nat) : ∀ c ∈ Nat.toDigits 10 n, c.isDigit = true := by
  intro c hc
  exact Nat.isDigit_of_mem_toDigits (by decide) (by decide) hc

/-- A number of more than one digit begins as its tenth does. -/
theorem toDigits_head?_ne_zero {n : Nat} (pos : 1 ≤ n) : '0' ∉ (Nat.toDigits 10 n).head? := by
  induction n using Nat.strong_induction_on with
  | _ n ih =>
    by_cases single : n < 10
    · rw [Nat.toDigits_of_lt_base single]
      interval_cases n <;> decide
    · rw [Nat.toDigits_of_base_le (by decide) (by omega),
        List.head?_append_of_ne_nil _ Nat.toDigits_ne_nil]
      exact ih (n / 10) (by omega) (by omega)

/-- Decimal digits and nothing else, of which the first is no zero, write the number. -/
structure Plain (s : String) (n : Nat) : Prop where
  nonempty : s.toList ≠ []
  digits : ∀ c ∈ s.toList, c.isDigit = true
  leading : '0' ∉ s.toList.head?
  value : ofDigits s.toList = n

theorem toString_toList (n : Nat) : (toString n).toList = Nat.toDigits 10 n := String.toList_ofList

theorem toString_plain {n : Nat} (pos : 1 ≤ n) : Plain (toString n) n := by
  refine ⟨?_, ?_, ?_, ?_⟩ <;> rw [toString_toList]
  · exact Nat.toDigits_ne_nil
  · exact toDigits_isDigit n
  · exact toDigits_head?_ne_zero pos
  · exact ofDigits_toDigits n

/-- The decimal text of an integer: plain digits, behind a minus sign if it is negative, and a single
zero. -/
inductive Canonical : String → Int → Prop
  | zero : Canonical "0" 0
  | positive {s : String} {n : Nat} (pos : 1 ≤ n) (plain : Plain s n) : Canonical s n
  | negative {s : String} {n : Nat} (pos : 1 ≤ n) (plain : Plain s n) : Canonical ("-" ++ s) (-n)

theorem toString_canonical (n : Int) : Canonical (toString n) n := by
  match n with
  | .ofNat 0 => exact .zero
  | .ofNat (m + 1) => exact .positive (Nat.le_add_left 1 m) (toString_plain (Nat.le_add_left 1 m))
  | .negSucc m => exact .negative (Nat.le_add_left 1 m) (toString_plain (Nat.le_add_left 1 m))

theorem Canonical.chars {s : String} {n : Int} (h : Canonical s n) :
    ∀ c ∈ s.toList, c = '-' ∨ c.isDigit = true := by
  intro c hc
  cases h with
  | zero =>
    rw [List.mem_singleton.1 hc]
    exact .inr rfl
  | positive _ plain => exact .inr (plain.digits c hc)
  | negative _ plain =>
    rw [String.toList_append] at hc
    rcases List.mem_append.1 hc with sign | digit
    · exact .inl (List.mem_singleton.1 sign)
    · exact .inr (plain.digits c digit)

/-! ## Signs -/

/-- How the sign of a number is written, if it is. -/
inductive Sign where
  | unsigned
  | plus
  | minus
  deriving DecidableEq, Repr

namespace Sign

def chars : Sign → List Char
  | unsigned => []
  | plus => ['+']
  | minus => ['-']

def signed : Sign → Nat → Int
  | minus, n => -(n : Int)
  | _, n => n

/-- The sign at the front of a text, and what follows it. -/
def split : List Char → Sign × List Char
  | '-' :: cs => (minus, cs)
  | '+' :: cs => (plus, cs)
  | cs => (unsigned, cs)

theorem split_append (cs : List Char) : (split cs).1.chars ++ (split cs).2 = cs := by
  unfold split
  split <;> rfl

theorem split_digit {c : Char} (cs : List Char) (h : c.isDigit = true) :
    split (c :: cs) = (unsigned, c :: cs) := by
  unfold split
  split
  · rename_i first
    cases first
    simp at h
  · rename_i first
    cases first
    simp at h
  · rfl

theorem split_chars (sign : Sign) {digits : List Char} (rest : List Char)
    (nonempty : digits ≠ []) (all : ∀ c ∈ digits, c.isDigit = true) :
    split (sign.chars ++ (digits ++ rest)) = (sign, digits ++ rest) := by
  cases sign with
  | unsigned =>
    obtain ⟨d, ds, rfl⟩ := List.exists_cons_of_ne_nil nonempty
    exact split_digit (ds ++ rest) (all d List.mem_cons_self)
  | plus => rfl
  | minus => rfl

theorem chars_not_blank {sign : Sign} : ∀ c ∈ sign.chars, Text.isBlank c = false := by
  cases sign <;> simp [chars] <;> decide

end Sign

theorem trimLeft_signed {blanks digits : List Char} (sign : Sign) (rest : List Char)
    (blank : ∀ c ∈ blanks, Text.isBlank c = true) (nonempty : digits ≠ [])
    (all : ∀ c ∈ digits, c.isDigit = true) :
    Text.trimLeft (blanks ++ (sign.chars ++ (digits ++ rest))) = sign.chars ++ (digits ++ rest) := by
  refine (Text.span_run blank fun c head => ?_).2
  rw [← List.append_assoc, List.head?_append_of_ne_nil _ (by simp [nonempty])] at head
  rcases List.mem_append.1 (List.mem_of_mem_head? head) with mark | digit
  · exact Sign.chars_not_blank c mark
  · exact isBlank_digit (all c digit)

/-- Blanks apart, the sign and the digits of a number are all that stands before the rest. -/
theorem split_trimLeft {blanks digits : List Char} (sign : Sign) (rest : List Char)
    (blank : ∀ c ∈ blanks, Text.isBlank c = true) (nonempty : digits ≠ [])
    (all : ∀ c ∈ digits, c.isDigit = true) :
    Sign.split (Text.trimLeft (blanks ++ (sign.chars ++ (digits ++ rest)))) =
      (sign, digits ++ rest) := by
  rw [trimLeft_signed sign rest blank nonempty all, Sign.split_chars sign rest nonempty all]

/-! ## Padded digits -/

theorem padded_toList (width n : Nat) : (padded width n).toList =
    List.replicate (width - (Nat.toDigits 10 n).length) '0' ++ Nat.toDigits 10 n :=
  String.toList_ofList

theorem padded_isDigit (width n : Nat) : ∀ c ∈ (padded width n).toList, c.isDigit = true := by
  intro c hc
  rw [padded_toList, List.mem_append] at hc
  rcases hc with zero | digit
  · rw [List.eq_of_mem_replicate zero]
    rfl
  · exact toDigits_isDigit n c digit

theorem ofDigits_padded (width n : Nat) : ofDigits (padded width n).toList = n := by
  rw [padded_toList, ofDigits, Nat.ofDigitChars_append, Nat.ofDigitChars_replicate_zero,
    Nat.mul_zero, Nat.ofDigitChars_ten_toDigits]

theorem padded_length {width n : Nat} (pos : 0 < width) (h : n < 10 ^ width) :
    (padded width n).toList.length = width := by
  have := (Nat.length_toDigits_le_iff (by decide : 1 < 10) pos).2 h
  rw [padded_toList, List.length_append, List.length_replicate]
  omega

theorem padded_ne_nil (width n : Nat) : (padded width n).toList ≠ [] := by
  rw [padded_toList]
  exact List.append_ne_nil_of_right_ne_nil _ Nat.toDigits_ne_nil

end QueryDialect.Number
