import QueryDialect.Proofs.Number.Truncation
import QueryDialect.Proofs.Page.Integers
import QueryDialect.Proofs.Text.Cuts

set_option autoImplicit false

/-!
# The integer that a limit and an offset share

A limit and an offset read the same integer from a document. A text has one where blanks, at most one
sign and a run of digits begin it, and what follows the run has no part in it. To read the text by
bytes comes to the same, since no cut falls within a character. The two differ where there is no
positive integer: the limit is then the default, and an offset is refused or skips nothing.
-/
namespace QueryDialect

open Number Text

/-! ## Texts that begin with an integer -/

/-- Behind its blanks the text begins with the sign and these digits, which no digit follows. -/
structure Leads (s : String) (sign : Sign) (digits : List Char) : Prop where
  nonempty : digits ≠ []
  all : ∀ c ∈ digits, c.isDigit = true
  text : ∃ blanks rest, (∀ c ∈ blanks, isBlank c = true) ∧ Stops rest ∧
    s.toList = blanks ++ (sign.chars ++ (digits ++ rest))

theorem readMagnitude?_eq_some_iff {cs : List Char} {n : Nat} : readMagnitude? cs = some n ↔
    ∃ digits rest, digits ≠ [] ∧ (∀ c ∈ digits, c.isDigit = true) ∧ Stops rest ∧
      cs = digits ++ rest ∧ n = ofDigits digits ∧ (n : Int) ≤ int64Max := by
  rw [readMagnitude?, Option.filter_eq_some_iff, Option.map_eq_some_iff]
  constructor
  · rintro ⟨⟨⟨n', rest⟩, read, rfl⟩, small⟩
    obtain ⟨digits, nonempty, all, stop, same, value⟩ := readNat?_eq_some_iff.1 read
    exact ⟨digits, rest, nonempty, all, stop, same, value, by simpa using small⟩
  · rintro ⟨digits, rest, nonempty, all, stop, rfl, rfl, small⟩
    exact ⟨⟨_, readNat?_digits nonempty all stop, rfl⟩, by simpa using small⟩

theorem leadingIntegerOfText?_eq_some_iff {s : String} {k : Int} :
    leadingIntegerOfText? s = some k ↔ ∃ sign digits, Leads s sign digits ∧
      ofDigits digits ≤ 2 ^ 63 - 1 ∧ k = sign.signed (ofDigits digits) := by
  have max (n : Nat) : (n : Int) ≤ int64Max ↔ n ≤ 2 ^ 63 - 1 := by
    simp only [int64Max]
    omega
  rw [leadingIntegerOfText?_eq, Option.map_eq_some_iff]
  constructor
  · rintro ⟨n, magnitude, rfl⟩
    obtain ⟨digits, rest, nonempty, all, stop, text, rfl, small⟩ :=
      readMagnitude?_eq_some_iff.1 magnitude
    refine ⟨_, digits, ⟨nonempty, all, s.toList.takeWhile isBlank, rest,
      fun c hc => List.mem_takeWhile_imp hc, stop, ?_⟩, (max _).1 small, rfl⟩
    rw [← text, Sign.split_append]
    exact List.takeWhile_append_dropWhile.symm
  · rintro ⟨sign, digits, ⟨nonempty, all, blanks, rest, blank, stop, text⟩, small, rfl⟩
    rw [text, split_trimLeft sign rest blank nonempty all]
    exact ⟨_, readMagnitude?_eq_some_iff.2
      ⟨digits, rest, nonempty, all, stop, rfl, rfl, (max _).2 small⟩, rfl⟩

/-! ## Reading by bytes -/

def Number.Sign.factor : Sign → Int
  | .minus => -1
  | _ => 1

/-- The factor of the sign at the front, which is known by its byte and cut off behind it. -/
def cutSign? (cs : List Char) : Option (Int × List Char) :=
  let first := (bytes (String.ofList cs)).head?
  if first = some '-'.val.toUInt8 then (cutAt? 1 cs).map fun (_, rest) => (-1, rest)
  else if first = some '+'.val.toUInt8 then (cutAt? 1 cs).map fun (_, rest) => (1, rest)
  else some (1, cs)

/-- The number of a run of digits, if there is one and it fits. -/
def runValue? (run : List Char) : Option Nat :=
  if run.isEmpty then none
  else if (ofDigits run : Int) ≤ int64Max then some (ofDigits run) else none

def product? (a b : Int) : Option Int := if FitsInt64 (a * b) then some (a * b) else none

/-- The integer at the front of a text that is read by bytes. There is no answer where a cut falls
within a character or a product does not fit. -/
def integerByBytes? (s : String) : Option (Option Int) := do
  let (factor, digits) ← cutSign? (trimLeft s.toList)
  let (run, _) ← cutAt? (findByte (fun c => !c.isDigit) digits) digits
  match runValue? run with
  | none => return none
  | some n => return some (← product? factor n)

theorem cutSign?_eq (cs : List Char) :
    cutSign? cs = some ((Sign.split cs).1.factor, (Sign.split cs).2) := by
  cases cs with
  | nil => simp [cutSign?, bytes_eq, Sign.split, Sign.factor]
  | cons c cs =>
    have first {d : Char} (ascii : d.toNat ≤ 127) :=
      bytes_head?_cons (String.toList_ofList (l := c :: cs)) ascii
    by_cases isMinus : c = '-'
    · subst isMinus
      have cut : cutAt? 1 ('-' :: cs) = some (['-'], cs) := cutAt?_append ['-'] cs
      rw [cutSign?, if_pos ((first (by decide)).2 rfl), cut]
      rfl
    · by_cases isPlus : c = '+'
      · subst isPlus
        have cut : cutAt? 1 ('+' :: cs) = some (['+'], cs) := cutAt?_append ['+'] cs
        rw [cutSign?, if_neg ((first (by decide)).not.2 isMinus),
          if_pos ((first (by decide)).2 rfl), cut]
        rfl
      · rw [cutSign?, if_neg ((first (by decide)).not.2 isMinus),
          if_neg ((first (by decide)).not.2 isPlus)]
        unfold Sign.split
        split <;> simp_all [Sign.factor]

theorem runValue?_eq (cs : List Char) :
    runValue? (cs.takeWhile Char.isDigit) = readMagnitude? cs := by
  unfold runValue? readMagnitude? readNat? digitRun
  dsimp only
  by_cases empty : (cs.takeWhile Char.isDigit).isEmpty = true
  · simp [empty]
  · simp [empty, Option.filter_some]

theorem product?_eq {n : Nat} (sign : Sign) (small : (n : Int) ≤ int64Max) :
    product? sign.factor n = some (sign.signed n) := by
  have same : sign.factor * n = sign.signed n := by
    cases sign <;> simp [Sign.factor, Sign.signed]
  have fits : FitsInt64 (sign.signed n) := by
    cases sign <;> simp only [FitsInt64, int64Min, int64Max, Sign.signed] at * <;> omega
  rw [product?, same, if_pos fits]

theorem integerByBytes?_eq (s : String) : integerByBytes? s = some (leadingIntegerOfText? s) := by
  rw [leadingIntegerOfText?_eq, integerByBytes?, cutSign?_eq, Option.bind_eq_bind, Option.bind_some]
  dsimp only
  rw [cutAt?_findByte, Option.bind_eq_bind, Option.bind_some]
  simp only [Bool.not_not, runValue?_eq]
  cases magnitude : readMagnitude? (Sign.split (trimLeft s.toList)).2 with
  | none => rfl
  | some n =>
    dsimp only
    rw [product?_eq _ (readMagnitude?_le magnitude)]
    rfl

/-! ## Documents that have an integer -/

/-- The integer of a text begins it. A number is cut off behind its point, and beyond the signed 64-bit
integers the nearest of them is its integer. -/
inductive HasInteger : Document → Int → Prop
  | text {s : String} {sign : Sign} {digits : List Char} (leads : Leads s sign digits)
      (small : ofDigits digits ≤ 2 ^ 63 - 1) :
      HasInteger (.string s) (sign.signed (ofDigits digits))
  | int {n k : Int} (nearest : Saturates n k) : HasInteger (.int n) k
  | float {x : Float} {v : ℚ} {t k : Int} (encoded : Encodes x.toBits.toNat v)
      (whole : Truncates v t) (nearest : Saturates t k) : HasInteger (.float x) k

inductive Falsy : Document → Prop
  | null : Falsy .null
  | false : Falsy (.bool false)
  | zero : Falsy (.int 0)
  | floatZero {x : Float} (zero : Encodes x.toBits.toNat 0) : Falsy (.float x)
  | empty : Falsy (.string "")

theorem leadingInteger?_eq_some_iff {d : Document} {k : Int} :
    leadingInteger? d = some k ↔ HasInteger d k := by
  constructor
  · intro h
    cases d with
    | int n => exact .int (saturates_iff.2 (Option.some.inj h))
    | float x =>
      obtain ⟨finite, value⟩ : isFinite x = true ∧ clampInt64 (truncate x) = k := by
        simpa [leadingInteger?] using h
      exact .float (encodes_float_iff.2 ⟨finite, rfl⟩) (truncates_truncate x) (saturates_iff.2 value)
    | string s =>
      obtain ⟨sign, digits, leads, small, rfl⟩ := leadingIntegerOfText?_eq_some_iff.1 h
      exact .text leads small
    | null | bool | array | object => cases h
  · intro h
    cases h with
    | text leads small => exact leadingIntegerOfText?_eq_some_iff.2 ⟨_, _, leads, small, rfl⟩
    | int nearest => exact congrArg some (saturates_iff.1 nearest)
    | float encoded whole nearest =>
      obtain ⟨finite, rfl⟩ := encodes_float_iff.1 encoded
      obtain rfl := (truncates_truncate _).unique whole
      rw [leadingInteger?, if_pos finite, saturates_iff.1 nearest]

theorem leadingInteger?_eq_none_iff {d : Document} :
    leadingInteger? d = none ↔ ∀ k, ¬ HasInteger d k := by
  simp [Option.eq_none_iff_forall_ne_some, leadingInteger?_eq_some_iff]

theorem isFalsy_iff {d : Document} : isFalsy d = true ↔ Falsy d := by
  constructor
  · intro h
    cases d with
    | null => exact .null
    | bool b =>
      cases b with
      | false => exact .false
      | true => cases h
    | int n =>
      obtain rfl : n = 0 := by simpa [isFalsy] using h
      exact .zero
    | float x => exact .floatZero (encodes_zero_iff.2 h)
    | string s =>
      obtain rfl : s = "" := by simpa [isFalsy] using h
      exact .empty
    | array | object => cases h
  · intro h
    cases h with
    | floatZero zero => exact encodes_zero_iff.1 zero
    | null | false | zero | empty => rfl

/-- A falsy document has no integer but zero. -/
theorem Falsy.integer {d : Document} {k : Int} (falsy : Falsy d) (h : leadingInteger? d = some k) :
    k = 0 := by
  cases falsy with
  | null => cases h
  | «false» => cases h
  | zero => exact (Option.some.inj h).symm
  | floatZero zero =>
    obtain ⟨finite, -⟩ := encodes_float_iff.1 zero
    rw [leadingInteger?, if_pos finite, truncate_eq_zero_of_isZero (encodes_zero_iff.1 zero)] at h
    exact (Option.some.inj h).symm
  | empty => cases h

theorem truthy_of_integer {d : Document} {k : Int} (h : leadingInteger? d = some k) (nonzero : k ≠ 0) :
    isFalsy d = false := by
  rw [Bool.eq_false_iff]
  intro falsy
  exact nonzero ((isFalsy_iff.1 falsy).integer h)

/-! ## Limits and offsets of one document -/

/-- What a page reads from the document as its limit agrees with what a page reads from it as its
offset. -/
structure SharesInteger (d : Document) : Prop where
  integer_iff (k : Int) : leadingInteger? d = some k ↔ HasInteger d k
  skips_iff (p : Page) (n : Nat) (offset : p.offset = some d) :
    p.skip = .ok (some n) ↔ 0 < n ∧ HasInteger d n
  limit_of_skip (p q : Page) (n : Nat) (offset : p.offset = some d) (limit : q.rowLimit = .value d)
    (h : p.skip = .ok (some n)) : q.limit = some n
  skip_of_limit (p q : Page) (n : Nat) (offset : p.offset = some d) (limit : q.rowLimit = .value d)
    (h : q.limit = some n) (other : n ≠ 10000) : p.skip = .ok (some n)
  refused_iff (p : Page) (offset : p.offset = some d) : (∃ e, p.skip = .error e) ↔
    ¬ Falsy d ∧ ((∀ k, ¬ HasInteger d k) ∨ ∃ k, HasInteger d k ∧ k < 0)

theorem sharesInteger (d : Document) : SharesInteger d where
  integer_iff _ := leadingInteger?_eq_some_iff
  skips_iff p n offset := by
    rw [← leadingInteger?_eq_some_iff]
    constructor
    · intro h
      obtain ⟨m, read, positive, rfl⟩ := Page.integer_of_skip offset h
      rw [Int.toNat_of_nonneg positive.le]
      exact ⟨by omega, read⟩
    · rintro ⟨positive, read⟩
      exact Page.skip_of_integer offset (truthy_of_integer read (by omega)) read (by omega)
  limit_of_skip p q n offset limit h := by
    obtain ⟨m, read, positive, rfl⟩ := Page.integer_of_skip offset h
    rw [Page.limit, limit, RowLimit.resolve_of_integer read, if_pos positive]
  skip_of_limit p q n offset limit h other := by
    rw [Page.limit, limit] at h
    obtain ⟨m, read, positive, rfl⟩ := RowLimit.integer_of_resolve h other
    exact Page.skip_of_integer offset (truthy_of_integer read positive.ne') read positive
  refused_iff p offset := by
    rw [← isFalsy_iff, ← leadingInteger?_eq_none_iff]
    simp only [← leadingInteger?_eq_some_iff, Bool.not_eq_true]
    exact Page.skip_refused_iff offset

/-- What a text is read as, whether by characters or by bytes. -/
structure ReadsInteger (s : String) : Prop where
  integer_iff (k : Int) : leadingInteger? (.string s) = some k ↔ ∃ sign digits,
    Leads s sign digits ∧ ofDigits digits ≤ 2 ^ 63 - 1 ∧ k = sign.signed (ofDigits digits)
  fits (k : Int) (h : leadingInteger? (.string s) = some k) : FitsInt64 k
  byBytes : integerByBytes? s = some (leadingInteger? (.string s))

/-- A text has the integer that begins it, every cut of the text falls between characters, and a
limit and an offset read that integer alike. -/
theorem integer_shared : (∀ s, ReadsInteger s) ∧ ∀ d, SharesInteger d :=
  ⟨fun s => ⟨fun _ => leadingIntegerOfText?_eq_some_iff, fun _ => leadingInteger?_fits,
    integerByBytes?_eq s⟩, sharesInteger⟩

/-- An offset below zero, a limit and an offset with a fraction, and an offset beyond the integers. -/
theorem integer_shared_numbers :
    (∃ e, Page.skip { offset := some (.int (-5)) } = .error e) ∧
      Page.skip { offset := some (.float 12.9) } = .ok (some 12) ∧
      Page.limit { rowLimit := .value (.float 12.9) } = some 12 ∧
      Page.skip { offset := some (.int (2 ^ 63)) } = .ok (some (2 ^ 63 - 1)) := by
  obtain ⟨-, shared⟩ := integer_shared
  have negative : HasInteger (.int (-5)) (-5) := .int (.within (by decide) (by decide))
  have encoded : Encodes (12.9 : Float).toBits.toNat ((-1) ^ 0 *
      ((2 ^ 52 + (2758454771764429 : ℕ)) * 2 ^ (((1026 : ℕ) : ℤ) - 1075))) :=
    .normal ⟨by decide, by decide, by decide, by decide +kernel⟩ (by decide) (by decide)
  have fraction : HasInteger (.float 12.9) (12 : ℕ) :=
    .float encoded (.positive (by norm_num) (by norm_num) (by norm_num))
      (.within (by decide) (by decide))
  have beyond : HasInteger (.int (2 ^ 63)) (2 ^ 63 - 1 : ℕ) := .int (.above (by decide))
  have skipped : Page.skip { offset := some (.float 12.9) } = .ok (some 12) :=
    ((shared _).skips_iff _ _ rfl).2 ⟨by decide, fraction⟩
  refine ⟨?_, skipped, ?_, ?_⟩
  · exact ((shared _).refused_iff _ rfl).2 ⟨nofun, .inr ⟨_, negative, by decide⟩⟩
  · exact (shared _).limit_of_skip _ _ _ rfl rfl skipped
  · exact ((shared _).skips_iff _ _ rfl).2 ⟨by decide, beyond⟩

example : leadingInteger? (.string "\u2003-007½") = some (-7) ∧
    leadingInteger? (.string "+-7") = none := by decide +kernel

end QueryDialect
