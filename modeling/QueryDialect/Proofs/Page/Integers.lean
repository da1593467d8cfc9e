import QueryDialect.Page
import QueryDialect.Proofs.Number.Digits

set_option autoImplicit false

/-!
# The integers of a page

A limit and an offset are read through signed 64-bit integers, whatever document they come from. So
a positive number is kept up to the greatest of these integers. Beyond it a number is cut down to
that integer, and its decimal text is no integer at all.
-/
namespace QueryDialect

open Number

/-! ## Leading integers -/

theorem readMagnitude?_le {cs : List Char} {n : Nat} (h : readMagnitude? cs = some n) :
    (n : Int) ≤ int64Max := by
  simpa using (Option.filter_eq_some_iff.1 h).2

theorem leadingIntegerOfText?_fits {s : String} {n : Int} (h : leadingIntegerOfText? s = some n) :
    FitsInt64 n := by
  have bounds {cs : List Char} {m : Int} (read : (do return ↑(← readMagnitude? cs)) = some m) :
      0 ≤ m ∧ m ≤ int64Max := by
    obtain ⟨k, magnitude, same⟩ := Option.bind_eq_some_iff.1 read
    obtain rfl := Option.some.inj same
    exact ⟨Int.natCast_nonneg k, readMagnitude?_le magnitude⟩
  unfold leadingIntegerOfText? at h
  split at h <;> obtain ⟨m, read, rfl⟩ := Option.map_eq_some_iff.1 h <;>
    have := bounds read <;> simp only [FitsInt64, int64Min, int64Max] at * <;> omega

theorem leadingInteger?_fits {d : Document} {n : Int} (h : leadingInteger? d = some n) :
    FitsInt64 n := by
  cases d with
  | int m =>
    obtain rfl := Option.some.inj h
    exact clampInt64_fits m
  | float x =>
    obtain ⟨-, same⟩ := Option.ite_none_right_eq_some.1 h
    obtain rfl := Option.some.inj same
    exact clampInt64_fits _
  | string s => exact leadingIntegerOfText?_fits h
  | null | bool | array | object => cases h

theorem leadingInteger?_toNat {d : Document} {n : Int} (h : leadingInteger? d = some n)
    (positive : 0 < n) : 1 ≤ n.toNat ∧ (n.toNat : Int) ≤ int64Max := by
  have fits := leadingInteger?_fits h
  simp only [FitsInt64, int64Min, int64Max] at *
  omega

theorem leadingInteger?_number {n : Nat} :
    leadingInteger? (.ofNat n) = some (min (n : Int) int64Max) := by
  simp only [Document.ofNat, leadingInteger?, clampInt64, int64Min, int64Max, Option.some.injEq]
  omega

theorem readMagnitude?_digits {ds : List Char} (nonempty : ds ≠ [])
    (digits : ∀ c ∈ ds, c.isDigit = true) :
    readMagnitude? ds =
      if (ofDigits ds : Int) ≤ int64Max then some (ofDigits ds) else none := by
  have read := readNat?_digits nonempty digits stops_nil
  rw [List.append_nil] at read
  rw [readMagnitude?, read]
  simp [Option.filter_some]

theorem leadingIntegerOfText?_eq (s : String) : leadingIntegerOfText? s =
    (readMagnitude? (Sign.split (Text.trimLeft s.toList)).2).map
      (Sign.split (Text.trimLeft s.toList)).1.signed := by
  unfold leadingIntegerOfText?
  generalize Text.trimLeft s.toList = cs
  unfold Sign.split
  split <;> cases h : readMagnitude? _ <;> simp_all [Sign.signed]

theorem leadingIntegerOfText?_digits {s : String} (nonempty : s.toList ≠ [])
    (digits : ∀ c ∈ s.toList, c.isDigit = true) : leadingIntegerOfText? s =
      if (ofDigits s.toList : Int) ≤ int64Max then some (ofDigits s.toList : Int) else none := by
  have split : Sign.split (Text.trimLeft s.toList) = (.unsigned, s.toList) := by
    simpa [Sign.chars] using
      @split_trimLeft [] _ .unsigned [] (List.forall_mem_nil _) nonempty digits
  rw [leadingIntegerOfText?_eq, split, readMagnitude?_digits nonempty digits]
  split_ifs <;> rfl

theorem leadingInteger?_decimal (n : Nat) : leadingInteger? (.string (toString n)) =
    if (n : Int) ≤ int64Max then some (n : Int) else none := by
  have text := toString_toList n
  have read := leadingIntegerOfText?_digits (s := toString n) (text ▸ Nat.toDigits_ne_nil)
    (text ▸ toDigits_isDigit n)
  rw [text, ofDigits_toDigits] at read
  exact read

/-! ## Limits -/

namespace RowLimit

theorem resolve_eq_none_iff (l : RowLimit) : l.resolve = none ↔ l = unlimited ∨ l = value .null := by
  cases l with
  | unset | unlimited => simp [resolve]
  | value d =>
    cases d with
    | null => simp [resolve]
    | _ => simp only [resolve]; split <;> simp

theorem resolve_of_integer {d : Document} {n : Int} (h : leadingInteger? d = some n) :
    (value d).resolve = some (if 0 < n then n.toNat else defaultRowLimit) := by
  cases d with
  | null => cases h
  | _ => simp only [resolve, h]

theorem resolve_of_none {d : Document} (nonnull : d ≠ .null) (h : leadingInteger? d = none) :
    (value d).resolve = some defaultRowLimit := by
  cases d with
  | null => exact absurd rfl nonnull
  | _ => simp only [resolve, h]

/-- A limit other than the default is the integer of its document. -/
theorem integer_of_resolve {d : Document} {n : Nat} (h : (value d).resolve = some n)
    (other : n ≠ defaultRowLimit) : ∃ m, leadingInteger? d = some m ∧ 0 < m ∧ n = m.toNat := by
  cases read : leadingInteger? d with
  | none =>
    by_cases null : d = .null
    · subst null
      cases h
    · rw [resolve_of_none null read] at h
      exact absurd (Option.some.inj h).symm other
  | some m =>
    rw [resolve_of_integer read] at h
    obtain rfl := Option.some.inj h
    by_cases positive : 0 < m
    · exact ⟨m, rfl, positive, if_pos positive⟩
    · exact absurd (if_neg positive) other

theorem resolve_range {l : RowLimit} {n : Nat} (h : l.resolve = some n) :
    1 ≤ n ∧ (n : Int) ≤ int64Max := by
  have default : 1 ≤ defaultRowLimit ∧ (defaultRowLimit : Int) ≤ int64Max := by decide
  cases l with
  | unset => exact Option.some.inj h ▸ default
  | unlimited => cases h
  | value d =>
    by_cases same : n = defaultRowLimit
    · exact same ▸ default
    · obtain ⟨m, read, positive, rfl⟩ := integer_of_resolve h same
      exact leadingInteger?_toNat read positive

end RowLimit

/-! ## Offsets -/

namespace Page

variable {p : Page} {d : Document} {n : Nat}

theorem skip_of_integer {m : Int} (given : p.offset = some d) (truthy : isFalsy d = false)
    (read : leadingInteger? d = some m) (positive : 0 < m) : p.skip = .ok (some m.toNat) := by
  unfold skip
  simp only [given, truthy, read, Bool.false_eq_true, if_false]
  rw [if_neg (by omega), if_neg (by omega)]

theorem skip_of_none (given : p.offset = some d) (truthy : isFalsy d = false)
    (read : leadingInteger? d = none) : p.skip = .error (.offsetNotInteger d) := by
  unfold skip
  simp only [given, truthy, read, Bool.false_eq_true, if_false]

theorem skip_of_falsy (given : p.offset = some d) (falsy : isFalsy d = true) :
    p.skip = .ok none := by
  simp [skip, given, falsy]

theorem skip_of_negative {m : Int} (given : p.offset = some d) (truthy : isFalsy d = false)
    (read : leadingInteger? d = some m) (negative : m < 0) :
    p.skip = .error (.negativeOffset m) := by
  simp [skip, given, truthy, read, negative]

theorem skip_of_zero (given : p.offset = some d) (truthy : isFalsy d = false)
    (read : leadingInteger? d = some 0) : p.skip = .ok none := by
  simp [skip, given, truthy, read]

/-- Rows are skipped for a positive integer only, and what is no integer or negative is refused. -/
theorem skip_cases (p : Page) :
    p.skip = .ok none ∨
      (∃ d m, p.offset = some d ∧ leadingInteger? d = some m ∧ 0 < m ∧
        p.skip = .ok (some m.toNat)) ∨
      (∃ m, p.skip = .error (.negativeOffset m)) ∨
      ∃ d, p.skip = .error (.offsetNotInteger d) := by
  cases given : p.offset with
  | none => exact .inl (by simp only [skip, given])
  | some d =>
    cases falsy : isFalsy d with
    | true => exact .inl (skip_of_falsy given falsy)
    | false =>
      cases read : leadingInteger? d with
      | none => exact .inr (.inr (.inr ⟨d, skip_of_none given falsy read⟩))
      | some m =>
        rcases lt_trichotomy m 0 with negative | rfl | positive
        · exact .inr (.inr (.inl ⟨m, skip_of_negative given falsy read negative⟩))
        · exact .inl (skip_of_zero given falsy read)
        · exact .inr (.inl ⟨d, m, rfl, read, positive, skip_of_integer given falsy read positive⟩)

theorem integer_of_skip (given : p.offset = some d) (h : p.skip = .ok (some n)) :
    ∃ m, leadingInteger? d = some m ∧ 0 < m ∧ n = m.toNat := by
  rcases skip_cases p with
    nothing | ⟨d', m, given', read, positive, skips⟩ | ⟨_, refused⟩ | ⟨_, refused⟩
  · cases nothing.symm.trans h
  · obtain rfl := Option.some.inj (given.symm.trans given')
    exact ⟨m, read, positive, (Option.some.inj (Except.ok.inj (skips.symm.trans h))).symm⟩
  · cases refused.symm.trans h
  · cases refused.symm.trans h

theorem skip_refused_iff (given : p.offset = some d) : (∃ e, p.skip = .error e) ↔
    isFalsy d = false ∧ (leadingInteger? d = none ∨ ∃ m, leadingInteger? d = some m ∧ m < 0) := by
  cases falsy : isFalsy d with
  | true => simp [skip_of_falsy given falsy]
  | false =>
    cases read : leadingInteger? d with
    | none => simp [skip_of_none given falsy read]
    | some m =>
      rcases lt_trichotomy m 0 with negative | rfl | positive
      · simp [skip_of_negative given falsy read negative, negative]
      · simp [skip_of_zero given falsy read]
      · simp [skip_of_integer given falsy read positive, positive.le]

theorem skip_range (h : p.skip = .ok (some n)) : 1 ≤ n ∧ (n : Int) ≤ int64Max := by
  rcases skip_cases p with nothing | ⟨_, m, _, read, positive, skips⟩ | ⟨_, refused⟩ | ⟨_, refused⟩
  · cases nothing.symm.trans h
  · obtain rfl := Option.some.inj (Except.ok.inj (skips.symm.trans h))
    exact leadingInteger?_toNat read positive
  · cases refused.symm.trans h
  · cases refused.symm.trans h

theorem skip_error_kind {e : Error} (h : p.skip = .error e) : e.kind = .page := by
  rcases skip_cases p with nothing | ⟨_, _, _, _, _, skips⟩ | ⟨_, refused⟩ | ⟨_, refused⟩
  · cases nothing.symm.trans h
  · cases skips.symm.trans h
  · obtain rfl := Except.error.inj (refused.symm.trans h)
    rfl
  · obtain rfl := Except.error.inj (refused.symm.trans h)
    rfl

end Page

/-! ## Spellings of a number -/

def limitSpellings (n : Nat) : List RowLimit :=
  [.rows n, .value (.ofNat n), .value (.string (toString n))]

def offsetSpellings (n : Nat) : List Document := [.ofNat n, .string (toString n)]

/-- However the number is spelled, it is the limit and the offset, and so it is written. -/
structure KeepsNumber (n : Nat) : Prop where
  limit (p : Page) (spelled : p.rowLimit ∈ limitSpellings n) :
    p.limit = some n ∧ p.limitClause = " LIMIT " ++ toString n
  offset (p : Page) (d : Document) (given : p.offset = some d) (spelled : d ∈ offsetSpellings n) :
    p.skip = .ok (some n) ∧ p.offsetClause = .ok (" OFFSET " ++ toString n)

/-- A number is cut down to the greatest integer, and a text is not read. -/
structure CutsNumber (n : Nat) : Prop where
  number (p : Page) (given : p.rowLimit = .rows n) : p.limit = some (2 ^ 63 - 1)
  text (p : Page) (given : p.rowLimit = .value (.string (toString n))) : p.limit = some 10000
  offsetNumber (p : Page) (given : p.offset = some (.ofNat n)) : p.skip = .ok (some (2 ^ 63 - 1))
  offsetText (p : Page) (given : p.offset = some (.string (toString n))) :
    p.skip = .error (.offsetNotInteger (.string (toString n)))

variable {n : Nat}

theorem leadingInteger?_spelling {d : Document} (spelled : d ∈ offsetSpellings n)
    (small : (n : Int) ≤ int64Max) : leadingInteger? d = some (n : Int) := by
  simp only [offsetSpellings, List.mem_cons, List.not_mem_nil, or_false] at spelled
  rcases spelled with rfl | rfl
  · rw [leadingInteger?_number, min_eq_left small]
  · rw [leadingInteger?_decimal, if_pos small]

theorem spelling_truthy {d : Document} (spelled : d ∈ offsetSpellings n) (pos : 1 ≤ n) :
    isFalsy d = false := by
  simp only [offsetSpellings, List.mem_cons, List.not_mem_nil, or_false] at spelled
  rcases spelled with rfl | rfl
  · simp only [Document.ofNat, isFalsy, beq_eq_false_iff_ne]
    omega
  · simp only [isFalsy, Bool.eq_false_iff, ne_eq, String.isEmpty_iff]
    intro empty
    have digits := toString_toList n
    rw [empty] at digits
    exact Nat.toDigits_ne_nil digits.symm

theorem keepsNumber (pos : 1 ≤ n) (small : (n : Int) ≤ int64Max) : KeepsNumber n := by
  constructor
  · intro p spelled
    have limit : p.limit = some n := by
      obtain ⟨d, given, spelling⟩ : ∃ d, p.rowLimit = .value d ∧ d ∈ offsetSpellings n := by
        simp only [limitSpellings, List.mem_cons, List.not_mem_nil, or_false] at spelled
        rcases spelled with given | given | given <;>
          exact ⟨_, given, by simp [offsetSpellings]⟩
      rw [Page.limit, given, RowLimit.resolve_of_integer (leadingInteger?_spelling spelling small),
        if_pos (by omega), Int.toNat_natCast]
    refine ⟨limit, ?_⟩
    rw [Page.limitClause, limit]
    rfl
  · intro p d given spelled
    have skip := Page.skip_of_integer given (spelling_truthy spelled pos)
      (leadingInteger?_spelling spelled small) (by omega)
    rw [Int.toNat_natCast] at skip
    refine ⟨skip, ?_⟩
    rw [Page.offsetClause, skip]
    rfl

theorem cutsNumber (large : int64Max < n) : CutsNumber n := by
  have pos : 1 ≤ n := by
    simp only [int64Max] at large
    omega
  have number : leadingInteger? (.ofNat n) = some int64Max := by
    rw [leadingInteger?_number, min_eq_right large.le]
  have text : leadingInteger? (.string (toString n)) = none := by
    rw [leadingInteger?_decimal, if_neg (not_le.2 large)]
  constructor
  · intro p given
    rw [Page.limit, given, RowLimit.rows, RowLimit.resolve_of_integer number]
    rfl
  · intro p given
    rw [Page.limit, given, RowLimit.resolve_of_none Document.noConfusion text]
    rfl
  · intro p given
    exact Page.skip_of_integer given (spelling_truthy (by simp [offsetSpellings]) pos) number
      (by decide)
  · intro p given
    exact Page.skip_of_none given (spelling_truthy (by simp [offsetSpellings]) pos) text

/-- The greatest signed 64-bit integer is the last number that is kept. -/
theorem keepsNumber_iff (n : Nat) (pos : 1 ≤ n) :
    (KeepsNumber n ↔ n ≤ 2 ^ 63 - 1) ∧ (2 ^ 63 - 1 < n → CutsNumber n) := by
  have max : (n : Int) ≤ int64Max ↔ n ≤ 2 ^ 63 - 1 := by
    simp only [int64Max]
    omega
  refine ⟨⟨fun kept => ?_, fun small => keepsNumber pos (max.2 small)⟩, fun large => ?_⟩
  · obtain ⟨limit, -⟩ := kept.limit { rowLimit := .rows n } (by simp [limitSpellings])
    exact max.1 (RowLimit.resolve_range limit).2
  · exact cutsNumber (not_le.1 (max.not.2 (not_le.2 large)))

theorem keepsNumber_iff_greatest :
    (1 ≤ 9223372036854775807 ∧ KeepsNumber 9223372036854775807) ∧
      1 ≤ 9223372036854775808 ∧ ¬ KeepsNumber 9223372036854775808 ∧
        CutsNumber 9223372036854775808 := by
  obtain ⟨kept, -⟩ := keepsNumber_iff 9223372036854775807 (by decide)
  obtain ⟨kept', cut⟩ := keepsNumber_iff 9223372036854775808 (by decide)
  exact ⟨⟨by decide, kept.2 (by decide)⟩, by decide, kept'.not.2 (by decide), cut (by decide)⟩

/-- The cap of one more row than the greatest integer is not kept, although a cap may be any word. -/
theorem not_keepsNumber_word : ¬ ∀ n, 1 ≤ n → n ≤ word64Max → KeepsNumber n := by
  intro kept
  obtain ⟨limit, -⟩ := (kept 9223372036854775808 (by decide) (by decide)).limit
    { rowLimit := .rows 9223372036854775808 } (by simp [limitSpellings])
  exact absurd (RowLimit.resolve_range limit).2 (by decide)

end QueryDialect
