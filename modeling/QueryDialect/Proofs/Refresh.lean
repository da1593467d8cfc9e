import QueryDialect.Dialect.Engine
import QueryDialect.Proofs.Interval.Grammar
import QueryDialect.Proofs.Outcome
import QueryDialect.Refresh

set_option autoImplicit false

/-!
# Resolved refresh policies

Each part of a policy is the configured one if it is set, and that of the dialect otherwise. Only a
configured text that is no interval is refused. A resolved policy is settled: written as a document it
is read back, and taken as a configuration it is resolved to itself in every dialect.
-/
namespace QueryDialect

namespace Interval

/-- By the grammar, the text is one of the interval. -/
def Denotes (s : String) (i : Interval) : Prop :=
  ∃ negative digits, Form Char.isDigit s negative digits i.unit ∧ i.value = signed negative digits

theorem parseInterval_eq_ok_iff {s : String} {i : Interval} :
    Dialect.parseInterval s = .ok i ↔ Denotes s i := (readsForm s).accepted i

theorem parseInterval_eq_error_iff {s : String} {e : Error} :
    Dialect.parseInterval s = .error e ↔ (¬ ∃ i, Denotes s i) ∧ e = .invalidInterval s := by
  simp only [← parseInterval_eq_ok_iff, parseInterval_eq_ok]
  rw [parseInterval_eq_error, ← Option.isSome_iff_exists, Option.not_isSome_iff_eq_none, and_comm]

end Interval

namespace RefreshPolicy

variable {settings : Option RefreshSettings} {d : Dialect} {p : RefreshPolicy}

/-! ## The parts of a policy -/

def configuredThreshold (settings : Option RefreshSettings) : Option Nat :=
  settings.bind RefreshSettings.renewalThreshold

def configuredEvery (settings : Option RefreshSettings) : Option String :=
  settings.bind RefreshSettings.every

/-- The two parts are found one by one, and only the interval can be refused. -/
structure ResolvesByPart (settings : Option RefreshSettings) (d : Dialect) : Prop where
  refused (e : Error) : resolve settings d = .error e ↔ ∃ s, configuredEvery settings = some s ∧
    (¬ ∃ i, Interval.Denotes s i) ∧ e = .invalidInterval s
  answered : (∃ p, resolve settings d = .ok p) ↔
    ∀ s, configuredEvery settings = some s → ∃ i, Interval.Denotes s i
  parts (p : RefreshPolicy) : resolve settings d = .ok p ↔
    p.renewalThreshold = (configuredThreshold settings).getD d.renewalThreshold ∧
      match configuredEvery settings with
      | none => p.every = d.every
      | some s => Interval.Denotes s p.every

theorem resolve_of_unset (h : configuredEvery settings = none) : resolve settings d =
    .ok ⟨(configuredThreshold settings).getD d.renewalThreshold, d.every⟩ := by
  cases settings with
  | none => rfl
  | some r =>
    have unset : r.every = none := h
    simp only [resolve, Option.getD_some, unset]
    rfl

theorem resolve_of_set {s : String} (h : configuredEvery settings = some s) : resolve settings d =
    (Dialect.parseInterval s).map
      (⟨(configuredThreshold settings).getD d.renewalThreshold, ·⟩) := by
  cases settings with
  | none => cases h
  | some r =>
    have set : r.every = some s := h
    simp only [resolve, Option.getD_some, set]
    rfl

theorem resolvesByPart (settings : Option RefreshSettings) (d : Dialect) :
    ResolvesByPart settings d := by
  cases every : configuredEvery settings with
  | none =>
    have answer := resolve_of_unset (d := d) every
    refine ⟨fun e => ?_, ?_, fun p => ?_⟩
    · simp [answer, every]
    · simp [answer, every]
    · rw [answer, every, Except.ok.injEq, eq_comm]
      cases p
      simp
  | some s =>
    have answer := resolve_of_set (d := d) every
    refine ⟨fun e => ?_, ?_, fun p => ?_⟩
    · rw [answer, every, map_eq_error, Interval.parseInterval_eq_error_iff]
      simp
    · simp only [answer, every, map_eq_ok, Interval.parseInterval_eq_ok_iff]
      simp
    · rw [answer, every, map_eq_ok]
      simp only [Interval.parseInterval_eq_ok_iff]
      cases p
      simp [and_comm, eq_comm]

/-! ## Settled policies -/

/-- The configuration that sets both parts as they are in the policy. -/
def asSettings (p : RefreshPolicy) : RefreshSettings := ⟨some p.renewalThreshold, some p.every.text⟩

/-- The policy comes back unchanged, from its document and from a configuration made of it. -/
structure Settled (p : RefreshPolicy) : Prop where
  document : ofDocument? p.toDocument = some p
  configuration (surplus : Document.Surplus) :
    RefreshSettings.ofDocument? surplus p.toDocument = some p.asSettings
  resolved (d : Dialect) : resolve (some p.asSettings) d = .ok p

theorem toDocument_eq (p : RefreshPolicy) : p.toDocument = .object
    [("every", .string p.every.text), ("renewal_threshold_secs", .ofNat p.renewalThreshold)] := by
  have order : "every" < "renewal_threshold_secs" := by decide
  simp [toDocument, Interval.toDocument, Document.ofFields, Document.sortFields,
    Document.insertField, order]

theorem lookup_threshold (every threshold : Document) :
    [("every", every), ("renewal_threshold_secs", threshold)].lookup "renewal_threshold_secs" =
      some threshold := by
  have other : ("renewal_threshold_secs" == "every") = false := by decide
  rw [List.lookup_cons, other, List.lookup_cons_self]

theorem word64?_ofNat {n : Nat} (h : n ≤ Number.word64Max) :
    (Document.ofNat n).word64? = some n :=
  Document.word64?_eq_some_iff.2 ⟨rfl, h⟩

theorem ofDocument?_toDocument (h : p.renewalThreshold ≤ Number.word64Max) :
    ofDocument? p.toDocument = some p := by
  rw [toDocument_eq, ofDocument?]
  simp only [Document.record?, Document.field?, Option.bind_eq_bind, Option.bind_some,
    lookup_threshold, List.lookup_cons_self, word64?_ofNat h, Interval.ofDocument?, Document.text?,
    Interval.ofText?_text]
  rfl

/-- The parts of the document are those of a configuration that sets both. -/
theorem ofDocument?_asSettings (h : p.renewalThreshold ≤ Number.word64Max)
    (surplus : Document.Surplus) :
    RefreshSettings.ofDocument? surplus p.toDocument = some p.asSettings := by
  have threshold : (Document.ofNat p.renewalThreshold).optional? Document.word64? =
      some (some p.renewalThreshold) := congrArg (Option.map some) (word64?_ofNat h)
  rw [toDocument_eq, RefreshSettings.ofDocument?]
  simp only [Document.record?, Document.fieldOr, Option.bind_eq_bind, Option.bind_some,
    lookup_threshold, List.lookup_cons_self, threshold]
  rfl

theorem resolve_asSettings (p : RefreshPolicy) (d : Dialect) :
    resolve (some p.asSettings) d = .ok p := by
  rw [resolve_of_set rfl, Interval.parseInterval_eq_ok.2 p.every.ofText?_text]
  rfl

theorem settled (h : p.renewalThreshold ≤ Number.word64Max) : Settled p where
  document := ofDocument?_toDocument h
  configuration := ofDocument?_asSettings h
  resolved := p.resolve_asSettings

/-- Thresholds are 64-bit words, and a policy takes its own from the configuration or the dialect. -/
theorem resolve_stable (settings : Option RefreshSettings) (d : Dialect) :
    ResolvesByPart settings d ∧
      ∀ p, resolve settings d = .ok p → (∀ n ∈ configuredThreshold settings, n ≤ Number.word64Max) →
        d.renewalThreshold ≤ Number.word64Max → Settled p := by
  refine ⟨resolvesByPart settings d, fun p answer fits fits' => settled ?_⟩
  rw [((resolvesByPart settings d).parts p).1 answer |>.1]
  cases set : configuredThreshold settings with
  | none => exact fits'
  | some n => exact fits n set

/-- The greatest threshold, and an interval with leading zeros and a wide blank, in Presto. -/
theorem resolve_stable_greatest :
    let settings : RefreshSettings := ⟨some 18446744073709551615, some "-007\u00a0 days"⟩
    let p : RefreshPolicy := ⟨18446744073709551615, ⟨-7, "days", by decide, by decide +kernel⟩⟩
    resolve (some settings) .presto = .ok p ∧ ofDocument? p.toDocument = some p ∧
      resolve (some ⟨some 18446744073709551615, some "-7 days"⟩) .duckDb = .ok p := by
  intro settings p
  have answer : resolve (some settings) .presto = .ok p := by decide +kernel
  have stable := (resolve_stable (some settings) .presto).2 p answer
    (by rintro n ⟨⟩; decide) (by decide)
  exact ⟨answer, stable.document, stable.resolved .duckDb⟩

end RefreshPolicy

end QueryDialect
