import QueryDialect.Proofs.Calendar.Nesting
import QueryDialect.Proofs.TimeSeries.Parts

set_option autoImplicit false

/-!
# Series rolled up

Of two series of one range, at granularities of one chain, the rows of the finer are spread over the
rows of the coarser: each lies in one of them, in order, and none of them is left empty.
-/
namespace QueryDialect

open Calendar

namespace TimeDimension

/-- What the one row stands for begins no earlier and ends no later than what the other stands for. -/
def RowWithin (fine coarse : String × String) : Prop :=
  ∃ a b, Printed fine a ∧ Printed coarse b ∧ a.Within b

theorem rowWithin_iff {fine coarse : String × String} {a b : Bucket} (ha : Printed fine a)
    (hb : Printed coarse b) : RowWithin fine coarse ↔ a.Within b := by
  constructor
  · rintro ⟨a', b', ha', hb', within⟩
    rwa [ha.unique ha', hb.unique hb']
  · intro within
    exact ⟨a, b, ha, hb, within⟩

/-- Each fine row has one home among the coarse rows, which is the only one it lies within. -/
def RollsUp (fine coarse : Series) : Prop :=
  ∃ home : Fin fine.length → Fin coarse.length, Monotone home ∧ Function.Surjective home ∧
    ∀ (i : Fin fine.length) (k : Fin coarse.length), RowWithin fine[i] coarse[k] ↔ home i = k

theorem series_rollsUp (fine coarse : TimeDimension) (fineRows coarseRows : Series)
    (finer : fine.granularity.FinerThan coarse.granularity) (sameFirst : fine.first = coarse.first)
    (sameLast : fine.last = coarse.last) (fineOk : fine.series = .ok fineRows)
    (coarseOk : coarse.series = .ok coarseRows) : RollsUp fineRows coarseRows := by
  obtain ⟨first, last, fines, finePrinted⟩ := rows_printed fineOk
  obtain ⟨first', last', coarses, coarsePrinted⟩ := rows_printed coarseOk
  obtain rfl : first = first' :=
    Except.ok.inj (fines.readFirst.symm.trans (sameFirst ▸ coarses.readFirst))
  obtain rfl : last = last' :=
    Except.ok.inj (fines.readLast.symm.trans (sameLast ▸ coarses.readLast))
  obtain ⟨home, mono, onto, homes⟩ := exists_home (nests_of_finerThan finer) fines.ordered
    fines.needed coarses.needed
  refine ⟨home, mono, onto, ?_⟩
  intro i k
  rw [← homes i k]
  exact rowWithin_iff (finePrinted i i.isLt) (coarsePrinted k k.isLt)

theorem series_rollsUp_weeks :
    let fine : TimeDimension := ⟨"d", .day, "2020-02-29T12:00:00", "2020-03-02", 5⟩
    let coarse : TimeDimension := ⟨"d", .week, "2020-02-29T12:00:00", "2020-03-02", 5⟩
    let fineRows : Series :=
      [("2020-02-29T00:00:00.000", "2020-02-29T23:59:59.999"),
        ("2020-03-01T00:00:00.000", "2020-03-01T23:59:59.999"),
        ("2020-03-02T00:00:00.000", "2020-03-02T23:59:59.999")]
    let coarseRows : Series :=
      [("2020-02-24T00:00:00.000", "2020-03-01T23:59:59.999"),
        ("2020-03-02T00:00:00.000", "2020-03-08T23:59:59.999")]
    fine.granularity.FinerThan coarse.granularity ∧ fine.first = coarse.first ∧
      fine.last = coarse.last ∧ fine.series = .ok fineRows ∧ coarse.series = .ok coarseRows ∧
        RollsUp fineRows coarseRows := by
  have finer : Granularity.FinerThan .day .week := by decide
  have fineOk : TimeDimension.series ⟨"d", .day, "2020-02-29T12:00:00", "2020-03-02", 5⟩ =
      .ok [("2020-02-29T00:00:00.000", "2020-02-29T23:59:59.999"),
        ("2020-03-01T00:00:00.000", "2020-03-01T23:59:59.999"),
        ("2020-03-02T00:00:00.000", "2020-03-02T23:59:59.999")] := by rfl
  have coarseOk : TimeDimension.series ⟨"d", .week, "2020-02-29T12:00:00", "2020-03-02", 5⟩ =
      .ok [("2020-02-24T00:00:00.000", "2020-03-01T23:59:59.999"),
        ("2020-03-02T00:00:00.000", "2020-03-08T23:59:59.999")] := by rfl
  exact ⟨finer, rfl, rfl, fineOk, coarseOk,
    series_rollsUp _ _ _ _ finer (by rfl) (by rfl) fineOk coarseOk⟩

end TimeDimension

end QueryDialect
