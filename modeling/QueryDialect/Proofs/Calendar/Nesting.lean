import QueryDialect.Proofs.Calendar.Buckets

set_option autoImplicit false

/-!
# Nested granularities

The granularities form two chains, which part behind the day: months are not made of weeks. Along a
chain the boundaries of a coarser granularity are boundaries of each finer one. So a fine bucket lies
in the coarse bucket that holds its first instant and in no other, and the buckets that meet a range
are rolled up without loss.
-/
namespace QueryDialect

namespace Granularity

/-- From finer to coarser. -/
def chains : List (List Granularity) :=
  [[second, minute, hour, day, month, quarter, year], [second, minute, hour, day, week]]

/-- The one stands before the other in a chain. -/
def FinerThan (fine coarse : Granularity) : Prop := ∃ chain ∈ chains, [fine, coarse].Sublist chain

instance (fine coarse : Granularity) : Decidable (fine.FinerThan coarse) :=
  inferInstanceAs (Decidable (∃ chain ∈ chains, [fine, coarse].Sublist chain))

end Granularity

namespace Calendar

/-! ## Boundaries -/

def Nests (fine coarse : Granularity) : Prop := ∀ t, IsBoundary coarse t → IsBoundary fine t

instance : Trans Nests Nests Nests := ⟨fun h h' t boundary => h t (h' t boundary)⟩

theorem second_nests_minute : Nests .second .minute := fun _ ⟨whole, _⟩ => ⟨whole, trivial⟩

theorem minute_nests_hour : Nests .minute .hour := by
  rintro t ⟨whole, hour⟩
  dsimp only at hour
  exact ⟨whole, by dsimp only; omega⟩

theorem hour_nests_day : Nests .hour .day := by
  rintro t ⟨whole, midnight⟩
  dsimp only at midnight
  exact ⟨whole, by dsimp only; omega⟩

theorem day_nests_week : Nests .day .week := fun _ ⟨whole, midnight, _⟩ => ⟨whole, midnight⟩

theorem day_nests_month : Nests .day .month := fun _ ⟨whole, midnight, _⟩ => ⟨whole, midnight⟩

theorem month_nests_quarter : Nests .month .quarter :=
  fun _ ⟨whole, midnight, first, _⟩ => ⟨whole, midnight, first⟩

theorem quarter_nests_year : Nests .quarter .year := by
  rintro t ⟨whole, midnight, first, january⟩
  exact ⟨whole, midnight, first, by simp [january]⟩

theorem chains_nest : ∀ chain ∈ Granularity.chains, chain.IsChain Nests := by
  intro chain mem
  simp only [Granularity.chains, List.mem_cons, List.not_mem_nil, or_false] at mem
  rcases mem with rfl | rfl
  · exact .cons_cons second_nests_minute (.cons_cons minute_nests_hour (.cons_cons hour_nests_day
      (.cons_cons day_nests_month (.cons_cons month_nests_quarter (.cons_cons quarter_nests_year
        (.singleton _))))))
  · exact .cons_cons second_nests_minute (.cons_cons minute_nests_hour (.cons_cons hour_nests_day
      (.cons_cons day_nests_week (.singleton _))))

theorem nests_of_finerThan {fine coarse : Granularity} (h : fine.FinerThan coarse) :
    Nests fine coarse := by
  obtain ⟨chain, mem, sub⟩ := h
  have pairs := (List.isChain_iff_pairwise.1 (chains_nest chain mem)).sublist sub
  exact List.pairwise_pair.1 pairs

/-! ## Buckets -/

def Bucket.Within (a b : Bucket) : Prop := b.first ≤ a.first ∧ a.last ≤ b.last

theorem previousMilli_le_iff {g g' : Granularity} (j k : Int) :
    (boundary g j).previousMilli ≤ (boundary g' k).previousMilli ↔ boundary g j ≤ boundary g' k := by
  simp only [Instant.le_def, Instant.previousMilli, boundary]
  omega

theorem fine_monotone (fine coarse : Granularity) :
    Monotone fun j => bucketIndex coarse (boundary fine j) :=
  (bucketIndex_mono coarse).comp (boundary_strictMono fine).monotone

section

variable {fine coarse : Granularity} (nest : Nests fine coarse)

include nest

theorem exists_fine_boundary (k : Int) : ∃ j, boundary coarse k = boundary fine j :=
  (isBoundary_iff fine _).1 (nest _ (boundary_isBoundary coarse k))

theorem bucket_within_iff (j k : Int) :
    (bucket fine j).Within (bucket coarse k) ↔ bucketIndex coarse (boundary fine j) = k := by
  -- The next coarse boundary is a fine one too, so none lies inside a fine bucket.
  obtain ⟨i, next⟩ := exists_fine_boundary nest (k + 1)
  have inside : boundary fine (j + 1) ≤ boundary coarse (k + 1) ↔
      boundary fine j < boundary coarse (k + 1) := by
    rw [next, (boundary_strictMono fine).le_iff_le, (boundary_strictMono fine).lt_iff_lt]
    omega
  change boundary coarse k ≤ boundary fine j ∧
    (boundary fine (j + 1)).previousMilli ≤ (boundary coarse (k + 1)).previousMilli ↔ _
  rw [previousMilli_le_iff, inside, boundary_le_iff, lt_boundary_iff]
  omega

theorem bucketIndex_fine_boundary (t : Instant) :
    bucketIndex coarse (boundary fine (bucketIndex fine t)) = bucketIndex coarse t := by
  have begun : boundary fine (bucketIndex fine t) ≤ t := (boundary_le_iff fine _ t).2 le_rfl
  refine le_antisymm (bucketIndex_mono coarse begun) ?_
  obtain ⟨i, first⟩ := exists_fine_boundary nest (bucketIndex coarse t)
  have early : boundary fine i ≤ t := first ▸ (boundary_le_iff coarse _ t).2 le_rfl
  rw [← boundary_le_iff, first]
  exact (boundary_strictMono fine).monotone ((boundary_le_iff fine i t).1 early)

theorem exists_fine_bucket {first last : Instant} {k : Int} (h : first ≤ last)
    (low : bucketIndex coarse first ≤ k) (high : k ≤ bucketIndex coarse last) :
    ∃ j, bucketIndex fine first ≤ j ∧ j ≤ bucketIndex fine last ∧
      bucketIndex coarse (boundary fine j) = k := by
  -- A coarse bucket begun before the range holds the fine bucket of the start of the range; a later
  -- one begins with a fine bucket of its own.
  by_cases begun : boundary coarse k ≤ first
  · have here : bucketIndex coarse first = k :=
      le_antisymm low ((boundary_le_iff coarse k first).1 begun)
    exact ⟨_, le_rfl, bucketIndex_mono fine h, by rw [bucketIndex_fine_boundary nest, here]⟩
  · obtain ⟨j, same⟩ := exists_fine_boundary nest k
    have later : first < boundary fine j := same ▸ not_le.1 begun
    have reached : boundary fine j ≤ last := same ▸ (boundary_le_iff coarse k last).2 high
    refine ⟨j, ((lt_boundary_iff fine j first).1 later).le, (boundary_le_iff fine j last).1 reached, ?_⟩
    rw [← same, bucketIndex_boundary]

theorem fine_between (first last : Instant) {j : Int} (low : bucketIndex fine first ≤ j)
    (high : j ≤ bucketIndex fine last) :
    bucketIndex coarse first ≤ bucketIndex coarse (boundary fine j) ∧
      bucketIndex coarse (boundary fine j) ≤ bucketIndex coarse last := by
  rw [← bucketIndex_fine_boundary nest first, ← bucketIndex_fine_boundary nest last]
  exact ⟨fine_monotone fine coarse low, fine_monotone fine coarse high⟩

/-- Each fine bucket that meets a range has one home among the coarse buckets that meet it. The homes
keep the order of the fine buckets, and none of them is empty. -/
theorem exists_home {first last : Instant} {m n : Nat} (h : first ≤ last)
    (fines : bucketIndex fine last + 1 = bucketIndex fine first + m)
    (coarses : bucketIndex coarse last + 1 = bucketIndex coarse first + n) :
    ∃ home : Fin m → Fin n, Monotone home ∧ Function.Surjective home ∧
      ∀ (i : Fin m) (k : Fin n), (bucket fine (bucketIndex fine first + (i : Nat))).Within
        (bucket coarse (bucketIndex coarse first + (k : Nat))) ↔ home i = k := by
  have place (i : Fin m) : ∃ k : Fin n,
      bucketIndex coarse (boundary fine (bucketIndex fine first + (i : Nat))) =
        bucketIndex coarse first + (k : Nat) := by
    obtain ⟨low, high⟩ := fine_between nest first last
      (show bucketIndex fine first ≤ bucketIndex fine first + (i : Nat) by omega) (by omega)
    obtain ⟨k, same⟩ := Int.le.dest low
    exact ⟨⟨k, by omega⟩, same.symm⟩
  choose home homes using place
  refine ⟨home, ?_, ?_, ?_⟩
  · intro i j le
    have step : (i : Nat) ≤ j := le
    have := fine_monotone fine coarse
      (show bucketIndex fine first + (i : Nat) ≤ bucketIndex fine first + (j : Nat) by omega)
    dsimp only at this
    rw [homes, homes] at this
    exact Fin.le_def.2 (by omega)
  · intro k
    obtain ⟨j, low, high, same⟩ := exists_fine_bucket nest h
      (show bucketIndex coarse first ≤ bucketIndex coarse first + (k : Nat) by omega) (by omega)
    obtain ⟨i, rfl⟩ := Int.le.dest low
    have here := homes ⟨i, by omega⟩
    dsimp only at here
    exact ⟨⟨i, by omega⟩, Fin.ext (by omega)⟩
  · intro i k
    rw [bucket_within_iff nest, homes, Fin.ext_iff]
    omega

end

end Calendar

end QueryDialect
