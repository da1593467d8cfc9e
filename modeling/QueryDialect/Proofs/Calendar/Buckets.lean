import QueryDialect.Proofs.Calendar.Boundary

set_option autoImplicit false

/-!
# Buckets of a granularity

The buckets of a granularity are numbered as their boundaries are. The buckets that meet a range are
those whose numbers lie between the numbers of its ends.
-/
namespace QueryDialect.Calendar

/-! ## Buckets by their fields -/

/-- A millisecond later by a clock without leap seconds. -/
def Instant.nextMilli (t : Instant) : Instant :=
  if t.nano + 1000000 < 1000000000 then ⟨t.second, t.nano + 1000000⟩
  else ⟨t.second + 1, t.nano + 1000000 - 1000000000⟩

namespace Bucket

/-- The bucket reaches up to the millisecond after its last one, which is no part of it. -/
def Holds (b : Bucket) (t : Instant) : Prop := b.first ≤ t ∧ t < b.last.nextMilli

def Meets (b : Bucket) (first last : Instant) : Prop :=
  ∃ t, first ≤ t ∧ t ≤ last ∧ b.Holds t

end Bucket

/-- A bucket runs from a boundary to the last millisecond before the following one. -/
def IsBucket (g : Granularity) (b : Bucket) : Prop :=
  IsBoundary g b.first ∧ IsLeast {t | IsBoundary g t ∧ b.first < t} b.last.nextMilli

def bucketsMeeting (g : Granularity) (first last : Instant) : Set Bucket :=
  {b | IsBucket g b ∧ b.Meets first last}

/-- The list is the buckets that meet the range, in their order and without a gap. -/
structure Covers (g : Granularity) (first last : Instant) (bs : List Bucket) : Prop where
  mem_iff : ∀ b, b ∈ bs ↔ b ∈ bucketsMeeting g first last
  ascending : bs.Pairwise fun a b => a.first < b.first ∧ a.last < b.first
  contiguous : bs.IsChain fun a b => b.first = a.last.nextMilli
  begins : ∃ b, bs.head? = some b ∧ b.Holds first
  ends : ∃ b, bs.getLast? = some b ∧ b.Holds last

/-! ## Buckets by their number -/

def bucket (g : Granularity) (k : Int) : Bucket := .between (boundary g k) (boundary g (k + 1))

def bucketRun (g : Granularity) (k : Int) : Nat → List Bucket
  | 0 => []
  | n + 1 => bucket g k :: bucketRun g (k + 1) n

theorem nextMilli_previousMilli {t : Instant} (whole : t.nano = 0) :
    t.previousMilli.nextMilli = t := by
  cases t
  simp only [Instant.previousMilli, Instant.nextMilli] at *
  simp [whole]

theorem eq_previousMilli {s t : Instant} (whole : t.nano = 0) (h : s.nextMilli = t) :
    s = t.previousMilli := by
  cases s
  cases t
  simp only [Instant.nextMilli, Instant.previousMilli] at *
  split_ifs at h <;> simp only [Instant.mk.injEq] at * <;> omega

theorem bucket_first (g : Granularity) (k : Int) : (bucket g k).first = boundary g k := rfl

theorem bucket_last_nextMilli (g : Granularity) (k : Int) :
    (bucket g k).last.nextMilli = boundary g (k + 1) :=
  nextMilli_previousMilli rfl

theorem bucket_injective (g : Granularity) : Function.Injective (bucket g) := by
  intro j k h
  exact (boundary_strictMono g).injective (congrArg Bucket.first h)

theorem isBucket_iff (g : Granularity) (b : Bucket) : IsBucket g b ↔ ∃ k, b = bucket g k := by
  constructor
  · rintro ⟨first, least⟩
    obtain ⟨k, hk⟩ := (isBoundary_iff g b.first).1 first
    have next := isLeast_boundary_after g b.first
    rw [hk, bucketIndex_boundary] at next
    rw [hk] at least
    have last := eq_previousMilli rfl (least.unique next)
    refine ⟨k, ?_⟩
    cases b
    simp only at hk last
    rw [hk, last]
    rfl
  · rintro ⟨k, rfl⟩
    have next := isLeast_boundary_after g (boundary g k)
    rw [bucketIndex_boundary] at next
    refine ⟨boundary_isBoundary g k, ?_⟩
    rw [bucket_last_nextMilli]
    exact next

theorem bucket_holds_iff (g : Granularity) (k : Int) (t : Instant) :
    (bucket g k).Holds t ↔ bucketIndex g t = k := by
  rw [Bucket.Holds, bucket_first, bucket_last_nextMilli, boundary_le_iff, lt_boundary_iff]
  omega

theorem bucketIndex_mono (g : Granularity) : Monotone (bucketIndex g) := by
  intro s t h
  exact (boundary_le_iff g _ t).1 (((boundary_le_iff g _ s).2 le_rfl).trans h)

/-- A range meets the bucket of a boundary in its first instant or in the start of the range. -/
theorem bucket_meets_iff (g : Granularity) (k : Int) {first last : Instant} (h : first ≤ last) :
    (bucket g k).Meets first last ↔ bucketIndex g first ≤ k ∧ k ≤ bucketIndex g last := by
  constructor
  · rintro ⟨t, low, high, holds⟩
    rw [bucket_holds_iff] at holds
    rw [← holds]
    exact ⟨bucketIndex_mono g low, bucketIndex_mono g high⟩
  · rintro ⟨low, high⟩
    rcases le_total (boundary g k) first with before | after
    · refine ⟨first, le_rfl, h, (bucket_holds_iff g k first).2 ?_⟩
      exact le_antisymm low ((boundary_le_iff g k first).1 before)
    · refine ⟨boundary g k, after, (boundary_le_iff g k last).2 high, ?_⟩
      rw [bucket_holds_iff, bucketIndex_boundary]

theorem mem_bucketsMeeting_iff (g : Granularity) {first last : Instant} (h : first ≤ last)
    (b : Bucket) : b ∈ bucketsMeeting g first last ↔
      ∃ k, bucketIndex g first ≤ k ∧ k ≤ bucketIndex g last ∧ b = bucket g k := by
  constructor
  · rintro ⟨isBucket, meets⟩
    obtain ⟨k, rfl⟩ := (isBucket_iff g b).1 isBucket
    obtain ⟨low, high⟩ := (bucket_meets_iff g k h).1 meets
    exact ⟨k, low, high, rfl⟩
  · rintro ⟨k, low, high, rfl⟩
    exact ⟨(isBucket_iff g _).2 ⟨k, rfl⟩, (bucket_meets_iff g k h).2 ⟨low, high⟩⟩

theorem bucketsMeeting_ncard (g : Granularity) {first last : Instant} (h : first ≤ last) :
    ((bucketsMeeting g first last).ncard : Int) =
      bucketIndex g last + 1 - bucketIndex g first := by
  have image : bucketsMeeting g first last =
      bucket g '' Finset.Icc (bucketIndex g first) (bucketIndex g last) := by
    ext b
    rw [mem_bucketsMeeting_iff g h]
    constructor
    · rintro ⟨k, low, high, rfl⟩
      exact ⟨k, Finset.mem_coe.2 (Finset.mem_Icc.2 ⟨low, high⟩), rfl⟩
    · rintro ⟨k, hk, rfl⟩
      obtain ⟨low, high⟩ := Finset.mem_Icc.1 (Finset.mem_coe.1 hk)
      exact ⟨k, low, high, rfl⟩
  rw [image, Set.ncard_image_of_injective _ (bucket_injective g), Set.ncard_coe_finset,
    Int.card_Icc]
  have := bucketIndex_mono g h
  omega

/-! ## Runs of buckets -/

theorem bucketRun_length (g : Granularity) (k : Int) (n : Nat) :
    (bucketRun g k n).length = n := by
  induction n generalizing k with
  | zero => rfl
  | succ n ih => rw [bucketRun, List.length_cons, ih]

theorem mem_bucketRun_iff (g : Granularity) (k : Int) (n : Nat) (b : Bucket) :
    b ∈ bucketRun g k n ↔ ∃ j, k ≤ j ∧ j < k + n ∧ b = bucket g j := by
  induction n generalizing k with
  | zero =>
    rw [bucketRun]
    constructor
    · intro h
      exact absurd h List.not_mem_nil
    · rintro ⟨j, low, high, -⟩
      omega
  | succ n ih =>
    rw [bucketRun, List.mem_cons, ih]
    constructor
    · rintro (h | ⟨j, low, high, h⟩)
      · exact ⟨k, le_rfl, by omega, h⟩
      · exact ⟨j, by omega, by omega, h⟩
    · rintro ⟨j, low, high, h⟩
      by_cases first : j = k
      · exact .inl (first ▸ h)
      · exact .inr ⟨j, by omega, by omega, h⟩

theorem bucket_last_lt (g : Granularity) {j k : Int} (h : j < k) :
    (bucket g j).last < boundary g k := by
  have := (origin_strictMono g).monotone (show j + 1 ≤ k by omega)
  rw [Instant.lt_def]
  simp only [bucket, Bucket.between, Instant.previousMilli, boundary]
  omega

theorem bucket_first_le_last (g : Granularity) (k : Int) : boundary g k ≤ (bucket g k).last := by
  have := origin_strictMono g (lt_add_one k)
  rw [Instant.le_def]
  simp only [bucket, Bucket.between, Instant.previousMilli, boundary]
  omega

theorem bucketIndex_last_self (g : Granularity) (k : Int) : bucketIndex g (bucket g k).last = k := by
  have begun := (boundary_le_iff g k _).1 (bucket_first_le_last g k)
  have ended := (lt_boundary_iff g (k + 1) _).1 (bucket_last_lt g (lt_add_one k))
  omega

theorem bucketRun_ascending (g : Granularity) (k : Int) (n : Nat) :
    (bucketRun g k n).Pairwise fun a b => a.first < b.first ∧ a.last < b.first := by
  induction n generalizing k with
  | zero => exact .nil
  | succ n ih =>
    refine .cons ?_ (ih (k + 1))
    intro b hb
    obtain ⟨j, low, -, rfl⟩ := (mem_bucketRun_iff g _ _ b).1 hb
    exact ⟨boundary_strictMono g low, bucket_last_lt g low⟩

theorem bucketRun_contiguous (g : Granularity) (k : Int) (n : Nat) :
    (bucketRun g k n).IsChain fun a b => b.first = a.last.nextMilli := by
  induction n generalizing k with
  | zero => exact .nil
  | succ n ih =>
    cases n with
    | zero => exact .singleton _
    | succ n => exact .cons_cons (bucket_last_nextMilli g k).symm (ih (k + 1))

theorem bucketRun_append (g : Granularity) (k : Int) (m n : Nat) :
    bucketRun g k (m + n) = bucketRun g k m ++ bucketRun g (k + m) n := by
  induction m generalizing k with
  | zero => simp [bucketRun]
  | succ m ih =>
    have shift : k + 1 + (m : Int) = k + (m + 1 : Nat) := by omega
    rw [Nat.add_right_comm, bucketRun, ih, bucketRun, List.cons_append, shift]

theorem bucketRun_getLast (g : Granularity) (k : Int) (n : Nat) :
    (bucketRun g k (n + 1)).getLast? = some (bucket g (k + n)) := by
  rw [bucketRun_append]
  exact List.getLast?_concat

theorem bucketRun_getElem (g : Granularity) (k : Int) {n i : Nat} (h : i < (bucketRun g k n).length) :
    (bucketRun g k n)[i] = bucket g (k + i) := by
  obtain ⟨m, rfl⟩ : ∃ m, n = i + (m + 1) := by
    rw [bucketRun_length] at h
    exact ⟨n - i - 1, by omega⟩
  rw [List.getElem_eq_iff, bucketRun_append, List.getElem?_append_right (by rw [bucketRun_length]),
    bucketRun_length, Nat.sub_self]
  rfl

/-- A part of a run is the run of its own buckets. -/
theorem bucketRun_extract (g : Granularity) (k : Int) {n i j : Nat} (le : i ≤ j) (inside : j ≤ n) :
    (bucketRun g k n).extract i j = bucketRun g (k + i) (j - i) := by
  obtain ⟨before, rfl⟩ : ∃ m, n = i + m := ⟨n - i, by omega⟩
  obtain ⟨after, rfl⟩ : ∃ m, before = j - i + m := ⟨before - (j - i), by omega⟩
  rw [List.extract_eq_take_drop, bucketRun_append,
    List.drop_left' (bucketRun_length g k i), bucketRun_append,
    List.take_left' (bucketRun_length g (k + i) (j - i))]

/-- From the bucket of the first instant, as many as are needed for the last one. -/
theorem bucketRun_covers (g : Granularity) {first last : Instant} {n : Nat} (h : first ≤ last)
    (needed : bucketIndex g last + 1 = bucketIndex g first + n) :
    Covers g first last (bucketRun g (bucketIndex g first) n) := by
  have mono := bucketIndex_mono g h
  obtain ⟨m, rfl⟩ : ∃ m, n = m + 1 := ⟨n - 1, by omega⟩
  refine ⟨?_, bucketRun_ascending g _ _, bucketRun_contiguous g _ _, ?_, ?_⟩
  · intro b
    rw [mem_bucketRun_iff, mem_bucketsMeeting_iff g h]
    constructor
    · rintro ⟨j, low, high, same⟩
      exact ⟨j, low, by omega, same⟩
    · rintro ⟨j, low, high, same⟩
      exact ⟨j, low, by omega, same⟩
  · exact ⟨_, rfl, (bucket_holds_iff g _ first).2 rfl⟩
  · refine ⟨_, bucketRun_getLast g _ m, (bucket_holds_iff g _ last).2 ?_⟩
    omega

end QueryDialect.Calendar
