import QueryDialect.Proofs.Calendar.Buckets

set_option autoImplicit false

/-!
# The loop that finds buckets

From a boundary the loop finds the buckets one by one up to the one that holds the last instant. The
cap is tested first, then the calendar. So the cap counts before the end of the calendar does, and a
boundary beyond the calendar is met only behind the bucket that is needed last.
-/
namespace QueryDialect.Calendar

variable {g : Granularity} {first last : Instant} {k : Int} {cap n : Nat}

/-! ## The bounds of the calendar -/

theorem day_mono {s t : Instant} (h : s ≤ t) : s.day ≤ t.day := by
  rw [Instant.le_def] at h
  simp only [Instant.day, daySeconds]
  omega

theorem inCalendar_between {s t u : Instant} (h : s ≤ t) (h' : t ≤ u) (low : s.InCalendar)
    (high : u.InCalendar) : t.InCalendar :=
  ⟨low.1.trans (day_mono h), (day_mono h').trans high.2⟩

theorem inCalendar?_some {t : Instant} (h : t.InCalendar) : t.inCalendar? = some t := if_pos h

theorem inCalendar?_none {t : Instant} (h : ¬ t.InCalendar) : t.inCalendar? = none := if_neg h

/-! ## One pass -/

theorem bucketsFrom_done (h : bucketIndex g last < k) :
    bucketsFrom g last cap (boundary g k) = .ok [] := by
  have passed : ¬ boundary g k ≤ last := by
    rw [boundary_le_iff]
    omega
  cases cap with
  | zero => exact if_neg passed
  | succ cap => exact if_neg passed

theorem bucketsFrom_full (h : k ≤ bucketIndex g last) :
    bucketsFrom g last 0 (boundary g k) = .error .tooMany :=
  if_pos ((boundary_le_iff g k last).2 h)

theorem bucketsFrom_step (h : k ≤ bucketIndex g last) (next : (boundary g (k + 1)).InCalendar) :
    bucketsFrom g last (cap + 1) (boundary g k) =
      (bucketsFrom g last cap (boundary g (k + 1))).map (bucket g k :: ·) := by
  rw [bucketsFrom, if_pos ((boundary_le_iff g k last).2 h), nextBoundary?,
    nextBoundary_boundary, inCalendar?_some next]
  rfl

theorem bucketsFrom_past (h : k ≤ bucketIndex g last) (next : ¬ (boundary g (k + 1)).InCalendar) :
    bucketsFrom g last (cap + 1) (boundary g k) = .error (.pastCalendar (boundary g k)) := by
  rw [bucketsFrom, if_pos ((boundary_le_iff g k last).2 h), nextBoundary?,
    nextBoundary_boundary, inCalendar?_none next]

/-! ## The whole loop, where `n` buckets are needed -/

theorem boundary_inCalendar {i j m : Int} (low : (boundary g i).InCalendar)
    (high : (boundary g m).InCalendar) (h : i ≤ j) (h' : j ≤ m) : (boundary g j).InCalendar :=
  inCalendar_between ((boundary_strictMono g).monotone h) ((boundary_strictMono g).monotone h')
    low high

theorem bucket_last_inCalendar {g : Granularity} {k : Int} (first : (boundary g k).InCalendar)
    (next : (boundary g (k + 1)).InCalendar) : (bucket g k).last.InCalendar :=
  inCalendar_between (bucket_first_le_last g k) (bucket_last_lt g (lt_add_one k)).le first next

theorem bucketsFrom_tooMany (start : (boundary g k).InCalendar) (stop : last.InCalendar)
    (needed : bucketIndex g last + 1 = k + n) (h : cap < n) :
    bucketsFrom g last cap (boundary g k) = .error .tooMany := by
  induction cap generalizing k n with
  | zero => exact bucketsFrom_full (by omega)
  | succ cap ih =>
    have next : (boundary g (k + 1)).InCalendar := by
      refine inCalendar_between ((boundary_strictMono g).monotone (show k ≤ k + 1 by omega)) ?_
        start stop
      exact (boundary_le_iff g (k + 1) last).2 (by omega)
    have rest := ih next (show bucketIndex g last + 1 = k + 1 + (n - 1 : Nat) by omega) (by omega)
    rw [bucketsFrom_step (by omega) next, rest]
    rfl

theorem bucketsFrom_ok (start : (boundary g k).InCalendar)
    (stop : (boundary g (k + n)).InCalendar)
    (needed : bucketIndex g last + 1 = k + n) (h : n ≤ cap) :
    bucketsFrom g last cap (boundary g k) = .ok (bucketRun g k n) := by
  induction n generalizing k cap with
  | zero => exact bucketsFrom_done (by omega)
  | succ n ih =>
    obtain ⟨cap, rfl⟩ : ∃ c, cap = c + 1 := ⟨cap - 1, by omega⟩
    have shift : k + 1 + (n : Int) = k + (n + 1 : Nat) := by omega
    have next := boundary_inCalendar start stop (show k ≤ k + 1 by omega) (by omega)
    rw [bucketsFrom_step (by omega) next,
      ih next (shift ▸ stop) (by omega) (by omega)]
    rfl

theorem bucketsFrom_pastCalendar (start : (boundary g k).InCalendar) (stop : last.InCalendar)
    (past : ¬ (boundary g (k + n)).InCalendar)
    (needed : bucketIndex g last + 1 = k + n) (h : n ≤ cap) (positive : 0 < n) :
    bucketsFrom g last cap (boundary g k) =
      .error (.pastCalendar (boundary g (bucketIndex g last))) := by
  induction n generalizing k cap with
  | zero => exact absurd positive (lt_irrefl 0)
  | succ n ih =>
    obtain ⟨cap, rfl⟩ : ∃ c, cap = c + 1 := ⟨cap - 1, by omega⟩
    by_cases final : n = 0
    · subst final
      have only : bucketIndex g last = k := by omega
      rw [bucketsFrom_past (by omega) past, only]
    · have shift : k + 1 + (n : Int) = k + (n + 1 : Nat) := by omega
      have next : (boundary g (k + 1)).InCalendar := by
        refine inCalendar_between ((boundary_strictMono g).monotone (show k ≤ k + 1 by omega)) ?_
          start stop
        exact (boundary_le_iff g (k + 1) last).2 (by omega)
      rw [bucketsFrom_step (by omega) next,
        ih next (by rw [shift]; exact past) (by omega) (by omega) (by omega)]
      rfl

theorem bucketsFrom_eq (start : (boundary g k).InCalendar) (stop : last.InCalendar)
    (needed : bucketIndex g last + 1 = k + n) (positive : 0 < n) :
    bucketsFrom g last cap (boundary g k) =
      if cap < n then .error .tooMany
      else if (boundary g (k + n)).InCalendar then .ok (bucketRun g k n)
      else .error (.pastCalendar (boundary g (bucketIndex g last))) := by
  split_ifs with many next
  · exact bucketsFrom_tooMany start stop needed many
  · exact bucketsFrom_ok start next needed (by omega)
  · exact bucketsFrom_pastCalendar start stop next needed (by omega) positive

/-! ## The loop pass by pass -/

/-- Where the loop stands: the boundary it has come to, and the buckets found so far. -/
structure Progress where
  current : Instant
  found : List Bucket

/-- One pass ends the loop with its answer, or leads it on. -/
def pass (g : Granularity) (last : Instant) (cap : Nat) (p : Progress) :
    Except SeriesFault (List Bucket) ⊕ Progress :=
  if p.current ≤ last then
    if cap ≤ p.found.length then .inl (.error .tooMany)
    else
      match nextBoundary? g p.current with
      | none => .inl (.error (.pastCalendar p.current))
      | some next => .inr ⟨next, p.found ++ [.between p.current next]⟩
  else .inl (.ok p.found)

/-- The loop ends with the answer after `n` passes that led it on. -/
inductive Ends (g : Granularity) (last : Instant) (cap : Nat) :
    Nat → Progress → Except SeriesFault (List Bucket) → Prop
  | now {p : Progress} {answer : Except SeriesFault (List Bucket)}
      (h : pass g last cap p = .inl answer) : Ends g last cap 0 p answer
  | later {n : Nat} {p q : Progress} {answer : Except SeriesFault (List Bucket)}
      (h : pass g last cap p = .inr q) (rest : Ends g last cap n q answer) :
      Ends g last cap (n + 1) p answer

/-- The passes left are bounded by the room under the cap, on which the induction is. -/
theorem loop_ends (g : Granularity) (last : Instant) (cap room : Nat) (p : Progress)
    (h : p.found.length + room = cap) :
    ∃ n, n ≤ room ∧
      Ends g last cap n p ((bucketsFrom g last room p.current).map (p.found ++ ·)) := by
  induction room generalizing p with
  | zero =>
    refine ⟨0, le_rfl, .now ?_⟩
    unfold pass bucketsFrom
    split_ifs with needed full
    · rfl
    · omega
    · simp [Except.map]
  | succ room ih =>
    by_cases needed : p.current ≤ last
    · have free : ¬ cap ≤ p.found.length := by omega
      cases next : nextBoundary? g p.current with
      | none =>
        refine ⟨0, Nat.zero_le _, .now ?_⟩
        simp [pass, bucketsFrom, needed, free, next, Except.map]
      | some t =>
        obtain ⟨n, le, ends⟩ := ih ⟨t, p.found ++ [.between p.current t]⟩ (by simp; omega)
        refine ⟨n + 1, by omega, .later (q := ⟨t, p.found ++ [.between p.current t]⟩) ?_ ?_⟩
        · simp [pass, needed, free, next]
        · convert ends using 1
          simp only [bucketsFrom, needed, next, if_true]
          cases bucketsFrom g last room t <;> simp [Except.map]
    · refine ⟨0, Nat.zero_le _, .now ?_⟩
      simp [pass, bucketsFrom, needed, Except.map]

end QueryDialect.Calendar
