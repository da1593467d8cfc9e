import QueryDialect.Proofs.Calendar.BucketLoop

set_option autoImplicit false

/-!
# The loop stays in the calendar

Only the step to the next boundary is checked against the calendar. That is enough for a loop that
begins at a boundary of the calendar: neither the boundaries it comes to nor the milliseconds before
them lie outside.
-/
namespace QueryDialect.Calendar

variable {g : Granularity} {last : Instant} {cap n : Nat} {p q r : Progress}

/-! ## Passes that lead on -/

theorem pass_eq_inr (h : pass g last cap p = .inr q) :
    p.current ≤ last ∧ p.found.length < cap ∧ (nextBoundary g p.current).InCalendar ∧
      q = ⟨nextBoundary g p.current, p.found ++ [.between p.current (nextBoundary g p.current)]⟩ := by
  unfold pass at h
  split_ifs at h with needed full
  by_cases inside : (nextBoundary g p.current).InCalendar
  · rw [nextBoundary?, inCalendar?_some inside] at h
    exact ⟨needed, not_le.1 full, inside, (Sum.inr.inj h).symm⟩
  · rw [nextBoundary?, inCalendar?_none inside] at h
    cases h

theorem pass_past (needed : p.current ≤ last) (room : p.found.length < cap)
    (past : ¬ (nextBoundary g p.current).InCalendar) :
    pass g last cap p = .inl (.error (.pastCalendar p.current)) := by
  rw [pass, if_pos needed, if_neg (not_le.2 room), nextBoundary?, inCalendar?_none past]

/-- Any number of passes lead from the one stand of the loop to the other. -/
inductive Reaches (g : Granularity) (last : Instant) (cap : Nat) : Progress → Progress → Prop
  | here (p : Progress) : Reaches g last cap p p
  | next {p q r : Progress} (h : pass g last cap p = .inr q) (rest : Reaches g last cap q r) :
      Reaches g last cap p r

theorem Reaches.ends {answer : Except SeriesFault (List Bucket)} (h : Reaches g last cap p q)
    (ends : Ends g last cap n p answer) : ∃ m, Ends g last cap m q answer := by
  induction h generalizing n with
  | here p => exact ⟨n, ends⟩
  | next step _ ih =>
    cases ends with
    | now stop =>
      rw [step] at stop
      cases stop
    | later step' rest =>
      rw [step] at step'
      obtain rfl := Sum.inr.inj step'
      exact ih rest

theorem Ends.answer_eq {answer answer' : Except SeriesFault (List Bucket)}
    (ends : Ends g last cap n p answer) (stop : pass g last cap p = .inl answer') :
    answer = answer' := by
  cases ends with
  | now h => exact Sum.inl.inj (h.symm.trans stop)
  | later h _ =>
    rw [h] at stop
    cases stop

/-! ## What the passes keep -/

structure Inside (g : Granularity) (p : Progress) : Prop where
  atBoundary : IsBoundary g p.current
  current : p.current.InCalendar
  found : ∀ b ∈ p.found, b.first.InCalendar ∧ b.last.InCalendar

theorem Inside.pass (h : Inside g p) (step : pass g last cap p = .inr q) : Inside g q := by
  obtain ⟨-, -, inside, rfl⟩ := pass_eq_inr step
  have here := h.current
  obtain ⟨k, place⟩ := (isBoundary_iff g _).1 h.atBoundary
  rw [place, nextBoundary_boundary] at inside ⊢
  rw [place] at here
  refine ⟨boundary_isBoundary g _, inside, ?_⟩
  -- The bucket found last ends a millisecond before the boundary that was checked.
  intro b mem
  rcases List.mem_append.1 mem with old | new
  · exact h.found b old
  · obtain rfl := List.mem_singleton.1 new
    exact ⟨here, bucket_last_inCalendar here inside⟩

theorem Inside.reaches (h : Inside g p) (run : Reaches g last cap p q) : Inside g q := by
  induction run with
  | here p => exact h
  | next step _ ih => exact ih (h.pass step)

theorem inside_start {first : Instant} (start : (bucketStart g first).InCalendar) :
    Inside g ⟨bucketStart g first, []⟩ :=
  ⟨(isGreatest_bucketStart g first).1.1, start, fun _ mem => absurd mem List.not_mem_nil⟩

end QueryDialect.Calendar
