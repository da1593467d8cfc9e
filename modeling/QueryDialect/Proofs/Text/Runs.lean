import QueryDialect.Text.Blank
import Mathlib

set_option autoImplicit false

/-!
# Runs of characters

A run of characters of one class ends where the class does. Trimming takes the runs of blanks at both
ends of a text, and no more.
-/
namespace QueryDialect.Text

/-- The longest run at the front ends where the class does. -/
theorem span_run {α : Type} {p : α → Bool} {run rest : List α} (all : ∀ c ∈ run, p c = true)
    (stop : ∀ c ∈ rest.head?, p c = false) :
    (run ++ rest).takeWhile p = run ∧ (run ++ rest).dropWhile p = rest := by
  rw [List.takeWhile_append_of_pos all, List.dropWhile_append_of_pos all]
  cases rest with
  | nil => simp
  | cons c rest => simp [stop c rfl]

/-- Trimming takes blanks only. -/
theorem trim_parts (cs : List Char) : ∃ before after, (∀ c ∈ before, isBlank c = true) ∧
    (∀ c ∈ after, isBlank c = true) ∧ cs = before ++ (trim cs ++ after) := by
  refine ⟨cs.takeWhile isBlank, ((trimLeft cs).reverse.takeWhile isBlank).reverse,
    fun c hc => List.mem_takeWhile_imp hc,
    fun c hc => List.mem_takeWhile_imp (List.mem_reverse.1 hc), ?_⟩
  rw [trim, trimLeft, ← List.reverse_append, List.takeWhile_append_dropWhile, List.reverse_reverse]
  exact List.takeWhile_append_dropWhile.symm

/-- Trimming takes all blanks around a text without any. -/
theorem trim_between {before word after : List Char} (blank : ∀ c ∈ before, isBlank c = true)
    (blank' : ∀ c ∈ after, isBlank c = true) (nonempty : word ≠ [])
    (solid : ∀ c ∈ word, isBlank c = false) : trim (before ++ (word ++ after)) = word := by
  have first : ∀ c ∈ (word ++ after).head?, isBlank c = false := by
    rw [List.head?_append_of_ne_nil _ nonempty]
    exact fun c head => solid c (List.mem_of_mem_head? head)
  have last : ∀ c ∈ word.reverse.head?, isBlank c = false := fun c head =>
    solid c (List.mem_reverse.1 (List.mem_of_mem_head? head))
  have blank'' : ∀ c ∈ after.reverse, isBlank c = true := fun c hc => blank' c (List.mem_reverse.1 hc)
  unfold trim trimLeft
  rw [(span_run blank first).2, List.reverse_append, (span_run blank'' last).2, List.reverse_reverse]

end QueryDialect.Text
