import QueryDialect.Dialect
import QueryDialect.Proofs.Outcome
import QueryDialect.Proofs.Text.ByteOrder

set_option autoImplicit false

/-!
# Runs of overlays

A registry grows from the base one by overlays, some of which may be refused. A refused overlay leaves
no trace, and of the others the latest that has a name gives its template.
-/
namespace QueryDialect.Templates

/-! ## One overlay -/

/-- The placeholder for arguments stands somewhere in the template. -/
def TakesArguments (template : String) : Prop := argsPlaceholder.toList <:+: template.toList

def Sound (t : Templates) : Prop :=
  ∀ name template : String, t[name]? = some template → TakesArguments template

/-- Of the entries that take no arguments the one whose name is first in the order of bytes. -/
structure FirstRefused (t : Templates) (name template : String) : Prop where
  entry : t[name]? = some template
  refused : ¬ TakesArguments template
  first : ∀ other template' : String, t[other]? = some template' → ¬ TakesArguments template' →
    Text.bytes name ≤ Text.bytes other

variable {t t' overlay : Templates} {name template : String}

theorem hasPlaceholder_iff : hasPlaceholder template = true ↔ TakesArguments template :=
  Text.occursIn_iff _ _

theorem not_hasPlaceholder_iff : (!hasPlaceholder template) = true ↔ ¬ TakesArguments template := by
  rw [Bool.not_eq_true', ← Bool.not_eq_true, hasPlaceholder_iff]

theorem mem_toList_iff : (name, template) ∈ t.toList ↔ t[name]? = some template :=
  Std.ExtTreeMap.mem_toList_iff_getElem?_eq_some

theorem find?_eq_none_iff :
    (overlay.toList.find? fun e => !hasPlaceholder e.2) = none ↔ Sound overlay := by
  rw [List.find?_eq_none]
  constructor
  · intro h name template entry
    by_contra refused
    exact h _ (mem_toList_iff.2 entry) (not_hasPlaceholder_iff.2 refused)
  · rintro sound ⟨name, template⟩ mem refused
    exact not_hasPlaceholder_iff.1 refused (sound name template (mem_toList_iff.1 mem))

theorem firstRefused_of_find? (h : (overlay.toList.find? fun e => !hasPlaceholder e.2) =
    some (name, template)) : FirstRefused overlay name template := by
  obtain ⟨refused, before, after, parts, kept⟩ := List.find?_eq_some_iff_append.1 h
  have mem : (name, template) ∈ overlay.toList := by simp [parts]
  refine ⟨mem_toList_iff.1 mem, not_hasPlaceholder_iff.1 refused, fun other template' entry h' => ?_⟩
  rw [Text.bytes_le_iff]
  -- The entries are listed in the order of names, so one that is refused is not before the first.
  have ordered := Std.ExtTreeMap.ordered_keys_toList (t := overlay)
  rw [parts, List.pairwise_append, List.pairwise_cons] at ordered
  have other_mem := mem_toList_iff.2 entry
  rw [parts, List.mem_append, List.mem_cons] at other_mem
  rcases other_mem with earlier | same | later
  · exact absurd (not_hasPlaceholder_iff.2 h') (by simpa using kept _ earlier)
  · exact (Prod.mk.inj same).1.ge
  · exact (compare_lt_iff_lt.1 (ordered.2.1.1 _ later)).le

theorem withOverlay_eq_ok_iff :
    t.withOverlay overlay = .ok t' ↔ Sound overlay ∧ t' = t ∪ overlay := by
  rw [← find?_eq_none_iff, withOverlay]
  cases overlay.toList.find? fun e => !hasPlaceholder e.2 with
  | some e => simp
  | none => simp [eq_comm]

theorem withOverlay_of_sound (sound : Sound overlay) :
    t.withOverlay overlay = .ok (t ∪ overlay) :=
  withOverlay_eq_ok_iff.2 ⟨sound, rfl⟩

theorem withOverlay_eq_error {e : Error} (h : t.withOverlay overlay = .error e) :
    ∃ name template, e = .missingPlaceholder name template ∧ FirstRefused overlay name template := by
  unfold withOverlay at h
  cases found : overlay.toList.find? fun e => !hasPlaceholder e.2 with
  | none =>
    rw [found] at h
    cases h
  | some refused =>
    rw [found] at h
    cases h
    exact ⟨_, _, rfl, firstRefused_of_find? found⟩

theorem exists_error_iff : (∃ e, t.withOverlay overlay = .error e) ↔
    ∃ name template : String, overlay[name]? = some template ∧ ¬ TakesArguments template := by
  constructor
  · rintro ⟨e, h⟩
    obtain ⟨name, template, -, first⟩ := withOverlay_eq_error h
    exact ⟨name, template, first.entry, first.refused⟩
  · rintro ⟨name, template, entry, refused⟩
    cases h : t.withOverlay overlay with
    | error e => exact ⟨e, rfl⟩
    | ok t' => exact absurd ((withOverlay_eq_ok_iff.1 h).1 name template entry) refused

/-! ## One entry after the other -/

def put (copy : Templates) (e : String × String) : Except Error Templates :=
  if hasPlaceholder e.2 then .ok (copy.insert e.1 e.2) else .error (.missingPlaceholder e.1 e.2)

theorem foldlM_put (entries : List (String × String)) : entries.foldlM put t =
    match entries.find? fun e => !hasPlaceholder e.2 with
    | some (name, template) => .error (.missingPlaceholder name template)
    | none => .ok (t.insertMany entries) := by
  induction entries generalizing t with
  | nil => rfl
  | cons e entries ih =>
    rw [List.foldlM_cons, put, List.find?_cons]
    cases h : hasPlaceholder e.2 with
    | false => rfl
    | true =>
      rw [if_pos rfl, ok_bind, ih, ← Std.ExtTreeMap.insertMany_cons]
      rfl

theorem insertMany_toList : t.insertMany overlay.toList = t ∪ overlay := by
  apply Std.ExtTreeMap.ext_getElem?
  intro name
  rw [Std.ExtTreeMap.getElem?_union]
  cases found : overlay[name]? with
  | some template =>
    exact Std.ExtTreeMap.getElem?_insertMany_list_of_mem Std.ReflCmp.compare_self
      Std.ExtTreeMap.distinct_keys_toList (mem_toList_iff.2 found)
  | none =>
    rw [Option.none_or]
    apply Std.ExtTreeMap.getElem?_insertMany_list_of_contains_eq_false
    rw [Bool.eq_false_iff, ne_eq, List.contains_iff_mem]
    intro named
    obtain ⟨⟨_, template⟩, mem, rfl⟩ := List.mem_map.1 named
    cases found.symm.trans (mem_toList_iff.1 mem)

/-- An overlay may be put in entry by entry: when one is refused, the copy with the entries before it is
given up. -/
theorem withOverlay_eq_foldlM : t.withOverlay overlay = overlay.toList.foldlM put t := by
  rw [foldlM_put, insertMany_toList]
  rfl

/-! ## The base registry -/

theorem getElem?_base (name : String) :
    base[name]? = if name ∈ baseNames then some (call name) else none := by
  unfold base ofCalls
  rw [List.map_map]
  split_ifs with mem
  · apply Std.ExtTreeMap.getElem?_ofList_of_mem Std.ReflCmp.compare_self
    · have distinct : baseNames.Nodup := by decide
      rw [List.pairwise_map]
      exact distinct.imp fun ne same => ne (Std.LawfulEqCmp.eq_of_compare same)
    · exact List.mem_map_of_mem mem
  · apply Std.ExtTreeMap.getElem?_ofList_of_contains_eq_false
    rw [Bool.eq_false_iff, ne_eq, List.contains_iff_mem, List.map_map]
    simpa using mem

theorem takesArguments_call (function : String) : TakesArguments (call function) := by
  refine ⟨function.toList ++ ['('], [')'], ?_⟩
  simp [call]

theorem sound_base : Sound base := by
  intro name template entry
  rw [getElem?_base] at entry
  split_ifs at entry
  obtain rfl := Option.some.inj entry
  exact takesArguments_call name

theorem mem_base {name : String} (h : name ∈ baseNames) : name ∈ base := by
  rw [Std.ExtTreeMap.mem_iff_isSome_getElem?, getElem?_base, if_pos h]
  rfl

/-! ## Several overlays -/

theorem union_assoc (a b c : Templates) : a ∪ b ∪ c = a ∪ (b ∪ c) := by
  apply Std.ExtTreeMap.ext_getElem?
  intro name
  simp only [Std.ExtTreeMap.getElem?_union, Option.or_assoc]

theorem union_self_right (a b : Templates) : a ∪ b ∪ b = a ∪ b := by
  apply Std.ExtTreeMap.ext_getElem?
  intro name
  simp only [Std.ExtTreeMap.getElem?_union]
  cases b[name]? <;> rfl

theorem union_empty (a : Templates) : a ∪ ∅ = a := by
  apply Std.ExtTreeMap.ext_getElem?
  intro name
  rw [Std.ExtTreeMap.getElem?_union, Std.ExtTreeMap.getElem?_empty, Option.none_or]

theorem sound_empty : Sound ∅ := by
  intro name template entry
  rw [Std.ExtTreeMap.getElem?_empty] at entry
  cases entry

theorem Sound.union (h : Sound t) (h' : Sound overlay) : Sound (t ∪ overlay) := by
  intro name template entry
  rw [Std.ExtTreeMap.getElem?_union, Option.or_eq_some_iff] at entry
  rcases entry with entry | ⟨-, entry⟩
  · exact h' name template entry
  · exact h name template entry

/-- One overlay for many: of the templates of a name the last one counts. -/
def merged (overlays : List Templates) : Templates := overlays.foldr (· ∪ ·) ∅

theorem sound_merged {overlays : List Templates} (h : ∀ overlay ∈ overlays, Sound overlay) :
    Sound (merged overlays) := by
  induction overlays with
  | nil => exact sound_empty
  | cons overlay overlays ih =>
    obtain ⟨first, others⟩ := List.forall_mem_cons.1 h
    exact first.union (ih others)

theorem foldlM_withOverlay {overlays : List Templates}
    (h : overlays.foldlM withOverlay t = .ok t') :
    (∀ overlay ∈ overlays, Sound overlay) ∧ t' = t ∪ merged overlays := by
  induction overlays generalizing t with
  | nil =>
    cases h
    exact ⟨by simp, (union_empty _).symm⟩
  | cons overlay overlays ih =>
    rw [List.foldlM_cons] at h
    obtain ⟨next, laid, h⟩ := bind_eq_ok.1 h
    obtain ⟨sound, rfl⟩ := withOverlay_eq_ok_iff.1 laid
    obtain ⟨others, rfl⟩ := ih h
    exact ⟨List.forall_mem_cons.2 ⟨sound, others⟩, union_assoc t overlay _⟩

theorem withOverlay_merged {overlays : List Templates}
    (h : overlays.foldlM withOverlay t = .ok t') : t.withOverlay (merged overlays) = .ok t' := by
  obtain ⟨sound, rfl⟩ := foldlM_withOverlay h
  exact withOverlay_of_sound (sound_merged sound)

/-! ## Runs -/

/-- An overlay is laid over the registry as it is given, or as the one of a dialect. -/
inductive Step where
  | overlay (overlay : Templates)
  | dialect (d : Dialect)

def Step.entries : Step → Templates
  | .overlay overlay => overlay
  | .dialect d => d.functionTemplates

def Step.apply : Step → Templates → Except Error Templates
  | .overlay overlay, t => t.withOverlay overlay
  | .dialect d, t => d.templates t

theorem Step.apply_eq (step : Step) (t : Templates) : step.apply t = t.withOverlay step.entries := by
  cases step <;> rfl

/-- A registry, and the overlays that it was made of, the latest first. -/
structure Run where
  registry : Templates := base
  laid : List Templates := []

/-- A step that fails leaves the registry as it is. -/
def Run.next (r : Run) (step : Step) : Run :=
  match step.apply r.registry with
  | .ok registry => { registry, laid := step.entries :: r.laid }
  | .error _ => r

def run (steps : List Step) : Run := steps.foldl Run.next {}

namespace Run

/-- What every registry of a run has in common. -/
structure Valid (r : Run) : Prop where
  sound : Sound r.registry
  named : ∀ name ∈ baseNames, name ∈ r.registry
  latest : ∀ name : String, r.registry[name]? = (r.laid.findSome? (·[name]?)).or base[name]?

variable {r : Run} {step : Step}

theorem next_cases (r : Run) (step : Step) :
    (Sound step.entries ∧
      r.next step = { registry := r.registry ∪ step.entries, laid := step.entries :: r.laid }) ∨
    (¬ Sound step.entries ∧ r.next step = r) := by
  unfold next
  rw [Step.apply_eq]
  by_cases sound : Sound step.entries
  · rw [withOverlay_of_sound sound]
    exact .inl ⟨sound, rfl⟩
  · cases h : r.registry.withOverlay step.entries with
    | error e => exact .inr ⟨sound, rfl⟩
    | ok t => exact absurd (withOverlay_eq_ok_iff.1 h).1 sound

theorem valid_start : Valid {} where
  sound := sound_base
  named _ := mem_base
  latest _ := rfl

theorem Valid.next (h : r.Valid) (step : Step) : (r.next step).Valid := by
  rcases next_cases r step with ⟨sound, eq⟩ | ⟨-, eq⟩
  · rw [eq]
    refine ⟨h.sound.union sound, fun name mem => ?_, fun name => ?_⟩
    · exact Std.ExtTreeMap.mem_union_of_left (h.named name mem)
    · dsimp only
      rw [Std.ExtTreeMap.getElem?_union, h.latest, List.findSome?_cons]
      cases found : step.entries[name]? <;> rfl
  · rw [eq]
    exact h

theorem valid_run (steps : List Step) : (run steps).Valid :=
  List.foldlRecOn steps Run.next valid_start fun _ h step _ => h.next step

theorem next_of_error (h : ∃ e, step.apply r.registry = .error e) : r.next step = r := by
  obtain ⟨e, h⟩ := h
  rw [next, h]

theorem next_next (r : Run) (step : Step) :
    ((r.next step).next step).registry = (r.next step).registry := by
  rcases next_cases r step with ⟨sound, eq⟩ | ⟨-, eq⟩
  · rcases next_cases (r.next step) step with ⟨-, eq'⟩ | ⟨-, eq'⟩
    · -- What the step lays is there already.
      rw [eq', eq]
      exact union_self_right r.registry step.entries
    · rw [eq']
  · rw [eq, eq]

/-- What holds after the steps, and of any step that follows them. -/
structure Laws (steps : List Step) : Prop where
  valid : (run steps).Valid
  fails (step : Step) : (∃ e, step.apply (run steps).registry = .error e) ↔
    ∃ name template : String, step.entries[name]? = some template ∧ ¬ TakesArguments template
  reports (step : Step) (e : Error) (failed : step.apply (run steps).registry = .error e) :
    ∃ name template, e = .missingPlaceholder name template ∧
      FirstRefused step.entries name template
  entrywise (step : Step) : step.apply (run steps).registry =
    step.entries.toList.foldlM put (run steps).registry
  traceless (step : Step) (failed : ∃ e, step.apply (run steps).registry = .error e)
    (later : List Step) : run (steps ++ step :: later) = run (steps ++ later)
  twice (step : Step) :
    (run (steps ++ [step, step])).registry = (run (steps ++ [step])).registry
  merges (overlays : List Templates) (registry : Templates)
    (laid : overlays.foldlM withOverlay (run steps).registry = .ok registry) :
    (run steps).registry.withOverlay (merged overlays) = .ok registry

end Run

theorem run_append (steps later : List Step) :
    run (steps ++ later) = later.foldl Run.next (run steps) :=
  List.foldl_append

/-- A run ends with a sound registry over the base one, whichever of its steps fail. -/
theorem run_laws (steps : List Step) : Run.Laws steps where
  valid := Run.valid_run steps
  fails step := by
    rw [Step.apply_eq]
    exact exists_error_iff
  reports step e failed := by
    rw [Step.apply_eq] at failed
    exact withOverlay_eq_error failed
  entrywise step := by
    rw [Step.apply_eq]
    exact withOverlay_eq_foldlM
  traceless step failed later := by
    rw [run_append, run_append, List.foldl_cons, Run.next_of_error failed]
  twice step := by
    rw [run_append, run_append]
    exact Run.next_next (run steps) step
  merges overlays registry laid := withOverlay_merged laid

example : base["SUM"]? = some "SUM(\x7b\x7b args_concat \x7d\x7d)" ∧
    (base.withOverlay (.ofList [("LOG", "ln()"), ("SUM", call "sum"), ("CEIL", "ceil")])).map
      (·["SUM"]?) = .error (.missingPlaceholder "CEIL" "ceil") := by decide +kernel

end QueryDialect.Templates
