import QueryDialect.Proofs.Outcome
import QueryDialect.Settings.File

set_option autoImplicit false

/-!
# The file that counts

Of the places where settings are looked for, the first whose file holds a text that describes some is
the one that counts. A place without a file, a directory, bytes that are no text and a text that
describes no settings are passed over alike, and what stands behind the first such file is not looked
at.
-/
namespace QueryDialect

namespace FileState

/-- The bytes of the file are those of a text that describes the settings. -/
def Holds (f : FileState) (s : Settings) : Prop :=
  ∃ text : String, f = .content text.toUTF8 ∧ Settings.ofText text = .ok s

def Loads (f : FileState) : Prop := ∃ s, f.Holds s

theorem fromUTF8?_eq_some_iff {bytes : ByteArray} {text : String} :
    String.fromUTF8? bytes = some text ↔ bytes = text.toUTF8 := by
  unfold String.fromUTF8?
  constructor
  · intro h
    split_ifs at h with valid
    obtain rfl := Option.some.inj h
    rfl
  · rintro rfl
    rw [String.toUTF8_eq_toByteArray, dif_pos text.isValidUTF8]
    rfl

theorem text_eq_ok_iff {f : FileState} {text : String} :
    f.text = .ok text ↔ f = .content text.toUTF8 := by
  cases f with
  | missing | directory => simp [FileState.text]
  | content bytes =>
    rw [content.injEq, ← fromUTF8?_eq_some_iff, FileState.text]
    cases String.fromUTF8? bytes <;> simp

end FileState

namespace Settings

open FileState

variable {f : FileState} {files before after passed : List FileState} {s : Settings}

theorem ofFile_eq_ok_iff : ofFile f = .ok s ↔ f.Holds s := by
  unfold ofFile FileState.Holds
  rw [bind_eq_ok]
  simp only [mapError_eq_ok, text_eq_ok_iff]

/-! ## The search, file by file -/

/-- The settings of a file behind which and only behind which no other one loads. -/
def FirstHolds (files : List FileState) (s : Settings) : Prop :=
  ∃ before f after, files = before ++ f :: after ∧ (∀ g ∈ before, ¬ g.Loads) ∧ f.Holds s

theorem loadFirst?_cons_of_holds (h : f.Holds s) : loadFirst? (f :: after) = some s := by
  rw [loadFirst?, ofFile_eq_ok_iff.2 h]

theorem loadFirst?_cons_of_not_loads (h : ¬ f.Loads) :
    loadFirst? (f :: after) = loadFirst? after := by
  rw [loadFirst?]
  cases read : ofFile f with
  | ok s => exact absurd ⟨s, ofFile_eq_ok_iff.1 read⟩ h
  | error e => rfl

theorem loadFirst?_append (before after : List FileState) :
    loadFirst? (before ++ after) = (loadFirst? before).or (loadFirst? after) := by
  induction before with
  | nil => rfl
  | cons f before ih =>
    by_cases loads : f.Loads
    · obtain ⟨s, holds⟩ := loads
      rw [List.cons_append, loadFirst?_cons_of_holds holds, loadFirst?_cons_of_holds holds]
      rfl
    · rw [List.cons_append, loadFirst?_cons_of_not_loads loads, loadFirst?_cons_of_not_loads loads, ih]

theorem loadFirst?_eq_none_iff : loadFirst? files = none ↔ ∀ f ∈ files, ¬ f.Loads := by
  induction files with
  | nil => simp [loadFirst?]
  | cons f files ih =>
    rw [List.forall_mem_cons, ← ih]
    by_cases loads : f.Loads
    · obtain ⟨s, holds⟩ := loads
      rw [loadFirst?_cons_of_holds holds]
      exact iff_of_false (by simp) fun h => h.1 ⟨s, holds⟩
    · rw [loadFirst?_cons_of_not_loads loads, and_iff_right loads]

theorem loadFirst?_eq_some_iff : loadFirst? files = some s ↔ FirstHolds files s := by
  constructor
  · intro h
    induction files with
    | nil => cases h
    | cons f files ih =>
      by_cases loads : f.Loads
      · obtain ⟨s', holds⟩ := loads
        rw [loadFirst?_cons_of_holds holds] at h
        obtain rfl := Option.some.inj h
        exact ⟨[], f, files, rfl, by simp, holds⟩
      · rw [loadFirst?_cons_of_not_loads loads] at h
        obtain ⟨before, g, after, rfl, unloaded, holds⟩ := ih h
        exact ⟨f :: before, g, after, rfl, List.forall_mem_cons.2 ⟨loads, unloaded⟩, holds⟩
  · rintro ⟨before, f, after, rfl, unloaded, holds⟩
    rw [loadFirst?_append, loadFirst?_eq_none_iff.2 unloaded, loadFirst?_cons_of_holds holds]
    rfl

/-! ## What the search depends on -/

/-- The first file that loads decides, and nothing else does. -/
structure FindsFirst (files : List FileState) : Prop where
  found (s : Settings) : loadFirst? files = some s ↔ FirstHolds files s
  nothing : loadFirst? files = none ↔ ∀ f ∈ files, ¬ f.Loads
  passed (before passed after : List FileState) (parts : files = before ++ (passed ++ after))
    (unloaded : ∀ f ∈ passed, ¬ f.Loads) : loadFirst? (before ++ after) = loadFirst? files
  later (more : List FileState) (loaded : ∃ f ∈ files, f.Loads) :
    loadFirst? (files ++ more) = loadFirst? files

theorem findsFirst (files : List FileState) : FindsFirst files where
  found _ := loadFirst?_eq_some_iff
  nothing := loadFirst?_eq_none_iff
  passed before passed after parts unloaded := by
    rw [parts, loadFirst?_append, loadFirst?_append, loadFirst?_append,
      loadFirst?_eq_none_iff.2 unloaded]
    rfl
  later more loaded := by
    cases h : loadFirst? files with
    | none =>
      obtain ⟨f, mem, loads⟩ := loaded
      exact absurd loads (loadFirst?_eq_none_iff.1 h f mem)
    | some s =>
      rw [loadFirst?_append, h]
      rfl

/-- Either the settings of the first file that loads, or the built-in ones. -/
def IsLoaded (files : List FileState) (s : Settings) : Prop :=
  FirstHolds files s ∨ (∀ f ∈ files, ¬ f.Loads) ∧ s = {}

theorem isLoaded_load (named : Option FileState) (current user : FileState) :
    IsLoaded (named.toList ++ [current, user]) (load named current user) := by
  unfold load
  cases h : loadFirst? (named.toList ++ [current, user]) with
  | none => exact .inr ⟨loadFirst?_eq_none_iff.1 h, rfl⟩
  | some s => exact .inl (loadFirst?_eq_some_iff.1 h)

theorem search_takes_first : (∀ f s, ofFile f = .ok s ↔ f.Holds s) ∧
    (∀ files, FindsFirst files) ∧ ∀ named current user,
      IsLoaded (named.toList ++ [current, user]) (load named current user) :=
  ⟨fun _ _ => ofFile_eq_ok_iff, findsFirst, isLoaded_load⟩

/-- A table header without its bracket is passed over, and the time zone of a later file is not taken
along. -/
theorem search_takes_first_behindBroken :
    let broken : FileState := .content "[defaults.query\n".toUTF8
    let duckDb : FileState := .content "[defaults.query]\ndb_type = \"duckdb\"\n".toUTF8
    let zoned : FileState := .content "[defaults.query]\ntimezone = \"UTC\"\n".toUTF8
    let s : Settings := { defaults := { query := { engine := "duckdb" } } }
    ¬ broken.Loads ∧ zoned.Loads ∧ FirstHolds [broken, duckDb, zoned] s ∧
      load (some broken) duckDb zoned = s := by
  intro broken duckDb zoned s
  have refused : ∀ s, ofFile broken ≠ .ok s := by
    intro s
    rw [show ofFile broken = .error .malformedSettings by decide +kernel]
    exact nofun
  have read : ofFile duckDb = .ok s := by decide +kernel
  have read' : ofFile zoned = .ok { defaults := { query := { timezone := some "UTC" } } } := by
    decide +kernel
  obtain ⟨accepted, finds, loaded⟩ := search_takes_first
  have passed : ¬ broken.Loads := fun ⟨s, holds⟩ => refused s ((accepted _ _).2 holds)
  have first : FirstHolds [broken, duckDb, zoned] s :=
    ⟨[broken], duckDb, [zoned], rfl, List.forall_mem_singleton.2 passed, (accepted _ _).1 read⟩
  refine ⟨passed, ⟨_, (accepted _ _).1 read'⟩, first, ?_⟩
  rcases loaded (some broken) duckDb zoned with found | ⟨unloaded, -⟩
  · exact Option.some.inj ((((finds _).found _).2 found).symm.trans (((finds _).found _).2 first))
  · exact absurd ⟨s, (accepted _ _).1 read⟩ (unloaded duckDb (by simp))

end Settings

end QueryDialect
