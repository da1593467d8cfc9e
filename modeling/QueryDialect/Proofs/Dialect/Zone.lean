import QueryDialect.Dialect.Engine
import QueryDialect.Proofs.Text.Lexer

set_option autoImplicit false

/-!
# The zone of a field

A field is put into a time zone by a text with open places, which are filled with the zone as a
literal. A plain text follows each literal, so that no zone reaches beyond its places: two zones give
texts that differ there and nowhere else.
-/
namespace QueryDialect

open Text

/-! ## Texts with open places -/

/-- A literal, or an open place where there is none, and the text behind it. -/
abbrev Gap := Option String × String

namespace Gap

def write (zone : String) : List Gap → String
  | [] => ""
  | g :: gs => literal (g.1.getD zone) ++ g.2 ++ write zone gs

/-- The tokens of the text, with nothing for an open place. -/
def tokens (gs : List Gap) : List (Option Token) :=
  gs.flatMap fun g => g.1.map .literal :: (plain g.2).map some

/-- The places that are open. -/
def places (gs : List Gap) : Nat := gs.countP fun g => g.1.isNone

def fill (zone : String) (ts : List (Option Token)) : List Token :=
  ts.map fun t => t.getD (.literal zone)

theorem fill_append (zone : String) (ts us : List (Option Token)) :
    fill zone (ts ++ us) = fill zone ts ++ fill zone us := List.map_append

theorem fill_plain (zone s : String) : fill zone ((plain s).map some) = plain s := by
  simp [fill, Function.comp_def]

theorem reads_write (zone : String) (gs : List Gap)
    (safe : ∀ g ∈ gs, '\'' ∉ g.2.toList ∧ Resumes g.2) :
    Reads (write zone gs) (fill zone (tokens gs)) := by
  induction gs with
  | nil => exact reads_plain (s := "") (by simp)
  | cons g gs ih =>
    obtain ⟨⟨noQuote, resumes⟩, others⟩ := List.forall_mem_cons.1 safe
    have first := reads_literal_plain (g.1.getD zone) noQuote resumes
    have same : fill zone (tokens (g :: gs)) =
        .literal (g.1.getD zone) :: plain g.2 ++ fill zone (tokens gs) := by
      rw [tokens, List.flatMap_cons, fill_append, ← tokens]
      congr 1
      change _ :: fill zone _ = _
      rw [fill_plain]
      cases g.1 <;> rfl
    rw [same]
    exact first.append (ih others)

theorem count_tokens (gs : List Gap) : (tokens gs).count none = places gs := by
  induction gs with
  | nil => rfl
  | cons g gs ih =>
    have others : ((plain g.2).map some).count none = 0 := by simp [List.count_eq_zero]
    rw [tokens, List.flatMap_cons, List.count_append, ← tokens, ih, places, places,
      List.countP_cons, List.count_cons, others]
    cases g.1 <;> simp [Nat.add_comm]

/-- What is behind the literals begins with no quote, so they end where they do in the other text. -/
theorem write_injective {zone zone' : String} {gs : List Gap} (resumes : ∀ g ∈ gs, Resumes g.2)
    (place : ∃ g ∈ gs, g.1 = none) (same : write zone gs = write zone' gs) : zone = zone' := by
  induction gs with
  | nil => simp at place
  | cons g gs ih =>
    obtain ⟨first, others⟩ := List.forall_mem_cons.1 resumes
    have stops (z : String) : Resumes (g.2 ++ write z gs) := first.append
    simp only [write, String.append_assoc] at same
    obtain ⟨literals, rest⟩ := literal_append_inj (stops zone) (stops zone') same
    cases h : g.1 with
    | none => simpa [h] using literals
    | some l =>
      refine ih others ?_ (String.append_right_inj _ |>.1 rest)
      simpa [h] using place

end Gap

namespace ZoneForm

def opening (form : ZoneForm) (field : String) : String :=
  match form with
  | atTimeZone => "(" ++ field ++ "::timestamptz AT TIME ZONE "
  | addedOffset => "CAST(date_add("
  | function => "timezone("

def gaps (form : ZoneForm) (field : String) : List Gap :=
  match form with
  | atTimeZone => [(none, ")")]
  | addedOffset =>
    [(some "minute", ", timezone_minute(" ++ field ++ " AT TIME ZONE "), (none, "), date_add("),
      (some "hour", ", timezone_hour(" ++ field ++ " AT TIME ZONE "),
      (none, "), " ++ field ++ ")) AS TIMESTAMP)")]
  | function => [(none, ", " ++ field ++ "::timestamptz)")]

theorem convert_eq (form : ZoneForm) (field zone : String) :
    form.convert field zone = form.opening field ++ Gap.write zone (form.gaps field) := by
  have minute : "CAST(date_add('minute', timezone_minute(" =
      "CAST(date_add(" ++ (literal "minute" ++ ", timezone_minute(") := by decide +kernel
  have hour : "), " ++ "date_add('hour', timezone_hour(" =
      "), date_add(" ++ (literal "hour" ++ ", timezone_hour(") := by decide +kernel
  unfold convert opening gaps
  cases form with
  | atTimeZone =>
    dsimp only [Gap.write, Option.getD_none]
    simp only [String.append_empty, String.append_assoc]
    rfl
  | addedOffset =>
    dsimp only [Gap.write, Option.getD_none, Option.getD_some]
    simp only [toString, String.append_assoc, String.append_empty]
    rw [minute, ← @String.append_assoc "), " "date_add('hour', timezone_hour(", hour]
    simp only [String.append_assoc]
  | function =>
    dsimp only [Gap.write, Option.getD_none]
    simp only [String.append_empty, String.append_assoc]
    rfl

theorem resumes_gaps (form : ZoneForm) (field : String) : ∀ g ∈ form.gaps field, Resumes g.2 := by
  cases form with
  | atTimeZone => simpa [gaps] using (by decide : Resumes ")")
  | addedOffset =>
    simp only [gaps, List.forall_mem_cons, String.append_assoc]
    exact ⟨Resumes.append (by decide), by decide, Resumes.append (by decide),
      Resumes.append (by decide), List.forall_mem_nil _⟩
  | function =>
    simp only [gaps, List.forall_mem_cons, String.append_assoc]
    exact ⟨Resumes.append (by decide), List.forall_mem_nil _⟩

theorem exists_place (form : ZoneForm) (field : String) : ∃ g ∈ form.gaps field, g.1 = none := by
  cases form <;> simp [gaps]

/-- A conversion writes more than the field. -/
theorem convert_ne (form : ZoneForm) (field zone : String) : form.convert field zone ≠ field := by
  intro same
  have sizes := congrArg String.length ((form.convert_eq field zone).symm.trans same)
  have bracket : ")".length = 1 := by decide
  have comma : ", ".length = 2 := by decide
  have both : "), ".length = 3 := by decide
  cases form <;>
    simp only [opening, gaps, Gap.write, String.length_append] at sizes <;>
    omega

variable (form : ZoneForm) {field : String} (plain : '\'' ∉ field.toList)

include plain

theorem gaps_no_quote : ∀ g ∈ form.gaps field, '\'' ∉ g.2.toList := by
  cases form <;> simp [gaps, plain]

theorem opening_no_quote : '\'' ∉ (form.opening field).toList := by
  cases form <;> simp [opening, plain]

/-- The tokens of a field put into a zone, with nothing in the places of the zone. -/
def frame (form : ZoneForm) (field : String) : List (Option Token) :=
  (Text.plain (form.opening field)).map some ++ Gap.tokens (form.gaps field)

omit plain in
theorem count_frame (field : String) :
    (form.frame field).count none = if form = addedOffset then 2 else 1 := by
  have own : ((Text.plain (form.opening field)).map some).count none = 0 := by
    simp [List.count_eq_zero]
  rw [frame, List.count_append, own, Gap.count_tokens]
  cases form <;> rfl

theorem tokens?_convert (zone : String) :
    tokens? (form.convert field zone) = some (Gap.fill zone (form.frame field)) := by
  have opened := reads_plain (form.opening_no_quote plain)
  have others := Gap.reads_write zone (form.gaps field) fun g hg =>
    ⟨form.gaps_no_quote plain g hg, form.resumes_gaps field g hg⟩
  rw [convert_eq, frame, Gap.fill_append, Gap.fill_plain]
  exact (opened.append others).tokens?

end ZoneForm

/-! ## Zones of a context -/

/-- The zone of the context, which is not made of blanks alone. -/
def Context.Zoned (c : Context) (zone : String) : Prop :=
  c.timezone = some zone ∧ ∃ ch ∈ zone.toList, isBlank ch = false

theorem Context.zone_eq_some_iff {c : Context} {zone : String} :
    c.zone = some zone ↔ c.Zoned zone := by
  simp [Context.zone, Zoned, Option.filter_eq_some_iff, isBlankText]

theorem Context.zone_eq_none_iff {c : Context} : c.zone = none ↔
    c.timezone = none ∨ ∃ zone, c.timezone = some zone ∧ ∀ ch ∈ zone.toList, isBlank ch = true := by
  cases h : c.timezone <;> simp [Context.zone, h, isBlankText]

namespace Dialect

/-- A zone is written as a literal, and each text of the dialect around it is the same for all zones. -/
structure ConfinesZone (d : Dialect) : Prop where
  unchanged_iff (c : Context) (field : String) : d.convertZone c field = field ↔
    c.timezone = none ∨ ∃ zone, c.timezone = some zone ∧ ∀ ch ∈ zone.toList, isBlank ch = true
  /-- The places of the zone are those of the frame that hold no token. -/
  confined (field : String) (plain : '\'' ∉ field.toList) : ∃ frame : List (Option Token),
    frame.count none = (if d.zone = .addedOffset then 2 else 1) ∧
    ∀ c zone, c.Zoned zone →
      tokens? (d.convertZone c field) = some (frame.map fun t => t.getD (.literal zone))
  /-- Whatever the field, quotes included. -/
  injective (field : String) (c c' : Context) (zone zone' : String) (given : c.Zoned zone)
    (given' : c'.Zoned zone') (h : d.convertZone c field = d.convertZone c' field) : zone = zone'

variable {d : Dialect} {c : Context} {field zone : String}

theorem convertZone_of_zoned (h : c.Zoned zone) :
    d.convertZone c field = d.zone.convert field zone := by
  rw [convertZone, Context.zone_eq_some_iff.2 h]

theorem confinesZone (d : Dialect) : d.ConfinesZone where
  unchanged_iff c field := by
    rw [← Context.zone_eq_none_iff, convertZone]
    cases c.zone with
    | none => simp
    | some zone => simp [ZoneForm.convert_ne]
  confined field plain := by
    refine ⟨d.zone.frame field, d.zone.count_frame field, fun c zone given => ?_⟩
    rw [convertZone_of_zoned given]
    exact d.zone.tokens?_convert plain zone
  injective field c c' zone zone' given given' h := by
    rw [convertZone_of_zoned given, convertZone_of_zoned given', ZoneForm.convert_eq,
      ZoneForm.convert_eq, String.append_right_inj] at h
    exact Gap.write_injective (d.zone.resumes_gaps field) (d.zone.exists_place field) h

/-- No zone reaches out of its literals, of which two are written where the offset is added and one
elsewhere. -/
theorem zone_confined : (∀ d : Dialect, d.ConfinesZone) ∧ base.zone ≠ .addedOffset ∧
    ∀ e : Engine, e.dialect.zone = .addedOffset ↔ e = .presto := by
  refine ⟨confinesZone, by decide, ?_⟩
  rintro (_ | _ | _) <;> decide

example : (tokens? (duckDb.convertZone { timezone := some "' OR ''" } "t")).map literals =
    some ["' OR ''"] := by decide +kernel

end Dialect

end QueryDialect
