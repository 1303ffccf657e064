import CanDecoder.Listing
import CanDecoder.Log.Report

/-! Reading report CSV back. A standard reader ends a record at a line feed, a carriage
return followed by a line feed, or a lone carriage return, each outside quotes; it splits
fields at commas, and a field enclosed in quotes may hold any character, a quote written
twice. The writer quotes a cell only when it holds a comma, a quote or a line feed, so a
cell holding a carriage return and none of these is written bare and the reader ends the
record inside it. Every other row reads back as the cells it displays, after the header
record. -/

namespace CanDecoder

/-- A kind of row laid out as a table: it has a column, and every row one cell per column. -/
class Tabular.Lawful (α : Type) [Tabular α] : Prop where
  headers_ne_nil : Tabular.headers α ≠ []
  length_cells : ∀ r : α, (Tabular.cells r).length = (Tabular.headers α).length

theorem Tabular.cells_ne_nil {α : Type} [Tabular α] [Tabular.Lawful α] (r : α) :
    Tabular.cells r ≠ [] := by
  rw [← List.length_pos_iff, Tabular.Lawful.length_cells, List.length_pos_iff]
  exact Tabular.Lawful.headers_ne_nil

/-- A property of every line of a table: the header line and each row's cells. -/
theorem Tabular.forall_mem_lines {α : Type} [Tabular α] (rows : List α) {P : List String → Prop}
    (hheaders : P (Tabular.headers α)) (hcells : ∀ r ∈ rows, P (Tabular.cells r)) :
    ∀ l ∈ Tabular.headers α :: rows.map Tabular.cells, P l :=
  List.forall_mem_cons.mpr ⟨hheaders, List.forall_mem_map.mpr hcells⟩

instance : Tabular.Lawful Log.ChannelRow := ⟨by decide, fun _ => rfl⟩
instance : Tabular.Lawful Log.LatestRow := ⟨by decide, fun _ => rfl⟩
instance : Tabular.Lawful FrameRow := ⟨by decide, fun _ => rfl⟩
instance : Tabular.Lawful ChannelDefRow := ⟨by decide, fun _ => rfl⟩

/-- A cell whose carriage returns, if it has any, are written inside quotes. -/
def ReturnQuoted (s : String) : Prop := '\r' ∈ s.toList → needsQuotes s = true

instance : DecidablePred ReturnQuoted := fun _ => inferInstanceAs (Decidable (_ → _))

namespace Csv

/-- Where a reader stands: at the start of a record, also just after a carriage return
(where a line feed still belongs to the record's end), at the start of a later field,
inside a bare field, inside a quoted field, or just after a quote inside a quoted field
(which closes it unless a second quote follows). -/
inductive Place where
  | recordStart
  | afterReturn
  | fieldStart
  | bare
  | quoted
  | quoteSeen
  deriving DecidableEq, Repr

/-- A reader part way through a text: the records read, the fields of the current record,
the text of the current field and where it stands. -/
structure Reader where
  records : List (List String)
  fields : List String
  field : List Char
  place : Place
  deriving DecidableEq, Repr

namespace Reader

def init : Reader := ⟨[], [], [], .recordStart⟩

/-- Add a character to the current field. -/
def push (r : Reader) (c : Char) (place : Place) : Reader := { r with field := r.field ++ [c], place }

/-- Close the current field. -/
def endField (r : Reader) : Reader :=
  { r with fields := r.fields ++ [String.ofList r.field], field := [], place := .fieldStart }

/-- Close the current record. -/
def endRecord (r : Reader) (place : Place) : Reader :=
  ⟨r.records ++ [r.fields ++ [String.ofList r.field]], [], [], place⟩

/-- A character outside quotes that opens no quoted field. -/
def outside (r : Reader) (c : Char) : Reader :=
  if c = ',' then r.endField
  else if c = '\n' then r.endRecord .recordStart
  else if c = '\r' then r.endRecord .afterReturn
  else r.push c .bare

def step (r : Reader) (c : Char) : Reader :=
  match r.place with
  | .quoted => if c = '"' then { r with place := .quoteSeen } else r.push c .quoted
  | .quoteSeen => if c = '"' then r.push c .quoted else r.outside c
  | .afterReturn =>
    if c = '\n' then { r with place := .recordStart }
    else if c = '"' then { r with place := .quoted } else r.outside c
  | .recordStart | .fieldStart => if c = '"' then { r with place := .quoted } else r.outside c
  | .bare => r.outside c

/-- The records of a finished text: a record left open at the end counts. -/
def finish (r : Reader) : List (List String) :=
  match r.place with
  | .recordStart | .afterReturn => r.records
  | _ => r.records ++ [r.fields ++ [String.ofList r.field]]

end Reader

/-- The records of a CSV text. -/
def read (text : String) : List (List String) := (text.toList.foldl Reader.step .init).finish

/-- A place where a comma closes the field and a line feed the record. -/
def Place.Separates (p : Place) : Prop :=
  p = .recordStart ∨ p = .fieldStart ∨ p = .bare ∨ p = .quoteSeen

/-- A character a bare cell may hold. -/
def Plain (c : Char) : Prop := c ≠ ',' ∧ c ≠ '"' ∧ c ≠ '\n' ∧ c ≠ '\r'

namespace Reader

variable {r : Reader}

theorem step_comma (h : r.place.Separates) : r.step ',' = r.endField := by
  rcases h with h | h | h | h <;> simp [step, outside, h]

theorem step_newline (h : r.place.Separates) : r.step '\n' = r.endRecord .recordStart := by
  rcases h with h | h | h | h <;> simp [step, outside, h]

/-- Outside quotes, a plain character extends a bare field. -/
theorem step_plain {c : Char} (hc : Plain c)
    (h : r.place = .recordStart ∨ r.place = .fieldStart ∨ r.place = .bare) :
    r.step c = r.push c .bare := by
  obtain ⟨hcomma, hquote, hlf, hcr⟩ := hc
  rcases h with h | h | h <;> simp [step, outside, h, hcomma, hquote, hlf, hcr]

theorem foldl_plain (cs : List Char) (hcs : ∀ c ∈ cs, Plain c) (h : r.place = .bare) :
    cs.foldl step r = { r with field := r.field ++ cs } := by
  induction cs generalizing r with
  | nil => simp
  | cons c cs ih =>
    obtain ⟨hc, hcs⟩ := List.forall_mem_cons.mp hcs
    rw [List.foldl_cons, step_plain hc (.inr (.inr h)), ih hcs rfl]
    simp [push, h]

/-- Inside quotes, a character is read as itself and a doubled quote as one quote. -/
theorem foldl_escaped (cs : List Char) (h : r.place = .quoted) :
    (cs.flatMap fun c => if c = '"' then ['"', '"'] else [c]).foldl step r =
      { r with field := r.field ++ cs } := by
  induction cs generalizing r with
  | nil => simp
  | cons c cs ih =>
    rw [List.flatMap_cons, List.foldl_append]
    by_cases hc : c = '"'
    · subst hc
      have hstep : ['"', '"'].foldl step r = r.push '"' .quoted := by simp [step, push, h]
      rw [if_pos rfl, hstep, ih rfl]
      simp [push, h]
    · have hstep : [c].foldl step r = r.push c .quoted := by simp [step, push, h, hc]
      rw [if_neg hc, hstep, ih rfl]
      simp [push, h]

end Reader

open Reader

/-- The written form of a cell, read from the start of a field, leaves the cell's text as
the current field, at a place where a separator closes it. -/
theorem foldl_csvCell (s : String) (hs : ReturnQuoted s) (rs : List (List String))
    (fs : List String) (start : Place) (hstart : start = .recordStart ∨ start = .fieldStart) :
    ∃ p : Place, p.Separates ∧
      (csvCell s).toList.foldl step ⟨rs, fs, [], start⟩ = ⟨rs, fs, s.toList, p⟩ := by
  unfold csvCell
  split
  case isTrue hq =>
    -- the opening quote, the escaped text, and the closing quote
    have hopen : step ⟨rs, fs, [], start⟩ '"' = ⟨rs, fs, [], .quoted⟩ := by
      rcases hstart with rfl | rfl <;> simp [step]
    refine ⟨.quoteSeen, .inr (.inr (.inr rfl)), ?_⟩
    rw [String.toList_ofList, List.cons_append, List.foldl_cons, hopen, List.foldl_append,
      foldl_escaped _ rfl]
    simp [step]
  case isFalse hq =>
    have hplain : ∀ c ∈ s.toList, Plain c := by
      intro c hc
      have hany : ¬ (s.toList.any fun c => c = ',' || c = '"' || c = '\n') = true := hq
      simp only [List.any_eq_true, not_exists, not_and, Bool.or_eq_true, decide_eq_true_eq] at hany
      have hcr : c ≠ '\r' := fun hcr => hq (hs (hcr ▸ hc))
      have := hany c hc
      exact ⟨fun h => this (.inl (.inl h)), fun h => this (.inl (.inr h)),
        fun h => this (.inr h), hcr⟩
    cases hcs : s.toList with
    | nil => exact ⟨start, by rcases hstart with rfl | rfl <;> simp [Place.Separates], rfl⟩
    | cons c cs =>
      obtain ⟨hc, hplain⟩ := List.forall_mem_cons.mp (hcs ▸ hplain)
      refine ⟨.bare, .inr (.inr (.inl rfl)), ?_⟩
      rw [List.foldl_cons, step_plain hc (hstart.elim .inl (.inr ∘ .inl)), foldl_plain cs hplain rfl]
      simp [push]

/-- The cells of a line, joined by commas and ended by a line feed, read from the start of
a field as the last cells of one record. -/
theorem foldl_cells (cells : List String) (hne : cells ≠ []) (hcells : ∀ c ∈ cells, ReturnQuoted c)
    (rs : List (List String)) (fs : List String) (start : Place)
    (hstart : start = .recordStart ∨ start = .fieldStart) :
    (([','].intercalate ((cells.map csvCell).map String.toList)) ++ ['\n']).foldl step
      ⟨rs, fs, [], start⟩ = ⟨rs ++ [fs ++ cells], [], [], .recordStart⟩ := by
  induction cells generalizing fs start with
  | nil => exact absurd rfl hne
  | cons c cs ih =>
    obtain ⟨p, hp, hcell⟩ := foldl_csvCell c (hcells c List.mem_cons_self) rs fs start hstart
    cases cs with
    | nil =>
      rw [List.map_singleton, List.map_singleton, List.intercalate_singleton, List.foldl_append, hcell,
        List.foldl_cons, step_newline hp]
      simp [endRecord]
    | cons d ds =>
      -- the first cell, its comma, then the later cells from the start of a field
      have hrest := ih (List.cons_ne_nil _ _) (fun e he => hcells e (List.mem_cons_of_mem _ he))
        (fs ++ [c]) .fieldStart (.inr rfl)
      rw [List.map_cons, List.map_cons] at hrest
      rw [List.map_cons, List.map_cons, List.map_cons, List.map_cons, List.intercalate_cons_cons, List.append_assoc,
        List.append_assoc, List.foldl_append, hcell, List.foldl_append, List.foldl_cons,
        List.foldl_nil, step_comma hp]
      simpa [endField] using hrest

/-- One written line read from the start of a record adds its cells as a record. -/
theorem foldl_csvLine (cells : List String) (hne : cells ≠ []) (hcells : ∀ c ∈ cells, ReturnQuoted c)
    (rs : List (List String)) :
    (csvLine cells).toList.foldl step ⟨rs, [], [], .recordStart⟩ = ⟨rs ++ [cells], [], [], .recordStart⟩ := by
  rw [csvLine, String.toList_append, String.toList_intercalate]
  exact foldl_cells cells hne hcells rs [] .recordStart (.inl rfl)

theorem foldl_csvLines (lines : List (List String)) (hne : ∀ l ∈ lines, l ≠ [])
    (hcells : ∀ l ∈ lines, ∀ c ∈ l, ReturnQuoted c) (rs : List (List String)) :
    (lines.flatMap fun l => (csvLine l).toList).foldl step ⟨rs, [], [], .recordStart⟩ =
      ⟨rs ++ lines, [], [], .recordStart⟩ := by
  induction lines generalizing rs with
  | nil => simp
  | cons l ls ih =>
    obtain ⟨hl, hne⟩ := List.forall_mem_cons.mp hne
    obtain ⟨hlcells, hcells⟩ := List.forall_mem_cons.mp hcells
    rw [List.flatMap_cons, List.foldl_append, foldl_csvLine l hl hlcells, ih hne hcells]
    simp

end Csv

/-- Reading the CSV of rows of any kind laid out as a table (every report and listing row
is one) gives the header record and then, row by row, the cells the row displays, provided
every cell holding a carriage return is written inside quotes; no rows are written as no
text at all. -/
theorem renderCsv_reads_back {α : Type} [Tabular α] [Tabular.Lawful α] (rows : List α)
    (hquoted : ∀ c ∈ Tabular.headers α ++ rows.flatMap Tabular.cells, ReturnQuoted c) :
    Csv.read (renderCsv rows) =
      (if rows = [] then [] else Tabular.headers α :: rows.map Tabular.cells) ∧
    (rows = [] → renderCsv rows = "") := by
  by_cases hrows : rows = []
  · subst hrows
    exact ⟨rfl, fun _ => rfl⟩
  have hlines : ∀ l ∈ Tabular.headers α :: rows.map Tabular.cells, ∀ c ∈ l, ReturnQuoted c :=
    Tabular.forall_mem_lines rows (fun c hc => hquoted c (List.mem_append_left _ hc))
      (fun r hr c hc => hquoted c (List.mem_append_right _ (List.mem_flatMap.mpr ⟨r, hr, hc⟩)))
  have hne : ∀ l ∈ Tabular.headers α :: rows.map Tabular.cells, l ≠ [] :=
    Tabular.forall_mem_lines rows Tabular.Lawful.headers_ne_nil fun r _ => Tabular.cells_ne_nil r
  have htext : (renderCsv rows).toList =
      (Tabular.headers α :: rows.map Tabular.cells).flatMap fun l => (csvLine l).toList := by
    rw [renderCsv, if_neg (by simpa using hrows), String.toList_join]
    simp [List.flatMap_map]
  refine ⟨?_, fun h => absurd h hrows⟩
  rw [if_neg hrows, Csv.read, htext]
  exact congrArg Csv.Reader.finish (Csv.foldl_csvLines _ hne hlines [])

/-- The frame listing of two frames, one name holding a comma and one a carriage return and
line feed, reads back from its CSV. -/
theorem frame_listing_csv_reads_back :
    let rows : List FrameRow :=
      [⟨"0x360", "Engine Core 1", 50, 4⟩, ⟨"0x3E0", "Temperatures, Group 1\r\n", 5, 4⟩]
    (∀ c ∈ Tabular.headers FrameRow ++ rows.flatMap Tabular.cells, ReturnQuoted c) ∧
      Csv.read (renderCsv rows) = Tabular.headers FrameRow :: rows.map Tabular.cells := by
  intro rows
  have hquoted : ∀ c ∈ Tabular.headers FrameRow ++ rows.flatMap Tabular.cells, ReturnQuoted c := by
    decide
  exact ⟨hquoted, (renderCsv_reads_back rows hquoted).1.trans (if_neg (by simp [rows]))⟩

/-- A frame name holding a lone carriage return is written bare, so the reader ends the
record inside the name and reads three records. -/
theorem bare_carriage_return_splits_record :
    Csv.read (renderCsv [(⟨"0x360", "a\rb", 0, 0⟩ : FrameRow)]) =
      [["ID", "Name", "Rate (Hz)", "Channels"], ["0x360", "a"], ["b", "0", "0"]] := by
  decide

end CanDecoder
