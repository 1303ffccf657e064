import CanDecoder.Json.Value

/-!
# Rows of a report

A kind of row has a fixed list of column headers, the text of each of its cells, and a
JSON form. Rows are written as CSV: the header line, then one line per row, each line
ended by a line feed; a cell holding a comma, a quote or a line feed is put in quotes,
with each quote inside doubled. No rows give no text at all, not even headers.
-/

namespace CanDecoder

/-- A kind of row with named columns. -/
class Tabular (α : Type) where
  headers : List String
  cells : α → List String
  toJson : α → Json.Value

/-- Whether a CSV cell must be put in quotes. -/
def needsQuotes (s : String) : Bool := s.toList.any fun c => c = ',' || c = '"' || c = '\n'

/-- One CSV cell. -/
def csvCell (s : String) : String :=
  if needsQuotes s then
    String.ofList ('"' :: (s.toList.flatMap fun c => if c = '"' then ['"', '"'] else [c]) ++ ['"'])
  else s

/-- One CSV line, with its line feed. -/
def csvLine (cells : List String) : String := ",".intercalate (cells.map csvCell) ++ "\n"

/-- Rows as CSV text. -/
def renderCsv {α : Type} [Tabular α] (rows : List α) : String :=
  if rows.isEmpty then ""
  else String.join (csvLine (Tabular.headers α) :: rows.map fun r => csvLine (Tabular.cells r))

/-- Rows as a JSON array. -/
def rowsJson {α : Type} [Tabular α] (rows : List α) : Json.Value := .arr (rows.map Tabular.toJson)

example : csvCell "say \"hi\"" = "\"say \"\"hi\"\"\"" := by decide

end CanDecoder
