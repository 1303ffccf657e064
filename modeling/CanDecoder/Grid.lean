import CanDecoder.Tabular
import CanDecoder.Text.Width

/-!
# ASCII tables

Rows are shown as a grid of cells: a header row, then one row per item, with a rule of
`-` joined by `+` above the first row and below every row, and `|` between cells. Each
column is as wide as its widest cell, measured in terminal columns, with one space of
padding either side; cells are left-aligned. A cell holding line feeds spans several
lines, and a row is as tall as its tallest cell, shorter cells being blank below.
-/

namespace CanDecoder

/-- The lines of a cell. -/
def cellLines (s : String) : List String := s.splitOn "\n"

/-- The width of a cell: its widest line. -/
def cellWidth (s : String) : Nat := (cellLines s).foldl (fun m l => max m (Text.width l)) 0

/-- `n` copies of `c`. -/
def repeated (c : Char) (n : Nat) : String := String.ofList (List.replicate n c)

/-- The width of each column of `rows`, which all have the same number of cells. -/
def columnWidths (columns : Nat) (rows : List (List String)) : List Nat :=
  rows.foldl (fun ws r => (ws.zip (r.map cellWidth)).map fun (a, b) => max a b) (List.replicate columns 0)

/-- The rule between rows. -/
def ruleLine (widths : List Nat) : String :=
  "+" ++ String.join (widths.map fun w => repeated '-' (w + 2) ++ "+")

/-- The lines of one row. -/
def rowLines (widths : List Nat) (cells : List String) : List String :=
  let lines := cells.map cellLines
  let height := lines.foldl (fun m ls => max m ls.length) 1
  (List.range height).map fun k =>
    "|" ++ String.join ((lines.zip widths).map fun (ls, w) =>
      let l := ls.getD k ""
      " " ++ l ++ repeated ' ' (w - Text.width l) ++ " |")

/-- A grid of a header row and rows of cells, without a final line feed. -/
def renderGrid (headers : List String) (rows : List (List String)) : String :=
  let all := headers :: rows
  let widths := columnWidths headers.length all
  let rule := ruleLine widths
  "\n".intercalate (rule :: all.flatMap fun r => rowLines widths r ++ [rule])

/-- Rows as a grid under their column headers. -/
def renderTable {α : Type} [Tabular α] (rows : List α) : String :=
  renderGrid (Tabular.headers α) (rows.map Tabular.cells)

end CanDecoder
