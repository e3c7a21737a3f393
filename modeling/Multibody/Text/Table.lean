/-!
# Aligned columns

Lines whose cells are separated by tabs are laid out in columns.  A cell
ended by a tab belongs to a column; the text after a line's last tab does
not, and is written as it is.  A column's width is fixed anew for each run
of consecutive lines that have a cell in it: the widest of those cells plus
the padding.  Cells are left-aligned and filled with blanks.
-/

namespace Multibody.Text

/-- The widths a column gives to each line: for every maximal run of lines
with a cell in the column, the widest cell of the run plus `padding`; none
for a line without a cell there. -/
def columnWidths (padding : Nat) (cells : List (Option Nat)) : List (Option Nat) :=
  let runs := cells.splitBy fun a b => a.isSome == b.isSome
  runs.flatMap fun run =>
    if run.all Option.isSome then
      let w := run.foldl (fun m c => max m (c.getD 0)) 0 + padding
      run.map fun _ => some w
    else run.map fun _ => none

/-- The cells of a line that belong to columns: all but the text after its
last tab. -/
def columnCells (line : String) : List String := (line.splitOn "\t").dropLast

/-- The text after a line's last tab. -/
def lastCell (line : String) : String := ((line.splitOn "\t").getLast?).getD ""

/-- Pads a cell to a width with blanks. -/
def padCell (width : Nat) (cell : String) : String :=
  cell ++ String.ofList (List.replicate (width - cell.length) ' ')

/-- Lays out lines in aligned columns with `padding` blanks at least between
cells. -/
def tabulate (padding : Nat) (lines : List String) : List String :=
  let cells := lines.map columnCells
  let columns := cells.foldl (fun m cs => max m cs.length) 0
  let widths : List (List (Option Nat)) := (List.range columns).map fun j =>
    columnWidths padding (cells.map fun cs => (cs[j]?).map String.length)
  (lines.zip (List.range lines.length)).map fun (line, i) =>
    let cs := columnCells line
    let padded := (cs.zip (List.range cs.length)).map fun (c, j) =>
      padCell (((widths[j]?).bind fun ws => (ws[i]?).join).getD 0) c
    String.join padded ++ lastCell line

/-- Laying out keeps one line per line. -/
theorem tabulate_length (padding : Nat) (lines : List String) :
    (tabulate padding lines).length = lines.length := by
  simp only [tabulate, List.length_map, List.length_zip, List.length_range, Nat.min_self]

end Multibody.Text
