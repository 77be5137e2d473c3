/-!
# Column alignment

A text is read as lines of cells that tabs separate. Every cell that another cell
follows on its line is padded with spaces to the width of its column, which is
two more than its longest such cell. The last cell of a line is left alone and
has no part in any width. Widths count characters.
-/

namespace Chatdown.Chat

/-- The spaces that at least stand between two columns. -/
def gutter : Nat := 2

/-- The lines of a text, each as its cells. -/
def grid (text : List Char) : List (List (List Char)) :=
  (text.splitOn '\n').map (·.splitOn '\t')

/-- The widths that the cells of one line ask for; the last cell asks for
nothing. -/
def lineWidths (cells : List (List Char)) : List Nat :=
  cells.dropLast.map fun cell => cell.length + gutter

/-- The larger of two widths in each column. Where one list has no more columns
the other decides. -/
def mergeWidths : List Nat → List Nat → List Nat
  | [], widths => widths
  | widths, [] => widths
  | a :: as, b :: bs => max a b :: mergeWidths as bs

/-- The width of each column that some line pads. -/
def columnWidths (lines : List (List (List Char))) : List Nat :=
  lines.foldl (fun widths cells => mergeWidths widths (lineWidths cells)) []

/-- A cell with spaces up to a width. -/
def pad (width : Nat) (cell : List Char) : List Char :=
  cell ++ List.replicate (width - cell.length) ' '

/-- One line: all cells but the last one padded to the widths of their
columns. -/
def alignCells : List Nat → List (List Char) → List Char
  | _, [] => []
  | _, [last] => last
  | [], cell :: rest => cell ++ alignCells [] rest
  | width :: widths, cell :: rest => pad width cell ++ alignCells widths rest

/-- Align the columns of a text over all its lines. -/
def alignColumns (text : List Char) : List Char :=
  let lines := grid text
  ['\n'].intercalate (lines.map (alignCells (columnWidths lines)))

end Chatdown.Chat
