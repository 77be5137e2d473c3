import Chatdown.Proofs.Geometry
import Chatdown.Proofs.Tree

/-!
# From the rows of a table to its lines

The rows of a table are joined by tabs and newlines and then taken apart again, so that
they can be aligned. Where the texts of the cells hold neither a tab nor a newline, that
gives the cells back: each row is one line of the table, set with the widths of the
columns, whether it belongs to the header or to the body.
-/

namespace Chatdown

namespace Node

/-- A cell has a cell. -/
theorem hasCell_of_kind {node : Node} (h : node.kind = .tableCell) : node.hasCell = true := by
  cases node with
  | mk kind children =>
    change kind = _ at h
    rw [h, hasCell_mk]
    rfl

/-- What a node holds has no cell that the node has not. -/
theorem hasCell_of_mem {node child : Node} (hchild : child ∈ node.children)
    (h : child.hasCell = true) : node.hasCell = true := by
  cases node with
  | mk kind children =>
    rw [hasCell_mk, Bool.or_eq_true, List.any_eq_true]
    exact Or.inr ⟨child, hchild, h⟩

end Node

namespace Chat

open Text

/-- The rows of a table of the usual shape: one in the header, and those of the body, if
there is a body. -/
structure Sheet where
  /-- The only row of the header. -/
  header : Node
  /-- The rows of the body. -/
  body : Option (List Node)

namespace Sheet

/-- The table that has these rows. -/
def table (sheet : Sheet) : Node :=
  .mk .table (.mk .tableHeader [sheet.header] :: (sheet.body.map (Node.mk .tableBody)).toList)

/-- The rows of the body, none if there is no body. -/
def bodyRows (sheet : Sheet) : List Node :=
  sheet.body.getD []

/-- The texts of the cells, row by row: trimmed and between asterisks in the header, as
they are rendered in the body. -/
def texts (sheet : Sheet) : List (List (List Char)) :=
  sheet.header.children.map (fun cell => '*' :: trim (render cell) ++ ['*']) ::
    sheet.bodyRows.map fun row => row.children.map render

/-- A table of rows of cells, at least one of them, whose texts hold neither a tab nor a
newline. -/
structure Plain (sheet : Sheet) : Prop where
  /-- Its rows are rows. -/
  rows : ∀ row ∈ sheet.header :: sheet.bodyRows, row.kind = .tableRow
  /-- They hold nothing but cells. -/
  cells : ∀ row ∈ sheet.header :: sheet.bodyRows, ∀ cell ∈ row.children, cell.kind = .tableCell
  /-- Some row has a cell. -/
  filled : ∃ row ∈ sheet.header :: sheet.bodyRows, row.children ≠ []
  /-- The cells of the header stay in one piece once they are trimmed. -/
  headerCells : ∀ cell ∈ sheet.header.children,
    '\t' ∉ trim (render cell) ∧ '\n' ∉ trim (render cell)
  /-- The cells of the body stay in one piece. -/
  bodyCells : ∀ row ∈ sheet.bodyRows, ∀ cell ∈ row.children,
    '\t' ∉ render cell ∧ '\n' ∉ render cell

end Sheet

/-- Lines that each end in a newline are found again by splitting there, with what stands
behind the last newline. -/
theorem splitOn_lines {lines : List (List Char)} (h : ∀ line ∈ lines, '\n' ∉ line)
    (rest : List Char) :
    (lines.flatMap (· ++ ['\n']) ++ rest).splitOn '\n' = lines ++ rest.splitOn '\n' := by
  induction lines with
  | nil => rfl
  | cons line others ih =>
    obtain ⟨hline, hothers⟩ := List.forall_mem_cons.mp h
    rw [List.flatMap_cons, List.append_assoc, List.append_assoc, List.singleton_append,
      List.splitOn_append_cons_self_of_not_mem hline, ih hothers, List.cons_append]

/-- The cells that a line of cells is taken apart into: a line without any has one that is
empty. -/
def refill : List (List Char) → List (List Char)
  | [] => [[]]
  | cells => cells

/-- Cells without tabs that tabs separate are found again by splitting there. -/
theorem splitOn_tabbed {cells : List (List Char)} (h : ∀ cell ∈ cells, '\t' ∉ cell) :
    (['\t'].intercalate cells).splitOn '\t' = refill cells := by
  cases cells with
  | nil => rfl
  | cons cell rest => exact List.splitOn_intercalate '\t' h (List.cons_ne_nil cell rest)

/-- The cells of a line before its last one are not refilled. -/
theorem dropLast_refill (cells : List (List Char)) : (refill cells).dropLast = cells.dropLast := by
  cases cells <;> rfl

/-- A refilled line is set like the line. -/
theorem setLine_refill (width : Nat → Nat) (cells : List (List Char)) :
    setLine width (refill cells) = setLine width cells := by
  cases cells <;> rfl

/-- Two empty lines behind refilled lines have no part in the widths. -/
theorem columnWidth_refill (lines : List (List (List Char))) :
    columnWidth (lines.map refill ++ [[[]], [[]]]) = columnWidth lines := by
  funext column
  have hfollowed : followed (lines.map refill ++ [[[]], [[]]]) column = followed lines column := by
    rw [followed, List.filterMap_append, List.filterMap_map]
    simp [followed, dropLast_refill]
  rw [columnWidth, columnWidth, hfollowed]

/-- A header writes its cells in bold and trimmed, with tabs between them. -/
theorem render_tableHeader {row : Node} :
    render (.mk .tableHeader [row]) =
      ['\t'].intercalate (row.children.map fun cell => '*' :: trim (render cell) ++ ['*']) := by
  cases row with
  | mk kind cells =>
    rw [render, renderEach_eq_map, List.map_map]
    rfl

/-- A row writes its cells as they are, with tabs between them, and a newline. -/
theorem render_tableRow {row : Node} (h : row.kind = .tableRow) :
    render row = ['\t'].intercalate (row.children.map render) ++ ['\n'] := by
  cases row with
  | mk kind cells =>
    change kind = _ at h
    rw [h, render, renderEach_eq_map]
    rfl

namespace Sheet

/-- A table writes its rows, each with a newline. -/
theorem renderRows_table {sheet : Sheet} (h : sheet.Plain) :
    renderRows sheet.table.children =
      (sheet.texts.map (['\t'].intercalate ·)).flatMap (· ++ ['\n']) := by
  have hrows : sheet.bodyRows.flatMap render =
      ((sheet.bodyRows.map fun row => row.children.map render).map
        (['\t'].intercalate ·)).flatMap (· ++ ['\n']) := by
    rw [List.map_map, List.flatMap_map]
    exact List.flatMap_congr fun row hrow =>
      render_tableRow (h.rows row (List.mem_cons_of_mem _ hrow))
  have hbody : renderRows (sheet.body.map (Node.mk .tableBody)).toList =
      sheet.bodyRows.flatMap render := by
    rw [bodyRows]
    cases sheet.body with
    | none => rfl
    | some rows =>
      rw [Option.map_some, Option.toList_some, renderRows_eq_flatMap, List.flatMap_singleton,
        render, renderEach_eq_map, ← List.flatMap_def]
      exact List.append_nil _
  rw [table, Node.children, renderRows, render_tableHeader, hbody, hrows]
  rfl

/-- A cell in some row is a cell of the table. -/
theorem hasCell_table {sheet : Sheet} (h : sheet.Plain) : sheet.table.hasCell = true := by
  obtain ⟨row, hrow, hfilled⟩ := h.filled
  obtain ⟨cell, hcell⟩ := List.exists_mem_of_ne_nil _ hfilled
  have hrowCell : row.hasCell = true :=
    Node.hasCell_of_mem hcell (Node.hasCell_of_kind (h.cells row hrow cell hcell))
  rcases List.mem_cons.mp hrow with rfl | hbody
  · have hheader : (Node.mk .tableHeader [sheet.header]).hasCell = true :=
      Node.hasCell_of_mem (List.mem_singleton_self _) hrowCell
    exact Node.hasCell_of_mem (List.mem_cons_self) hheader
  · rw [bodyRows] at hbody
    cases hrows : sheet.body with
    | none =>
      rw [hrows] at hbody
      contradiction
    | some rows =>
      rw [hrows, Option.getD_some] at hbody
      have hbodyCell : (Node.mk .tableBody rows).hasCell = true :=
        Node.hasCell_of_mem hbody hrowCell
      refine Node.hasCell_of_mem (List.mem_cons_of_mem _ ?_) hbodyCell
      rw [hrows]
      exact List.mem_singleton_self _

/-- The texts of the cells hold neither a tab nor a newline. -/
theorem not_mem_of_mem_texts {sheet : Sheet} (h : sheet.Plain) {cells : List (List Char)}
    (hcells : cells ∈ sheet.texts) {cell : List Char} (hcell : cell ∈ cells) :
    '\t' ∉ cell ∧ '\n' ∉ cell := by
  rcases List.mem_cons.mp hcells with rfl | hbody
  · obtain ⟨node, hnode, rfl⟩ := List.mem_map.mp hcell
    have hplain := h.headerCells node hnode
    simpa using hplain
  · obtain ⟨row, hrow, rfl⟩ := List.mem_map.mp hbody
    obtain ⟨node, hnode, rfl⟩ := List.mem_map.mp hcell
    exact h.bodyCells row hrow node hnode

/-- Texts of cells that are joined by tabs are on one line. -/
theorem newline_not_mem_line {sheet : Sheet} (h : sheet.Plain) {cells : List (List Char)}
    (hcells : cells ∈ sheet.texts) : '\n' ∉ ['\t'].intercalate cells := by
  rw [mem_intercalate_iff (by decide)]
  rintro ⟨cell, hcell, hmem⟩
  exact (not_mem_of_mem_texts h hcells hcell).2 hmem

/-- The lines that a table is aligned from are the texts of its cells, row by row, and two
empty lines. -/
theorem grid_table {sheet : Sheet} (h : sheet.Plain) :
    grid (renderRows sheet.table.children ++ ['\n']) =
      sheet.texts.map refill ++ [[[]], [[]]] := by
  have hlines : ∀ line ∈ sheet.texts.map (['\t'].intercalate ·), '\n' ∉ line := by
    intro line hline
    obtain ⟨cells, hcells, rfl⟩ := List.mem_map.mp hline
    exact newline_not_mem_line h hcells
  have hcells : (sheet.texts.map (['\t'].intercalate ·)).map (·.splitOn '\t') =
      sheet.texts.map refill := by
    rw [List.map_map]
    exact List.map_congr_left fun cells hcells =>
      splitOn_tabbed fun _ hcell => (not_mem_of_mem_texts h hcells hcell).1
  rw [grid, renderRows_table h, splitOn_lines hlines, List.map_append, hcells]
  rfl

/-- The lines of a table are those of its rows, set with the widths of their columns, and
two empty ones. -/
theorem lines_renderTable {sheet : Sheet} (h : sheet.Plain) :
    (renderTable sheet.table).splitOn '\n' =
      sheet.texts.map (setLine (columnWidth sheet.texts)) ++ [[], []] := by
  rw [renderTable, if_pos (hasCell_table h), splitOn_alignColumns, grid_table h,
    columnWidth_refill, List.map_append, List.map_map]
  congr 1
  exact List.map_congr_left fun cells _ => setLine_refill _ cells

end Sheet

/-- A table of rows of cells is one line for each row, the header first, and two empty
lines. The line of a row is the texts of its cells, all but the last one filled up to two
more than the longest text of their column that is not the last one of its row. A row
without cells is an empty line. The widths are the same for the header and the body, so
that a cell begins at one offset on all lines. -/
theorem splitOn_renderTable {sheet : Sheet} (h : sheet.Plain) :
    (renderTable sheet.table).splitOn '\n' =
        sheet.texts.map (setLine (columnWidth sheet.texts)) ++ [[], []] ∧
      (∀ cells ∈ sheet.texts, Laid (columnWidth sheet.texts) cells
        (setLine (columnWidth sheet.texts) cells)) ∧
      setLine (columnWidth sheet.texts) [] = [] := by
  exact ⟨Sheet.lines_renderTable h, fun _ => laid_of_mem, rfl⟩

/-- A table with a padded cell in its header, a longer row with a link in it, and a row
without cells. -/
def raggedSheet : Sheet where
  header := .mk .tableRow [.mk .tableCell [.text " a "], .mk .tableCell [.text "b"]]
  body := some [
    .mk .tableRow [.mk .tableCell [.text "long"], .mk .tableCell [.mk (.link "u" "") [.text "c"]],
      .mk .tableCell [.text "d"]],
    .mk .tableRow []]

/-- The table with the longer row has a line for each row and two empty lines. -/
theorem splitOn_renderTable_ragged :
    raggedSheet.Plain ∧ (renderTable raggedSheet.table).splitOn '\n' =
      ["*a*   *b*".toList, "long  <u|c>  d".toList, [], [], []] := by
  have hplain : raggedSheet.Plain :=
    { rows := by decide
      cells := by decide
      filled := by decide
      headerCells := by decide
      bodyCells := by decide }
  exact ⟨hplain, (splitOn_renderTable hplain).1.trans (by decide)⟩

end Chat

end Chatdown
