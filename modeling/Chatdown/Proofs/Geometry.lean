import Chatdown.Proofs.Columns
import Mathlib.Algebra.BigOperators.Group.Finset.Basic
import Mathlib.Data.List.Forall2

/-!
# Where the cells of aligned lines stand

The widths are found in one pass over the lines and used in a second one. Here the
width of a column is said outright: it is two more than the longest of its cells that
another cell follows. Each line is then its cells one after the other, filled up to
these widths, so that a cell begins where the widths of the columns before it end, on
every line alike.
-/

namespace Chatdown.Chat

/-- The cells that stand in a column and have another cell after them on their line. -/
def followed (lines : List (List (List Char))) (column : Nat) : List (List Char) :=
  lines.filterMap fun cells => cells.dropLast[column]?

/-- The width of a column: two more than the length of its longest cell that another
cell follows. -/
def columnWidth (lines : List (List (List Char))) (column : Nat) : Nat :=
  2 + ((followed lines column).map List.length).max?.getD 0

/-- Cells one after the other, each filled up to the width of its column. -/
def filled (width : Nat → Nat) (cells : List (List Char)) : List Char :=
  (cells.mapIdx fun column cell => cell.rightpad (width column) ' ').flatten

/-- A line of cells: all but the last one are filled up. -/
def setLine (width : Nat → Nat) (cells : List (List Char)) : List Char :=
  filled width cells.dropLast ++ cells.getLast?.getD []

/-- A part of a line begins at an offset. -/
def StandsAt (line : List Char) (offset : Nat) (part : List Char) : Prop :=
  ∃ front back, line = front ++ part ++ back ∧ front.length = offset

/-- A line on which each cell begins where the widths of the columns before it end. -/
structure Laid (width : Nat → Nat) (cells : List (List Char)) (line : List Char) : Prop where
  /-- The line is its cells, all but the last one filled up. -/
  text : line = setLine width cells
  /-- A cell begins at the sum of the widths before it. -/
  starts : ∀ column cell, cells[column]? = some cell →
    StandsAt line (∑ before ∈ Finset.range column, width before) cell
  /-- From one cell to the next there are two spaces or more, just as many as its column
  is wider than the cell. -/
  apart : ∀ column cell next, cells[column]? = some cell → cells[column + 1]? = some next →
    ∃ gap, 2 ≤ gap ∧ width column = cell.length + gap ∧
      StandsAt line (∑ before ∈ Finset.range column, width before)
        (cell ++ List.replicate gap ' ' ++ next)

/-- Merged widths are the larger ones, column by column. -/
theorem getElem?_mergeWidths (as bs : List Nat) (column : Nat) :
    (mergeWidths as bs)[column]? = max as[column]? bs[column]? := by
  induction as, bs using mergeWidths.induct generalizing column with
  | case1 widths => rw [mergeWidths, List.getElem?_nil, Option.max_none_left]
  | case2 widths hne =>
    rw [mergeWidths, List.getElem?_nil, Option.max_none_right]
    exact hne
  | case3 a as b bs ih =>
    cases column with
    | zero => rfl
    | succ column => exact ih column

/-- The larger of two values that may be missing, taken three at a time. -/
theorem max_assoc_option (a b c : Option Nat) : max (max a b) c = max a (max b c) := by
  cases a <;> cases b <;> cases c <;> simp [Nat.max_assoc]

/-- A fold that keeps the larger value finds the largest one. -/
theorem foldl_max_filterMap {α : Type} (f : α → Option Nat) (items : List α)
    (start : Option Nat) :
    items.foldl (fun found item => max found (f item)) start =
      max start (items.filterMap f).max? := by
  induction items generalizing start with
  | nil => rw [List.foldl_nil, List.filterMap_nil, List.max?_nil, Option.max_none_right]
  | cons item rest ih =>
    rw [List.foldl_cons, ih]
    cases h : f item with
    | none => rw [List.filterMap_cons_none h, Option.max_none_right]
    | some n =>
      rw [List.filterMap_cons_some h, List.max?_cons, max_assoc_option]
      cases (rest.filterMap f).max? <;> rfl

/-- A line asks for a width in each column where a cell of it is followed. -/
theorem getElem?_lineWidths (cells : List (List Char)) (column : Nat) :
    (lineWidths cells)[column]? = cells.dropLast[column]?.map fun cell => cell.length + gutter :=
  List.getElem?_map

/-- The widths that lines ask for in a column are found by a fold. -/
theorem getElem?_foldl_mergeWidths (lines : List (List (List Char))) (widths : List Nat)
    (column : Nat) :
    (lines.foldl (fun widths cells => mergeWidths widths (lineWidths cells)) widths)[column]? =
      lines.foldl (fun found cells => max found (lineWidths cells)[column]?) widths[column]? := by
  induction lines generalizing widths with
  | nil => rfl
  | cons cells rest ih => rw [List.foldl_cons, List.foldl_cons, ih, getElem?_mergeWidths]

/-- The largest number, more by a constant. -/
theorem max?_map_add (numbers : List Nat) (n : Nat) :
    (numbers.map (· + n)).max? = numbers.max?.map (· + n) := by
  induction numbers with
  | nil => rfl
  | cons number rest ih =>
    rw [List.map_cons, List.max?_cons, List.max?_cons, ih]
    cases rest.max? with
    | none => rfl
    | some most => simp [Nat.add_max_add_right]

/-- The width that is looked up for a column is the largest of those asked for. -/
theorem getElem?_columnWidths (lines : List (List (List Char))) (column : Nat) :
    (columnWidths lines)[column]? =
      ((followed lines column).map List.length).max?.map (· + gutter) := by
  have hasked : (lines.filterMap fun cells => (lineWidths cells)[column]?) =
      ((followed lines column).map List.length).map (· + gutter) := by
    rw [followed, List.map_map, List.map_filterMap]
    exact List.filterMap_congr fun cells _ => getElem?_lineWidths cells column
  rw [columnWidths, getElem?_foldl_mergeWidths, foldl_max_filterMap, hasked, max?_map_add,
    List.getElem?_nil, Option.max_none_left]

/-- A column in which a cell is followed has a width, and this is the one looked up. -/
theorem columnWidths_eq_some {lines : List (List (List Char))} {column : Nat}
    (h : followed lines column ≠ []) :
    (columnWidths lines)[column]? = some (columnWidth lines column) := by
  rw [getElem?_columnWidths, columnWidth]
  cases hmax : ((followed lines column).map List.length).max? with
  | none => exact absurd (List.map_eq_nil_iff.mp (List.max?_eq_none_iff.mp hmax)) h
  | some most => rw [Option.map_some, Option.getD_some, Nat.add_comm, gutter]

/-- A cell is followed in a column when it is on some line, before the last one there. -/
theorem mem_followed_iff {lines : List (List (List Char))} {column : Nat} {cell : List Char} :
    cell ∈ followed lines column ↔ ∃ cells ∈ lines, cells.dropLast[column]? = some cell :=
  List.mem_filterMap

/-- No followed cell is longer than its column is wide, less two. -/
theorem length_add_two_le_columnWidth {lines : List (List (List Char))} {column : Nat}
    {cell : List Char} (h : cell ∈ followed lines column) :
    cell.length + 2 ≤ columnWidth lines column := by
  have hmem : cell.length ∈ (followed lines column).map List.length := List.mem_map_of_mem h
  rw [columnWidth]
  cases hmax : ((followed lines column).map List.length).max? with
  | none =>
    rw [List.max?_eq_none_iff.mp hmax] at hmem
    contradiction
  | some most =>
    have hle := (List.max?_eq_some_iff.mp hmax).2 _ hmem
    rw [Option.getD_some]
    omega

/-- Some followed cell is just as long as its column is wide, less two. -/
theorem exists_columnWidth_eq {lines : List (List (List Char))} {column : Nat}
    (h : followed lines column ≠ []) :
    ∃ cell ∈ followed lines column, columnWidth lines column = cell.length + 2 := by
  rw [columnWidth]
  cases hmax : ((followed lines column).map List.length).max? with
  | none => exact absurd (List.map_eq_nil_iff.mp (List.max?_eq_none_iff.mp hmax)) h
  | some most =>
    obtain ⟨cell, hcell, rfl⟩ := List.mem_map.mp (List.max?_eq_some_iff.mp hmax).1
    exact ⟨cell, hcell, Nat.add_comm _ _⟩

/-- A line of two cells or more begins with the first one, filled up, and goes on with
the widths of the other columns. -/
theorem setLine_cons_cons (width : Nat → Nat) (cell next : List Char) (rest : List (List Char)) :
    setLine width (cell :: next :: rest) =
      cell.rightpad (width 0) ' ' ++ setLine (fun column => width (column + 1)) (next :: rest) := by
  rw [setLine, setLine, List.dropLast_cons_cons, filled, List.mapIdx_cons, List.flatten_cons,
    List.append_assoc, List.getLast?_cons_cons]
  rfl

/-- An aligned line is set with the widths that are found for the columns it pads. -/
theorem alignCells_eq_setLine {widths : List Nat} {width : Nat → Nat} {cells : List (List Char)}
    (h : ∀ column, column + 1 < cells.length → widths[column]? = some (width column)) :
    alignCells widths cells = setLine width cells := by
  induction cells generalizing widths width with
  | nil => cases widths <;> rfl
  | cons cell rest ih =>
    cases rest with
    | nil => cases widths <;> rfl
    | cons next rest =>
      cases widths with
      | nil => exact absurd (h 0 (by simp)) (by simp)
      | cons first widths =>
        obtain rfl : first = width 0 := Option.some.inj (h 0 (by simp))
        rw [setLine_cons_cons, alignCells,
          ih fun column hcolumn => h (column + 1) (by simpa using hcolumn)]
        · rfl
        · simp

/-- The first columns of a line fill as many characters as they are wide, and what follows
them is a line of its own. -/
theorem setLine_eq_append {width : Nat → Nat} {cells : List (List Char)}
    (fits : ∀ column cell, cells.dropLast[column]? = some cell → cell.length ≤ width column)
    {column : Nat} (h : column < cells.length) :
    ∃ front, setLine width cells =
        front ++ setLine (fun later => width (column + later)) (cells.drop column) ∧
      front.length = ∑ before ∈ Finset.range column, width before := by
  induction column with
  | zero => exact ⟨[], by simp, by simp⟩
  | succ column ih =>
    obtain ⟨front, hline, hlength⟩ := ih (by omega)
    have hcell : cells.dropLast[column]? = some cells[column] := by
      rw [List.getElem?_dropLast, if_pos (by omega), List.getElem?_eq_getElem]
    have hpad : (cells[column].rightpad (width column) ' ').length = width column := by
      rw [List.length_rightpad, Nat.max_eq_left (fits column _ hcell)]
    have hshift : (fun later => width (column + (later + 1))) =
        fun later => width (column + 1 + later) := by
      funext later
      rw [Nat.add_right_comm, Nat.add_assoc]
    refine ⟨front ++ cells[column].rightpad (width column) ' ', ?_, ?_⟩
    · rw [hline, List.drop_eq_getElem_cons (by omega : column < cells.length),
        List.drop_eq_getElem_cons h, setLine_cons_cons, List.append_assoc, hshift]
      rfl
    · rw [List.length_append, hlength, hpad, Finset.sum_range_succ]

/-- A line of cells begins with the first of them. -/
theorem exists_setLine_cons (width : Nat → Nat) (cell : List Char) (rest : List (List Char)) :
    ∃ back, setLine width (cell :: rest) = cell ++ back := by
  cases rest with
  | nil => exact ⟨[], (List.append_nil cell).symm⟩
  | cons next rest =>
    rw [setLine_cons_cons, List.rightpad, List.append_assoc]
    exact ⟨_, rfl⟩

/-- A line that is set with widths which exceed its cells by two or more is laid out by
them. -/
theorem laid_setLine {width : Nat → Nat} {cells : List (List Char)}
    (fits : ∀ column cell, cells.dropLast[column]? = some cell → cell.length + 2 ≤ width column) :
    Laid width cells (setLine width cells) where
  text := rfl
  starts := by
    intro column cell hcell
    obtain ⟨hlt, rfl⟩ := List.getElem?_eq_some_iff.mp hcell
    obtain ⟨front, hline, hlength⟩ := setLine_eq_append
      (fun column cell h => Nat.le_of_add_right_le (fits column cell h)) hlt
    rw [List.drop_eq_getElem_cons hlt] at hline
    obtain ⟨back, hback⟩ := exists_setLine_cons (fun later => width (column + later))
      cells[column] (cells.drop (column + 1))
    exact ⟨front, back, by rw [hline, hback, List.append_assoc], hlength⟩
  apart := by
    intro column cell next hcell hnext
    obtain ⟨hlt, rfl⟩ := List.getElem?_eq_some_iff.mp hcell
    obtain ⟨hlt', rfl⟩ := List.getElem?_eq_some_iff.mp hnext
    have hfollowed : cells.dropLast[column]? = some cells[column] := by
      rw [List.getElem?_dropLast, if_pos (by omega), hcell]
    have hfits := fits column _ hfollowed
    obtain ⟨front, hline, hlength⟩ := setLine_eq_append
      (fun column cell h => Nat.le_of_add_right_le (fits column cell h)) hlt
    rw [List.drop_eq_getElem_cons hlt, List.drop_eq_getElem_cons hlt', setLine_cons_cons] at hline
    obtain ⟨back, hback⟩ := exists_setLine_cons (fun later => width (column + (later + 1)))
      cells[column + 1] (cells.drop (column + 1 + 1))
    refine ⟨width column - cells[column].length, by omega, by omega, front, back, ?_, hlength⟩
    rw [hline, hback, List.rightpad]
    simp only [List.append_assoc, Nat.add_zero]

/-- A line among others is laid out by the widths of their columns. -/
theorem laid_of_mem {lines : List (List (List Char))} {cells : List (List Char)}
    (h : cells ∈ lines) : Laid (columnWidth lines) cells (setLine (columnWidth lines) cells) :=
  laid_setLine fun _ _ hcell =>
    length_add_two_le_columnWidth (mem_followed_iff.mpr ⟨cells, h, hcell⟩)

/-- The widths that a line looks up are there, and they are those of its columns. -/
theorem columnWidths_of_mem {lines : List (List (List Char))} {cells : List (List Char)}
    (h : cells ∈ lines) {column : Nat} (hcolumn : column + 1 < cells.length) :
    (columnWidths lines)[column]? = some (columnWidth lines column) := by
  have hcell : cells.dropLast[column]? = some cells[column] := by
    rw [List.getElem?_dropLast, if_pos (by omega), List.getElem?_eq_getElem]
  exact columnWidths_eq_some (List.ne_nil_of_mem (mem_followed_iff.mpr ⟨cells, h, hcell⟩))

/-- What a text is split into does not hold the separator. -/
theorem separator_not_mem_of_mem_splitOn {text part : List Char} {separator : Char}
    (h : part ∈ text.splitOn separator) : separator ∉ part := by
  induction text generalizing part with
  | nil =>
    rw [List.splitOn_nil, List.mem_singleton] at h
    rw [h]
    exact List.not_mem_nil
  | cons c rest ih =>
    rw [List.splitOn_cons_eq_if_modifyHead] at h
    split at h
    · rcases List.mem_cons.mp h with rfl | hpart
      · exact List.not_mem_nil
      · exact ih hpart
    · next hc =>
      obtain ⟨first, others, hsplit⟩ :=
        List.exists_cons_of_ne_nil (List.splitOn_ne_nil separator rest)
      rw [hsplit, List.modifyHead_cons] at h
      rcases List.mem_cons.mp h with rfl | hpart
      · rw [List.mem_cons]
        rintro (rfl | hmem)
        · exact hc (beq_self_eq_true _)
        · exact ih (hsplit ▸ List.mem_cons_self) hmem
      · exact ih (hsplit ▸ List.mem_cons_of_mem _ hpart)

/-- A line without a newline has none once it is aligned. -/
theorem newline_not_mem_alignCells {line : List Char} (h : '\n' ∉ line) (widths : List Nat) :
    '\n' ∉ alignCells widths (line.splitOn '\t') := by
  have hspace : (' ' == '\n') = false := by decide
  have htab : ('\t' == '\n') = false := by decide
  rw [← List.count_eq_zero, List.count_eq_length_filter,
    @filter_alignCells_splitOn (· == '\n') hspace htab, ← List.count_eq_length_filter]
  exact List.count_eq_zero.mpr h

/-- The lines of an aligned text are those of the text, each set with the widths of the
columns. -/
theorem splitOn_alignColumns (text : List Char) :
    (alignColumns text).splitOn '\n' =
      (grid text).map (setLine (columnWidth (grid text))) := by
  have haligned : (grid text).map (alignCells (columnWidths (grid text))) =
      (grid text).map (setLine (columnWidth (grid text))) :=
    List.map_congr_left fun cells hcells =>
      alignCells_eq_setLine fun _ hcolumn => columnWidths_of_mem hcells hcolumn
  rw [alignColumns, ← haligned]
  refine List.splitOn_intercalate '\n' ?_ ?_
  · rw [grid, List.map_map]
    intro aligned haligned
    obtain ⟨line, hline, rfl⟩ := List.mem_map.mp haligned
    exact newline_not_mem_alignCells (separator_not_mem_of_mem_splitOn hline) _
  · exact mt List.map_eq_nil_iff.mp (mt List.map_eq_nil_iff.mp (List.splitOn_ne_nil '\n' text))

/-- Alignment keeps the lines of a text and lays each of them out by the widths of the
columns, so that a cell begins at one offset on all lines, two spaces or more behind the
cell before it. In every column that is padded some cell has just two spaces behind it.
Each width that is looked up is there. -/
theorem alignColumns_geometry (text : List Char) :
    ((alignColumns text).splitOn '\n').length = (text.splitOn '\n').length ∧
      List.Forall₂ (Laid (columnWidth (grid text))) (grid text)
        ((alignColumns text).splitOn '\n') ∧
      (∀ column, followed (grid text) column ≠ [] →
        ∃ cell ∈ followed (grid text) column,
          columnWidth (grid text) column = cell.length + 2) ∧
      ∀ cells ∈ grid text, ∀ column, column + 1 < cells.length →
        (columnWidths (grid text))[column]? = some (columnWidth (grid text) column) := by
  refine ⟨?_, ?_, fun _ => exists_columnWidth_eq, fun _ hcells _ => columnWidths_of_mem hcells⟩
  · rw [splitOn_alignColumns, List.length_map, grid, List.length_map]
  · rw [splitOn_alignColumns, List.forall₂_map_right_iff, List.forall₂_same]
    exact fun _ => laid_of_mem

end Chatdown.Chat
