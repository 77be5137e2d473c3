import Chatdown.Proofs.TableGrid
import Chatdown.Proofs.Trim
import Mathlib.Data.Fin.VecNotation
import Mathlib.Data.Fintype.Perm
import Mathlib.Data.List.OfFn

/-!
# The order of the lines

The widths of the columns grow line by line, but what they come to does not depend on the
order of the lines, since each is the largest of the lengths in its column. So how a line is
set depends on the line and on which other lines there are, and not on where they stand:
when the lines of a text or the rows of the body of a table change places, the aligned lines
change places with them.
-/

namespace Chatdown

namespace Chat

open Text

/-- Lines one under the other. -/
def stacked (lines : List (List Char)) : List Char :=
  ['\n'].intercalate lines

/-- A row of nothing but cells, whose texts hold neither a tab nor a newline. -/
structure TidyRow (row : Node) : Prop where
  /-- It is a row. -/
  kind : row.kind = .tableRow
  /-- It has only cells. -/
  cells : ∀ cell ∈ row.children, cell.kind = .tableCell
  /-- Its cells stay in one piece. -/
  texts : ∀ cell ∈ row.children, '\t' ∉ render cell ∧ '\n' ∉ render cell

instance : DecidablePred TidyRow := fun row =>
  decidable_of_iff
    (row.kind = .tableRow ∧ (∀ cell ∈ row.children, cell.kind = .tableCell) ∧
      ∀ cell ∈ row.children, '\t' ∉ render cell ∧ '\n' ∉ render cell)
    ⟨fun ⟨kind, cells, texts⟩ => ⟨kind, cells, texts⟩,
      fun ⟨kind, cells, texts⟩ => ⟨kind, cells, texts⟩⟩

/-- The largest number of a list does not depend on its order. -/
theorem max?_perm {numbers others : List Nat} (h : numbers.Perm others) :
    numbers.max? = others.max? := by
  apply Option.ext
  intro most
  rw [List.max?_eq_some_iff, List.max?_eq_some_iff]
  simp only [h.mem_iff]

/-- The widths of the columns do not depend on the order of the lines. -/
theorem columnWidth_perm {lines others : List (List (List Char))} (h : lines.Perm others) :
    columnWidth lines = columnWidth others := by
  funext column
  have hlengths : ((followed lines column).map List.length).Perm
      ((followed others column).map List.length) := (h.filterMap _).map _
  rw [columnWidth, columnWidth, max?_perm hlengths]

/-- Lines without newlines are the lines of the text in which they stand one under the
other. -/
theorem grid_stacked {lines : List (List Char)} (hne : lines ≠ [])
    (h : ∀ line ∈ lines, '\n' ∉ line) :
    grid (stacked lines) = lines.map (·.splitOn '\t') := by
  rw [grid, stacked, List.splitOn_intercalate '\n' h hne]

/-- Lines in another order are set as they were in the first one. -/
theorem lines_alignColumns_of_perm {lines others : List (List Char)} (hperm : others.Perm lines)
    (hne : lines ≠ []) (h : ∀ line ∈ lines, '\n' ∉ line) :
    (alignColumns (stacked others)).splitOn '\n' =
      others.map fun line =>
        setLine (columnWidth (lines.map (·.splitOn '\t'))) (line.splitOn '\t') := by
  have hothers : ∀ line ∈ others, '\n' ∉ line := fun line hline => h line (hperm.subset hline)
  have hne' : others ≠ [] := by
    rintro rfl
    exact hne hperm.nil_eq.symm
  rw [splitOn_alignColumns, grid_stacked hne' hothers, columnWidth_perm (hperm.map _),
    List.map_map]
  rfl

namespace Sheet

/-- A header and the rows of a body, in some order. -/
def ordered {n : Nat} (header : Node) (rows : Fin n → Node) (order : Equiv.Perm (Fin n)) :
    Sheet :=
  ⟨header, some (List.ofFn (rows ∘ order))⟩

variable {n : Nat} {header : Node} {rows : Fin n → Node}

/-- The texts of the rows are those of the header and of the body in its order. -/
theorem texts_ordered (order : Equiv.Perm (Fin n)) :
    (ordered header rows order).texts =
      header.children.map (fun cell => '*' :: trim (render cell) ++ ['*']) ::
        List.ofFn ((fun i => (rows i).children.map render) ∘ order) := by
  rw [texts, bodyRows, ordered, Option.getD_some, List.map_ofFn]
  rfl

/-- The texts of the rows are the same in each order, save for the order. -/
theorem texts_ordered_perm (order : Equiv.Perm (Fin n)) :
    (ordered header rows order).texts.Perm (ordered header rows 1).texts := by
  rw [texts_ordered, texts_ordered]
  exact (Equiv.Perm.ofFn_comp_perm order _).cons _

/-- All orders have the same rows. -/
theorem mem_rows_ordered {row : Node} (order : Equiv.Perm (Fin n)) :
    row ∈ header :: (ordered header rows order).bodyRows ↔ row = header ∨ ∃ i, rows i = row := by
  rw [bodyRows, ordered, Option.getD_some, List.mem_cons, List.mem_ofFn]
  refine or_congr_right ⟨?_, ?_⟩
  · rintro ⟨i, rfl⟩
    exact ⟨order i, rfl⟩
  · rintro ⟨i, rfl⟩
    exact ⟨order.symm i, congrArg rows (order.apply_symm_apply i)⟩

/-- Rows of cells without tabs and newlines, at least one of them not empty, make a plain
table in each order. -/
theorem plain_ordered (hheader : TidyRow header) (hrows : ∀ i, TidyRow (rows i))
    (hfilled : header.children ≠ [] ∨ ∃ i, (rows i).children ≠ [])
    (order : Equiv.Perm (Fin n)) : (ordered header rows order).Plain := by
  have htidy : ∀ row ∈ header :: (ordered header rows order).bodyRows, TidyRow row := by
    intro row hrow
    obtain rfl | ⟨i, rfl⟩ := (mem_rows_ordered order).mp hrow
    · exact hheader
    · exact hrows i
  refine ⟨fun row hrow => (htidy row hrow).kind, fun row hrow => (htidy row hrow).cells, ?_, ?_, ?_⟩
  · obtain hheader | ⟨i, hrow⟩ := hfilled
    · exact ⟨header, (mem_rows_ordered order).mpr (Or.inl rfl), hheader⟩
    · exact ⟨rows i, (mem_rows_ordered order).mpr (Or.inr ⟨i, rfl⟩), hrow⟩
  · intro cell hcell
    obtain ⟨htab, hnewline⟩ := hheader.texts cell hcell
    have hsubset := (trim_isInfix (render cell)).subset
    exact ⟨mt (hsubset ·) htab, mt (hsubset ·) hnewline⟩
  · exact fun row hrow => (htidy row (List.mem_cons_of_mem _ hrow)).texts

/-- A row of no cells has no cell. -/
theorem hasCell_of_children_eq_nil {row : Node} (hkind : row.kind = .tableRow)
    (h : row.children = []) : row.hasCell = false := by
  cases row with
  | mk kind children =>
    change kind = _ at hkind
    change children = _ at h
    rw [hkind, h, Node.hasCell_mk]
    rfl

/-- A table of rows without cells writes nothing, in each order. -/
theorem renderTable_ordered_of_empty (hheader : TidyRow header) (hrows : ∀ i, TidyRow (rows i))
    (hnone : header.children = []) (hempty : ∀ i, (rows i).children = [])
    (order : Equiv.Perm (Fin n)) : renderTable (ordered header rows order).table = [] := by
  -- Rows without children are all there is, so no cell occurs at any depth.
  have hbody : (Node.mk .tableBody (List.ofFn (rows ∘ order))).hasCell = false := by
    rw [Node.hasCell_mk, Bool.or_eq_false_iff, List.any_eq_false]
    refine ⟨rfl, fun row hrow => ?_⟩
    obtain ⟨i, rfl⟩ := List.mem_ofFn.mp hrow
    exact Bool.eq_false_iff.mp (hasCell_of_children_eq_nil (hrows _).kind (hempty _))
  have hcell : (ordered header rows order).table.hasCell = false := by
    rw [table, ordered, Option.map_some, Option.toList_some, Node.hasCell_mk, List.any_cons,
      List.any_cons, List.any_nil, hbody, Node.hasCell_mk, List.any_cons, List.any_nil,
      hasCell_of_children_eq_nil hheader.kind hnone]
    rfl
  rw [renderTable, if_neg (Bool.eq_false_iff.mp hcell)]

/-- A plain table in any order has its header set as in the first order, and so each row of
its body. -/
theorem lines_renderTable_ordered (h : ∀ order, (ordered header rows order).Plain)
    (order : Equiv.Perm (Fin n)) :
    (renderTable (ordered header rows order).table).splitOn '\n' =
      setLine (columnWidth (ordered header rows 1).texts)
          (header.children.map fun cell => '*' :: trim (render cell) ++ ['*']) ::
        List.ofFn ((fun i => setLine (columnWidth (ordered header rows 1).texts)
          ((rows i).children.map render)) ∘ order) ++ [[], []] := by
  rw [lines_renderTable (h order), columnWidth_perm (texts_ordered_perm order),
    texts_ordered order, List.map_cons, List.map_ofFn]
  rfl

end Sheet

/-- When lines change places, the aligned lines change places in the same way. When the rows
of the body of a table change places, so do the lines of the body, and the line of the header
stays as it is; a table that has no cell writes nothing in any order. -/
theorem aligned_lines_follow_order :
    (∀ {n : Nat} (lines : Fin n → List Char), n ≠ 0 → (∀ i, '\n' ∉ lines i) →
      ∃ aligned : Fin n → List Char,
        (alignColumns (stacked (List.ofFn lines))).splitOn '\n' = List.ofFn aligned ∧
          ∀ order : Equiv.Perm (Fin n),
            (alignColumns (stacked (List.ofFn (lines ∘ order)))).splitOn '\n' =
              List.ofFn (aligned ∘ order)) ∧
      ∀ {n : Nat} (header : Node) (rows : Fin n → Node), TidyRow header →
        (∀ i, TidyRow (rows i)) →
        ((header.children ≠ [] ∨ ∃ i, (rows i).children ≠ []) →
          ∃ (top : List Char) (body : Fin n → List Char), ∀ order : Equiv.Perm (Fin n),
            (renderTable (Sheet.ordered header rows order).table).splitOn '\n' =
              top :: List.ofFn (body ∘ order) ++ [[], []]) ∧
        (header.children = [] → (∀ i, (rows i).children = []) →
          ∀ order : Equiv.Perm (Fin n),
            renderTable (Sheet.ordered header rows order).table = []) := by
  refine ⟨fun {n} lines hn hlines => ?_, fun {n} header rows hheader hrows => ⟨fun hfilled => ?_,
    Sheet.renderTable_ordered_of_empty hheader hrows⟩⟩
  · have hne : List.ofFn lines ≠ [] := by rwa [Ne, List.ofFn_eq_nil_iff]
    have hplain : ∀ line ∈ List.ofFn lines, '\n' ∉ line := List.forall_mem_ofFn_iff.mpr hlines
    refine ⟨_, (lines_alignColumns_of_perm (List.Perm.refl _) hne hplain).trans List.map_ofFn,
      fun order => ?_⟩
    rw [lines_alignColumns_of_perm (Equiv.Perm.ofFn_comp_perm order lines) hne hplain,
      List.map_ofFn]
    rfl
  · exact ⟨_, _, Sheet.lines_renderTable_ordered (Sheet.plain_ordered hheader hrows hfilled)⟩

/-- Three lines of different lengths. -/
def sampleLines : Fin 3 → List Char :=
  ![['a', '\t', 'b'], ['l', 'o', 'n', 'g', '\t', '\t', 'c'], ['d']]

/-- A header of two cells, the first one with spaces around it. -/
def sampleHeader : Node :=
  .mk .tableRow [.mk .tableCell [.text " a "], .mk .tableCell [.text "b"]]

/-- Two rows of a body, one of them with a link. -/
def sampleRows : Fin 2 → Node :=
  ![.mk .tableRow [.mk .tableCell [.text "long"], .mk .tableCell [.mk (.link "u" "") [.text "c"]]],
    .mk .tableRow [.mk .tableCell [.text "x"], .mk .tableCell [], .mk .tableCell [.text "y"]]]

/-- A row without cells. -/
def emptyRow : Node :=
  .mk .tableRow []

/-- Lines of different lengths, a table with a link and a table without cells keep to the
order of their rows. -/
theorem aligned_lines_follow_order_samples :
    ((3 ≠ 0 ∧ ∀ i, '\n' ∉ sampleLines i) ∧
      ∃ aligned : Fin 3 → List Char,
        (alignColumns (stacked (List.ofFn sampleLines))).splitOn '\n' = List.ofFn aligned ∧
          ∀ order : Equiv.Perm (Fin 3),
            (alignColumns (stacked (List.ofFn (sampleLines ∘ order)))).splitOn '\n' =
              List.ofFn (aligned ∘ order)) ∧
      ((TidyRow sampleHeader ∧ (∀ i, TidyRow (sampleRows i)) ∧ sampleHeader.children ≠ []) ∧
        ∃ (top : List Char) (body : Fin 2 → List Char), ∀ order : Equiv.Perm (Fin 2),
          (renderTable (Sheet.ordered sampleHeader sampleRows order).table).splitOn '\n' =
            top :: List.ofFn (body ∘ order) ++ [[], []]) ∧
      (TidyRow emptyRow ∧ emptyRow.children = []) ∧
        ∀ order : Equiv.Perm (Fin 2),
          renderTable (Sheet.ordered emptyRow (fun _ => emptyRow) order).table = [] := by
  have hlines : ∀ i, '\n' ∉ sampleLines i := by decide
  have hheader : TidyRow sampleHeader := by decide
  have hrows : ∀ i, TidyRow (sampleRows i) := by decide
  have hfilled : sampleHeader.children ≠ [] := List.cons_ne_nil _ _
  have hempty : TidyRow emptyRow := by decide
  exact ⟨⟨⟨by decide, hlines⟩, aligned_lines_follow_order.1 sampleLines (by decide) hlines⟩,
    ⟨⟨hheader, hrows, hfilled⟩,
      (aligned_lines_follow_order.2 sampleHeader sampleRows hheader hrows).1 (Or.inl hfilled)⟩,
    ⟨hempty, rfl⟩,
    (aligned_lines_follow_order.2 emptyRow (fun _ => emptyRow) hempty fun _ => hempty).2 rfl
      fun _ => rfl⟩

end Chat

end Chatdown
