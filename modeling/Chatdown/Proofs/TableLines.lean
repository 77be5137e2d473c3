import Chatdown.Proofs.Content
import Chatdown.Proofs.LineMarks

/-!
# The lines of a table

Each row of a table is meant to be one line of its markup. What stands on that line is
written by the inline rules, and three of them, as well as images, end in a newline of
their own. In a header this newline is trimmed where it ends a cell; in the body nothing
trims it. The newlines are counted here, and the marks of the inline nodes tell exactly
which tables have as many lines as they should.
-/

namespace Chatdown

open Markdown Text

namespace Markdown

/-- Whether a construct is one of those that stand inside a line of text. -/
def Construct.isInline : Construct → Bool
  | .text _ | .code _ | .htmlInline _ => true
  | .emph | .strong | .strikethrough => true
  | .link _ _ | .image _ _ => true
  | _ => false

namespace Syntax

/-- An inline node without a newline in what it holds itself. -/
def OnOneLine (s : Syntax) : Prop :=
  s.construct.isInline = true ∧ '\n' ∉ s.construct.ownText

instance : DecidablePred OnOneLine := fun _ => inferInstanceAs (Decidable (_ ∧ _))

/-- A row of a table, of its header or not, that holds cells only, at least one of
them, and in its cells inline nodes without a newline of their own. -/
structure InlineRow (header : Bool) (row : Syntax) : Prop where
  /-- It is a row of the header, or it is not. -/
  construct : row.construct = .tableRow header
  /-- It has something below it. -/
  filled : row.children ≠ []
  /-- It has nothing but cells below it. -/
  cells : ∀ cell ∈ row.children, cell.construct = .tableCell
  /-- Its cells hold inline nodes on one line, however they are nested. -/
  inline : ∀ cell ∈ row.children, ∀ s ∈ cell.children, Everywhere OnOneLine s

mutual

/-- The marks that an inline node leaves, in order. Emphasis of any sort outlines its
children one by one and then ends its line, an image ends its line as well, and a link
outlines all it holds. -/
def marks : Syntax → List Mark
  | .mk (.text literal) _ => lineMarks literal.toList
  | .mk (.htmlInline literal) _ => lineMarks literal.toList
  | .mk (.code _) _ => [.ink]
  | .mk (.link _ _) children => outline (marksEach children).flatten
  | .mk .emph children => (marksEach children).flatMap outline ++ [.lineBreak]
  | .mk .strong children => (marksEach children).flatMap outline ++ [.lineBreak]
  | .mk .strikethrough children => (marksEach children).flatMap outline ++ [.lineBreak]
  | .mk _ children => (marksEach children).flatten ++ [.lineBreak]

/-- The marks that each of a sequence of inline nodes leaves. -/
def marksEach : List Syntax → List (List Mark)
  | [] => []
  | s :: rest => marks s :: marksEach rest

end

/-- The marks of a sequence of inline nodes are found one by one. -/
theorem marksEach_eq_map (nodes : List Syntax) : marksEach nodes = nodes.map marks := by
  induction nodes with
  | nil => rfl
  | cons s rest ih => rw [marksEach, ih, List.map_cons]

/-- The marks that the inline nodes in a cell leave. -/
def cellMarks (cell : Syntax) : List Mark :=
  cell.children.flatMap marks

/-- A header row keeps its line when no break in a cell has something visible on both
sides. -/
def HeaderKeepsLine (row : Syntax) : Prop :=
  ∀ cell ∈ row.children, splits (cellMarks cell) = false

/-- A body row keeps its line when no cell has a break at all. -/
def BodyKeepsLine (row : Syntax) : Prop :=
  ∀ cell ∈ row.children, .lineBreak ∉ cellMarks cell

instance : DecidablePred HeaderKeepsLine :=
  fun row => inferInstanceAs (Decidable (∀ cell ∈ row.children, splits (cellMarks cell) = false))

instance : DecidablePred BodyKeepsLine :=
  fun row => inferInstanceAs (Decidable (∀ cell ∈ row.children, .lineBreak ∉ cellMarks cell))

end Syntax

end Markdown

namespace Chat

open Syntax Node

/-- Children that a rule trims and puts between marks, one by one, and a newline after
them. -/
theorem alike_wrapped {wrap : List Char → List Char} {mark : Char} {children : List Syntax}
    (hwrap : ∀ text, wrap text = mark :: text ++ [mark]) (hmark : isBlank mark = false)
    (h : ∀ child ∈ children, Alike (trace (render (ofSyntax child))) (marks child)) :
    Alike (trace ((renderEach (children.map ofSyntax)).flatMap (fun text => wrap (trim text)) ++
      ['\n'])) ((marksEach children).flatMap outline ++ [.lineBreak]) := by
  have hline : '\n' ∉ [mark] :=
    mt List.mem_singleton.mp (ne_newline_of_not_blank hmark).symm
  have hink : ¬AllBlank [mark] := not_allBlank List.mem_cons_self hmark
  rw [renderEach_eq_map, marksEach_eq_map, List.flatMap_map, List.flatMap_map, List.flatMap_map]
  refine alike_append_newline (alike_flatMap fun child hc => ?_)
  rw [hwrap]
  exact alike_outline hline hink hline (h child hc)

/-- Code on one line is a run of ink. -/
theorem alike_inlineCode {literal : List Char} (h : '\n' ∉ literal) :
    Alike (trace (inlineCode (trim literal))) [.ink] := by
  have houtline : outline (lineMarks literal) = [.ink] := by
    rw [lineMarks]
    split <;> rfl
  have hmark : '\n' ∉ ['\x60'] := by decide
  rw [← houtline]
  exact alike_outline hmark (by decide) hmark (alike_lineMarks h)

/-- A link outlines its title. -/
theorem alike_link {destination title : List Char} {found : List Mark}
    (hdestination : '\n' ∉ destination) (htitle : Alike (trace title) found) :
    Alike (trace (Chat.link destination (trim title))) (outline found) := by
  have hopening : '\n' ∉ '<' :: destination ++ ['|'] := by
    rw [List.cons_append, List.mem_cons, List.mem_append]
    rintro (h | h | h)
    · contradiction
    · exact hdestination h
    · exact absurd h (by decide)
  have hink : ¬AllBlank ('<' :: destination ++ ['|']) := not_allBlank List.mem_cons_self (by decide)
  have hlink : Chat.link destination (trim title) =
      '<' :: destination ++ ['|'] ++ trim title ++ ['>'] := by
    rw [Chat.link, List.append_assoc ('<' :: destination) ['|']]
    rfl
  rw [hlink]
  exact alike_outline hopening hink (by decide) htitle

/-- What an inline node writes traces like its marks, at any nesting. -/
theorem alike_marks {s : Syntax} (h : Everywhere OnOneLine s) :
    Alike (trace (render (ofSyntax s))) (marks s) := by
  induction s with
  | mk construct children ih =>
    obtain ⟨⟨hinline, hline⟩, hinside⟩ := everywhere_mk_iff.mp h
    have hchild : ∀ child ∈ children, Alike (trace (render (ofSyntax child))) (marks child) :=
      fun child hc => ih child hc (hinside child hc)
    have hrow : Alike (trace (renderEach (children.map ofSyntax)).flatten)
        (marksEach children).flatten := by
      rw [renderEach_eq_map, marksEach_eq_map, List.map_map, ← List.flatMap_def,
        ← List.flatMap_def]
      exact alike_flatMap hchild
    cases construct with
    | text literal | htmlInline literal =>
      rw [ofSyntax_of_isLeaf rfl, marks]
      exact alike_lineMarks hline
    | code literal =>
      rw [ofSyntax_of_isLeaf rfl, marks]
      exact alike_inlineCode hline
    | link url title =>
      rw [ofSyntax_of_container rfl rfl, marks]
      exact alike_link hline hrow
    | emph | strong | strikethrough =>
      rw [ofSyntax_of_container rfl rfl, marks]
      exact alike_wrapped (fun _ => rfl) (by decide) hchild
    | image url title =>
      rw [ofSyntax_of_container rfl rfl, marks]
      · exact alike_append_newline hrow
      all_goals simp
    | _ => contradiction

/-- The number of newlines in a text that is aligned stays the same. -/
theorem count_newline_alignColumns (text : List Char) :
    (alignColumns text).count '\n' = text.count '\n' := by
  have hspace : (' ' == '\n') = false := by decide
  have htab : ('\t' == '\n') = false := by decide
  rw [List.count_eq_length_filter, List.count_eq_length_filter,
    @filter_alignColumns (· == '\n') hspace htab]

/-- Texts that each have one newline or more have as many newlines as there are texts
exactly when each has one. -/
theorem count_newline_rows {α : Type} {rows : List α} {text : α → List Char} {tidy : α → Prop}
    (h : ∀ row ∈ rows, 1 ≤ (text row).count '\n' ∧ ((text row).count '\n' = 1 ↔ tidy row)) :
    rows.length ≤ (rows.flatMap text).count '\n' ∧
      ((rows.flatMap text).count '\n' = rows.length ↔ ∀ row ∈ rows, tidy row) := by
  induction rows with
  | nil => simp
  | cons row rest ih =>
    obtain ⟨⟨hone, htidy⟩, hrest⟩ := List.forall_mem_cons.mp h
    obtain ⟨hle, heq⟩ := ih hrest
    rw [List.flatMap_cons, List.count_append, List.length_cons, List.forall_mem_cons, ← htidy,
      ← heq]
    omega

/-- Gathered rows are written one by one. -/
theorem renderRows_gather (rows : List Node) : renderRows (gather rows) = rows.flatMap render := by
  cases rows with
  | nil => rfl
  | cons row rest =>
    rw [gather, renderRows_eq_flatMap, List.flatMap_singleton, render, renderEach_eq_map,
      ← List.flatMap_def]
    exact List.append_nil _

/-- A cell writes the inline nodes in it one by one. -/
theorem render_cell {cell : Syntax} (h : cell.construct = .tableCell) :
    render (ofSyntax cell) = cell.children.flatMap fun s => render (ofSyntax s) := by
  cases cell with
  | mk construct children =>
    change construct = _ at h
    subst h
    rw [ofSyntax_of_container rfl rfl, kindOf, render, renderEach_eq_map, List.map_map,
      List.flatMap_def]
    rfl

/-- A header is its cells in bold, trimmed, with tabs between them. -/
theorem render_header {row : Syntax} (h : row.construct = .tableRow true) :
    render (.mk .tableHeader [ofSyntax row]) =
      ['\t'].intercalate (row.children.map fun cell => bold (trim (render (ofSyntax cell)))) := by
  cases row with
  | mk construct cells =>
    change construct = _ at h
    subst h
    rw [ofSyntax_of_container rfl rfl, render, renderEach_eq_map, List.map_map, List.map_map]
    rfl

/-- A row of the body is its cells as they are, with tabs between them, and a newline. -/
theorem render_row {row : Syntax} (h : row.construct = .tableRow false) :
    render (ofSyntax row) =
      ['\t'].intercalate (row.children.map fun cell => render (ofSyntax cell)) ++ ['\n'] := by
  cases row with
  | mk construct cells =>
    change construct = _ at h
    subst h
    rw [ofSyntax_of_container rfl rfl, kindOf, render, renderEach_eq_map, List.map_map]
    rfl

/-- A cell of inline nodes is traced like its marks. -/
theorem alike_cellMarks {header : Bool} {row cell : Syntax} (h : InlineRow header row)
    (hcell : cell ∈ row.children) :
    Alike (trace (render (ofSyntax cell))) (cellMarks cell) := by
  rw [render_cell (h.cells cell hcell), cellMarks]
  exact alike_flatMap fun s hs => alike_marks (h.inline cell hcell s hs)

/-- The line of a header has no newline exactly when the header keeps its line. -/
theorem count_newline_header {row : Syntax} (h : InlineRow true row) :
    (render (.mk .tableHeader [ofSyntax row])).count '\n' = 0 ↔ HeaderKeepsLine row := by
  have hbold : ∀ text : List Char, '\n' ∉ bold text ↔ '\n' ∉ text := by
    intro text
    simp [bold]
  rw [render_header h.construct, count_newline_tabbed, ← List.flatMap_def, List.count_eq_zero,
    List.mem_flatMap, HeaderKeepsLine]
  push Not
  refine forall₂_congr fun cell hcell => ?_
  rw [hbold, newline_mem_trim_iff, (alike_cellMarks h hcell).splits_eq, Bool.not_eq_true]

/-- The line of a row of the body has its newline at the end, and no other one exactly
when the row keeps its line. -/
theorem count_newline_row {row : Syntax} (h : InlineRow false row) :
    1 ≤ (render (ofSyntax row)).count '\n' ∧
      ((render (ofSyntax row)).count '\n' = 1 ↔ BodyKeepsLine row) := by
  have hcells : (row.children.flatMap fun cell => render (ofSyntax cell)).count '\n' = 0 ↔
      BodyKeepsLine row := by
    rw [List.count_eq_zero, List.mem_flatMap, BodyKeepsLine]
    push Not
    refine forall₂_congr fun cell hcell => ?_
    rw [← lineBreak_mem_trace, (alike_cellMarks h hcell).lineBreak_mem_iff]
  rw [render_row h.construct, List.count_append, count_newline_tabbed, ← List.flatMap_def,
    List.count_singleton_self, ← hcells]
  omega

/-- The text of a table is its header, its body row by row, and two newlines. -/
theorem count_newline_table {header : Syntax} {body : List Syntax} (hheader : InlineRow true header)
    (hbody : ∀ row ∈ body, InlineRow false row) (alignments : List ColumnAlignment) :
    (renderTable (ofSyntax (.mk (.table alignments) (header :: body)))).count '\n' =
      (render (.mk .tableHeader [ofSyntax header])).count '\n' +
        (body.flatMap fun row => render (ofSyntax row)).count '\n' + 2 := by
  have hisHeader : isHeaderRow header.construct = true := by
    rw [hheader.construct]
    rfl
  have hnotHeader : ∀ row ∈ body, isHeaderRow row.construct = false := by
    intro row hrow
    rw [(hbody row hrow).construct]
    rfl
  have hisRow : header.construct.isRow = true := by
    rw [hheader.construct]
    rfl
  have hmem : header ∈ header :: body := List.mem_cons_self
  have hany := any_hasCell_table hmem (hasCell_of_row hisRow hheader.filled hheader.cells)
  have hbreak : (if (Node.mk .tableHeader [ofSyntax header]).kind = .tableHeader
      then ['\n'] else []).count '\n' = 1 := rfl
  rw [ofSyntax_table, renderTable_mk, if_pos hany, headersOf_header_cons hisHeader hnotHeader,
    bodyOf_header_cons hisHeader hnotHeader, count_newline_alignColumns, List.singleton_append,
    renderRows, renderRows_gather, List.flatMap_map, List.count_append, List.count_append,
    List.count_append, hbreak, List.count_singleton_self]
  omega

/-- A table of inline nodes that hold no newline has a line for each row and an empty
line, or more lines than that. It has no more exactly when the header and each row of
the body keep their lines: no cell of the header may have a break between visible
texts, and no cell of the body a break at all. -/
theorem count_newline_renderTable {header : Syntax} {body : List Syntax}
    (hheader : InlineRow true header) (hbody : ∀ row ∈ body, InlineRow false row)
    (alignments : List ColumnAlignment) :
    (header :: body).length + 1 ≤
        (renderTable (ofSyntax (.mk (.table alignments) (header :: body)))).count '\n' ∧
      ((renderTable (ofSyntax (.mk (.table alignments) (header :: body)))).count '\n' =
          (header :: body).length + 1 ↔
        HeaderKeepsLine header ∧ ∀ row ∈ body, BodyKeepsLine row) := by
  obtain ⟨hle, heq⟩ := count_newline_rows fun row hrow => count_newline_row (hbody row hrow)
  rw [count_newline_table hheader hbody, ← count_newline_header hheader, ← heq, List.length_cons]
  omega

/-- A header with a bold cell and a linked bold cell. -/
def boldHeader : Syntax :=
  .mk (.tableRow true) [
    .mk .tableCell [.mk .strong [.leaf (.text "a")]],
    .mk .tableCell [.mk (.link "u" "") [.mk .strong [.leaf (.text "b")]]]]

/-- A row of the body with code next to text and a linked cell. -/
def linkedRow : Syntax :=
  .mk (.tableRow false) [
    .mk .tableCell [.leaf (.text "x "), .leaf (.code "y")],
    .mk .tableCell [.mk (.link "v" "") [.mk .emph [.mk .strong [.leaf (.text "z")]]]]]

/-- A table with bold cells in its header and links around them, and around nested
emphasis in its body, has one line for each of its two rows and an empty line. -/
theorem count_newline_linked_table :
    InlineRow true boldHeader ∧ (∀ row ∈ [linkedRow], InlineRow false row) ∧
      (renderTable (ofSyntax (.mk (.table []) [boldHeader, linkedRow]))).count '\n' = 3 := by
  have hheader : InlineRow true boldHeader := ⟨rfl, by decide, by decide, by decide⟩
  have hbody : ∀ row ∈ [linkedRow], InlineRow false row :=
    List.forall_mem_singleton.mpr ⟨rfl, by decide, by decide, by decide⟩
  exact ⟨hheader, hbody, (count_newline_renderTable hheader hbody []).2.mpr (by decide)⟩

/-- A header of plain cells. -/
def plainHeader : Syntax :=
  .mk (.tableRow true) [
    .mk .tableCell [.leaf (.text "a")],
    .mk .tableCell [.leaf (.text "b")]]

/-- A row of the body with a bold cell before a plain one. -/
def boldRow : Syntax :=
  .mk (.tableRow false) [
    .mk .tableCell [.mk .strong [.leaf (.text "x")]],
    .mk .tableCell [.leaf (.text "y")]]

/-- A bold cell in the body splits its row over two lines. -/
theorem bold_cell_splits_row :
    InlineRow true plainHeader ∧ InlineRow false boldRow ∧
      renderTable (ofSyntax (.mk (.table []) [plainHeader, boldRow])) =
        "*a*  *b*\n*x*\n     y\n\n".toList ∧
      (renderTable (ofSyntax (.mk (.table []) [plainHeader, boldRow]))).count '\n' ≠ 3 :=
  ⟨⟨rfl, by decide, by decide, by decide⟩, ⟨rfl, by decide, by decide, by decide⟩, by decide,
    by decide⟩

end Chat

end Chatdown
