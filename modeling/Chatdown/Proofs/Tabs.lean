import Chatdown.Proofs.Content
import Chatdown.Proofs.Geometry

/-!
# Where tabs are

Rows put tabs between their cells, and the table around them takes the tabs out again when
it aligns its lines, together with those that the cells hold. So what is inside of a table
needs no care: if nothing outside of all tables writes a tab, there is none in the markup,
and there is nothing left to align.
-/

namespace Chatdown

open Text

namespace Node

mutual

/-- The nodes that have no table above them, each before those below it. -/
def outside : Node → List Node
  | mk kind children => mk kind children :: if kind = .table then [] else outsideAll children

/-- The nodes of a sequence of trees that have no table above them. -/
def outsideAll : List Node → List Node
  | [] => []
  | node :: rest => outside node ++ outsideAll rest

end

/-- The nodes outside of tables are found tree by tree. -/
theorem outsideAll_eq_flatMap (nodes : List Node) : outsideAll nodes = nodes.flatMap outside := by
  induction nodes with
  | nil => rfl
  | cons node rest ih => rw [outsideAll, ih, List.flatMap_cons]

/-- A node has no table above it in a tree of which it is the root. -/
theorem mem_outside_self (node : Node) : node ∈ node.outside := by
  cases node with
  | mk kind children =>
    rw [outside]
    exact List.mem_cons_self

/-- What is outside of tables in a child is so in the node, unless that is a table. -/
theorem mem_outside_of_child {kind : Kind} {children : List Node} (htable : kind ≠ .table)
    {child node : Node} (hchild : child ∈ children) (h : node ∈ child.outside) :
    node ∈ (mk kind children).outside := by
  rw [outside, if_neg htable, outsideAll_eq_flatMap]
  exact List.mem_cons_of_mem _ (List.mem_flatMap.mpr ⟨child, hchild, h⟩)

/-- A node that writes no tab by itself. -/
structure Untabbed (node : Node) : Prop where
  /-- It is not a row. -/
  row : node.kind ≠ .tableRow
  /-- It is not a header. -/
  header : node.kind ≠ .tableHeader
  /-- The text it holds has no tab. -/
  text : '\t' ∉ node.kind.ownText

instance : DecidablePred Untabbed := fun node =>
  decidable_of_iff
    (node.kind ≠ .tableRow ∧ node.kind ≠ .tableHeader ∧ '\t' ∉ node.kind.ownText)
    ⟨fun ⟨row, header, text⟩ => ⟨row, header, text⟩,
      fun ⟨row, header, text⟩ => ⟨row, header, text⟩⟩

end Node

namespace Chat

open Node

/-- An aligned line has no tab when its cells have none. -/
theorem tab_not_mem_alignCells {cells : List (List Char)} (h : ∀ cell ∈ cells, '\t' ∉ cell)
    (widths : List Nat) : '\t' ∉ alignCells widths cells := by
  induction cells generalizing widths with
  | nil => simp [alignCells]
  | cons cell rest ih =>
    obtain ⟨hcell, hrest⟩ := List.forall_mem_cons.mp h
    cases rest with
    | nil => simpa [alignCells] using hcell
    | cons next rest =>
      have htail := ih hrest widths.tail
      rw [alignCells_cons_cons, pad, List.mem_append, List.mem_append, List.mem_replicate]
      simp [hcell, htail]

/-- Alignment leaves no tab. -/
theorem tab_not_mem_alignColumns (text : List Char) : '\t' ∉ alignColumns text := by
  rw [alignColumns, mem_intercalate_iff (by decide), grid]
  rintro ⟨aligned, haligned, htab⟩
  obtain ⟨cells, hcells, rfl⟩ := List.mem_map.mp haligned
  obtain ⟨line, -, rfl⟩ := List.mem_map.mp hcells
  exact tab_not_mem_alignCells (fun _ hcell => separator_not_mem_of_mem_splitOn hcell) _ htab

/-- Alignment has nothing to do exactly when there is no tab. -/
theorem alignColumns_eq_self_iff {text : List Char} :
    alignColumns text = text ↔ '\t' ∉ text := by
  constructor
  · intro h
    rw [← h]
    exact tab_not_mem_alignColumns text
  · intro h
    have hjoin : ['\n'].intercalate (text.splitOn '\n') = text := List.intercalate_splitOn '\n'
    have hlines : ∀ line ∈ text.splitOn '\n', '\t' ∉ line := by
      intro line hline htab
      rw [← hjoin, mem_intercalate_iff (by decide)] at h
      exact h ⟨line, hline, htab⟩
    have haligned : (grid text).map (alignCells (columnWidths (grid text))) =
        text.splitOn '\n' := by
      conv_lhs => rw [grid, List.map_map]
      refine (List.map_congr_left fun line hline => ?_).trans (List.map_id _)
      rw [Function.comp_apply, List.splitOn_eq_singleton (hlines line hline)]
      cases columnWidths ((text.splitOn '\n').map (·.splitOn '\t')) <;> rfl
    rw [alignColumns, haligned, hjoin]

/-- Trimming brings no tab in. -/
theorem tab_not_mem_trim {text : List Char} (h : '\t' ∉ text) : '\t' ∉ trim text :=
  mt ((trim_isInfix text).subset ·) h

/-- Texts without tabs have none when a rule that brings none in writes them one by one. -/
theorem tab_not_mem_flatMap {rule : List Char → List Char}
    (hrule : ∀ text, '\t' ∉ text → '\t' ∉ rule text) {texts : List (List Char)}
    (h : ∀ text ∈ texts, '\t' ∉ text) : '\t' ∉ texts.flatMap rule := by
  rw [List.mem_flatMap]
  rintro ⟨text, htext, htab⟩
  exact hrule text (h text htext) htab

/-- The lines of a list have no tab when its items have none. -/
theorem tab_not_mem_listLines (ordered : Bool) (number : Nat) {items : List (List Char)}
    (h : ∀ item ∈ items, '\t' ∉ item) : '\t' ∉ listLines ordered number items := by
  induction items generalizing number with
  | nil => exact List.not_mem_nil
  | cons item rest ih =>
    obtain ⟨hitem, hrest⟩ := List.forall_mem_cons.mp h
    have hmarker : '\t' ∉ listMarker ordered number := by
      intro htab
      have hblank := isBlank_of_mem_listMarker htab
      rw [isBlank_tab] at hblank
      contradiction
    have hlines := ih (number + 1) hrest
    simp [listLines, hmarker, tab_not_mem_trim hitem, hlines]

/-- The text of a node that is no table has a tab only if the node writes one by itself or
one of its children does. -/
theorem tab_not_mem_render_mk {kind : Kind} {children : List Node} (htable : kind ≠ .table)
    (h : Untabbed (.mk kind children)) (hchildren : ∀ text ∈ renderEach children, '\t' ∉ text) :
    '\t' ∉ render (.mk kind children) := by
  have hown : '\t' ∉ kind.ownText := h.text
  have hflat : '\t' ∉ (renderEach children).flatten := by
    rw [List.mem_flatten]
    rintro ⟨text, htext, htab⟩
    exact hchildren text htext htab
  have hwrapped : ∀ wrap : List Char → List Char, (∀ text, '\t' ∉ text → '\t' ∉ wrap text) →
      '\t' ∉ (renderEach children).flatMap (fun text => wrap (trim text)) ++ ['\n'] := by
    intro wrap hwrap
    have htexts := tab_not_mem_flatMap (fun text htext => hwrap _ (tab_not_mem_trim htext))
      hchildren
    simp [htexts]
  cases kind with
  | text literal => exact hown
  | inlineCode literal =>
    have hliteral : '\t' ∉ trim literal.toList := tab_not_mem_trim hown
    simp [render, inlineCode, hliteral]
  | codeBlock info literal =>
    have hliteral : '\t' ∉ trim literal.toList := tab_not_mem_trim hown
    simp [render, codeBlock, hliteral]
  | horizontalRule =>
    rw [render]
    decide
  | unsupported name literal =>
    cases literal with
    | some literal => exact hown
    | none => simp [render, hflat]
  | document | paragraph | tableBody | tableCell => simp [render, hflat]
  | heading level =>
    have htexts : '\t' ∉ (renderEach children).flatMap (fun text => '\n' :: bold text) :=
      tab_not_mem_flatMap (fun text htext => by simp [bold, htext]) hchildren
    simp [render, htexts]
  | strong => exact hwrapped bold fun text htext => by simp [bold, htext]
  | emphasis => exact hwrapped italic fun text htext => by simp [italic, htext]
  | strikethrough => exact hwrapped strike fun text htext => by simp [strike, htext]
  | blockQuote => exact hwrapped quote fun text htext => by simp [quote, htext]
  | listItem => exact hwrapped id fun text htext => htext
  | list ordered start => simp [render, tab_not_mem_listLines ordered 1 hchildren]
  | link destination title =>
    have hdestination : '\t' ∉ destination.toList := hown
    simp [render, Chat.link, hdestination, tab_not_mem_trim hflat]
  | table => exact absurd rfl htable
  | tableHeader => exact absurd rfl h.header
  | tableRow => exact absurd rfl h.row

/-- The markup of a tree has no tab when no node outside of its tables writes one. -/
theorem tab_not_mem_render_of_outside {node : Node} (h : ∀ outer ∈ node.outside, Untabbed outer) :
    '\t' ∉ render node := by
  induction node with
  | mk kind children ih =>
    by_cases htable : kind = .table
    · subst htable
      -- Nothing is known of what the table holds, and nothing has to be: it is aligned.
      have haligned : '\t' ∉ renderTable (.mk .table children) := by
        rw [renderTable]
        split
        · exact tab_not_mem_alignColumns _
        · exact List.not_mem_nil
      simp [render_table, haligned]
    · refine tab_not_mem_render_mk htable (h _ (mem_outside_self _)) ?_
      rw [renderEach_eq_map]
      intro text htext
      obtain ⟨child, hchild, rfl⟩ := List.mem_map.mp htext
      exact ih child hchild fun outer houter => h outer (mem_outside_of_child htable hchild houter)

/-- If all rows and headers stand in tables, and no text of a node outside of all tables has
a tab, there is no tab in the markup, whatever the tables hold. So alignment leaves the
markup as it is, as a part and as a whole document. -/
theorem no_tab_leaves_tables {node : Node} (h : ∀ outer ∈ node.outside, Untabbed outer) :
    '\t' ∉ render node ∧ alignColumns (render node) = render node ∧
      alignColumns (renderDocument node) = renderDocument node := by
  have htab : '\t' ∉ render node := tab_not_mem_render_of_outside h
  exact ⟨htab, alignColumns_eq_self_iff.mpr htab,
    alignColumns_eq_self_iff.mpr (tab_not_mem_trim htab)⟩

/-- A quote with a table, in which one cell holds a tab and another one a table of its own,
whose row holds a row. -/
def nestedTable : Node :=
  .mk .document [.mk .paragraph [.text "above"],
    .mk .blockQuote [.mk .table [
      .mk .tableHeader [.mk .tableRow [.mk .tableCell [.text "a\tb"], .mk .tableCell []]],
      .mk .tableBody [.mk .tableRow [.mk .tableCell [.text "c"],
        .mk .tableCell [.mk .table [.mk .tableRow [.mk .tableRow [.mk .tableCell []],
          .mk .tableCell [.mk (.link "\t" "") []]]]]]]]]]

/-- No tab is left of those in the table and in the table within it. -/
theorem no_tab_leaves_nestedTable :
    (∀ outer ∈ nestedTable.outside, Untabbed outer) ∧ '\t' ∉ render nestedTable ∧
      alignColumns (render nestedTable) = render nestedTable ∧
      alignColumns (renderDocument nestedTable) = renderDocument nestedTable := by
  have houtside : ∀ outer ∈ nestedTable.outside, Untabbed outer := by decide
  exact ⟨houtside, no_tab_leaves_tables houtside⟩

end Chat

end Chatdown
