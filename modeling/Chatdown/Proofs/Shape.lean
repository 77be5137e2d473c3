import Chatdown.Proofs.Content

/-!
# The shape of documents

A document can have any kind anywhere, and rendering reads some kinds by position: the
first child of a header, the children of a row as cells, nothing below a leaf. Here the
documents that narrowing makes are shown to have the shape this relies on, at every
node. Narrowing builds nodes in five places only, so a property that holds of what each
of them builds holds everywhere in the document.
-/

namespace Chatdown

open Markdown

namespace Node

/-- The shape of each node of a document that was made from a syntax tree. -/
structure Orderly (node : Node) : Prop where
  /-- A leaf has nothing below it. -/
  leaf : node.isLeaf = true → node.children = []
  /-- Headers and bodies stand in tables only. -/
  inTable : ∀ child ∈ node.children,
    child.kind = .tableHeader ∨ child.kind = .tableBody → node.kind = .table
  /-- A header is made of one row. -/
  oneRow : node.kind = .tableHeader → ∃ row, node.children = [row] ∧ row.kind = .tableRow
  /-- A table is made of headers and after them of one body at most, which is not
  empty. -/
  headersThenBody : node.kind = .table → ∃ headers bodies : List Node,
    node.children = headers ++ bodies ∧ (∀ header ∈ headers, header.kind = .tableHeader) ∧
      bodies.length ≤ 1 ∧ ∀ body ∈ bodies, body.kind = .tableBody ∧ body.children ≠ []

/-- The shape of each node of a document whose tables have one header row and whose
tables and lists have nothing out of place in them. -/
structure Regular (node : Node) : Prop where
  /-- A table begins with its only header. -/
  oneHeader : node.kind = .table → ∃ header rest, node.children = header :: rest ∧
    header.kind = .tableHeader ∧ ∀ other ∈ rest, other.kind ≠ .tableHeader
  /-- A body has rows only. -/
  rows : node.kind = .tableBody → ∀ row ∈ node.children, row.kind = .tableRow
  /-- A row has cells only. -/
  cells : node.kind = .tableRow → ∀ cell ∈ node.children, cell.kind = .tableCell
  /-- A list has items only. -/
  items : ∀ ordered start, node.kind = .list ordered start →
    ∀ item ∈ node.children, item.kind = .listItem

/-- Rows are gathered in one body at most. -/
theorem length_gather_le (rows : List Node) : (gather rows).length ≤ 1 := by
  cases rows <;> simp [gather]

/-- The body around some rows has these rows, and at least one. -/
theorem mem_gather {rows : List Node} {body : Node} (h : body ∈ gather rows) :
    body = mk .tableBody rows ∧ rows ≠ [] := by
  cases rows with
  | nil => exact absurd h List.not_mem_nil
  | cons row rest => exact ⟨List.mem_singleton.mp h, List.cons_ne_nil row rest⟩

end Node

namespace Markdown

/-- Whether a construct is a list. -/
def Construct.isList : Construct → Bool
  | .list _ _ _ => true
  | _ => false

namespace Syntax

open Node

/-- A syntax node with nothing out of place: a table has rows only, and just the first
of them is a header row, a row has cells only, and a list has items only. -/
structure Regular (s : Syntax) : Prop where
  /-- The first child of a table is a header row. -/
  header : isTable s.construct = true → s.children.head?.map construct = some (.tableRow true)
  /-- The others are rows of the body. -/
  body : isTable s.construct = true → ∀ row ∈ s.children.tail, row.construct = .tableRow false
  /-- The children of a row are cells. -/
  cells : s.construct.isRow = true → ∀ cell ∈ s.children, cell.construct = .tableCell
  /-- The children of a list are items. -/
  items : s.construct.isList = true → ∀ item ∈ s.children, item.construct = .item

instance : DecidablePred Syntax.Regular := fun s =>
  decidable_of_iff
    ((isTable s.construct = true → s.children.head?.map construct = some (.tableRow true)) ∧
      (isTable s.construct = true → ∀ row ∈ s.children.tail, row.construct = .tableRow false) ∧
      (s.construct.isRow = true → ∀ cell ∈ s.children, cell.construct = .tableCell) ∧
      (s.construct.isList = true → ∀ item ∈ s.children, item.construct = .item))
    ⟨fun ⟨header, body, cells, items⟩ => ⟨header, body, cells, items⟩,
      fun ⟨header, body, cells, items⟩ => ⟨header, body, cells, items⟩⟩

/-- No construct becomes a table body. -/
theorem kindOf_ne_tableBody (construct : Construct) : kindOf construct ≠ .tableBody := by
  cases construct <;> simp [kindOf]

/-- No document is a header. -/
theorem kind_ofSyntax_ne_tableHeader (s : Syntax) : (ofSyntax s).kind ≠ .tableHeader :=
  kind_ofSyntax s ▸ kindOf_ne_tableHeader s.construct

/-- No document is a body. -/
theorem kind_ofSyntax_ne_tableBody (s : Syntax) : (ofSyntax s).kind ≠ .tableBody :=
  kind_ofSyntax s ▸ kindOf_ne_tableBody s.construct

/-- Among documents there is no header and no body. -/
theorem not_group_of_mem_map {children : List Syntax} {node : Node}
    (h : node ∈ children.map ofSyntax) : ¬(node.kind = .tableHeader ∨ node.kind = .tableBody) := by
  obtain ⟨s, -, rfl⟩ := List.mem_map.mp h
  exact not_or.mpr ⟨kind_ofSyntax_ne_tableHeader s, kind_ofSyntax_ne_tableBody s⟩

/-- Narrowing builds leaves, containers, tables, their headers and their bodies. What
holds of each of these, given what is known of the syntax nodes they are made from,
holds everywhere in the document. -/
theorem everywhere_ofSyntax {p : Node → Prop} {q : Syntax → Prop}
    (terminal : ∀ construct : Construct, (kindOf construct).isLeaf = true →
      p (Node.leaf (kindOf construct)))
    (container : ∀ (construct : Construct) (children : List Syntax),
      (kindOf construct).isLeaf = false → isTable construct = false →
        q (mk construct children) → p (.mk (kindOf construct) (children.map ofSyntax)))
    (table : ∀ (alignments : List ColumnAlignment) (children : List Syntax),
      q (mk (.table alignments) children) →
        p (.mk .table (headersOf children ++ gather (bodyOf children))))
    (header : ∀ row : Syntax, isHeaderRow row.construct = true →
      p (.mk .tableHeader [ofSyntax row]))
    (body : ∀ (alignments : List ColumnAlignment) (children : List Syntax),
      q (mk (.table alignments) children) → bodyOf children ≠ [] →
        p (.mk .tableBody (bodyOf children)))
    {s : Syntax} (h : Everywhere q s) : Node.Everywhere p (ofSyntax s) := by
  induction s with
  | mk construct children ih =>
    obtain ⟨hroot, hinside⟩ := everywhere_mk_iff.mp h
    have hchild : ∀ child ∈ children, Node.Everywhere p (ofSyntax child) :=
      fun child hc => ih child hc (hinside child hc)
    rcases leaf_or_table_or_container construct with hleaf | ⟨alignments, rfl⟩ | ⟨hleaf, htable⟩
    · rw [ofSyntax_of_isLeaf hleaf]
      exact .mk (terminal construct hleaf) fun _ hc => absurd hc List.not_mem_nil
    · rw [ofSyntax_table]
      refine .mk (table alignments children hroot) fun node hnode => ?_
      rcases List.mem_append.mp hnode with hnode | hnode
      · rw [headersOf_eq_map] at hnode
        obtain ⟨row, hrow, rfl⟩ := List.mem_map.mp hnode
        obtain ⟨hmem, hheader⟩ := List.mem_filter.mp hrow
        exact .mk (header row hheader) (List.forall_mem_singleton.mpr (hchild row hmem))
      · obtain ⟨rfl, hne⟩ := mem_gather hnode
        refine .mk (body alignments children hroot hne) fun node hnode => ?_
        rw [bodyOf_eq_map] at hnode
        obtain ⟨row, hrow, rfl⟩ := List.mem_map.mp hnode
        exact hchild row (List.mem_filter.mp hrow).1
    · rw [ofSyntax_of_container hleaf htable]
      refine .mk (container construct children hleaf htable hroot) fun node hnode => ?_
      obtain ⟨child, hc, rfl⟩ := List.mem_map.mp hnode
      exact hchild child hc

/-- A header row becomes a row. -/
theorem kind_ofSyntax_headerRow {row : Syntax} (h : isHeaderRow row.construct = true) :
    (ofSyntax row).kind = .tableRow := by
  rw [kind_ofSyntax]
  cases hconstruct : row.construct with
  | tableRow header => rfl
  | _ => simp [hconstruct, isHeaderRow] at h

/-- The headers of a table are headers. -/
theorem kind_of_mem_headersOf {children : List Syntax} {header : Node}
    (h : header ∈ headersOf children) : header.kind = .tableHeader := by
  rw [headersOf_eq_map] at h
  obtain ⟨row, -, rfl⟩ := List.mem_map.mp h
  rfl

/-- The rows gathered in a body are documents made from children of the table. -/
theorem bodyOf_subset (children : List Syntax) : bodyOf children ⊆ children.map ofSyntax := by
  rw [bodyOf_eq_map]
  exact List.map_subset _ (List.filter_subset_self _)

/-- A leaf is orderly. -/
theorem orderly_leaf (construct : Construct) (hleaf : (kindOf construct).isLeaf = true) :
    Orderly (Node.leaf (kindOf construct)) where
  leaf _ := rfl
  inTable _ hc := absurd hc List.not_mem_nil
  oneRow hkind := absurd hkind (kindOf_ne_tableHeader construct)
  headersThenBody hkind := absurd hkind (ne_table_of_isLeaf hleaf)

/-- A container of documents is orderly: there is no header and no body among them. -/
theorem orderly_container (construct : Construct) (children : List Syntax)
    (hleaf : (kindOf construct).isLeaf = false) (htable : isTable construct = false) :
    Orderly (.mk (kindOf construct) (children.map ofSyntax)) where
  leaf h := absurd (hleaf.symm.trans h) Bool.false_ne_true
  inTable _ hc hgroup := absurd hgroup (not_group_of_mem_map hc)
  oneRow hkind := absurd hkind (kindOf_ne_tableHeader construct)
  headersThenBody hkind := absurd hkind (kindOf_ne_table htable)

/-- A table is orderly: its headers come first, and its other rows are gathered. -/
theorem orderly_table (children : List Syntax) :
    Orderly (.mk .table (headersOf children ++ gather (bodyOf children))) where
  leaf := nofun
  inTable _ _ _ := rfl
  oneRow := nofun
  headersThenBody _ := by
    refine ⟨headersOf children, gather (bodyOf children), rfl, fun _ => kind_of_mem_headersOf,
      length_gather_le _, fun body hbody => ?_⟩
    obtain ⟨rfl, hne⟩ := mem_gather hbody
    exact ⟨rfl, hne⟩

/-- A header is orderly: it is made of the one header row. -/
theorem orderly_header (row : Syntax) (hrow : isHeaderRow row.construct = true) :
    Orderly (.mk .tableHeader [ofSyntax row]) where
  leaf := nofun
  inTable child hc hgroup := by
    have hmem : child ∈ [row].map ofSyntax := hc
    exact absurd hgroup (not_group_of_mem_map hmem)
  oneRow _ := ⟨ofSyntax row, rfl, kind_ofSyntax_headerRow hrow⟩
  headersThenBody := nofun

/-- A body is orderly: there is no header and no body in it. -/
theorem orderly_body (children : List Syntax) :
    Orderly (.mk .tableBody (bodyOf children)) where
  leaf := nofun
  inTable _ hc hgroup := absurd hgroup (not_group_of_mem_map (bodyOf_subset children hc))
  oneRow := nofun
  headersThenBody := nofun

/-- Every node of a document is orderly, whatever the syntax tree. -/
theorem everywhere_orderly (s : Syntax) : Node.Everywhere Orderly (ofSyntax s) :=
  everywhere_ofSyntax orderly_leaf
    (fun construct children hleaf htable _ => orderly_container construct children hleaf htable)
    (fun _ children _ => orderly_table children) orderly_header
    (fun _ children _ _ => orderly_body children) (everywhere_of_forall (fun _ => trivial) s)

/-- A table with nothing out of place is a header row and rows of the body. -/
theorem Regular.headerAndBody {alignments : List ColumnAlignment} {children : List Syntax}
    (h : Syntax.Regular (.mk (.table alignments) children)) :
    ∃ header body, children = header :: body ∧ header.construct = .tableRow true ∧
      ∀ row ∈ body, row.construct = .tableRow false := by
  have hhead : children.head?.map construct = some (.tableRow true) := h.header rfl
  have hbody : ∀ row ∈ children.tail, row.construct = .tableRow false := h.body rfl
  cases children with
  | nil => contradiction
  | cons header body => exact ⟨header, body, rfl, Option.some.inj hhead, hbody⟩

/-- A table with nothing out of place becomes one header, and a body of the other
rows. -/
theorem Regular.groups {alignments : List ColumnAlignment} {children : List Syntax}
    (h : Syntax.Regular (.mk (.table alignments) children)) :
    (∃ row, headersOf children = [.mk .tableHeader [row]]) ∧
      ∀ row ∈ bodyOf children, row.kind = .tableRow := by
  obtain ⟨header, body, rfl, hheader, hbody⟩ := h.headerAndBody
  have hisHeader : isHeaderRow header.construct = true := by rw [hheader]; rfl
  have hnotHeader : ∀ row ∈ body, isHeaderRow row.construct = false := by
    intro row hrow
    rw [hbody row hrow]
    rfl
  refine ⟨⟨ofSyntax header, headersOf_header_cons hisHeader hnotHeader⟩, fun node hnode => ?_⟩
  rw [bodyOf_header_cons hisHeader hnotHeader] at hnode
  obtain ⟨row, hrow, rfl⟩ := List.mem_map.mp hnode
  rw [kind_ofSyntax, hbody row hrow]
  rfl

/-- Children of one construct become documents of one kind. -/
theorem forall_kind_of_forall {children : List Syntax} {construct : Construct}
    (h : ∀ child ∈ children, child.construct = construct) :
    ∀ node ∈ children.map ofSyntax, node.kind = kindOf construct := by
  intro node hnode
  obtain ⟨child, hc, rfl⟩ := List.mem_map.mp hnode
  rw [kind_ofSyntax, h child hc]

/-- Only rows become rows. -/
theorem isRow_of_kindOf {construct : Construct} (h : kindOf construct = .tableRow) :
    construct.isRow = true := by
  cases construct <;> simp_all [kindOf, Construct.isRow]

/-- Only lists become lists. -/
theorem isList_of_kindOf {construct : Construct} {ordered : Bool} {start : Nat}
    (h : kindOf construct = .list ordered start) : construct.isList = true := by
  cases construct <;> simp_all [kindOf, Construct.isList]

/-- A leaf has nothing out of place. -/
theorem regular_leaf (construct : Construct) (hleaf : (kindOf construct).isLeaf = true) :
    Node.Regular (Node.leaf (kindOf construct)) where
  oneHeader hkind := absurd hkind (ne_table_of_isLeaf hleaf)
  rows _ _ hc := absurd hc List.not_mem_nil
  cells _ _ hc := absurd hc List.not_mem_nil
  items _ _ _ _ hc := absurd hc List.not_mem_nil

/-- A container made from a node with nothing out of place has cells only when it is a
row, and items only when it is a list. -/
theorem regular_container (construct : Construct) (children : List Syntax)
    (htable : isTable construct = false) (h : Syntax.Regular (.mk construct children)) :
    Node.Regular (.mk (kindOf construct) (children.map ofSyntax)) where
  oneHeader hkind := absurd hkind (kindOf_ne_table htable)
  rows hkind := absurd hkind (kindOf_ne_tableBody construct)
  cells hkind := forall_kind_of_forall (h.cells (isRow_of_kindOf hkind))
  items _ _ hkind := forall_kind_of_forall (h.items (isList_of_kindOf hkind))

/-- A table made from one with nothing out of place begins with its only header. -/
theorem regular_table {alignments : List ColumnAlignment} {children : List Syntax}
    (h : Syntax.Regular (.mk (.table alignments) children)) :
    Node.Regular (.mk .table (headersOf children ++ gather (bodyOf children))) where
  oneHeader _ := by
    obtain ⟨⟨row, hheaders⟩, -⟩ := h.groups
    refine ⟨.mk .tableHeader [row], gather (bodyOf children), ?_, rfl, fun other hother => ?_⟩
    · rw [hheaders]
      rfl
    · obtain ⟨rfl, -⟩ := mem_gather hother
      nofun
  rows := nofun
  cells := nofun
  items := nofun

/-- A header has nothing out of place. -/
theorem regular_header (row : Syntax) : Node.Regular (.mk .tableHeader [ofSyntax row]) where
  oneHeader := nofun
  rows := nofun
  cells := nofun
  items := nofun

/-- A body made from a table with nothing out of place has rows only. -/
theorem regular_body {alignments : List ColumnAlignment} {children : List Syntax}
    (h : Syntax.Regular (.mk (.table alignments) children)) :
    Node.Regular (.mk .tableBody (bodyOf children)) where
  oneHeader := nofun
  rows _ := h.groups.2
  cells := nofun
  items := nofun

/-- A document made from a tree with nothing out of place has nothing out of place
either. -/
theorem everywhere_regular {s : Syntax} (h : Everywhere Syntax.Regular s) :
    Node.Everywhere Node.Regular (ofSyntax s) :=
  everywhere_ofSyntax regular_leaf
    (fun construct children _ htable hroot => regular_container construct children htable hroot)
    (fun _ _ hroot => regular_table hroot) (fun row _ => regular_header row)
    (fun _ _ hroot _ => regular_body hroot) h

/-- The shape of documents. Whatever the syntax tree, the document made from it is no
header and no body itself, and each of its nodes is orderly: leaves are empty, headers
and bodies stand in tables and nowhere else, a header is made of one row, and a table of
headers and then of one body at most, which is not empty. And where in the syntax tree
tables are one header row and rows of the body, rows are made of cells and lists of
items, the same is true of every table, body, row and list of the document. -/
theorem ofSyntax_shape (s : Syntax) :
    (ofSyntax s).kind ≠ .tableHeader ∧ (ofSyntax s).kind ≠ .tableBody ∧
      Node.Everywhere Orderly (ofSyntax s) ∧
      (Everywhere Syntax.Regular s → Node.Everywhere Node.Regular (ofSyntax s)) :=
  ⟨kind_ofSyntax_ne_tableHeader s, kind_ofSyntax_ne_tableBody s, everywhere_orderly s,
    everywhere_regular⟩

/-- The sample document, with its nested lists and its table, has nothing out of
place. -/
theorem ofSyntax_shape_sample :
    Everywhere Syntax.Regular sampleDocument ∧
      Node.Everywhere Node.Regular (ofSyntax sampleDocument) :=
  have hregular : Everywhere Syntax.Regular sampleDocument := by decide
  ⟨hregular, (ofSyntax_shape sampleDocument).2.2.2 hregular⟩

end Syntax

end Markdown

end Chatdown
