import Chatdown.Chat.Render
import Chatdown.Document.OfSyntax

/-!
# Trees and their children

The functions on trees are written in pairs, one half for a node and one for a
sequence of nodes. Here each half for a sequence is the map of the other half, and
a property of all nodes follows when it passes from the children of a node to the
node. A table header writes the children of its first child, so there is an
induction that may use these as well.
-/

namespace Chatdown.Node

/-- What passes from the children of every node to the node holds of all nodes. -/
@[elab_as_elim, induction_eliminator]
theorem induction {motive : Node → Prop}
    (mk : ∀ kind children, (∀ child ∈ children, motive child) → motive (.mk kind children))
    (node : Node) : motive node :=
  @Node.rec motive (fun nodes => ∀ node ∈ nodes, motive node)
    mk (fun _ h => absurd h List.not_mem_nil)
    (fun _ _ hnode hrest => List.forall_mem_cons.mpr ⟨hnode, hrest⟩) node

/-- What passes from the children of every node, and from theirs, to the node holds
of all nodes. -/
@[elab_as_elim]
theorem familyInduction {motive : Node → Prop}
    (mk : ∀ kind children,
      (∀ child ∈ children, motive child ∧ ∀ grandchild ∈ child.children, motive grandchild) →
        motive (.mk kind children))
    (node : Node) : motive node := by
  have h : motive node ∧ ∀ child ∈ node.children, motive child := by
    induction node with
    | mk kind children ih => exact ⟨mk kind children ih, fun child hc => (ih child hc).1⟩
  exact h.1

/-- A property holds everywhere in a document when it holds of the node at the root and
everywhere in its children. -/
inductive Everywhere (p : Node → Prop) : Node → Prop where
  | mk {kind : Kind} {children : List Node} (root : p (.mk kind children))
    (inside : ∀ child ∈ children, Everywhere p child) : Everywhere p (.mk kind children)

/-- The kinds in a sequence of nodes are those in each of them. -/
theorem kindsAll_eq_flatMap (nodes : List Node) : kindsAll nodes = nodes.flatMap kinds := by
  induction nodes with
  | nil => rfl
  | cons node rest ih => rw [kindsAll, ih, List.flatMap_cons]

/-- A table cell occurs in a sequence of nodes when one of them has it. -/
theorem contains_kindsAll (nodes : List Node) :
    (kindsAll nodes).contains .tableCell = nodes.any hasCell := by
  rw [kindsAll_eq_flatMap]
  induction nodes with
  | nil => rfl
  | cons node rest ih =>
    rw [List.flatMap_cons, List.contains_append, ih, List.any_cons, hasCell]

/-- A table cell occurs in a node when it is one or one of its children has it. -/
theorem hasCell_mk (kind : Kind) (children : List Node) :
    hasCell (.mk kind children) = (kind == .tableCell || children.any hasCell) := by
  rw [hasCell, kinds, List.contains_cons, contains_kindsAll, Bool.beq_comm]

end Chatdown.Node

namespace Chatdown.Chat

/-- A sequence of nodes is rendered one by one. -/
theorem renderEach_eq_map (nodes : List Node) : renderEach nodes = nodes.map render := by
  induction nodes with
  | nil => rfl
  | cons node rest ih => rw [renderEach, ih, List.map_cons]

/-- The children of a table are rendered one by one, a newline after each header. -/
theorem renderRows_eq_flatMap (nodes : List Node) :
    renderRows nodes = nodes.flatMap fun node =>
      render node ++ if node.kind = .tableHeader then ['\n'] else [] := by
  induction nodes with
  | nil => rfl
  | cons node rest ih => rw [renderRows, ih, List.flatMap_cons]

/-- The aligned text of a table is empty when none of its children has a cell. -/
theorem renderTable_mk (children : List Node) :
    renderTable (.mk .table children) =
      if children.any Node.hasCell then alignColumns (renderRows children ++ ['\n']) else [] := by
  rw [renderTable, Node.hasCell_mk]
  rfl

/-- A table is its aligned text between two newlines. -/
theorem render_table (children : List Node) :
    render (.mk .table children) = '\n' :: renderTable (.mk .table children) ++ ['\n'] := by
  rw [render, renderTable_mk, Node.contains_kindsAll]

end Chatdown.Chat

namespace Chatdown.Markdown.Syntax

/-- What passes from the children of every syntax node to the node holds of all
syntax nodes. -/
@[elab_as_elim, induction_eliminator]
theorem induction {motive : Syntax → Prop}
    (mk : ∀ construct children,
      (∀ child ∈ children, motive child) → motive (.mk construct children))
    (s : Syntax) : motive s :=
  @Syntax.rec motive (fun nodes => ∀ s ∈ nodes, motive s)
    mk (fun _ h => absurd h List.not_mem_nil)
    (fun _ _ hnode hrest => List.forall_mem_cons.mpr ⟨hnode, hrest⟩) s

/-- What passes from the children of every syntax node, and from theirs, to the node
holds of all syntax nodes. -/
@[elab_as_elim]
theorem familyInduction {motive : Syntax → Prop}
    (mk : ∀ construct children,
      (∀ child ∈ children, motive child ∧ ∀ grandchild ∈ child.children, motive grandchild) →
        motive (.mk construct children))
    (s : Syntax) : motive s := by
  have h : motive s ∧ ∀ child ∈ s.children, motive child := by
    induction s with
    | mk construct children ih => exact ⟨mk construct children ih, fun child hc => (ih child hc).1⟩
  exact h.1

/-- A property holds everywhere in a syntax tree when it holds of the node at the
root and everywhere in its children. -/
inductive Everywhere (p : Syntax → Prop) : Syntax → Prop where
  | mk {construct : Construct} {children : List Syntax} (root : p (.mk construct children))
    (inside : ∀ child ∈ children, Everywhere p child) : Everywhere p (.mk construct children)

/-- Everywhere in a tree is at its root and everywhere below. -/
theorem everywhere_mk_iff {p : Syntax → Prop} {construct : Construct} {children : List Syntax} :
    Everywhere p (.mk construct children) ↔
      p (.mk construct children) ∧ ∀ child ∈ children, Everywhere p child := by
  constructor
  · rintro ⟨root, inside⟩
    exact ⟨root, inside⟩
  · rintro ⟨root, inside⟩
    exact ⟨root, inside⟩

/-- What holds of all syntax nodes holds everywhere in a tree. -/
theorem everywhere_of_forall {p : Syntax → Prop} (h : ∀ s, p s) (s : Syntax) : Everywhere p s := by
  induction s with
  | mk construct children ih => exact .mk (h _) ih

mutual

/-- Whether a decidable property holds everywhere in a tree is decided node by node. -/
def decideEverywhere (p : Syntax → Prop) [DecidablePred p] :
    (s : Syntax) → Decidable (Everywhere p s)
  | .mk construct children =>
    letI := decideEverywhereAll p children
    decidable_of_iff (p (.mk construct children) ∧ ∀ child ∈ children, Everywhere p child)
      everywhere_mk_iff.symm

/-- Whether a decidable property holds everywhere in some trees is decided tree by
tree. -/
def decideEverywhereAll (p : Syntax → Prop) [DecidablePred p] :
    (nodes : List Syntax) → Decidable (∀ s ∈ nodes, Everywhere p s)
  | [] => .isTrue fun _ h => absurd h List.not_mem_nil
  | s :: rest =>
    letI := decideEverywhere p s
    letI := decideEverywhereAll p rest
    decidable_of_iff (Everywhere p s ∧ ∀ s ∈ rest, Everywhere p s) List.forall_mem_cons.symm

end

instance (p : Syntax → Prop) [DecidablePred p] : DecidablePred (Everywhere p) :=
  decideEverywhere p

/-- What holds everywhere in a tree holds everywhere in its children. -/
theorem Everywhere.inside {p : Syntax → Prop} {s : Syntax} :
    Everywhere p s → ∀ child ∈ s.children, Everywhere p child
  | .mk _ inside => inside

end Chatdown.Markdown.Syntax

namespace Chatdown.Node

open Markdown

/-- A sequence of syntax nodes is narrowed one by one. -/
theorem ofSyntaxAll_eq_map (nodes : List Syntax) : ofSyntaxAll nodes = nodes.map ofSyntax := by
  induction nodes with
  | nil => rfl
  | cons s rest ih => rw [ofSyntaxAll, ih, List.map_cons]

/-- The headers of a table are made from its header rows. -/
theorem headersOf_eq_map (nodes : List Syntax) :
    headersOf nodes = (nodes.filter fun s => isHeaderRow s.construct).map fun row =>
      mk .tableHeader [ofSyntax row] := by
  induction nodes with
  | nil => rfl
  | cons s rest ih => cases h : isHeaderRow s.construct <;> simp [headersOf, h, ih]

/-- The body of a table is made from its other children. -/
theorem bodyOf_eq_map (nodes : List Syntax) :
    bodyOf nodes = (nodes.filter fun s => !isHeaderRow s.construct).map ofSyntax := by
  induction nodes with
  | nil => rfl
  | cons s rest ih => cases h : isHeaderRow s.construct <;> simp [bodyOf, h, ih]

/-- One header row before rows that are none makes one header. -/
theorem headersOf_header_cons {header : Syntax} {body : List Syntax}
    (hheader : isHeaderRow header.construct = true)
    (hbody : ∀ row ∈ body, isHeaderRow row.construct = false) :
    headersOf (header :: body) = [mk .tableHeader [ofSyntax header]] := by
  have hnone : (body.filter fun s => isHeaderRow s.construct) = [] :=
    List.filter_eq_nil_iff.mpr fun row hrow => by simp [hbody row hrow]
  rw [headersOf, if_pos hheader, headersOf_eq_map, hnone]
  rfl

/-- The rows after the only header row make the body. -/
theorem bodyOf_header_cons {header : Syntax} {body : List Syntax}
    (hheader : isHeaderRow header.construct = true)
    (hbody : ∀ row ∈ body, isHeaderRow row.construct = false) :
    bodyOf (header :: body) = body.map ofSyntax := by
  have hall : (body.filter fun s => !isHeaderRow s.construct) = body :=
    List.filter_eq_self.mpr fun row hrow => by simp [hbody row hrow]
  rw [bodyOf, if_pos hheader, bodyOf_eq_map, hall]

/-- The body of a table around some rows; around no rows there is none. -/
def gather : List Node → List Node
  | [] => []
  | row :: rows => [mk .tableBody (row :: rows)]

/-- What is the same for a body as for its rows one by one is the same for the rows
gathered. -/
theorem flatMap_gather {α : Type} {f : Node → List α}
    (h : ∀ rows, f (mk .tableBody rows) = rows.flatMap f) (rows : List Node) :
    (gather rows).flatMap f = rows.flatMap f := by
  cases rows with
  | nil => rfl
  | cons row rows => rw [gather, List.flatMap_singleton, h]

/-- A cell occurs in gathered rows when it occurs in one of them. -/
theorem any_hasCell_gather (rows : List Node) : (gather rows).any hasCell = rows.any hasCell := by
  cases rows with
  | nil => rfl
  | cons row rows =>
    rw [gather, List.any_cons, List.any_nil, Bool.or_false, hasCell_mk]
    rfl

/-- A construct that a leaf stands for becomes that leaf. -/
theorem ofSyntax_of_isLeaf {construct : Construct} (h : (kindOf construct).isLeaf = true)
    (children : List Syntax) : ofSyntax (.mk construct children) = leaf (kindOf construct) := by
  rw [ofSyntax, if_pos h]

/-- A construct that is no leaf and no table keeps its children. -/
theorem ofSyntax_of_container {construct : Construct} (hleaf : (kindOf construct).isLeaf = false)
    (htable : isTable construct = false) (children : List Syntax) :
    ofSyntax (.mk construct children) = mk (kindOf construct) (children.map ofSyntax) := by
  rw [ofSyntax, if_neg (by simp [hleaf]), if_neg (by simp [htable]), ofSyntaxAll_eq_map]

/-- A table has its headers first and then its other rows, gathered. -/
theorem ofSyntax_table (alignments : List ColumnAlignment) (children : List Syntax) :
    ofSyntax (.mk (.table alignments) children) =
      mk .table (headersOf children ++ gather (bodyOf children)) := by
  have hleaf : (kindOf (.table alignments)).isLeaf = false := rfl
  have htable : isTable (.table alignments) = true := rfl
  rw [ofSyntax, if_neg (by simp [hleaf]), if_pos htable]
  cases bodyOf children <;> rfl

/-- A construct becomes a leaf, or is a table, or keeps its children. -/
theorem leaf_or_table_or_container (construct : Construct) :
    (kindOf construct).isLeaf = true ∨ (∃ alignments, construct = .table alignments) ∨
      (kindOf construct).isLeaf = false ∧ isTable construct = false := by
  cases construct <;> simp [kindOf, isTable, Kind.isLeaf]

/-- A leaf is no table. -/
theorem ne_table_of_isLeaf {kind : Kind} (h : kind.isLeaf = true) : kind ≠ .table := by
  rintro rfl
  contradiction

/-- The root of a document has the kind that stands for the construct at the root of its
syntax tree. -/
theorem kind_ofSyntax (s : Syntax) : (ofSyntax s).kind = kindOf s.construct := by
  cases s with
  | mk construct children =>
    rcases leaf_or_table_or_container construct with hleaf | ⟨alignments, rfl⟩ | ⟨hleaf, htable⟩
    · rw [ofSyntax_of_isLeaf hleaf]
      rfl
    · rw [ofSyntax_table]
      rfl
    · rw [ofSyntax_of_container hleaf htable]
      rfl

/-- A row that has a cell keeps it. -/
theorem hasCell_ofSyntax_row {row cell : Syntax} {header : Bool}
    (hrow : row.construct = .tableRow header) (hcell : cell ∈ row.children)
    (hkind : cell.construct = .tableCell) : hasCell (ofSyntax row) = true := by
  cases row with
  | mk construct cells =>
    cases cell with
    | mk kind inside =>
      change construct = _ at hrow
      change kind = _ at hkind
      subst hrow hkind
      rw [ofSyntax_of_container rfl rfl, hasCell_mk, Bool.or_eq_true, List.any_eq_true]
      refine Or.inr ⟨_, List.mem_map_of_mem hcell, ?_⟩
      rw [ofSyntax_of_container rfl rfl, hasCell_mk]
      rfl

/-- A table has the cells of its rows. -/
theorem any_hasCell_table {rows : List Syntax} {row : Syntax} (hrow : row ∈ rows)
    (hcell : hasCell (ofSyntax row) = true) :
    (headersOf rows ++ gather (bodyOf rows)).any hasCell = true := by
  rw [List.any_append, any_hasCell_gather, headersOf_eq_map, bodyOf_eq_map, List.any_map,
    List.any_map, Bool.or_eq_true, List.any_eq_true, List.any_eq_true]
  cases hheader : isHeaderRow row.construct with
  | true =>
    refine Or.inl ⟨row, List.mem_filter.mpr ⟨hrow, hheader⟩, ?_⟩
    rw [Function.comp_apply, hasCell_mk, List.any_cons, hcell]
    rfl
  | false => exact Or.inr ⟨row, List.mem_filter.mpr ⟨hrow, by rw [hheader]; rfl⟩, hcell⟩

end Chatdown.Node
