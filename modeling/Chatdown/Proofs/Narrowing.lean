import Chatdown.Proofs.Content
import Mathlib.Data.List.Perm.Basic

/-!
# Narrowing is a relabelling

Narrowing a syntax tree puts the kind that stands for each construct in the place of
the construct, and it gathers the rows of tables. Once the headers and bodies it made
are opened again, the document is the syntax tree with new labels. Two things are
moved or cut on the way: the header rows of a table come before its other children,
and what stands below a terminal construct is left out.
-/

namespace Chatdown

open Markdown

namespace Node

/-- What stands in a table in the place of one of its children when headers and
bodies are opened: the rows of a header or a body, or else the child itself. -/
def opened : Node → List Node
  | mk .tableHeader rows => rows
  | mk .tableBody rows => rows
  | child => [child]

mutual

/-- The document with the headers and bodies of all tables opened in place. -/
def ungroup : Node → Node
  | mk kind children =>
    mk kind (if kind = .table then (ungroupAll children).flatMap opened
      else ungroupAll children)

/-- A sequence of documents with the headers and bodies of all tables opened. -/
def ungroupAll : List Node → List Node
  | [] => []
  | node :: rest => ungroup node :: ungroupAll rest

end

/-- A sequence of documents is opened one by one. -/
theorem ungroupAll_eq_map (nodes : List Node) : ungroupAll nodes = nodes.map ungroup := by
  induction nodes with
  | nil => rfl
  | cons node rest ih => rw [ungroupAll, ih, List.map_cons]

/-- A node that is no table keeps its children, each of them opened. -/
theorem ungroup_of_ne_table {kind : Kind} (h : kind ≠ .table) (children : List Node) :
    ungroup (mk kind children) = mk kind (children.map ungroup) := by
  rw [ungroup, if_neg h, ungroupAll_eq_map]

/-- A table has the rows of its headers and bodies in their place. -/
theorem ungroup_table (children : List Node) :
    ungroup (mk .table children) =
      mk .table (children.flatMap fun child => opened (ungroup child)) := by
  rw [ungroup, if_pos rfl, ungroupAll_eq_map, List.flatMap_map]

/-- An opened header leaves the rows it was made from. -/
theorem opened_header (rows : List Node) :
    opened (ungroup (mk .tableHeader rows)) = rows.map ungroup := by
  rw [ungroup_of_ne_table (by decide), opened]

/-- An opened body leaves the rows that were gathered in it. -/
theorem flatMap_opened_gather (rows : List Node) :
    ((gather rows).flatMap fun child => opened (ungroup child)) = rows.map ungroup := by
  cases rows with
  | nil => rfl
  | cons row rest => rw [gather, List.flatMap_singleton, ungroup_of_ne_table (by decide), opened]

end Node

namespace Markdown.Syntax

open Node

/-- The header rows of a sequence of nodes and then its other nodes, each of the two
groups in its order. -/
def headersFirst (nodes : List Syntax) : List Syntax :=
  (nodes.filter fun s => isHeaderRow s.construct) ++
    nodes.filter fun s => !isHeaderRow s.construct

mutual

/-- The tree with the header rows of each table first, and with nothing below its
terminal constructs. -/
def arrange : Syntax → Syntax
  | mk construct children =>
    mk construct (if construct.isTerminal then []
      else if isTable construct then headersFirst (arrangeAll children)
      else arrangeAll children)

/-- A sequence of trees, each of them arranged. -/
def arrangeAll : List Syntax → List Syntax
  | [] => []
  | s :: rest => arrange s :: arrangeAll rest

end

mutual

/-- The tree with the kind that stands for each construct in its place, node by
node. -/
def relabel : Syntax → Node
  | mk construct children => .mk (kindOf construct) (relabelAll children)

/-- A sequence of trees, each of them relabelled. -/
def relabelAll : List Syntax → List Node
  | [] => []
  | s :: rest => relabel s :: relabelAll rest

end

mutual

/-- The constructs of a tree in document order, without those below a terminal
construct. -/
def kept : Syntax → List Construct
  | mk construct children =>
    construct :: if construct.isTerminal then [] else keptAll children

/-- The constructs of a sequence of trees that are not below a terminal one. -/
def keptAll : List Syntax → List Construct
  | [] => []
  | s :: rest => kept s ++ keptAll rest

end

/-- A sequence of trees is arranged one by one. -/
theorem arrangeAll_eq_map (nodes : List Syntax) : arrangeAll nodes = nodes.map arrange := by
  induction nodes with
  | nil => rfl
  | cons s rest ih => rw [arrangeAll, ih, List.map_cons]

/-- A sequence of trees is relabelled one by one. -/
theorem relabelAll_eq_map (nodes : List Syntax) : relabelAll nodes = nodes.map relabel := by
  induction nodes with
  | nil => rfl
  | cons s rest ih => rw [relabelAll, ih, List.map_cons]

/-- The kept constructs of a sequence of trees are those of each of them. -/
theorem keptAll_eq_flatMap (nodes : List Syntax) : keptAll nodes = nodes.flatMap kept := by
  induction nodes with
  | nil => rfl
  | cons s rest ih => rw [keptAll, ih, List.flatMap_cons]

/-- Arranging a tree leaves the construct at its root. -/
theorem construct_arrange (s : Syntax) : (arrange s).construct = s.construct := by
  cases s with
  | mk construct children => rfl

/-- Nodes whose roots keep their constructs are put in order before or after that. -/
theorem headersFirst_map {f : Syntax → Syntax} (h : ∀ s, (f s).construct = s.construct)
    (nodes : List Syntax) : headersFirst (nodes.map f) = (headersFirst nodes).map f := by
  simp only [headersFirst, List.filter_map, Function.comp_def, h, List.map_append]

/-- Putting the header rows first moves nodes only. -/
theorem headersFirst_perm (nodes : List Syntax) : (headersFirst nodes).Perm nodes :=
  List.filter_append_perm _ nodes

/-- A terminal construct is relabelled on its own. -/
theorem relabel_arrange_of_terminal {construct : Construct} (h : construct.isTerminal = true)
    (children : List Syntax) :
    relabel (arrange (mk construct children)) = Node.leaf (kindOf construct) := by
  rw [arrange, if_pos h, relabel, relabelAll, Node.leaf]

/-- A table is relabelled with its header rows first. -/
theorem relabel_arrange_table (alignments : List ColumnAlignment) (children : List Syntax) :
    relabel (arrange (mk (.table alignments) children)) =
      .mk .table ((headersFirst children).map fun s => relabel (arrange s)) := by
  have hterminal : (Construct.table alignments).isTerminal = false := rfl
  have htable : isTable (.table alignments) = true := rfl
  rw [arrange, if_neg (by simp [hterminal]), if_pos htable, arrangeAll_eq_map,
    headersFirst_map construct_arrange, relabel, relabelAll_eq_map, List.map_map]
  rfl

/-- Any other construct is relabelled with its children where they are. -/
theorem relabel_arrange_of_container {construct : Construct}
    (hterminal : construct.isTerminal = false) (htable : isTable construct = false)
    (children : List Syntax) :
    relabel (arrange (mk construct children)) =
      .mk (kindOf construct) (children.map fun s => relabel (arrange s)) := by
  rw [arrange, if_neg (by simp [hterminal]), if_neg (by simp [htable]), arrangeAll_eq_map,
    relabel, relabelAll_eq_map, List.map_map]
  rfl

/-- With its header and its body opened, a table has its header rows first and then
its other children, each narrowed and opened. -/
theorem ungroup_ofSyntax_table (alignments : List ColumnAlignment) (children : List Syntax) :
    ungroup (ofSyntax (mk (.table alignments) children)) =
      .mk .table ((headersFirst children).map fun s => ungroup (ofSyntax s)) := by
  have hheaders : ((headersOf children).flatMap fun child => opened (ungroup child)) =
      (children.filter fun s => isHeaderRow s.construct).map fun s => ungroup (ofSyntax s) := by
    rw [headersOf_eq_map, List.flatMap_map]
    simp only [opened_header, List.map_cons, List.map_nil]
    exact List.flatMap_pure_eq_map _ _
  rw [ofSyntax_table, ungroup_table, List.flatMap_append, hheaders, flatMap_opened_gather,
    bodyOf_eq_map, List.map_map, headersFirst, List.map_append]
  rfl

/-- The document made from a syntax tree, its headers and bodies opened, is the
arranged tree under the labels of the document. -/
theorem ungroup_ofSyntax (s : Syntax) : ungroup (ofSyntax s) = relabel (arrange s) := by
  induction s with
  | mk construct children ih =>
    rcases leaf_or_table_or_container construct with hleaf | ⟨alignments, rfl⟩ | ⟨hleaf, htable⟩
    · have hterminal : construct.isTerminal = true := isLeaf_kindOf construct ▸ hleaf
      rw [ofSyntax_of_isLeaf hleaf, relabel_arrange_of_terminal hterminal, Node.leaf,
        ungroup_of_ne_table (ne_table_of_isLeaf hleaf), List.map_nil]
    · have hrows : ∀ s ∈ headersFirst children, ungroup (ofSyntax s) = relabel (arrange s) :=
        fun s hs => ih s ((headersFirst_perm children).mem_iff.mp hs)
      rw [ungroup_ofSyntax_table, relabel_arrange_table, List.map_congr_left hrows]
    · have hterminal : construct.isTerminal = false := isLeaf_kindOf construct ▸ hleaf
      rw [ofSyntax_of_container hleaf htable, ungroup_of_ne_table (kindOf_ne_table htable),
        relabel_arrange_of_container hterminal htable, List.map_map]
      exact congrArg _ (List.map_congr_left ih)

/-- Arranging and relabelling a tree keeps all its nodes but those below terminal
constructs, and adds none. -/
theorem kinds_relabel_arrange (s : Syntax) :
    (relabel (arrange s)).kinds.Perm ((kept s).map kindOf) := by
  induction s with
  | mk construct children ih =>
    have hchildren : (children.flatMap fun s => (relabel (arrange s)).kinds).Perm
        ((keptAll children).map kindOf) := by
      rw [keptAll_eq_flatMap, List.map_flatMap]
      exact List.Perm.flatMap_left children ih
    rcases leaf_or_table_or_container construct with hleaf | ⟨alignments, rfl⟩ | ⟨hleaf, htable⟩
    · have hterminal : construct.isTerminal = true := isLeaf_kindOf construct ▸ hleaf
      rw [relabel_arrange_of_terminal hterminal, kept, if_pos hterminal]
      exact List.Perm.refl _
    · have hterminal : (Construct.table alignments).isTerminal = false := rfl
      rw [relabel_arrange_table, kinds, kindsAll_eq_flatMap, List.flatMap_map, kept,
        if_neg (by simp [hterminal]), List.map_cons]
      exact (((headersFirst_perm children).flatMap_right _).trans hchildren).cons _
    · have hterminal : construct.isTerminal = false := isLeaf_kindOf construct ▸ hleaf
      rw [relabel_arrange_of_container hterminal htable, kinds, kindsAll_eq_flatMap,
        List.flatMap_map, kept, if_neg (by simp [hterminal]), List.map_cons]
      exact hchildren.cons _

/-- Narrowing relabels. The document made from any syntax tree, with the headers and
bodies of its tables opened in place, is the tree under new labels, save that the
header rows of each table come before its other children and that nothing is left
below terminal constructs. So every other node is there once, under its label. -/
theorem ofSyntax_relabels (s : Syntax) :
    ungroup (ofSyntax s) = relabel (arrange s) ∧
      (ungroup (ofSyntax s)).kinds.Perm ((kept s).map kindOf) := by
  refine ⟨ungroup_ofSyntax s, ?_⟩
  rw [ungroup_ofSyntax]
  exact kinds_relabel_arrange s

end Markdown.Syntax

end Chatdown
