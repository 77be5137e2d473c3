import Chatdown.Proofs.Skeleton
import Mathlib.Data.List.Flatten

/-!
# The text that reaches the output

A syntax tree carries text in its literals and in the destinations of its links. On
trees of the shape that reading Markdown yields, where leaves are leaves and tables
are made of rows of cells, all of that text reaches the output, in order. The shape
matters: narrowing cuts the children of leaves, and rendering passes over tables
without cells and over all but the first row of a header.
-/

namespace Chatdown

open Markdown Text

/-- The text that a kind of node holds itself. -/
def Kind.ownText : Kind → List Char
  | .text literal | .inlineCode literal | .codeBlock _ literal => literal.toList
  | .unsupported _ (some literal) => literal.toList
  | .link destination _ => destination.toList
  | _ => []

namespace Markdown

/-- The text that a construct holds itself: a literal, or the destination of a link. -/
def Construct.ownText : Construct → List Char
  | .text literal | .code literal | .codeBlock _ literal => literal.toList
  | .htmlInline literal | .htmlBlock literal => literal.toList
  | .link url _ => url.toList
  | _ => []

/-- Whether a construct is one that has nothing below it. -/
def Construct.isTerminal : Construct → Bool
  | .text _ | .code _ | .codeBlock _ _ | .htmlInline _ | .htmlBlock _ => true
  | .softBreak | .lineBreak | .thematicBreak => true
  | _ => false

/-- Whether a construct is a table row. -/
def Construct.isRow : Construct → Bool
  | .tableRow _ => true
  | _ => false

namespace Syntax

mutual

/-- The text of a syntax tree in document order, that of a node before that of its
children. -/
def content : Syntax → List Char
  | .mk construct children => construct.ownText ++ contentAll children

/-- The text of a sequence of syntax trees. -/
def contentAll : List Syntax → List Char
  | [] => []
  | s :: rest => content s ++ contentAll rest

end

/-- A node of the shape that reading yields: a terminal construct has no children, and
a table has rows only, header rows first, each of them with cells only and at least
one. -/
def WellShaped (s : Syntax) : Prop :=
  (s.construct.isTerminal = true → s.children = []) ∧
    (Node.isTable s.construct = true →
      (∀ row ∈ s.children, row.construct.isRow = true ∧ row.children ≠ [] ∧
        ∀ cell ∈ row.children, cell.construct = .tableCell) ∧
      s.children.Pairwise fun above below =>
        Node.isHeaderRow below.construct = true → Node.isHeaderRow above.construct = true)

instance : DecidablePred WellShaped := fun _ => inferInstanceAs (Decidable (_ ∧ (_ → _ ∧ _)))

/-- The text of a sequence of trees is that of each of them in a row. -/
theorem contentAll_eq_flatMap (nodes : List Syntax) : contentAll nodes = nodes.flatMap content := by
  induction nodes with
  | nil => rfl
  | cons s rest ih => rw [contentAll, ih, List.flatMap_cons]

end Syntax

end Markdown

namespace Chat

/-- Marks around a text leave it in order. -/
theorem sublist_enclosed (mark : Char) (text : List Char) : text.Sublist (enclosed mark text) :=
  List.Sublist.cons _ (List.sublist_append_left text [mark])

/-- Texts in a row come through in order when each comes through its rule. -/
theorem flatten_sublist_flatMap {rule : List Char → List Char}
    (h : ∀ text : List Char, text.Sublist (rule text)) (texts : List (List Char)) :
    texts.flatten.Sublist (texts.flatMap rule) := by
  rw [← List.flatMap_id]
  exact List.Sublist.flatMap_right texts fun text _ => h text

/-- Items in a row come through in order when each gets a marker. -/
theorem flatten_sublist_marked (mark : Nat → List Char) (number : Nat)
    (items : List (List Char)) :
    items.flatten.Sublist ((items.zipIdx number).flatMap fun item => mark item.2 ++ item.1) := by
  induction items generalizing number with
  | nil => exact List.Sublist.refl _
  | cons item rest ih =>
    rw [List.flatten_cons, List.zipIdx_cons, List.flatMap_cons]
    exact (List.sublist_append_right _ _).append (ih (number + 1))

/-- A leaf shows the text it holds. -/
theorem visible_ownText_sublist_leaf {kind : Kind} (h : kind.isLeaf = true)
    (children : List Node) : (visible kind.ownText).Sublist (skeleton (.mk kind children)) := by
  cases kind with
  | text literal => exact List.Sublist.refl _
  | inlineCode literal => exact sublist_enclosed _ _
  | codeBlock info literal =>
    rw [skeleton, Kind.ownText]
    exact (List.sublist_append_right _ _).trans (List.sublist_append_left _ _)
  | horizontalRule => exact List.nil_sublist _
  | unsupported name literal =>
    cases literal with
    | none => contradiction
    | some literal => exact List.Sublist.refl _
  | _ => contradiction

/-- A container shows the text it holds and then that of its children, in order. Only
a table and its header may leave children out. -/
theorem children_sublist_skeleton {kind : Kind} (hleaf : kind.isLeaf = false)
    (htable : kind ≠ .table) (hheader : kind ≠ .tableHeader) (children : List Node) :
    (visible kind.ownText ++ (skeletonEach children).flatten).Sublist
      (skeleton (.mk kind children)) := by
  cases kind with
  | heading level => exact flatten_sublist_flatMap (sublist_enclosed '*') _
  | strong => exact flatten_sublist_flatMap (sublist_enclosed '*') _
  | emphasis => exact flatten_sublist_flatMap (sublist_enclosed '_') _
  | strikethrough => exact flatten_sublist_flatMap (sublist_enclosed '~') _
  | blockQuote => exact flatten_sublist_flatMap (List.sublist_cons_self '>') _
  | list ordered start => exact flatten_sublist_marked (itemMark ordered) 1 _
  | link destination title =>
    rw [skeleton, Kind.ownText]
    have htitle : (skeletonEach children).flatten.Sublist
        ('|' :: (skeletonEach children).flatten) := List.sublist_cons_self _ _
    exact (((List.Sublist.refl _).append htitle).cons '<').trans (List.sublist_append_left _ _)
  | unsupported name literal =>
    cases literal with
    | none => exact List.Sublist.refl _
    | some literal => contradiction
  | document | paragraph | listItem | tableBody | tableRow | tableCell =>
    exact List.Sublist.refl _
  | table => contradiction
  | tableHeader => contradiction
  | text | inlineCode | codeBlock | horizontalRule => contradiction

/-- A header with one row shows the cells of the row in order. -/
theorem cells_sublist_header (kind : Kind) (cells : List Node) :
    (cells.flatMap skeleton).Sublist (skeleton (.mk .tableHeader [.mk kind cells])) := by
  rw [skeleton, skeletonEach_eq_map, List.flatMap_def]
  exact flatten_sublist_flatMap (sublist_enclosed '*') _

end Chat

namespace Markdown.Syntax

open Chat Node

/-- Narrowing keeps the text that a construct holds itself, up to blank characters. -/
theorem visible_ownText_kindOf (construct : Construct) :
    visible (kindOf construct).ownText = visible construct.ownText := by
  cases construct <;> rfl

/-- The terminal constructs are those that become leaves. -/
theorem isLeaf_kindOf (construct : Construct) :
    (kindOf construct).isLeaf = construct.isTerminal := by
  cases construct <;> rfl

/-- Only tables become tables. -/
theorem kindOf_ne_table {construct : Construct} (h : isTable construct = false) :
    kindOf construct ≠ .table := by
  cases construct <;> simp_all [kindOf, isTable]

/-- No construct becomes a table header. -/
theorem kindOf_ne_tableHeader (construct : Construct) : kindOf construct ≠ .tableHeader := by
  cases construct <;> simp [kindOf]

/-- A sequence in which what passes a test comes first is put back together from what
passes and what fails. -/
theorem filter_append_filter_not {α : Type} {test : α → Bool} {items : List α}
    (h : items.Pairwise fun above below => test below = true → test above = true) :
    items.filter test ++ items.filter (fun item => !test item) = items := by
  induction items with
  | nil => rfl
  | cons item rest ih =>
    obtain ⟨hitem, hrest⟩ := List.pairwise_cons.mp h
    cases htest : test item with
    | true =>
      rw [List.filter_cons_of_pos htest, List.filter_cons_of_neg (by simp [htest]),
        List.cons_append, ih hrest]
    | false =>
      have hnone : ∀ below ∈ rest, ¬test below = true := fun below hbelow hpass =>
        Bool.false_ne_true (htest.symm.trans (hitem below hbelow hpass))
      rw [List.filter_eq_nil_iff.mpr (List.forall_mem_cons.mpr ⟨by simp [htest], hnone⟩),
        List.nil_append, List.filter_eq_self]
      exact List.forall_mem_cons.mpr ⟨by simp [htest], fun below hb => by simp [hnone below hb]⟩

/-- The visible text of a node is its own and then that of its children. -/
theorem visible_content (construct : Construct) (children : List Syntax) :
    visible (content (.mk construct children)) =
      visible construct.ownText ++ children.flatMap fun child => visible (content child) := by
  rw [content, visible_append, contentAll_eq_flatMap, List.flatMap_def, visible_flatten,
    List.map_map, ← List.flatMap_def]
  rfl

/-- A row of cells that is not empty has a cell. -/
theorem hasCell_of_row {row : Syntax} (hrow : row.construct.isRow = true)
    (hne : row.children ≠ []) (hcells : ∀ cell ∈ row.children, cell.construct = .tableCell) :
    hasCell (ofSyntax row) = true := by
  obtain ⟨cell, hcell⟩ := List.exists_mem_of_ne_nil _ hne
  cases hconstruct : row.construct with
  | tableRow header => exact hasCell_ofSyntax_row hconstruct hcell (hcells cell hcell)
  | _ => simp [hconstruct, Construct.isRow] at hrow

/-- A header shows the text of the row it is made from. -/
theorem content_sublist_header {row : Syntax} (hrow : isHeaderRow row.construct = true)
    (hcells : ∀ cell ∈ row.children,
      (visible (content cell)).Sublist (skeleton (ofSyntax cell))) :
    (visible (content row)).Sublist (skeleton (.mk .tableHeader [ofSyntax row])) := by
  cases row with
  | mk construct cells =>
    cases construct with
    | tableRow header =>
      rw [visible_content, ofSyntax_of_container rfl rfl]
      refine List.Sublist.trans ?_ (cells_sublist_header _ _)
      rw [List.flatMap_map]
      exact List.Sublist.flatMap_right cells hcells
    | _ => contradiction

/-- A table of well-shaped rows shows their text in order. -/
theorem content_sublist_table {rows : List Syntax}
    (hshape : ∀ row ∈ rows, row.construct.isRow = true ∧ row.children ≠ [] ∧
      ∀ cell ∈ row.children, cell.construct = .tableCell)
    (horder : rows.Pairwise fun above below =>
      isHeaderRow below.construct = true → isHeaderRow above.construct = true)
    (ih : ∀ row ∈ rows, (visible (content row)).Sublist (skeleton (ofSyntax row)) ∧
      ∀ cell ∈ row.children, (visible (content cell)).Sublist (skeleton (ofSyntax cell)))
    (alignments : List ColumnAlignment) :
    (visible (content (.mk (.table alignments) rows))).Sublist
      (skeleton (ofSyntax (.mk (.table alignments) rows))) := by
  have hown : visible (Construct.ownText (.table alignments)) = [] := rfl
  rw [visible_content, hown, List.nil_append, ofSyntax_table, skeleton]
  split
  · rw [skeletonEach_eq_map, ← List.flatMap_def, List.flatMap_append,
      flatMap_gather (fun rows => by rw [skeleton, skeletonEach_eq_map, List.flatMap_def]),
      headersOf_eq_map, bodyOf_eq_map, List.flatMap_map, List.flatMap_map]
    conv_lhs => rw [← filter_append_filter_not horder]
    rw [List.flatMap_append]
    refine List.Sublist.append (List.Sublist.flatMap_right _ ?_) (List.Sublist.flatMap_right _ ?_)
    · intro row hrow
      obtain ⟨hmem, hheader⟩ := List.mem_filter.mp hrow
      exact content_sublist_header hheader (ih row hmem).2
    · intro row hrow
      exact (ih row (List.mem_filter.mp hrow).1).1
  · rename_i hpassed
    -- A table is passed over only when it has no row, since every row has a cell.
    cases rows with
    | nil => exact List.nil_sublist _
    | cons row rest =>
      obtain ⟨hrow, hne, hcells⟩ := hshape row List.mem_cons_self
      exact absurd (any_hasCell_table List.mem_cons_self (hasCell_of_row hrow hne hcells)) hpassed

/-- On a tree of the shape that reading yields, the visible text is a subsequence of
the skeleton of the document. -/
theorem content_sublist_skeleton {s : Syntax} (h : Everywhere WellShaped s) :
    (visible (content s)).Sublist (skeleton (ofSyntax s)) := by
  induction s using familyInduction with
  | mk construct children ih =>
    obtain ⟨⟨hterminal, htable⟩, hinside⟩ := everywhere_mk_iff.mp h
    have hchild : ∀ child ∈ children,
        (visible (content child)).Sublist (skeleton (ofSyntax child)) :=
      fun child hc => (ih child hc).1 (hinside child hc)
    cases hleaf : (kindOf construct).isLeaf with
    | true =>
      have hnil : children = [] := hterminal (isLeaf_kindOf construct ▸ hleaf)
      subst hnil
      rw [visible_content, List.flatMap_nil, List.append_nil, ofSyntax_of_isLeaf hleaf,
        ← visible_ownText_kindOf]
      exact visible_ownText_sublist_leaf hleaf []
    | false =>
      cases hkind : isTable construct with
      | true =>
        obtain ⟨hshape, horder⟩ := htable hkind
        cases construct with
        | table alignments =>
          refine content_sublist_table hshape horder (fun row hrow => ⟨hchild row hrow, ?_⟩) _
          exact fun cell hcell => (ih row hrow).2 cell hcell ((hinside row hrow).inside cell hcell)
        | _ => contradiction
      | false =>
        rw [visible_content, ofSyntax_of_container hleaf hkind, ← visible_ownText_kindOf]
        refine List.Sublist.trans ?_ (children_sublist_skeleton hleaf (kindOf_ne_table hkind)
          (kindOf_ne_tableHeader construct) _)
        rw [skeletonEach_eq_map, List.map_map, ← List.flatMap_def]
        exact (List.Sublist.refl _).append (List.Sublist.flatMap_right _ hchild)

/-- On a tree of the shape that reading yields, no visible text is lost or moved on the
way to the output: the text of all literals and link destinations, in document order,
is a subsequence of the markup. -/
theorem content_sublist_renderDocument {s : Syntax} (h : Everywhere WellShaped s) :
    (visible (content s)).Sublist (renderDocument (ofSyntax s)) := by
  have hskeleton := content_sublist_skeleton h
  rw [← visible_renderDocument] at hskeleton
  exact hskeleton.trans (visible_sublist _)

/-- A document with a nested list in a quote, a link around emphasis, a hard and a soft
break, and a table with a header and a body. -/
def sampleDocument : Syntax :=
  .mk .document [
    .mk .blockQuote [.mk (.list true 1 true) [.mk .item [
      .mk .paragraph [.leaf (.text "a b"), .leaf .softBreak, .leaf (.code " c ")],
      .mk (.list false 1 true) [.mk .item [.leaf (.codeBlock "" "d\n")]]]]],
    .mk .paragraph [.mk (.link "u" "t") [.mk .strong [.leaf (.text "e")], .leaf .lineBreak,
      .mk (.image "i" "") [.leaf (.text "f")]]],
    .mk (.table [.left]) [
      .mk (.tableRow true) [.mk .tableCell [.mk .emph [.leaf (.text "g")]], .mk .tableCell []],
      .mk (.tableRow false) [.mk .tableCell [.leaf (.htmlInline "<h>")]]]]

/-- The text of the sample document reaches the output. -/
theorem content_sublist_sampleDocument :
    Everywhere WellShaped sampleDocument ∧
      visible (content sampleDocument) = "abcduefg<h>".toList ∧
      (visible (content sampleDocument)).Sublist (renderDocument (ofSyntax sampleDocument)) :=
  have hshape : Everywhere WellShaped sampleDocument := by decide
  ⟨hshape, by decide, content_sublist_renderDocument hshape⟩

end Markdown.Syntax

end Chatdown
