import Chatdown.Proofs.Content
import Mathlib.Data.List.Forall2

/-!
# What the markup does not depend on

Narrowing drops attributes, and rendering passes over some that narrowing keeps: the
level of a heading, the first number of a list, the info string of a code block, the
title of a link and the name of an unsupported construct. Two syntax trees of one shape
that differ in nothing else have the same markup. Both halves meet in the plain
document, which has these attributes blanked: rendering cannot tell a document from its
plain form, and the two trees have the same plain document.
-/

namespace Chatdown

open Markdown

/-- The kind with the attributes blanked that rendering does not read. -/
def Kind.plain : Kind → Kind
  | .heading _ => .heading 1
  | .list ordered _ => .list ordered 1
  | .codeBlock _ literal => .codeBlock "" literal
  | .link destination _ => .link destination ""
  | .unsupported _ literal => .unsupported "" literal
  | kind => kind

/-- Blanking attributes makes no leaf and no container. -/
theorem Kind.isLeaf_plain (kind : Kind) : kind.plain.isLeaf = kind.isLeaf := by
  cases kind <;> rfl

/-- Only table cells become table cells when attributes are blanked. -/
theorem Kind.plain_beq_tableCell (kind : Kind) :
    (kind.plain == .tableCell) = (kind == .tableCell) := by
  cases kind <;> rfl

/-- Only table headers become table headers when attributes are blanked. -/
theorem Kind.plain_eq_tableHeader_iff {kind : Kind} :
    kind.plain = .tableHeader ↔ kind = .tableHeader := by
  cases kind <;> simp [Kind.plain]

namespace Node

mutual

/-- The document with the attributes blanked that rendering does not read. -/
def plain : Node → Node
  | mk kind children => mk kind.plain (plainAll children)

/-- A sequence of documents, each of them with its attributes blanked. -/
def plainAll : List Node → List Node
  | [] => []
  | node :: rest => plain node :: plainAll rest

end

/-- A sequence of documents is blanked one by one. -/
theorem plainAll_eq_map (nodes : List Node) : plainAll nodes = nodes.map plain := by
  induction nodes with
  | nil => rfl
  | cons node rest ih => rw [plainAll, ih, List.map_cons]

/-- Children with the same cells have a cell among them when their plain forms do. -/
theorem any_hasCell_map_plain {children : List Node}
    (h : ∀ child ∈ children, hasCell (plain child) = hasCell child) :
    (children.map plain).any hasCell = children.any hasCell := by
  induction children with
  | nil => rfl
  | cons child rest ih =>
    obtain ⟨hchild, hrest⟩ := List.forall_mem_cons.mp h
    rw [List.map_cons, List.any_cons, List.any_cons, hchild, ih hrest]

/-- Blanking attributes adds no table cell and removes none. -/
theorem hasCell_plain (node : Node) : hasCell (plain node) = hasCell node := by
  induction node with
  | mk kind children ih =>
    rw [plain, plainAll_eq_map, hasCell_mk, hasCell_mk, any_hasCell_map_plain ih,
      Kind.plain_beq_tableCell]

/-- The plain form of gathered rows is the plain rows, gathered. -/
theorem map_plain_gather (rows : List Node) : (gather rows).map plain = gather (rows.map plain) := by
  cases rows with
  | nil => rfl
  | cons row rest => rw [gather, List.map_singleton, plain, plainAll_eq_map]; rfl

end Node

namespace Chat

open Node

/-- Children that render alike make the same lines of a table. -/
theorem renderRows_map_plain {children : List Node}
    (h : ∀ child ∈ children, render (plain child) = render child) :
    renderRows (children.map plain) = renderRows children := by
  have hrow : ∀ child ∈ children,
      render (plain child) ++ (if (plain child).kind = .tableHeader then ['\n'] else []) =
        render child ++ if child.kind = .tableHeader then ['\n'] else [] := by
    intro child hc
    have hkind : (plain child).kind = .tableHeader ↔ child.kind = .tableHeader := by
      cases child with
      | mk kind children => exact Kind.plain_eq_tableHeader_iff
    rw [h child hc]
    simp only [hkind]
  rw [renderRows_eq_flatMap, renderRows_eq_flatMap, List.flatMap_map]
  exact List.flatMap_congr hrow

/-- Children that render alike are the same texts. -/
theorem renderEach_plainAll {children : List Node}
    (h : ∀ child ∈ children, render (plain child) = render child) :
    renderEach (plainAll children) = renderEach children := by
  rw [renderEach_eq_map, renderEach_eq_map, plainAll_eq_map, List.map_map]
  exact List.map_congr_left h

/-- Rendering cannot tell a document from its plain form. -/
theorem render_plain (node : Node) : render (plain node) = render node := by
  induction node using Node.familyInduction with
  | mk kind children ih =>
    have heach : renderEach (plainAll children) = renderEach children :=
      renderEach_plainAll fun child hc => (ih child hc).1
    cases kind with
    | text literal => rfl
    | inlineCode literal => rfl
    | codeBlock info literal => rfl
    | horizontalRule => rfl
    | unsupported name literal =>
      cases literal with
      | some literal => rfl
      | none => simp only [plain, Kind.plain, render, heach]
    | table =>
      have hany : (children.map plain).any hasCell = children.any hasCell :=
        any_hasCell_map_plain fun child _ => hasCell_plain child
      have hrows : renderRows (children.map plain) = renderRows children :=
        renderRows_map_plain fun child hc => (ih child hc).1
      change render (.mk .table (plainAll children)) = _
      rw [plainAll_eq_map, render_table, render_table, renderTable_mk, renderTable_mk, hany, hrows]
    | tableHeader =>
      cases children with
      | nil => rfl
      | cons first rest =>
        cases first with
        | mk kind cells =>
          -- The header writes the cells below its first child, whatever that child is.
          have hcells : renderEach (plainAll cells) = renderEach cells :=
            renderEach_plainAll (ih _ List.mem_cons_self).2
          change render (.mk .tableHeader (.mk kind.plain (plainAll cells) :: plainAll rest)) = _
          rw [render, render, hcells]
    | _ => simp only [plain, Kind.plain, render, heach]

end Chat

namespace Markdown

/-- Whether no kind of the document stands for a construct. -/
def Construct.isForeign : Construct → Bool
  | .frontMatter _ | .footnoteDefinition _ | .footnoteReference _ => true
  | .descriptionList | .descriptionItem | .descriptionTerm | .descriptionDetails => true
  | .taskItem _ | .multilineBlockQuote | .math _ | .image _ _ | .wikiLink _ => true
  | .superscript | .underline | .spoileredText | .escaped | .escapedTag _ => true
  | _ => false

/-- Two constructs that the markup cannot tell apart. They are the same, or they differ
in an attribute that it does not show, or they are both foreign, both line breaks, or
both the same raw HTML. -/
inductive Construct.Interchangeable : Construct → Construct → Prop where
  | same (construct : Construct) : Interchangeable construct construct
  /-- The first number of a list, and how its items are set. -/
  | list (ordered : Bool) (start start' : Nat) (tight tight' : Bool) :
    Interchangeable (.list ordered start tight) (.list ordered start' tight')
  /-- The level of a heading. -/
  | heading (level level' : Nat) : Interchangeable (.heading level) (.heading level')
  /-- The info string of a code block. -/
  | codeBlock (info info' literal : String) :
    Interchangeable (.codeBlock info literal) (.codeBlock info' literal)
  /-- The title of a link. -/
  | link (url title title' : String) : Interchangeable (.link url title) (.link url title')
  /-- The alignments of the columns of a table. -/
  | table (alignments alignments' : List ColumnAlignment) :
    Interchangeable (.table alignments) (.table alignments')
  /-- Everything about a foreign construct. -/
  | foreign {a b : Construct} (ha : a.isForeign = true) (hb : b.isForeign = true) :
    Interchangeable a b
  /-- Whether a line break is soft. -/
  | softHard : Interchangeable .softBreak .lineBreak
  | hardSoft : Interchangeable .lineBreak .softBreak
  /-- Whether raw HTML stands in a line. -/
  | inlineBlock (literal : String) :
    Interchangeable (.htmlInline literal) (.htmlBlock literal)
  | blockInline (literal : String) :
    Interchangeable (.htmlBlock literal) (.htmlInline literal)

/-- A foreign construct becomes an unsupported node without text. -/
theorem Construct.kindOf_of_isForeign {construct : Construct} (h : construct.isForeign = true) :
    Node.kindOf construct = .unsupported (Node.unsupportedName construct) none := by
  cases construct <;> simp_all [Construct.isForeign, Node.kindOf]

/-- A foreign construct is no table and no header row. -/
theorem Construct.not_table_of_isForeign {construct : Construct}
    (h : construct.isForeign = true) :
    Node.isTable construct = false ∧ Node.isHeaderRow construct = false := by
  cases construct <;> simp_all [Construct.isForeign, Node.isTable, Node.isHeaderRow]

namespace Construct.Interchangeable

variable {a b : Construct}

/-- Interchangeable constructs become kinds with the same plain form. -/
theorem plain_kindOf (h : Interchangeable a b) :
    (Node.kindOf a).plain = (Node.kindOf b).plain := by
  cases h with
  | foreign ha hb => rw [kindOf_of_isForeign ha, kindOf_of_isForeign hb]; rfl
  | _ => rfl

/-- Interchangeable constructs are both tables or neither is. -/
theorem isTable_eq (h : Interchangeable a b) : Node.isTable a = Node.isTable b := by
  cases h with
  | foreign ha hb => rw [(not_table_of_isForeign ha).1, (not_table_of_isForeign hb).1]
  | _ => rfl

/-- Interchangeable constructs are both header rows or neither is. -/
theorem isHeaderRow_eq (h : Interchangeable a b) : Node.isHeaderRow a = Node.isHeaderRow b := by
  cases h with
  | foreign ha hb => rw [(not_table_of_isForeign ha).2, (not_table_of_isForeign hb).2]
  | _ => rfl

/-- Interchangeable constructs both become leaves or neither does. -/
theorem isLeaf_kindOf_eq (h : Interchangeable a b) :
    (Node.kindOf a).isLeaf = (Node.kindOf b).isLeaf := by
  rw [← Kind.isLeaf_plain, h.plain_kindOf, Kind.isLeaf_plain]

end Construct.Interchangeable

namespace Syntax

open Node

/-- Two syntax trees of one shape with interchangeable constructs all over. -/
inductive Interchangeable : Syntax → Syntax → Prop where
  | mk {a b : Construct} {as bs : List Syntax} (root : a.Interchangeable b)
    (inside : List.Forall₂ Interchangeable as bs) : Interchangeable (.mk a as) (.mk b bs)

/-- What passes from interchangeable children to their parents holds of all
interchangeable trees. -/
@[elab_as_elim]
theorem Interchangeable.induction {motive : Syntax → Syntax → Prop}
    (mk : ∀ {a b : Construct} {as bs : List Syntax}, a.Interchangeable b →
      List.Forall₂ (fun s t => Interchangeable s t ∧ motive s t) as bs →
        motive (.mk a as) (.mk b bs))
    {s t : Syntax} (h : Interchangeable s t) : motive s t :=
  @Interchangeable.rec (fun s t _ => motive s t)
    (fun as bs _ => List.Forall₂ (fun s t => Interchangeable s t ∧ motive s t) as bs)
    (fun root _ ih => mk root ih) .nil (fun head _ ihead irest => .cons ⟨head, ihead⟩ irest) s t h

/-- A tree is interchangeable with itself. -/
theorem Interchangeable.refl (s : Syntax) : Interchangeable s s := by
  induction s with
  | mk construct children ih => exact .mk (.same construct) (List.forall₂_same.mpr ih)

/-- Interchangeable trees have interchangeable roots. -/
theorem Interchangeable.construct {s t : Syntax} (h : Interchangeable s t) :
    s.construct.Interchangeable t.construct := by
  cases h with
  | mk root inside => exact root

/-- Sequences with equal images, member by member, have the same map. -/
theorem map_eq_map_of_forall₂ {α β : Type} {f : α → β} {as bs : List α}
    (h : List.Forall₂ (fun a b => f a = f b) as bs) : as.map f = bs.map f := by
  rw [← List.forall₂_eq_eq_eq, List.forall₂_map_left_iff, List.forall₂_map_right_iff]
  exact h

/-- The plain form of a table: its headers one by one, and its other rows gathered. -/
theorem plain_ofSyntax_table (alignments : List ColumnAlignment) (children : List Syntax) :
    plain (ofSyntax (.mk (.table alignments) children)) =
      .mk .table
        (((children.filter fun s => isHeaderRow s.construct).map fun s => plain (ofSyntax s)).map
            (fun row => .mk .tableHeader [row]) ++
          gather ((children.filter fun s => !isHeaderRow s.construct).map fun s =>
            plain (ofSyntax s))) := by
  rw [ofSyntax_table, plain, plainAll_eq_map, List.map_append, map_plain_gather, headersOf_eq_map,
    bodyOf_eq_map, List.map_map, List.map_map, List.map_map]
  rfl

/-- Where children match, header rows stand against header rows, so the rows of either
sort have the same plain forms. -/
theorem map_plain_filter_congr {as bs : List Syntax}
    (h : List.Forall₂ (fun s t => Interchangeable s t ∧
      plain (ofSyntax s) = plain (ofSyntax t)) as bs) (test : Bool → Bool) :
    (as.filter fun s => test (isHeaderRow s.construct)).map (fun s => plain (ofSyntax s)) =
      (bs.filter fun s => test (isHeaderRow s.construct)).map fun s => plain (ofSyntax s) := by
  have htest : ∀ ⦃s t : Syntax⦄, Interchangeable s t ∧ plain (ofSyntax s) = plain (ofSyntax t) →
      (test (isHeaderRow s.construct) = true ↔ test (isHeaderRow t.construct) = true) := by
    intro s t hst
    rw [hst.1.construct.isHeaderRow_eq]
  have hfiltered : List.Forall₂ (fun s t => Interchangeable s t ∧
      plain (ofSyntax s) = plain (ofSyntax t))
      (as.filter fun s => test (isHeaderRow s.construct))
      (bs.filter fun s => test (isHeaderRow s.construct)) := List.rel_filter htest h
  exact map_eq_map_of_forall₂ (hfiltered.imp fun _ _ hst => hst.2)

/-- Only tables count as tables. -/
theorem exists_of_isTable {construct : Construct} (h : isTable construct = true) :
    ∃ alignments, construct = .table alignments := by
  cases construct with
  | table alignments => exact ⟨alignments, rfl⟩
  | _ => contradiction

/-- Interchangeable trees make documents with the same plain form. -/
theorem plain_ofSyntax_congr {s t : Syntax} (h : Interchangeable s t) :
    plain (ofSyntax s) = plain (ofSyntax t) := by
  refine Interchangeable.induction
    (motive := fun s t => plain (ofSyntax s) = plain (ofSyntax t)) ?_ h
  intro a b as bs root inside
  have hleaves := root.isLeaf_kindOf_eq
  have htables := root.isTable_eq
  rcases leaf_or_table_or_container a with hleaf | ⟨alignments, rfl⟩ | ⟨hleaf, htable⟩
  · rw [ofSyntax_of_isLeaf hleaf, ofSyntax_of_isLeaf (hleaves ▸ hleaf), Node.leaf, Node.leaf,
      plain, plain, root.plain_kindOf]
  · obtain ⟨alignments', rfl⟩ := exists_of_isTable htables.symm
    rw [plain_ofSyntax_table, plain_ofSyntax_table]
    congr 2
    · exact congrArg _ (map_plain_filter_congr inside id)
    · exact congrArg _ (map_plain_filter_congr inside not)
  · have hchildren : as.map (fun s => plain (ofSyntax s)) = bs.map fun s => plain (ofSyntax s) :=
      map_eq_map_of_forall₂ (inside.imp fun _ _ h => h.2)
    rw [ofSyntax_of_container hleaf htable,
      ofSyntax_of_container (hleaves ▸ hleaf) (htables ▸ htable), plain, plain, root.plain_kindOf,
      plainAll_eq_map, plainAll_eq_map, List.map_map, List.map_map]
    exact congrArg _ hchildren

open Chat

/-- What narrowing and rendering drop has no say in the output. Two syntax trees of one
shape have the same markup when their constructs agree up to list numbers, heading
levels, info strings, link titles, column alignments, all that makes up the foreign
constructs, the hardness of line breaks, and whether raw HTML stands in a line or on its
own. -/
theorem renderDocument_ofSyntax_congr {s t : Syntax} (h : Interchangeable s t) :
    renderDocument (ofSyntax s) = renderDocument (ofSyntax t) := by
  have hrender : render (ofSyntax s) = render (ofSyntax t) := by
    rw [← render_plain, plain_ofSyntax_congr h, render_plain]
  rw [renderDocument, renderDocument, hrender]

/-- A cell of a table. -/
def sampleCell : Syntax :=
  .mk .tableCell [.leaf (.text "a")]

/-- A document that leaves nothing unsaid. -/
def fullDraft : Syntax :=
  .mk .document [
    .mk (.heading 3) [.leaf (.text "b"), .leaf .softBreak, .leaf (.htmlInline "<c>")],
    .mk (.list true 42 false) [.mk .item [.mk (.link "u" "d") [.leaf (.text "e")]]],
    .leaf (.codeBlock "rust" "f"),
    .mk (.table [.left]) [
      .mk (.tableRow true) [sampleCell],
      .mk (.tableRow false) [sampleCell, .mk (.image "v" "g") [.leaf (.text "h")]],
      .leaf (.math "x")]]

/-- The same document, with other words for all that the markup does not show. -/
def bareDraft : Syntax :=
  .mk .document [
    .mk (.heading 1) [.leaf (.text "b"), .leaf .lineBreak, .leaf (.htmlBlock "<c>")],
    .mk (.list true 0 true) [.mk .item [.mk (.link "u" "") [.leaf (.text "e")]]],
    .leaf (.codeBlock "" "f"),
    .mk (.table []) [
      .mk (.tableRow true) [sampleCell],
      .mk (.tableRow false) [sampleCell, .mk (.wikiLink "w") [.leaf (.text "h")]],
      .leaf (.taskItem none)]]

/-- The two drafts have the same markup. -/
theorem renderDocument_drafts :
    Interchangeable fullDraft bareDraft ∧
      renderDocument (ofSyntax fullDraft) = renderDocument (ofSyntax bareDraft) := by
  have hheading : Interchangeable
      (.mk (.heading 3) [.leaf (.text "b"), .leaf .softBreak, .leaf (.htmlInline "<c>")])
      (.mk (.heading 1) [.leaf (.text "b"), .leaf .lineBreak, .leaf (.htmlBlock "<c>")]) :=
    .mk (.heading 3 1) (.cons (.refl _) (.cons (.mk .softHard .nil)
      (.cons (.mk (.inlineBlock "<c>") .nil) .nil)))
  have hlist : Interchangeable
      (.mk (.list true 42 false) [.mk .item [.mk (.link "u" "d") [.leaf (.text "e")]]])
      (.mk (.list true 0 true) [.mk .item [.mk (.link "u" "") [.leaf (.text "e")]]]) :=
    .mk (.list true 42 0 false true) (.cons (.mk (.same _) (.cons
      (.mk (.link "u" "d" "") (.cons (.refl _) .nil)) .nil)) .nil)
  have hcode : Interchangeable (.leaf (.codeBlock "rust" "f")) (.leaf (.codeBlock "" "f")) :=
    .mk (.codeBlock "rust" "" "f") .nil
  have hrow : Interchangeable
      (.mk (.tableRow false) [sampleCell, .mk (.image "v" "g") [.leaf (.text "h")]])
      (.mk (.tableRow false) [sampleCell, .mk (.wikiLink "w") [.leaf (.text "h")]]) :=
    .mk (.same _) (.cons (.refl _) (.cons (.mk (.foreign rfl rfl) (.cons (.refl _) .nil)) .nil))
  have hdrafts : Interchangeable fullDraft bareDraft :=
    .mk (.same _) (.cons hheading (.cons hlist (.cons hcode (.cons
      (.mk (.table [.left] []) (.cons (.refl _) (.cons hrow
        (.cons (.mk (.foreign rfl rfl) .nil) .nil)))) .nil))))
  exact ⟨hdrafts, renderDocument_ofSyntax_congr hdrafts⟩

end Syntax

end Markdown

end Chatdown
