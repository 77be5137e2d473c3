import Chatdown.Proofs.Columns
import Chatdown.Proofs.Tree
import Chatdown.Proofs.Trim

/-!
# The skeleton of a document

The visible characters of the markup of a document are told by its tree alone. The
skeleton writes them down by plain recursion, without trimming, line breaks, tabs or
padding, and rendering is shown to add nothing to it but blank characters, at any
nesting of any kinds.
-/

namespace Chatdown.Chat

open Text

/-- A text between two marks of one sort. -/
def enclosed (mark : Char) (text : List Char) : List Char :=
  mark :: text ++ [mark]

/-- What marks the list item with a number: the number and a dot, or a bullet. -/
def itemMark (ordered : Bool) (number : Nat) : List Char :=
  if ordered then (toString number).toList ++ ['.'] else ['•']

mutual

/-- The visible characters of a node and everything below it, in order. -/
def skeleton : Node → List Char
  | .mk (.text literal) _ => visible literal.toList
  | .mk (.unsupported _ (some literal)) _ => visible literal.toList
  | .mk (.inlineCode literal) _ => enclosed '\x60' (visible literal.toList)
  | .mk (.codeBlock _ literal) _ =>
    ['\x60', '\x60', '\x60'] ++ visible literal.toList ++ ['\x60', '\x60', '\x60']
  | .mk .horizontalRule _ => []
  | .mk (.heading _) children => (skeletonEach children).flatMap (enclosed '*')
  | .mk .strong children => (skeletonEach children).flatMap (enclosed '*')
  | .mk .emphasis children => (skeletonEach children).flatMap (enclosed '_')
  | .mk .strikethrough children => (skeletonEach children).flatMap (enclosed '~')
  | .mk .blockQuote children => (skeletonEach children).flatMap ('>' :: ·)
  | .mk (.link destination _) children =>
    '<' :: visible destination.toList ++ '|' :: (skeletonEach children).flatten ++ ['>']
  | .mk (.list ordered _) children =>
    ((skeletonEach children).zipIdx 1).flatMap fun item => itemMark ordered item.2 ++ item.1
  | .mk .tableHeader [] => []
  | .mk .tableHeader (.mk _ cells :: _) => (skeletonEach cells).flatMap (enclosed '*')
  | .mk .table children =>
    if children.any Node.hasCell then (skeletonEach children).flatten else []
  | .mk (.unsupported _ none) children => (skeletonEach children).flatten
  | .mk .document children => (skeletonEach children).flatten
  | .mk .paragraph children => (skeletonEach children).flatten
  | .mk .listItem children => (skeletonEach children).flatten
  | .mk .tableBody children => (skeletonEach children).flatten
  | .mk .tableRow children => (skeletonEach children).flatten
  | .mk .tableCell children => (skeletonEach children).flatten

/-- The visible characters of each of a sequence of nodes. -/
def skeletonEach : List Node → List (List Char)
  | [] => []
  | node :: rest => skeleton node :: skeletonEach rest

end

/-- The skeletons of a sequence of nodes are made one by one. -/
theorem skeletonEach_eq_map (nodes : List Node) : skeletonEach nodes = nodes.map skeleton := by
  induction nodes with
  | nil => rfl
  | cons node rest ih => rw [skeletonEach, ih, List.map_cons]

/-- A newline before a text is left out. -/
theorem visible_newline_cons (text : List Char) : visible ('\n' :: text) = visible text :=
  visible_cons_of_blank isBlank_newline text

/-- A newline after a text is left out. -/
theorem visible_append_newline (text : List Char) : visible (text ++ ['\n']) = visible text := by
  rw [visible_append, visible_newline_cons, visible_nil, List.append_nil]

/-- Marks that are visible stay around a text. -/
theorem visible_enclosed {mark : Char} (h : isBlank mark = false) (text : List Char) :
    visible (enclosed mark text) = enclosed mark (visible text) := by
  rw [enclosed, visible_append, visible_cons_of_not_blank h, visible_cons_of_not_blank h]
  rfl

/-- Bold text keeps its asterisks. -/
theorem visible_bold (text : List Char) : visible (bold text) = enclosed '*' (visible text) :=
  visible_enclosed (by decide) text

/-- Italic text keeps its underscores. -/
theorem visible_italic (text : List Char) : visible (italic text) = enclosed '_' (visible text) :=
  visible_enclosed (by decide) text

/-- Struck text keeps its tildes. -/
theorem visible_strike (text : List Char) : visible (strike text) = enclosed '~' (visible text) :=
  visible_enclosed (by decide) text

/-- Inline code keeps its backticks. -/
theorem visible_inlineCode (text : List Char) :
    visible (inlineCode text) = enclosed '\x60' (visible text) :=
  visible_enclosed (by decide) text

/-- A code block keeps its fences and loses the line breaks next to them. -/
theorem visible_codeBlock (text : List Char) : visible (codeBlock text) =
    ['\x60', '\x60', '\x60'] ++ visible text ++ ['\x60', '\x60', '\x60'] := by
  have hopen : visible ['\x60', '\x60', '\x60', '\n'] = ['\x60', '\x60', '\x60'] := by decide
  have hclose : visible ['\n', '\x60', '\x60', '\x60'] = ['\x60', '\x60', '\x60'] := by decide
  rw [codeBlock, visible_append, visible_append, hopen, hclose]

/-- Quoted text keeps its angle bracket and loses the space after it. -/
theorem visible_quote (text : List Char) : visible (quote text) = '>' :: visible text := by
  rw [quote, visible_cons_of_not_blank (by decide), visible_cons_of_blank isBlank_space]

/-- A link keeps its brackets and its bar. -/
theorem visible_link (destination title : List Char) : visible (link destination title) =
    '<' :: visible destination ++ '|' :: visible title ++ ['>'] := by
  have hclose : visible ['>'] = ['>'] := by decide
  rw [link, visible_append, visible_append, visible_cons_of_not_blank (by decide),
    visible_cons_of_not_blank (by decide), hclose]

/-- A digit is visible. -/
theorem isBlank_of_isDigit {c : Char} (h : c.isDigit = true) : isBlank c = false := by
  have hrange : 48 ≤ c.toNat ∧ c.toNat ≤ 57 := Char.isDigit_iff_toNat.mp h
  simp only [isBlank, blankRanges, List.any_cons, List.any_nil, Bool.or_false,
    Bool.or_eq_false_iff, Bool.and_eq_false_iff, decide_eq_false_iff_not]
  omega

/-- The marker of a list item is its number in decimal and a dot, or a bullet. -/
theorem listMarker_eq_itemMark (ordered : Bool) (number : Nat) :
    listMarker ordered number = itemMark ordered number := by
  cases ordered with
  | false => rfl
  | true => simp [listMarker, itemMark, ordinal, toString, Nat.repr]

/-- A marker has visible characters only. -/
theorem isBlank_of_mem_listMarker {ordered : Bool} {number : Nat} {c : Char}
    (h : c ∈ listMarker ordered number) : isBlank c = false := by
  cases ordered with
  | false =>
    rw [List.mem_singleton.mp h]
    decide
  | true =>
    rcases List.mem_append.mp h with hdigit | hdot
    · exact isBlank_of_isDigit (Nat.isDigit_of_mem_toDigits (by decide) (by decide) hdigit)
    · rw [List.mem_singleton.mp hdot]
      decide

/-- The marker of a list item is visible. -/
theorem visible_listMarker (ordered : Bool) (number : Nat) :
    visible (listMarker ordered number) = itemMark ordered number := by
  rw [visible_eq_self fun c hc => isBlank_of_mem_listMarker hc, listMarker_eq_itemMark]

/-- The lines of a list are its markers and its items. -/
theorem visible_listLines (ordered : Bool) (number : Nat) (items : List (List Char)) :
    visible (listLines ordered number items) =
      ((items.map visible).zipIdx number).flatMap fun item =>
        itemMark ordered item.2 ++ item.1 := by
  induction items generalizing number with
  | nil => rfl
  | cons item rest ih =>
    rw [listLines, visible_append, visible_append, visible_cons_of_blank isBlank_space,
      visible_newline_cons, visible_trim, visible_listMarker, ih, List.map_cons, List.zipIdx_cons,
      List.flatMap_cons]

/-- Texts that a rule wraps one by one are visible one by one. -/
theorem visible_flatMap {wrap outline : List Char → List Char}
    (h : ∀ text, visible (wrap text) = outline (visible text)) (texts : List (List Char)) :
    visible (texts.flatMap wrap) = (texts.map visible).flatMap outline := by
  induction texts with
  | nil => rfl
  | cons text rest ih =>
    rw [List.flatMap_cons, visible_append, h, ih, List.map_cons, List.flatMap_cons]

/-- Trimming a text before it is wrapped leaves the same visible. -/
theorem visible_wrap_trim {wrap outline : List Char → List Char}
    (h : ∀ text, visible (wrap text) = outline (visible text)) (text : List Char) :
    visible (wrap (trim text)) = outline (visible text) := by
  rw [h, visible_trim]

/-- Texts that tabs separate are visible in a row. -/
theorem visible_tabbed (texts : List (List Char)) :
    visible (['\t'].intercalate texts) = visible texts.flatten := by
  have htab : ['\t'].filter (fun c => !isBlank c) = [] := by decide
  rw [visible, filter_intercalate, htab, intercalate_nil, visible_flatten]
  rfl

/-- Aligning columns keeps every visible character. -/
theorem visible_alignColumns (text : List Char) : visible (alignColumns text) = visible text :=
  filter_alignColumns (by decide) (by decide) text

/-- The rows of a table are visible in a row. -/
theorem visible_renderRows (nodes : List Node) :
    visible (renderRows nodes) = visible (renderEach nodes).flatten := by
  induction nodes with
  | nil => rfl
  | cons node rest ih =>
    have hbreak : visible (if node.kind = .tableHeader then ['\n'] else []) = [] := by
      split <;> decide
    rw [renderRows, renderEach, List.flatten_cons, visible_append, visible_append, visible_append,
      hbreak, List.append_nil, ih]

/-- The skeleton of a node is what rendering makes visible, whatever the kinds below it
are and however they are nested. -/
theorem visible_render (node : Node) : visible (render node) = skeleton node := by
  induction node using Node.familyInduction with
  | mk kind children ih =>
    have hmap : (renderEach children).map visible = skeletonEach children := by
      rw [renderEach_eq_map, skeletonEach_eq_map, List.map_map]
      exact List.map_congr_left fun child hc => (ih child hc).1
    have hflat : visible (renderEach children).flatten = (skeletonEach children).flatten := by
      rw [visible_flatten, hmap]
    cases kind with
    | text literal => rfl
    | inlineCode literal => rw [render, skeleton, visible_inlineCode, visible_trim]
    | codeBlock info literal => rw [render, skeleton, visible_codeBlock, visible_trim]
    | horizontalRule =>
      rw [render, skeleton]
      decide
    | unsupported name literal =>
      cases literal with
      | some literal => rfl
      | none => rw [render, skeleton, visible_append_newline, hflat]
    | document => rw [render, skeleton, visible_append_newline, hflat]
    | paragraph => rw [render, skeleton, visible_append_newline, visible_newline_cons, hflat]
    | heading level =>
      have hwrap : ∀ text, visible ('\n' :: bold text) = enclosed '*' (visible text) := by
        intro text
        rw [visible_newline_cons, visible_bold]
      rw [render, skeleton, visible_append_newline, visible_flatMap hwrap, hmap]
    | strong =>
      rw [render, skeleton, visible_append_newline,
        visible_flatMap (visible_wrap_trim visible_bold), hmap]
    | emphasis =>
      rw [render, skeleton, visible_append_newline,
        visible_flatMap (visible_wrap_trim visible_italic), hmap]
    | strikethrough =>
      rw [render, skeleton, visible_append_newline,
        visible_flatMap (visible_wrap_trim visible_strike), hmap]
    | blockQuote =>
      rw [render, skeleton, visible_append_newline,
        visible_flatMap (visible_wrap_trim visible_quote), hmap]
    | list ordered start => rw [render, skeleton, visible_append_newline, visible_listLines, hmap]
    | listItem =>
      rw [render, skeleton, visible_append_newline, @visible_flatMap trim id visible_trim, hmap,
        List.flatMap_id]
    | link destination title => rw [render, skeleton, visible_link, visible_trim, hflat]
    | table =>
      rw [render_table, renderTable_mk, skeleton, visible_append_newline, visible_newline_cons]
      split
      · rw [visible_alignColumns, visible_append_newline, visible_renderRows, hflat]
      · rfl
    | tableHeader =>
      cases children with
      | nil => rw [render, skeleton, visible_nil]
      | cons first rest =>
        cases first with
        | mk kind cells =>
          have hcells : (renderEach cells).map visible = skeletonEach cells := by
            rw [renderEach_eq_map, skeletonEach_eq_map, List.map_map]
            exact List.map_congr_left fun cell hc => (ih _ List.mem_cons_self).2 cell hc
          rw [render, skeleton, visible_tabbed, ← List.flatMap_def,
            visible_flatMap (visible_wrap_trim visible_bold), hcells]
    | tableBody => rw [render, skeleton, hflat]
    | tableRow => rw [render, skeleton, visible_append_newline, visible_tabbed, hflat]
    | tableCell => rw [render, skeleton, hflat]

/-- The skeleton of a document is what its finished markup makes visible. -/
theorem visible_renderDocument (document : Node) :
    visible (renderDocument document) = skeleton document := by
  rw [renderDocument, visible_trim, visible_render]

/-- Rendering any node, as a part or as a whole document, puts blank characters around
and between those of its skeleton and does nothing else: no visible character is
lost, added or moved. -/
theorem render_keeps_skeleton (node : Node) :
    visible (render node) = skeleton node ∧ visible (renderDocument node) = skeleton node :=
  ⟨visible_render node, visible_renderDocument node⟩

end Chatdown.Chat
