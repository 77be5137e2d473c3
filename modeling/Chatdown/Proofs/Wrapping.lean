import Chatdown.Proofs.Tree
import Chatdown.Proofs.Trim

/-!
# What rules hand to the delimiters

The markup of a node is put together from pieces: texts that its rule writes as they are, and
texts that it hands to a delimiter. Delimiters only wrap, so it is up to the rules that no
blank character comes to stand right inside of the marks. All rules but one trim what they
hand over. A heading hands over the markup of its children as it is, and this begins and
ends with visible characters only where the children see to that themselves: most kinds end
in a newline, a text in whatever its literal ends in.
-/

namespace Chatdown.Chat

open Text

/-- The delimiters that a rule may hand a text to. -/
inductive Delimiter where
  | bold
  | italic
  | strike
  | quote
  | inlineCode
  | codeBlock
  /-- A link to a destination. The text that it is handed is the title. -/
  | link (destination : List Char)
deriving DecidableEq, Repr

/-- What a delimiter makes of the text it is handed. -/
def Delimiter.wrap : Delimiter → List Char → List Char
  | .bold => Chat.bold
  | .italic => Chat.italic
  | .strike => Chat.strike
  | .quote => Chat.quote
  | .inlineCode => Chat.inlineCode
  | .codeBlock => Chat.codeBlock
  | .link destination => Chat.link destination

/-- What a rule writes at a time. -/
inductive Piece where
  /-- A text as it is. -/
  | plain (text : List Char)
  /-- A text that a delimiter is handed, to write it with its marks. -/
  | handed (delimiter : Delimiter) (text : List Char)
deriving DecidableEq, Repr

/-- The characters that are written for a piece. -/
def Piece.chars : Piece → List Char
  | plain text => text
  | handed delimiter text => delimiter.wrap text

/-- A newline that a rule writes by itself. -/
def Piece.newline : Piece :=
  plain ['\n']

/-- A tab that a rule writes by itself. -/
def Piece.tab : Piece :=
  plain ['\t']

/-- Nodes whose markup is written as it is. -/
def asTheyAre (nodes : List Node) : List Piece :=
  nodes.map fun node => .plain (render node)

/-- Nodes whose markup is trimmed and handed to a delimiter, one by one. -/
def eachTrimmed (delimiter : Delimiter) (nodes : List Node) : List Piece :=
  nodes.map fun node => .handed delimiter (trim (render node))

/-- The pieces that the rule of a node writes, in order. -/
def pieces : Node → List Piece
  | .mk (.text literal) _ => [.plain literal.toList]
  | .mk (.inlineCode literal) _ => [.handed .inlineCode (trim literal.toList)]
  | .mk (.codeBlock _ literal) _ => [.handed .codeBlock (trim literal.toList)]
  | .mk .horizontalRule _ => [.plain ['\n', '\n']]
  | .mk (.unsupported _ (some literal)) _ => [.plain literal.toList]
  | .mk (.unsupported _ none) children => asTheyAre children ++ [.newline]
  | .mk .document children => asTheyAre children ++ [.newline]
  | .mk (.heading _) children =>
    children.flatMap (fun child => [.newline, .handed .bold (render child)]) ++ [.newline]
  | .mk .paragraph children => .newline :: asTheyAre children ++ [.newline]
  | .mk .strong children => eachTrimmed .bold children ++ [.newline]
  | .mk .emphasis children => eachTrimmed .italic children ++ [.newline]
  | .mk .strikethrough children => eachTrimmed .strike children ++ [.newline]
  | .mk .blockQuote children => eachTrimmed .quote children ++ [.newline]
  | .mk (.list ordered _) children =>
    [.plain (listLines ordered 1 (children.map render)), .newline]
  | .mk .listItem children =>
    children.map (fun child => .plain (trim (render child))) ++ [.newline]
  | .mk (.link destination _) children =>
    [.handed (.link destination.toList) (trim (children.flatMap render))]
  | .mk .table children => [.newline, .plain (renderTable (.mk .table children)), .newline]
  | .mk .tableHeader [] => []
  | .mk .tableHeader (.mk _ cells :: _) => (eachTrimmed .bold cells).intersperse .tab
  | .mk .tableBody children => asTheyAre children
  | .mk .tableRow children => (asTheyAre children).intersperse .tab ++ [.newline]
  | .mk .tableCell children => asTheyAre children

/-- The characters of pieces with one piece between them are those of the pieces with its
characters between them. -/
theorem chars_intersperse (separator : Piece) (parts : List Piece) :
    (parts.intersperse separator).flatMap Piece.chars =
      separator.chars.intercalate (parts.map Piece.chars) := by
  induction parts with
  | nil => rfl
  | cons part rest ih =>
    cases rest with
    | nil => simp
    | cons next rest => simp_all [List.intercalate_cons_cons]

/-- Nothing is between pieces but the one that is put there. -/
theorem mem_of_mem_intersperse {piece separator : Piece} (hne : piece ≠ separator)
    {parts : List Piece} (h : piece ∈ parts.intersperse separator) : piece ∈ parts := by
  induction parts with
  | nil => exact h
  | cons part rest ih =>
    cases rest with
    | nil => exact h
    | cons next rest =>
      rw [List.intersperse_cons_cons, List.mem_cons, List.mem_cons] at h
      rcases h with rfl | heq | hrest
      · exact List.mem_cons_self
      · exact absurd heq hne
      · exact List.mem_cons_of_mem _ (ih hrest)

/-- Nodes that are written as they are write their markup in a row. -/
theorem chars_asTheyAre (nodes : List Node) :
    (asTheyAre nodes).flatMap Piece.chars = (renderEach nodes).flatten := by
  rw [asTheyAre, List.flatMap_map, renderEach_eq_map, List.flatMap_def]
  rfl

/-- Nodes that are trimmed and handed to a delimiter write what it makes of them in a row. -/
theorem chars_eachTrimmed (delimiter : Delimiter) (nodes : List Node) :
    (eachTrimmed delimiter nodes).flatMap Piece.chars =
      (renderEach nodes).flatMap fun text => delimiter.wrap (trim text) := by
  rw [eachTrimmed, List.flatMap_map, renderEach_eq_map, List.flatMap_map]
  rfl

/-- The pieces of a node are its markup. -/
theorem chars_pieces (node : Node) : (pieces node).flatMap Piece.chars = render node := by
  cases node with
  | mk kind children =>
    cases kind with
    | text | inlineCode | codeBlock =>
      rw [pieces, List.flatMap_singleton, render]
      rfl
    | horizontalRule => rfl
    | unsupported name literal =>
      cases literal with
      | some literal =>
        rw [pieces, List.flatMap_singleton, render]
        rfl
      | none =>
        rw [pieces, List.flatMap_append, chars_asTheyAre, render]
        rfl
    | document | paragraph =>
      rw [pieces, List.flatMap_append, render]
      simp [chars_asTheyAre, Piece.newline, Piece.chars]
    | heading level =>
      -- Each child makes two pieces here, a newline and what is handed over.
      rw [pieces, List.flatMap_append, List.flatMap_assoc, render, renderEach_eq_map,
        List.flatMap_map]
      simp [Piece.newline, Piece.chars, Delimiter.wrap]
    | strong | emphasis | strikethrough | blockQuote =>
      rw [pieces, List.flatMap_append, chars_eachTrimmed, render]
      rfl
    | list ordered start =>
      rw [pieces, render, renderEach_eq_map]
      simp [Piece.newline, Piece.chars]
    | listItem =>
      rw [pieces, List.flatMap_append, List.flatMap_map, render, renderEach_eq_map,
        List.flatMap_map]
      rfl
    | link destination title =>
      rw [pieces, List.flatMap_singleton, render, renderEach_eq_map, ← List.flatMap_def]
      rfl
    | table =>
      rw [pieces, render_table]
      simp [Piece.newline, Piece.chars]
    | tableHeader =>
      cases children with
      | nil => rw [pieces, render, List.flatMap_nil]
      | cons first rest =>
        cases first with
        | mk kind cells =>
          rw [pieces, chars_intersperse, eachTrimmed, render, renderEach_eq_map, List.map_map,
            List.map_map]
          rfl
    | tableBody | tableCell => rw [pieces, chars_asTheyAre, render]
    | tableRow =>
      rw [pieces, List.flatMap_append, chars_intersperse, asTheyAre, render, renderEach_eq_map,
        List.map_map]
      rfl

/-- A node whose markup neither begins nor ends with a blank character: raw text that does
neither, what stands between visible marks, or cells of which this is so when they stand in
a row. All other nodes write a newline at their end. -/
def Snug : Node → Prop
  | .mk (.text literal) _ => Tight literal.toList
  | .mk (.unsupported _ (some literal)) _ => Tight literal.toList
  | .mk (.inlineCode _) _ => True
  | .mk (.codeBlock _ _) _ => True
  | .mk (.link _ _) _ => True
  | .mk .tableHeader _ => True
  | .mk .tableBody children => Tight (children.flatMap render)
  | .mk .tableCell children => Tight (children.flatMap render)
  | .mk _ _ => False

/-- A text between visible marks is tight. -/
theorem tight_between {first last : Char} (hfirst : isBlank first = false)
    (hlast : isBlank last = false) (text : List Char) : Tight (first :: text ++ [last]) := by
  have hopen : Tight [first] := tight_of_visible (by simpa using hfirst)
  have hclose : Tight [last] := tight_of_visible (by simpa using hlast)
  exact hopen.append hclose (List.cons_ne_nil _ _) (List.cons_ne_nil _ _) text

/-- A text with a newline at its end is not tight. -/
theorem not_tight_append_newline (text : List Char) : ¬Tight (text ++ ['\n']) := by
  intro h
  have hnewline : isBlank '\n' = false := h.last '\n' (by rw [List.getLast?_concat]; rfl)
  rw [isBlank_newline] at hnewline
  contradiction

/-- Bold texts with tabs between them are tight. -/
theorem tight_tabbed_bold (texts : List (List Char)) :
    Tight (['\t'].intercalate (texts.map fun text => bold (trim text))) := by
  cases texts with
  | nil => exact ⟨by simp, by simp⟩
  | cons text rest =>
    refine (tight_intercalate (by simp) fun bolded hbolded => ?_).2
    obtain ⟨inner, -, rfl⟩ := List.mem_map.mp hbolded
    exact ⟨List.cons_ne_nil _ _, tight_between (by decide) (by decide) _⟩

/-- The markup of a node is tight exactly when the node is snug. -/
theorem tight_render_iff (node : Node) : Tight (render node) ↔ Snug node := by
  have hnewline : ∀ {text}, ¬Tight (text ++ ['\n']) := not_tight_append_newline _
  cases node with
  | mk kind children =>
    cases kind with
    | text literal => exact Iff.rfl
    | inlineCode literal =>
      rw [render]
      exact iff_of_true (tight_between (by decide) (by decide) _) trivial
    | codeBlock info literal =>
      -- Of the three backticks on either side, the outermost one is enough.
      have htext : codeBlock (trim literal.toList) =
          '\x60' :: (['\x60', '\x60', '\n'] ++ trim literal.toList ++ ['\n', '\x60', '\x60']) ++
            ['\x60'] := by
        simp [codeBlock]
      rw [render, htext]
      exact iff_of_true (tight_between (by decide) (by decide) _) trivial
    | link destination title =>
      rw [render]
      exact iff_of_true (tight_between (by decide) (by decide) _) trivial
    | unsupported name literal =>
      cases literal with
      | some literal => exact Iff.rfl
      | none =>
        rw [render]
        exact iff_of_false hnewline id
    | tableHeader =>
      cases children with
      | nil =>
        rw [render]
        exact iff_of_true ⟨by simp, by simp⟩ trivial
      | cons first rest =>
        cases first with
        | mk kind cells =>
          rw [render]
          exact iff_of_true (tight_tabbed_bold _) trivial
    | tableBody | tableCell => rw [render, renderEach_eq_map, ← List.flatMap_def, Snug]
    | horizontalRule =>
      rw [render]
      exact iff_of_false (not_tight_append_newline ['\n']) id
    | document | heading | paragraph | strong | emphasis | strikethrough | blockQuote | list
      | listItem | table | tableRow =>
      rw [render]
      exact iff_of_false hnewline id

/-- What is handed over trimmed is tight. -/
theorem tight_of_mem_eachTrimmed {delimiter rule : Delimiter} {text : List Char}
    {nodes : List Node} (h : .handed delimiter text ∈ eachTrimmed rule nodes) : Tight text := by
  obtain ⟨node, -, hpiece⟩ := List.mem_map.mp h
  rw [← (Piece.handed.inj hpiece).2]
  exact tight_trim _

/-- What is written as it is goes to no delimiter. -/
theorem handed_not_mem_asTheyAre {delimiter : Delimiter} {text : List Char} (nodes : List Node) :
    .handed delimiter text ∉ asTheyAre nodes := by
  simp [asTheyAre]

/-- The newline at the end goes to no delimiter. -/
theorem handed_mem_of_append_newline {delimiter : Delimiter} {text : List Char}
    {parts : List Piece} (h : .handed delimiter text ∈ parts ++ [.newline]) :
    .handed delimiter text ∈ parts := by
  simpa [Piece.newline] using h

/-- What a rule hands over is trimmed when the rule is not that of a heading. -/
theorem tight_of_handed {node : Node} (hheading : ∀ level, node.kind ≠ .heading level)
    {delimiter : Delimiter} {text : List Char} (h : .handed delimiter text ∈ pieces node) :
    Tight text := by
  have htab : Piece.handed delimiter text ≠ .tab := Piece.noConfusion
  cases node with
  | mk kind children =>
    cases kind with
    | heading level => exact absurd rfl (hheading level)
    | inlineCode | codeBlock | link =>
      rw [pieces, List.mem_singleton] at h
      rw [(Piece.handed.inj h).2]
      exact tight_trim _
    | strong | emphasis | strikethrough | blockQuote =>
      exact tight_of_mem_eachTrimmed (handed_mem_of_append_newline h)
    | tableHeader =>
      cases children with
      | nil => exact absurd h List.not_mem_nil
      | cons first rest =>
        cases first with
        | mk kind cells => exact tight_of_mem_eachTrimmed (mem_of_mem_intersperse htab h)
    | tableRow =>
      have hcell := mem_of_mem_intersperse htab (handed_mem_of_append_newline h)
      exact absurd hcell (handed_not_mem_asTheyAre children)
    | unsupported name literal =>
      cases literal <;> simp [pieces, Piece.newline, handed_not_mem_asTheyAre] at h
    | text | horizontalRule | document | paragraph | list | listItem | table | tableBody
      | tableCell => simp [pieces, Piece.newline, handed_not_mem_asTheyAre] at h

/-- A heading hands over the markup of each of its children. -/
theorem handed_heading_iff {level : Nat} {children : List Node} {delimiter : Delimiter}
    {text : List Char} : .handed delimiter text ∈ pieces (.mk (.heading level) children) ↔
      ∃ child ∈ children, delimiter = .bold ∧ text = render child := by
  simp [pieces, Piece.newline]

/-- The pieces that the rule of a node writes are its markup, and the texts among them that it
hands to delimiters all begin and end with visible characters, if they are not empty,
exactly when the node is no heading or all of its children are snug. -/
theorem handed_tight_iff (node : Node) :
    (pieces node).flatMap Piece.chars = render node ∧
      ((∀ delimiter text, .handed delimiter text ∈ pieces node → Tight text) ↔
        ∀ level, node.kind = .heading level → ∀ child ∈ node.children, Snug child) := by
  refine ⟨chars_pieces node, fun htight level hkind child hchild => ?_, fun hsnug _ _ h => ?_⟩
  · cases node with
    | mk kind children =>
      change kind = _ at hkind
      subst hkind
      exact (tight_render_iff child).mp
        (htight .bold _ (handed_heading_iff.mpr ⟨child, hchild, rfl, rfl⟩))
  · by_cases hheading : ∃ level, node.kind = .heading level
    · obtain ⟨level, hkind⟩ := hheading
      cases node with
      | mk kind children =>
        change kind = _ at hkind
        subst hkind
        obtain ⟨child, hchild, -, rfl⟩ := handed_heading_iff.mp h
        exact (tight_render_iff child).mpr (hsnug level rfl child hchild)
    · exact tight_of_handed (fun level hkind => hheading ⟨level, hkind⟩) h

/-- A heading with an emphasis in it hands over the newline behind the emphasis, which comes to
stand inside of the marks. -/
theorem heading_hands_newline :
    render (.mk (.heading 1) [.mk .emphasis [.text "b"]]) = "\n*_b_\n*\n".toList ∧
      ¬∀ (node : Node) (delimiter : Delimiter) (text : List Char),
        .handed delimiter text ∈ pieces node → Tight text := by
  refine ⟨by decide, fun h => ?_⟩
  have hhanded : .handed .bold "_b_\n".toList ∈
      pieces (.mk (.heading 1) [.mk .emphasis [.text "b"]]) := by decide
  exact not_tight_append_newline "_b_".toList (h _ _ _ hhanded)

end Chatdown.Chat
