import Chatdown.Proofs.Content
import Chatdown.Proofs.InkedLines
import Mathlib.Data.List.Induction

/-!
# Line breaks inside a paragraph

A line break is a text of one newline. A paragraph and a link write their children one
after the other, so that the break begins a line there. Emphasis of any sort trims and
wraps its children one by one: a break that it holds itself is trimmed away, and the
words on both sides of it come to stand on one line. The lines of a paragraph are counted
here along its tree, and as many breaks as stand elsewhere are shown to be kept.
-/

namespace Chatdown

open Markdown Text

namespace Markdown

/-- Whether a construct is a line break. -/
def Construct.isBreak : Construct → Bool
  | .softBreak | .lineBreak => true
  | _ => false

/-- Whether a construct is emphasis of some sort. -/
def Construct.isEmphasis : Construct → Bool
  | .emph | .strong | .strikethrough => true
  | _ => false

/-- Whether a construct is one that words of a paragraph are made of. -/
def Construct.isRunning : Construct → Bool
  | .text _ | .code _ => true
  | .softBreak | .lineBreak => true
  | .emph | .strong | .strikethrough => true
  | .link _ _ => true
  | _ => false

namespace Syntax

/-- Whether a node is a text with something visible in it. -/
def isInkedText : Syntax → Bool
  | .mk (.text literal) _ => isInked literal.toList
  | _ => false

/-- Whether each break in a sequence of nodes stands right between two texts with
something visible in them. The first node counts as standing behind such a text if that
is said. -/
def flanked (behindText : Bool) : List Syntax → Bool
  | [] => true
  | s :: rest =>
    (!s.construct.isBreak || (behindText && rest.head?.any isInkedText)) &&
      flanked s.isInkedText rest

/-- A node of running text: it holds no newline itself, and each break among its children
stands between texts. -/
def Running (s : Syntax) : Prop :=
  s.construct.isRunning = true ∧ '\n' ∉ s.construct.ownText ∧ flanked false s.children = true

instance : DecidablePred Running :=
  fun _ => inferInstanceAs (Decidable (_ ∧ _))

/-- A node that loses no break: emphasis has none among its children, and a node that can
only be a leaf has no children at all. -/
def KeepsBreaks (s : Syntax) : Prop :=
  (s.construct.isTerminal = true → s.children = []) ∧
    (s.construct.isEmphasis = true → ∀ child ∈ s.children, child.construct.isBreak = false)

instance : DecidablePred KeepsBreaks :=
  fun _ => inferInstanceAs (Decidable (_ ∧ _))

mutual

/-- The number of breaks in a node, the node itself included. -/
def breaks : Syntax → Nat
  | .mk construct children => (if construct.isBreak then 1 else 0) + breaksAll children

/-- The number of breaks in a sequence of nodes. -/
def breaksAll : List Syntax → Nat
  | [] => 0
  | s :: rest => breaks s + breaksAll rest

end

mutual

/-- The number of breaks in a node that begin a line. The node itself may be one where
breaks are kept; a link keeps those that it holds, emphasis does not. -/
def keptBreaks (keeping : Bool) : Syntax → Nat
  | .mk .softBreak _ => keeping.toNat
  | .mk .lineBreak _ => keeping.toNat
  | .mk (.link _ _) children => keptBreaksAll true children
  | .mk .emph children => keptBreaksAll false children
  | .mk .strong children => keptBreaksAll false children
  | .mk .strikethrough children => keptBreaksAll false children
  | .mk _ _ => 0

/-- The number of breaks in a sequence of nodes that begin a line. -/
def keptBreaksAll (keeping : Bool) : List Syntax → Nat
  | [] => 0
  | s :: rest => keptBreaks keeping s + keptBreaksAll keeping rest

end

mutual

/-- The pen after a node of running text. Emphasis encloses its children one by one and
then begins a line; a link encloses all of them together. -/
def penAfter (pen : Pen) : Syntax → Pen
  | .mk (.text literal) _ => if isInked literal.toList then pen.mark else pen
  | .mk (.code _) _ => pen.mark
  | .mk .softBreak _ => pen.feed
  | .mk .lineBreak _ => pen.feed
  | .mk (.link _ _) children => pen.enclose (penAfterAll .fresh children).lines
  | .mk .emph children => (penAfterEach pen children).feed
  | .mk .strong children => (penAfterEach pen children).feed
  | .mk .strikethrough children => (penAfterEach pen children).feed
  | .mk _ _ => pen

/-- The pen after a sequence of nodes that are written as they are. -/
def penAfterAll (pen : Pen) : List Syntax → Pen
  | [] => pen
  | s :: rest => penAfterAll (penAfter pen s) rest

/-- The pen after a sequence of nodes that are enclosed one by one. -/
def penAfterEach (pen : Pen) : List Syntax → Pen
  | [] => pen
  | s :: rest => penAfterEach (pen.enclose (penAfter .fresh s).lines) rest

end

/-- Between two pens something visible was written, and the later one has so many lines
more than the earlier one has once it is marked; or nothing visible was written, and then
no line was gained. -/
def Gains (pen later : Pen) (n : Nat) : Prop :=
  (later.lines = pen.lines ∧ n = 0 ∧ (later.inked = true → pen.inked = true)) ∨
    pen.mark.lines + n ≤ later.lines

/-- Lines that are gained one after the other add up. -/
theorem Gains.trans {pen middle later : Pen} {m n : Nat} (hfirst : Gains pen middle m)
    (hnext : Gains middle later n) : Gains pen later (m + n) := by
  rcases hfirst with ⟨hlines, rfl, hinked⟩ | hgain
  · rcases hnext with ⟨hlines', rfl, hinked'⟩ | hgain'
    · exact Or.inl ⟨hlines'.trans hlines, rfl, fun h => hinked (hinked' h)⟩
    · have hmark : pen.mark.lines ≤ middle.mark.lines := by
        simp only [Pen.mark, hlines]
        cases hmiddle : middle.inked with
        | false => split <;> simp
        | true => simp [hinked hmiddle]
      exact Or.inr (by omega)
  · have hmark : middle.lines ≤ middle.mark.lines := middle.lines_le_mark
    rcases hnext with ⟨hlines', rfl, -⟩ | hgain' <;> exact Or.inr (by omega)

/-- A pen gains no line over itself. -/
theorem Gains.refl (pen : Pen) : Gains pen pen 0 :=
  Or.inl ⟨rfl, rfl, id⟩

/-- What gains lines from the start gains them wherever it is enclosed. -/
theorem Gains.enclose {later : Pen} {n : Nat} (h : Gains .fresh later n) (pen : Pen) :
    Gains pen (pen.enclose later.lines) n := by
  have hless : n ≤ later.lines - 1 := by
    rcases h with ⟨-, rfl, -⟩ | hgain
    · exact Nat.zero_le _
    · change 1 + n ≤ later.lines at hgain
      omega
  exact Or.inr (Nat.add_le_add_left hless _)

/-- A line that begins takes none away. -/
theorem Gains.feed {pen later : Pen} {n : Nat} (h : Gains pen later n) :
    Gains pen later.feed n := by
  rcases h with ⟨hlines, hn, -⟩ | hgain
  · exact Or.inl ⟨hlines, hn, fun h => absurd h Bool.false_ne_true⟩
  · exact Or.inr hgain

/-- A text with something visible in it marks its line. -/
theorem penAfter_of_isInkedText {s : Syntax} (h : isInkedText s = true) (pen : Pen) :
    penAfter pen s = pen.mark := by
  cases s with
  | mk construct children =>
    cases construct with
    | text literal => exact if_pos h
    | _ => contradiction

/-- A text is no break. -/
theorem keptBreaks_of_isInkedText {s : Syntax} (h : isInkedText s = true) (keeping : Bool) :
    keptBreaks keeping s = 0 := by
  cases s with
  | mk construct children =>
    cases construct with
    | text literal => rfl
    | _ => contradiction

/-- A break begins a line. -/
theorem penAfter_of_isBreak {s : Syntax} (h : s.construct.isBreak = true) (pen : Pen) :
    penAfter pen s = pen.feed := by
  cases s with
  | mk construct children =>
    cases construct with
    | softBreak | lineBreak => rfl
    | _ => contradiction

/-- A break is kept just where breaks are. -/
theorem keptBreaks_of_isBreak {s : Syntax} (h : s.construct.isBreak = true) (keeping : Bool) :
    keptBreaks keeping s = keeping.toNat := by
  cases s with
  | mk construct children =>
    cases construct with
    | softBreak | lineBreak => rfl
    | _ => contradiction

/-- Nodes that are enclosed one by one gain a line for each break that is kept in them. -/
theorem gains_penAfterEach {nodes : List Syntax}
    (h : ∀ s ∈ nodes, s.construct.isBreak = false → ∀ keeping pen,
      Gains pen (penAfter pen s) (keptBreaks keeping s)) (pen : Pen) :
    Gains pen (penAfterEach pen nodes) (keptBreaksAll false nodes) := by
  induction nodes generalizing pen with
  | nil => exact Gains.refl pen
  | cons s rest ih =>
    obtain ⟨hs, hrest⟩ := List.forall_mem_cons.mp h
    rw [penAfterEach, keptBreaksAll]
    refine Gains.trans ?_ (ih hrest _)
    cases hbreak : s.construct.isBreak with
    | false => exact (hs hbreak false .fresh).enclose pen
    | true =>
      rw [keptBreaks_of_isBreak hbreak]
      exact Or.inr (Nat.le_add_right _ _)

/-- Nodes that are written one after the other gain a line for each break that is kept in
them, when each break among them stands between texts. -/
theorem gains_penAfterAll {nodes : List Syntax}
    (h : ∀ s ∈ nodes, s.construct.isBreak = false → ∀ keeping pen,
      Gains pen (penAfter pen s) (keptBreaks keeping s)) {behindText : Bool} {pen : Pen}
    (hflanked : flanked behindText nodes = true) (hpen : behindText = true → pen.inked = true) :
    Gains pen (penAfterAll pen nodes) (keptBreaksAll true nodes) := by
  induction nodes using List.twoStepInduction generalizing behindText pen with
  | nil => exact Gains.refl pen
  | singleton s =>
    have hbreak : s.construct.isBreak = false := by simpa [flanked] using hflanked
    exact h s List.mem_cons_self hbreak true pen
  | cons_cons s t rest ihRest ihTail =>
    obtain ⟨hs, htail⟩ := List.forall_mem_cons.mp h
    rw [flanked, Bool.and_eq_true, Bool.or_eq_true] at hflanked
    obtain ⟨hstands, hothers⟩ := hflanked
    cases hbreak : s.construct.isBreak with
    | false =>
      rw [penAfterAll, keptBreaksAll]
      refine Gains.trans (hs hbreak true pen) (ihTail t htail hothers fun htext => ?_)
      rw [penAfter_of_isInkedText htext]
      rfl
    | true =>
      -- The line that the break begins is gained by the text behind it.
      obtain ⟨hbehind, htext⟩ : behindText = true ∧ isInkedText t = true := by
        simpa [hbreak] using hstands
      rw [flanked, htext, Bool.and_eq_true] at hothers
      have hline : Gains pen pen.feed.mark 1 := by
        refine Or.inr (Nat.le_of_eq ?_)
        simp [Pen.mark, Pen.feed, hpen hbehind]
      have hrest : Gains pen.feed.mark (penAfterAll pen.feed.mark rest)
          (keptBreaksAll true rest) :=
        ihRest (List.forall_mem_cons.mp htail).2 hothers.2 fun _ => rfl
      rw [penAfterAll, penAfterAll, keptBreaksAll, keptBreaksAll, penAfter_of_isBreak hbreak,
        penAfter_of_isInkedText htext, keptBreaks_of_isBreak hbreak,
        keptBreaks_of_isInkedText htext, Nat.zero_add]
      exact hline.trans hrest

/-- A node of running text that is no break gains a line for each break that is kept in
it. -/
theorem gains_penAfter {s : Syntax} (h : Everywhere Running s)
    (hbreak : s.construct.isBreak = false) (keeping : Bool) (pen : Pen) :
    Gains pen (penAfter pen s) (keptBreaks keeping s) := by
  induction s generalizing keeping pen with
  | mk construct children ih =>
    obtain ⟨⟨hrunning, -, hflanked⟩, hinside⟩ := everywhere_mk_iff.mp h
    have hchild : ∀ child ∈ children, child.construct.isBreak = false → ∀ keeping pen,
        Gains pen (penAfter pen child) (keptBreaks keeping child) :=
      fun child hc => ih child hc (hinside child hc)
    cases construct with
    | text literal =>
      change Gains pen (if isInked literal.toList then pen.mark else pen) 0
      split
      · exact Or.inr (Nat.le_refl _)
      · exact Gains.refl pen
    | code literal => exact Or.inr (Nat.le_refl _)
    | softBreak | lineBreak => contradiction
    | link url title =>
      exact (gains_penAfterAll hchild hflanked fun hfalse => absurd hfalse (by decide)).enclose pen
    | emph | strong | strikethrough => exact (gains_penAfterEach hchild pen).feed
    | _ => contradiction

/-- Where no break is lost, all of them are kept. -/
theorem keptBreaksAll_eq {keeping : Bool} {nodes : List Syntax}
    (h : ∀ s ∈ nodes, keptBreaks keeping s = breaks s) :
    keptBreaksAll keeping nodes = breaksAll nodes := by
  induction nodes with
  | nil => rfl
  | cons s rest ih =>
    obtain ⟨hs, hrest⟩ := List.forall_mem_cons.mp h
    rw [keptBreaksAll, breaksAll, hs, ih hrest]

/-- A node of running text that loses no break keeps all of them, where it stands among
nodes that keep breaks or is none. -/
theorem keptBreaks_eq {s : Syntax} (h : Everywhere Running s) (hkeeps : Everywhere KeepsBreaks s)
    {keeping : Bool} (hkeeping : keeping = true ∨ s.construct.isBreak = false) :
    keptBreaks keeping s = breaks s := by
  induction s generalizing keeping with
  | mk construct children ih =>
    obtain ⟨⟨hrunning, -, -⟩, hinside⟩ := everywhere_mk_iff.mp h
    obtain ⟨⟨hterminal, hemphasis⟩, hkept⟩ := everywhere_mk_iff.mp hkeeps
    cases construct with
    | text literal | code literal =>
      obtain rfl : children = [] := hterminal rfl
      rfl
    | softBreak | lineBreak =>
      obtain rfl : children = [] := hterminal rfl
      obtain rfl : keeping = true := by simpa [construct, Construct.isBreak] using hkeeping
      rfl
    | link url title =>
      have hall : keptBreaksAll true children = breaksAll children :=
        keptBreaksAll_eq fun child hc =>
          ih child hc (hinside child hc) (hkept child hc) (Or.inl rfl)
      rw [keptBreaks, breaks, hall]
      exact (Nat.zero_add _).symm
    | emph | strong | strikethrough =>
      have hall : keptBreaksAll false children = breaksAll children :=
        keptBreaksAll_eq fun child hc =>
          ih child hc (hinside child hc) (hkept child hc) (Or.inr (hemphasis rfl child hc))
      rw [keptBreaks, breaks, hall]
      exact (Nat.zero_add _).symm
    | _ => contradiction

end Syntax

end Markdown

namespace Chat

open Syntax Node

variable (pen : Pen)

/-- Nodes that are written one after the other take the pen along. -/
theorem write_all {nodes : List Syntax}
    (h : ∀ s ∈ nodes, ∀ pen : Pen, pen.write (render (ofSyntax s)) = penAfter pen s) :
    pen.write ((renderEach (nodes.map ofSyntax)).flatten) = penAfterAll pen nodes := by
  induction nodes generalizing pen with
  | nil => rfl
  | cons s rest ih =>
    obtain ⟨hs, hrest⟩ := List.forall_mem_cons.mp h
    rw [List.map_cons, renderEach, List.flatten_cons, Pen.write_append, hs, ih _ hrest, penAfterAll]

/-- A newline behind a text begins a line. -/
theorem write_append_newline (text : List Char) :
    pen.write (text ++ ['\n']) = (pen.write text).feed := by
  rw [Pen.write_append, Pen.write_cons, Pen.put_newline]
  rfl

/-- Nodes that are trimmed and put between marks, one by one, with a newline behind the
last one, are enclosed one by one, and a line begins. -/
theorem write_emphasis {wrap : List Char → List Char} {mark : Char} {nodes : List Syntax}
    (hwrap : ∀ text, wrap text = mark :: text ++ [mark]) (hmark : isBlank mark = false)
    (h : ∀ s ∈ nodes, ∀ pen : Pen, pen.write (render (ofSyntax s)) = penAfter pen s) :
    pen.write ((renderEach (nodes.map ofSyntax)).flatMap (fun text => wrap (trim text)) ++
      ['\n']) = (penAfterEach pen nodes).feed := by
  have hline : '\n' ∉ [mark] :=
    mt List.mem_singleton.mp (ne_newline_of_not_blank hmark).symm
  have hink : isInked [mark] = true := by
    rw [isInked_cons, hmark]
    rfl
  rw [write_append_newline]
  congr 1
  induction nodes generalizing pen with
  | nil => rfl
  | cons s rest ih =>
    obtain ⟨hs, hrest⟩ := List.forall_mem_cons.mp h
    have henclosed := Pen.write_enclosed pen (render (ofSyntax s)) hline hink hline
    rw [hs] at henclosed
    rw [List.map_cons, renderEach, List.flatMap_cons, Pen.write_append, hwrap, penAfterEach,
      ← ih _ hrest, ← henclosed]
    rfl

/-- Code on one line is a mark. -/
theorem write_inlineCode {literal : List Char} (h : '\n' ∉ literal) :
    pen.write (inlineCode (trim literal)) = pen.mark := by
  have hline : '\n' ∉ ['\x60'] := by decide
  have henclosed := Pen.write_enclosed pen literal hline (by decide) hline
  rw [Pen.write_of_newline_not_mem _ h] at henclosed
  refine Eq.trans henclosed ?_
  cases isInked literal <;> rfl

/-- A link encloses its title. -/
theorem write_link {destination : List Char} (h : '\n' ∉ destination) (title : List Char) :
    pen.write (Chat.link destination (trim title)) =
      pen.enclose (Pen.fresh.write title).lines := by
  have hopening : '\n' ∉ '<' :: destination ++ ['|'] := by
    rw [List.cons_append, List.mem_cons, List.mem_append]
    rintro (hmem | hmem | hmem)
    · contradiction
    · exact h hmem
    · exact absurd hmem (by decide)
  have hlink : Chat.link destination (trim title) =
      '<' :: destination ++ ['|'] ++ trim title ++ ['>'] := by
    rw [Chat.link, List.append_assoc ('<' :: destination) ['|']]
    rfl
  rw [hlink]
  exact Pen.write_enclosed pen title hopening rfl (by decide)

/-- What is written for a node of running text takes the pen where the node does. -/
theorem write_render {s : Syntax} (h : Everywhere Running s) (pen : Pen) :
    pen.write (render (ofSyntax s)) = penAfter pen s := by
  induction s generalizing pen with
  | mk construct children ih =>
    obtain ⟨⟨hrunning, hline, -⟩, hinside⟩ := everywhere_mk_iff.mp h
    have hchild : ∀ child ∈ children, ∀ pen : Pen,
        pen.write (render (ofSyntax child)) = penAfter pen child :=
      fun child hc => ih child hc (hinside child hc)
    cases construct with
    | text literal =>
      rw [ofSyntax_of_isLeaf rfl, penAfter]
      exact Pen.write_of_newline_not_mem pen hline
    | code literal =>
      rw [ofSyntax_of_isLeaf rfl, penAfter]
      exact write_inlineCode pen hline
    | softBreak | lineBreak =>
      rw [ofSyntax_of_isLeaf rfl, penAfter]
      rfl
    | link url title =>
      rw [ofSyntax_of_container rfl rfl, penAfter, ← write_all Pen.fresh hchild]
      exact write_link pen hline _
    | emph | strong | strikethrough =>
      rw [ofSyntax_of_container rfl rfl, penAfter]
      exact write_emphasis pen (fun _ => rfl) (by decide) hchild
    | _ => contradiction

/-- The number of lines that are not blank in what is written for a paragraph. -/
def paragraphLines (children : List Syntax) : Nat :=
  inkedLines (render (ofSyntax (.mk .paragraph children)))

/-- The lines of a paragraph that are not blank are those that its children leave. -/
theorem paragraphLines_eq {children : List Syntax}
    (h : ∀ child ∈ children, Everywhere Running child) :
    paragraphLines children = (penAfterAll .fresh children).lines := by
  have hchildren := write_all Pen.fresh fun child hc => write_render (h child hc)
  rw [paragraphLines, inkedLines_eq, ofSyntax_of_container rfl rfl, kindOf, render,
    List.cons_append, Pen.write_cons, Pen.put_newline, write_append_newline]
  change (Pen.fresh.write _).lines = _
  rw [hchildren]

/-- A paragraph of running text, with each break between two texts, has the lines that its
children leave under the pen. With the breaks that are kept they are at least one more, and
where no emphasis holds a break itself, these are all the breaks. A paragraph without such a
break may be blank altogether. -/
theorem breaks_begin_lines {children : List Syntax} (hflanked : flanked false children = true)
    (h : ∀ child ∈ children, Everywhere Running child) :
    paragraphLines children = (penAfterAll .fresh children).lines ∧
      (paragraphLines children = 0 ∧ keptBreaksAll true children = 0 ∨
        1 + keptBreaksAll true children ≤ paragraphLines children) ∧
      ((∀ child ∈ children, Everywhere KeepsBreaks child) →
        paragraphLines children = 0 ∧ breaksAll children = 0 ∨
          1 + breaksAll children ≤ paragraphLines children) := by
  have hkept : paragraphLines children = 0 ∧ keptBreaksAll true children = 0 ∨
      1 + keptBreaksAll true children ≤ paragraphLines children := by
    rw [paragraphLines_eq h]
    have hgains : Gains .fresh (penAfterAll .fresh children) (keptBreaksAll true children) :=
      gains_penAfterAll (fun child hc => gains_penAfter (h child hc)) hflanked
        fun hfalse => absurd hfalse Bool.false_ne_true
    rcases hgains with ⟨hlines, hnone, -⟩ | hgain
    · exact Or.inl ⟨hlines, hnone⟩
    · exact Or.inr hgain
  refine ⟨paragraphLines_eq h, hkept, fun hkeeps => ?_⟩
  have hall : keptBreaksAll true children = breaksAll children :=
    keptBreaksAll_eq fun child hc => keptBreaks_eq (h child hc) (hkeeps child hc) (Or.inl rfl)
  rwa [hall] at hkept

/-- A paragraph with a break of its own and one in a link that is bold. -/
def brokenParagraph : List Syntax := [
  .leaf (.text "one"), .leaf .softBreak, .leaf (.text "two "),
  .mk .strong [.mk (.link "u" "") [
    .leaf (.text "three"), .leaf .lineBreak, .leaf (.text "four")]]]

/-- Both of its breaks begin a line. -/
theorem breaks_begin_lines_linked :
    flanked false brokenParagraph = true ∧
      (∀ child ∈ brokenParagraph, Everywhere Running child) ∧
      (∀ child ∈ brokenParagraph, Everywhere KeepsBreaks child) ∧
      breaksAll brokenParagraph = 2 ∧ 1 + 2 ≤ paragraphLines brokenParagraph := by
  have hflanked : flanked false brokenParagraph = true := by decide
  have hrunning : ∀ child ∈ brokenParagraph, Everywhere Running child := by decide
  have hkeeps : ∀ child ∈ brokenParagraph, Everywhere KeepsBreaks child := by decide
  have hbreaks : breaksAll brokenParagraph = 2 := by decide
  obtain ⟨-, -, hlines⟩ := breaks_begin_lines hflanked hrunning
  refine ⟨hflanked, hrunning, hkeeps, hbreaks, ?_⟩
  rcases hlines hkeeps with ⟨-, hnone⟩ | hsome
  · exact absurd hnone (by decide)
  · rwa [hbreaks] at hsome

/-- A paragraph with a break that is a child of bold text. -/
def boldBreak : List Syntax := [
  .mk .strong [.leaf (.text "one"), .leaf .softBreak, .leaf (.text "two")]]

/-- Bold text runs the words around its break together. -/
theorem bold_break_begins_no_line :
    flanked false boldBreak = true ∧ (∀ child ∈ boldBreak, Everywhere Running child) ∧
      render (ofSyntax (.mk .paragraph boldBreak)) = "\n*one****two*\n\n".toList ∧
      breaksAll boldBreak = 1 ∧ ¬1 + breaksAll boldBreak ≤ paragraphLines boldBreak := by
  decide

end Chat

end Chatdown
