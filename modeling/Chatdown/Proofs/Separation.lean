import Chatdown.Proofs.Skeleton

/-!
# Where one block ends and the next begins

Nothing in the markup separates blocks as such. Every block but a code block ends in
a newline, and most blocks begin with one. So what stands between the visible parts
of two runs of blocks is blank, and it holds a newline unless the first run ends in
a code block and the second begins with a block that writes its first mark at once.
-/

namespace Chatdown

/-- Whether nodes of a kind are blocks. -/
def Kind.isBlock : Kind → Bool
  | .paragraph | .heading _ | .blockQuote | .list _ _ | .codeBlock _ _ => true
  | .horizontalRule | .table => true
  | _ => false

namespace Node

/-- Whether a node is a code block. -/
def isCodeBlock : Node → Bool
  | mk (.codeBlock _ _) _ => true
  | _ => false

/-- Whether a block begins with a visible character: a code block does, and so does a
quote or a list that is not empty. -/
def startsVisibly : Node → Bool
  | mk (.codeBlock _ _) _ => true
  | mk .blockQuote (_ :: _) => true
  | mk (.list _ _) (_ :: _) => true
  | _ => false

end Node

namespace Text

/-- Blank characters after a text are trimmed away. -/
theorem trim_append_of_allBlank {s t : List Char} (h : AllBlank t) : trim (s ++ t) = trim s := by
  obtain ⟨front, back, hs, hfront, hback⟩ := exists_trim s
  conv_lhs => rw [hs, List.append_assoc]
  exact trim_of_tight hfront (tight_trim s) (hback.append h)

/-- Two texts in a row, neither of them blank, are trimmed at the outer ends only:
between their cores stays all that was blank there. -/
theorem exists_trim_append {s t : List Char} (hs : ¬AllBlank s) (ht : ¬AllBlank t) :
    ∃ front back front' back', s = front ++ trim s ++ back ∧ t = front' ++ trim t ++ back' ∧
      AllBlank back ∧ AllBlank front' ∧
      trim (s ++ t) = trim s ++ (back ++ front') ++ trim t := by
  obtain ⟨front, back, hsplit, hfront, hback⟩ := exists_trim s
  obtain ⟨front', back', hsplit', hfront', hback'⟩ := exists_trim t
  refine ⟨front, back, front', back', hsplit, hsplit', hback, hfront', ?_⟩
  have hcore : Tight (trim s ++ (back ++ front') ++ trim t) :=
    (tight_trim s).append (tight_trim t) (mt trim_eq_nil_iff.mp hs) (mt trim_eq_nil_iff.mp ht) _
  calc trim (s ++ t)
      = trim (front ++ (trim s ++ (back ++ front') ++ trim t) ++ back') := by
        conv_lhs => rw [hsplit, hsplit']
        simp only [List.append_assoc]
    _ = trim s ++ (back ++ front') ++ trim t := trim_of_tight hfront hcore hback'

/-- A blank last character lies behind the core. -/
theorem mem_back_of_getLast? {front core back : List Char} {c : Char} (hcore : Tight core)
    (hne : core ≠ []) (hc : isBlank c = true) (h : (front ++ core ++ back).getLast? = some c) :
    c ∈ back := by
  by_cases hback : back = []
  · rw [hback, List.append_nil, List.getLast?_append_of_ne_nil front hne] at h
    rw [hcore.last c h] at hc
    contradiction
  · rw [List.getLast?_append_of_ne_nil _ hback] at h
    exact List.mem_of_getLast? h

/-- A blank first character lies before the core. -/
theorem mem_front_of_head? {front core back : List Char} {c : Char} (hcore : Tight core)
    (hne : core ≠ []) (hc : isBlank c = true) (h : (front ++ core ++ back).head? = some c) :
    c ∈ front := by
  by_cases hfront : front = []
  · rw [hfront, List.nil_append, List.head?_append_of_ne_nil core hne] at h
    rw [hcore.head c h] at hc
    contradiction
  · rw [List.append_assoc, List.head?_append_of_ne_nil front hfront] at h
    exact List.mem_of_head? h

/-- Nothing blank stands behind a visible last character. -/
theorem back_eq_nil {s back : List Char} {c : Char} (hback : AllBlank back)
    (hc : isBlank c = false) (h : (s ++ back).getLast? = some c) : back = [] := by
  by_contra hne
  rw [List.getLast?_append_of_ne_nil s hne] at h
  rw [hback c (List.mem_of_getLast? h)] at hc
  contradiction

/-- Nothing blank stands before a visible first character. -/
theorem front_eq_nil {front s : List Char} {c : Char} (hfront : AllBlank front)
    (hc : isBlank c = false) (h : (front ++ s).head? = some c) : front = [] := by
  by_contra hne
  rw [List.head?_append_of_ne_nil front hne] at h
  rw [hfront c (List.mem_of_head? h)] at hc
  contradiction

end Text

namespace Chat

open Text

/-- A document is its children one after the other, and a newline. -/
theorem render_document (nodes : List Node) :
    render (.mk .document nodes) = nodes.flatMap render ++ ['\n'] := by
  rw [render, renderEach_eq_map, List.flatMap_def]

/-- The finished markup of a document is that of its children, trimmed. -/
theorem renderDocument_eq_trim (nodes : List Node) :
    renderDocument (.mk .document nodes) = trim (nodes.flatMap render) := by
  have hblank : AllBlank ['\n'] := by
    intro c hc
    rw [List.mem_singleton.mp hc, isBlank_newline]
  rw [renderDocument, render_document, trim_append_of_allBlank hblank]

/-- A code block ends in a backtick and every other block in a newline. -/
theorem getLast?_render_block {node : Node} (h : node.kind.isBlock = true) :
    (render node).getLast? = some (if node.isCodeBlock then '\x60' else '\n') := by
  have hend : ∃ text, render node = text ++ [if node.isCodeBlock then '\x60' else '\n'] := by
    cases node with
    | mk kind children =>
      cases kind with
      | codeBlock info literal =>
        refine ⟨['\x60', '\x60', '\x60', '\n'] ++ trim literal.toList ++ ['\n', '\x60', '\x60'], ?_⟩
        rw [render, codeBlock, List.append_assoc _ _ [_]]
        rfl
      | horizontalRule => exact ⟨['\n'], rfl⟩
      | paragraph | heading | blockQuote | list | table => exact ⟨_, rfl⟩
      | _ => contradiction
  obtain ⟨text, htext⟩ := hend
  rw [htext, List.getLast?_concat]

/-- A block begins with a visible character where it is said to, and with a newline
otherwise. -/
theorem head?_render_block {node : Node} (h : node.kind.isBlock = true) :
    ∃ c, (render node).head? = some c ∧
      if node.startsVisibly then isBlank c = false else c = '\n' := by
  cases node with
  | mk kind children =>
    cases kind with
    | codeBlock info literal => exact ⟨'\x60', rfl, rfl⟩
    | paragraph | horizontalRule | table => exact ⟨'\n', rfl, rfl⟩
    | heading level => cases children <;> exact ⟨'\n', rfl, rfl⟩
    | blockQuote =>
      cases children with
      | nil => exact ⟨'\n', rfl, rfl⟩
      | cons child rest => exact ⟨'>', rfl, rfl⟩
    | list ordered start =>
      cases children with
      | nil => exact ⟨'\n', rfl, rfl⟩
      | cons child rest =>
        cases ordered with
        | false => exact ⟨'•', rfl, rfl⟩
        | true => exact ⟨'1', rfl, rfl⟩
    | _ => contradiction

/-- A document is blank when its children are. -/
theorem allBlank_render_document {nodes : List Node} (h : AllBlank (nodes.flatMap render)) :
    AllBlank (render (.mk .document nodes)) := by
  rw [render_document]
  exact h.append (by decide)

/-- A document that is not blank has a child. -/
theorem ne_nil_of_not_allBlank {nodes : List Node}
    (h : ¬AllBlank (render (.mk .document nodes))) : nodes ≠ [] := by
  rintro rfl
  exact h (by decide)

/-- Blocks in a row end as the last of them does. -/
theorem getLast?_flatMap_render {nodes : List Node} {last : Node}
    (hblocks : ∀ node ∈ nodes, node.kind.isBlock = true) (h : nodes.getLast? = some last) :
    (nodes.flatMap render).getLast? = some (if last.isCodeBlock then '\x60' else '\n') := by
  obtain ⟨front, rfl⟩ := List.getLast?_eq_some_iff.mp h
  have hlast := getLast?_render_block (hblocks last (List.mem_of_getLast? h))
  rw [List.flatMap_append, List.flatMap_singleton, List.getLast?_append, hlast]
  rfl

/-- Blocks in a row begin as the first of them does. -/
theorem head?_flatMap_render {nodes : List Node} {first : Node}
    (hblocks : ∀ node ∈ nodes, node.kind.isBlock = true) (h : nodes.head? = some first) :
    ∃ c, (nodes.flatMap render).head? = some c ∧
      if first.startsVisibly then isBlank c = false else c = '\n' := by
  obtain ⟨rest, rfl⟩ := List.head?_eq_some_iff.mp h
  obtain ⟨c, hc, hstart⟩ := head?_render_block (hblocks first List.mem_cons_self)
  refine ⟨c, ?_, hstart⟩
  rw [List.flatMap_cons, List.head?_append, hc]
  rfl

/-- Whether some blocks end in a code block and others begin with a visible character,
so that nothing parts them. -/
def Meet (front back : List Node) : Prop :=
  front.getLast?.any Node.isCodeBlock = true ∧ back.head?.any Node.startsVisibly = true

instance (front back : List Node) : Decidable (Meet front back) :=
  inferInstanceAs (Decidable (_ ∧ _))

/-- What parts two runs of blocks in a document is blank. It holds a newline, so that
no line carries text of both runs, unless the first run ends in a code block and the
second begins with a code block, a quote or a list that is not empty. There nothing
parts them at all. -/
theorem renderDocument_append {front back : List Node}
    (hfront : ∀ node ∈ front, node.kind.isBlock = true)
    (hback : ∀ node ∈ back, node.kind.isBlock = true)
    (vfront : ¬AllBlank (render (.mk .document front)))
    (vback : ¬AllBlank (render (.mk .document back))) :
    ∃ gap, renderDocument (.mk .document (front ++ back)) =
        renderDocument (.mk .document front) ++ gap ++ renderDocument (.mk .document back) ∧
      AllBlank gap ∧ (Meet front back → gap = []) ∧ (¬Meet front back → '\n' ∈ gap) := by
  have hs : ¬AllBlank (front.flatMap render) := mt allBlank_render_document vfront
  have ht : ¬AllBlank (back.flatMap render) := mt allBlank_render_document vback
  obtain ⟨lead, trail, lead', trail', hsplit, hsplit', htrail, hlead', htrim⟩ :=
    exists_trim_append hs ht
  obtain ⟨last, hlast⟩ := Option.ne_none_iff_exists'.mp
    (mt List.getLast?_eq_none_iff.mp (ne_nil_of_not_allBlank vfront))
  obtain ⟨first, hfirst⟩ := Option.ne_none_iff_exists'.mp
    (mt List.head?_eq_none_iff.mp (ne_nil_of_not_allBlank vback))
  have hend := getLast?_flatMap_render hfront hlast
  obtain ⟨c, hstart, hc⟩ := head?_flatMap_render hback hfirst
  rw [hsplit] at hend
  rw [hsplit'] at hstart
  refine ⟨trail ++ lead', ?_, htrail.append hlead', ?_, ?_⟩
  · rw [renderDocument_eq_trim, renderDocument_eq_trim, renderDocument_eq_trim,
      List.flatMap_append, htrim]
  · rintro ⟨hcode, hvisible⟩
    rw [hlast, Option.any_some] at hcode
    rw [hfirst, Option.any_some] at hvisible
    rw [if_pos hcode] at hend
    rw [if_pos hvisible] at hc
    rw [back_eq_nil htrail (by decide) hend, List.nil_append]
    rw [List.append_assoc] at hstart
    exact front_eq_nil hlead' hc hstart
  · intro hmeet
    rw [Meet, hlast, hfirst, Option.any_some, Option.any_some] at hmeet
    by_cases hcode : last.isCodeBlock = true
    · have hvisible : first.startsVisibly ≠ true := fun hv => hmeet ⟨hcode, hv⟩
      rw [if_neg hvisible] at hc
      rw [hc] at hstart
      exact List.mem_append_right _ (mem_front_of_head? (tight_trim _)
        (mt trim_eq_nil_iff.mp ht) isBlank_newline hstart)
    · rw [if_neg hcode] at hend
      exact List.mem_append_left _ (mem_back_of_getLast? (tight_trim _)
        (mt trim_eq_nil_iff.mp hs) isBlank_newline hend)

/-- A rule after a code block parts it from a quote. -/
theorem renderDocument_append_rule :
    ∃ gap, renderDocument (.mk .document ([.leaf (.codeBlock "" "x")] ++
        [.leaf .horizontalRule, .mk .blockQuote [.text "y"]])) =
        renderDocument (.mk .document [.leaf (.codeBlock "" "x")]) ++ gap ++
          renderDocument (.mk .document [.leaf .horizontalRule, .mk .blockQuote [.text "y"]]) ∧
      AllBlank gap ∧
      (Meet [.leaf (.codeBlock "" "x")] [.leaf .horizontalRule, .mk .blockQuote [.text "y"]] →
        gap = []) ∧
      (¬Meet [.leaf (.codeBlock "" "x")] [.leaf .horizontalRule, .mk .blockQuote [.text "y"]] →
        '\n' ∈ gap) :=
  renderDocument_append (by decide) (by decide) (by decide) (by decide)

/-- A code block and a quote right after it meet on one line: no newline parts them. -/
theorem codeBlock_meets_quote :
    ¬∀ front back : List Node, (∀ node ∈ front, node.kind.isBlock = true) →
      (∀ node ∈ back, node.kind.isBlock = true) →
      ¬AllBlank (render (.mk .document front)) → ¬AllBlank (render (.mk .document back)) →
      ∃ gap, renderDocument (.mk .document (front ++ back)) =
          renderDocument (.mk .document front) ++ gap ++ renderDocument (.mk .document back) ∧
        AllBlank gap ∧ '\n' ∈ gap := by
  intro h
  obtain ⟨gap, heq, -, hmem⟩ :=
    h [.leaf (.codeBlock "" "x")] [.mk .blockQuote [.mk .paragraph [.text "y"]]]
      (by decide) (by decide) (by decide) (by decide)
  have hlength := congrArg List.length heq
  rw [List.length_append, List.length_append] at hlength
  have hjoined : (renderDocument (.mk .document ([.leaf (.codeBlock "" "x")] ++
      [.mk .blockQuote [.mk .paragraph [.text "y"]]]))).length = 12 := by decide
  have hcode : (renderDocument (.mk .document [.leaf (.codeBlock "" "x")])).length = 9 := by decide
  have hquote : (renderDocument (.mk .document [.mk .blockQuote
      [.mk .paragraph [.text "y"]]])).length = 3 := by decide
  have hgap : 0 < gap.length := List.length_pos_of_mem hmem
  omega

end Chat

end Chatdown
