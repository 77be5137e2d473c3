import Chatdown.Proofs.Trim

/-!
# Line breaks between visible text

Whether a newline outlasts trimming depends only on where it stands among the visible
characters of its text: it does when something visible stands on both sides. So a text
is traced by marks, ink for a visible character and a break for a newline, and runs of
ink count as one. Texts that are put together have traces that are put together.
-/

namespace Chatdown.Text

/-- What stands on a line: something visible, or the break that ends it. -/
inductive Mark where
  | ink
  | lineBreak
deriving DecidableEq, Repr

/-- The mark a character leaves. Blank characters other than newlines leave none. -/
def markOf (c : Char) : Option Mark :=
  if c = '\n' then some .lineBreak else if isBlank c then none else some .ink

/-- The marks a text leaves. -/
def trace (text : List Char) : List Mark :=
  text.filterMap markOf

/-- A break with something visible on both sides. -/
def innerBreak : List Mark :=
  [.ink, .lineBreak, .ink]

/-- Whether some break has something visible on both sides. -/
def splits (marks : List Mark) : Bool :=
  innerBreak.isSublist marks

/-- Splitting is a matter of subsequences. -/
theorem splits_iff {marks : List Mark} : splits marks = true ↔ innerBreak.Sublist marks :=
  List.isSublist_iff_sublist

/-- The marks of two texts in a row. -/
theorem trace_append (s t : List Char) : trace (s ++ t) = trace s ++ trace t :=
  List.filterMap_append

/-- A part of a text leaves a part of its marks. -/
theorem trace_sublist {s t : List Char} (h : s.Sublist t) : (trace s).Sublist (trace t) :=
  h.filterMap markOf

/-- A newline leaves a break and nothing else does. -/
theorem lineBreak_mem_trace {text : List Char} : .lineBreak ∈ trace text ↔ '\n' ∈ text := by
  rw [trace, List.mem_filterMap]
  constructor
  · rintro ⟨c, hc, hmark⟩
    unfold markOf at hmark
    split at hmark
    · next h => exact h ▸ hc
    · split at hmark <;> cases hmark
  · intro h
    exact ⟨'\n', h, rfl⟩

/-- A visible character leaves ink and nothing else does. -/
theorem ink_mem_trace {text : List Char} : .ink ∈ trace text ↔ ¬AllBlank text := by
  rw [trace, List.mem_filterMap]
  constructor
  · rintro ⟨c, hc, hmark⟩ hblank
    simp [markOf, hblank c hc] at hmark
  · intro h
    obtain ⟨c, hc, hvisible⟩ : ∃ c ∈ text, isBlank c = false := by simpa [AllBlank] using h
    exact ⟨c, hc, by simp [markOf, ne_newline_of_not_blank hvisible, hvisible]⟩

/-- A subsequence that begins with ink skips what has no ink. -/
theorem sublist_of_ink_cons {marks front back : List Mark} (hfront : .ink ∉ front)
    (h : (.ink :: marks).Sublist (front ++ back)) : (Mark.ink :: marks).Sublist back := by
  induction front with
  | nil => exact h
  | cons mark front ih =>
    obtain ⟨hmark, hrest⟩ := not_or.mp (mt List.mem_cons.mpr hfront)
    exact ih hrest (List.Sublist.of_cons_of_ne hmark h)

/-- Inner breaks are inside what is between two stretches without ink. -/
theorem innerBreak_sublist_middle {front middle back : List Mark} (hfront : .ink ∉ front)
    (hback : .ink ∉ back) (h : innerBreak.Sublist (front ++ middle ++ back)) :
    innerBreak.Sublist middle := by
  rw [List.append_assoc] at h
  have hrest : innerBreak.Sublist (middle ++ back) := sublist_of_ink_cons hfront h
  have hreverse : innerBreak.Sublist (back.reverse ++ middle.reverse) := by
    rw [← List.reverse_append]
    exact hrest.reverse
  have hback' : .ink ∉ back.reverse := mt List.mem_reverse.mp hback
  exact List.reverse_sublist.mp (sublist_of_ink_cons hback' hreverse)

/-- A newline between two texts that are not blank is an inner break. -/
theorem innerBreak_sublist_trace {before after : List Char} (hbefore : ¬AllBlank before)
    (hafter : ¬AllBlank after) : innerBreak.Sublist (trace (before ++ '\n' :: after)) := by
  have hinkBefore : [Mark.ink].Sublist (trace before) :=
    List.singleton_sublist.mpr (ink_mem_trace.mpr hbefore)
  have hinkAfter : [Mark.ink].Sublist (trace after) :=
    List.singleton_sublist.mpr (ink_mem_trace.mpr hafter)
  rw [trace_append]
  exact hinkBefore.append (hinkAfter.cons_cons Mark.lineBreak)

/-- Around a newline in a trimmed text something visible stands on both sides. -/
theorem innerBreak_sublist_of_newline_mem_trim {text : List Char} (h : '\n' ∈ trim text) :
    innerBreak.Sublist (trace (trim text)) := by
  obtain ⟨before, after, hcore⟩ := List.append_of_mem h
  have htight : Tight (before ++ '\n' :: after) := hcore ▸ tight_trim text
  have hbefore : ¬AllBlank before := by
    cases before with
    | nil => exact absurd rfl (ne_newline_of_not_blank (htight.head '\n' rfl))
    | cons c rest => exact not_allBlank List.mem_cons_self (htight.head c rfl)
  have hafter : ¬AllBlank after := by
    cases List.eq_nil_or_concat' after with
    | inl hnil =>
      rw [hnil] at htight
      exact absurd rfl (ne_newline_of_not_blank (htight.last '\n' List.getLast?_concat))
    | inr hconcat =>
      obtain ⟨rest, c, rfl⟩ := hconcat
      have hlast : (before ++ '\n' :: (rest ++ [c])).getLast? = some c := by
        rw [← List.cons_append, ← List.append_assoc, List.getLast?_concat]
      have hmem : c ∈ rest ++ [c] := List.mem_append_right rest (List.mem_singleton_self c)
      exact not_allBlank hmem (htight.last c hlast)
  rw [hcore]
  exact innerBreak_sublist_trace hbefore hafter

/-- A newline outlasts trimming exactly when something visible stands on both sides of
some newline. -/
theorem newline_mem_trim_iff {text : List Char} :
    '\n' ∈ trim text ↔ splits (trace text) = true := by
  obtain ⟨front, back, htext, hfront, hback⟩ := exists_trim text
  rw [splits_iff]
  constructor
  · intro h
    have hpart : (trim text).Sublist (front ++ trim text ++ back) :=
      (List.infix_append front (trim text) back).sublist
    rw [← htext] at hpart
    exact (innerBreak_sublist_of_newline_mem_trim h).trans (trace_sublist hpart)
  · intro h
    rw [htext, trace_append, trace_append] at h
    have hcore : innerBreak.Sublist (trace (trim text)) :=
      innerBreak_sublist_middle (fun hink => ink_mem_trace.mp hink hfront)
        (fun hink => ink_mem_trace.mp hink hback) h
    exact lineBreak_mem_trace.mp (hcore.subset (by decide))

/-- Two sequences of marks are alike when the stretches of an inner break occur in
both or in neither. Alike sequences may differ in the lengths of their runs. -/
def Alike (a b : List Mark) : Prop :=
  ∀ pattern, pattern <:+: innerBreak → (pattern.Sublist a ↔ pattern.Sublist b)

/-- The stretches of an inner break without a break are at most one ink long. -/
theorem stretch_without_break {pattern : List Mark} (h : pattern <:+: innerBreak)
    (hbreak : .lineBreak ∉ pattern) : pattern = [] ∨ pattern = [.ink] := by
  match pattern with
  | [] => exact Or.inl rfl
  | [.ink] => exact Or.inr rfl
  | .lineBreak :: _ => exact absurd List.mem_cons_self hbreak
  | .ink :: .lineBreak :: _ => exact absurd (List.mem_cons_of_mem _ List.mem_cons_self) hbreak
  | .ink :: .ink :: rest =>
    have hpair : [Mark.ink, Mark.ink] <:+: innerBreak :=
      (List.prefix_append [Mark.ink, Mark.ink] rest).isInfix.trans h
    exact absurd hpair (by decide)

/-- Every sequence of marks is like itself. -/
theorem Alike.refl (marks : List Mark) : Alike marks marks :=
  fun _ _ => Iff.rfl

/-- Like sequences in a row are alike. -/
theorem Alike.append {a b c d : List Mark} (hleft : Alike a b) (hright : Alike c d) :
    Alike (a ++ c) (b ++ d) := by
  intro pattern hpattern
  rw [List.sublist_append_iff, List.sublist_append_iff]
  have hparts : ∀ front back, pattern = front ++ back →
      ((front.Sublist a ∧ back.Sublist c) ↔ (front.Sublist b ∧ back.Sublist d)) := by
    rintro front back rfl
    have hfront : front <:+: innerBreak := (List.prefix_append front back).isInfix.trans hpattern
    have hback : back <:+: innerBreak := (List.suffix_append front back).isInfix.trans hpattern
    rw [hleft front hfront, hright back hback]
  constructor
  · rintro ⟨front, back, heq, h⟩
    exact ⟨front, back, heq, (hparts front back heq).mp h⟩
  · rintro ⟨front, back, heq, h⟩
    exact ⟨front, back, heq, (hparts front back heq).mpr h⟩

/-- Texts in a row are traced like their marks in a row when each is traced like its
marks. -/
theorem alike_flatMap {α : Type} {items : List α} {text : α → List Char} {marks : α → List Mark}
    (h : ∀ item ∈ items, Alike (trace (text item)) (marks item)) :
    Alike (trace (items.flatMap text)) (items.flatMap marks) := by
  induction items with
  | nil => exact Alike.refl []
  | cons item rest ih =>
    obtain ⟨hitem, hrest⟩ := List.forall_mem_cons.mp h
    rw [List.flatMap_cons, List.flatMap_cons, trace_append]
    exact hitem.append (ih hrest)

/-- A newline after a text is a break after its marks. -/
theorem alike_append_newline {text : List Char} {marks : List Mark}
    (h : Alike (trace text) marks) : Alike (trace (text ++ ['\n'])) (marks ++ [.lineBreak]) := by
  rw [trace_append]
  exact h.append (Alike.refl _)

/-- Like sequences have a break or have none. -/
theorem Alike.lineBreak_mem_iff {a b : List Mark} (h : Alike a b) :
    .lineBreak ∈ a ↔ .lineBreak ∈ b := by
  rw [← List.singleton_sublist, ← List.singleton_sublist]
  exact h [.lineBreak] ⟨[.ink], [.ink], rfl⟩

/-- Like sequences split or do not split. -/
theorem Alike.splits_eq {a b : List Mark} (h : Alike a b) : splits a = splits b := by
  rw [Bool.eq_iff_iff, splits_iff, splits_iff]
  exact h innerBreak List.infix_rfl

/-- All sequences that split are alike. -/
theorem alike_of_splits {a b : List Mark} (ha : innerBreak.Sublist a)
    (hb : innerBreak.Sublist b) : Alike a b :=
  fun _ h => ⟨fun _ => h.sublist.trans hb, fun _ => h.sublist.trans ha⟩

/-- All sequences with ink and without a break are alike. -/
theorem alike_of_ink {a b : List Mark} (ha : .ink ∈ a) (hb : .ink ∈ b)
    (hbreakA : .lineBreak ∉ a) (hbreakB : .lineBreak ∉ b) : Alike a b := by
  intro pattern hpattern
  by_cases hbreak : .lineBreak ∈ pattern
  · exact iff_of_false (fun h => hbreakA (h.subset hbreak)) (fun h => hbreakB (h.subset hbreak))
  · rcases stretch_without_break hpattern hbreak with rfl | rfl
    · exact iff_of_true (List.nil_sublist a) (List.nil_sublist b)
    · exact iff_of_true (List.singleton_sublist.mpr ha) (List.singleton_sublist.mpr hb)

/-- The marks of a text that is not blank once it is trimmed: one run of ink, or two
where it splits. -/
def outline (marks : List Mark) : List Mark :=
  if splits marks then innerBreak else [.ink]

/-- The marks of a text on one line. -/
def lineMarks (text : List Char) : List Mark :=
  if visible text = [] then [] else [.ink]

/-- A text without newlines traces like one run of ink, or leaves no marks at all. -/
theorem alike_lineMarks {text : List Char} (h : '\n' ∉ text) :
    Alike (trace text) (lineMarks text) := by
  have hbreak : .lineBreak ∉ trace text := mt lineBreak_mem_trace.mp h
  rw [lineMarks]
  split
  · next hvisible =>
    have hink : .ink ∉ trace text := fun hmem =>
      ink_mem_trace.mp hmem (visible_eq_nil_iff.mp hvisible)
    have hnil : trace text = [] := by
      rw [List.eq_nil_iff_forall_not_mem]
      intro mark
      cases mark with
      | ink => exact hink
      | lineBreak => exact hbreak
    rw [hnil]
    exact Alike.refl []
  · next hvisible =>
    have hink : .ink ∈ trace text :=
      ink_mem_trace.mpr fun hblank => hvisible (visible_eq_nil_iff.mpr hblank)
    exact alike_of_ink hink List.mem_cons_self hbreak (by decide)

/-- A trimmed text between an opening and a closing text traces like its outline, when
neither of these has a newline and the opening is not blank. -/
theorem alike_outline {opening text closing : List Char} {marks : List Mark}
    (hopening : '\n' ∉ opening) (hink : ¬AllBlank opening) (hclosing : '\n' ∉ closing)
    (h : Alike (trace text) marks) :
    Alike (trace (opening ++ trim text ++ closing)) (outline marks) := by
  have hsplits : '\n' ∈ trim text ↔ splits marks = true := by
    rw [newline_mem_trim_iff, h.splits_eq]
  rw [outline]
  split
  · next hyes =>
    have hinner := innerBreak_sublist_of_newline_mem_trim (hsplits.mpr hyes)
    have hpart : (trim text).Sublist (opening ++ trim text ++ closing) :=
      (List.infix_append opening (trim text) closing).sublist
    exact alike_of_splits (hinner.trans (trace_sublist hpart)) (List.Sublist.refl _)
  · next hno =>
    have hbreak : .lineBreak ∉ trace (opening ++ trim text ++ closing) := by
      rw [lineBreak_mem_trace, List.mem_append, List.mem_append]
      rintro ((hmem | hmem) | hmem)
      · exact hopening hmem
      · exact hno (hsplits.mp hmem)
      · exact hclosing hmem
    have hmem : .ink ∈ trace (opening ++ trim text ++ closing) := by
      rw [trace_append, trace_append, List.append_assoc]
      exact List.mem_append_left _ (ink_mem_trace.mpr hink)
    exact alike_of_ink hmem List.mem_cons_self hbreak (by decide)

end Chatdown.Text
