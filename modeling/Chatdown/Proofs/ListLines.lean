import Chatdown.Proofs.Separation
import Chatdown.Text.Ascii

/-!
# The lines of a list

A list writes one line for each item: a marker, a space and the trimmed text of the item.
The text is trimmed again with the document around it, but every line begins with its marker
and ends with its item, so trimming only takes the newlines behind the list. If each item is
on one line and not empty, the lines of the document are the items in order, and markers and
items can be told apart again, since no marker holds a space.
-/

namespace Chatdown

namespace Text

/-- A text that makes a line of its own. -/
structure Unbroken (text : List Char) : Prop where
  /-- It is not empty. -/
  filled : text ≠ []
  /-- It neither begins nor ends with a blank character. -/
  tight : Tight text
  /-- It is on one line. -/
  oneLine : '\n' ∉ text

/-- Lines that each end in a newline are the lines with newlines between them, and one
newline more. -/
theorem flatMap_append_newline {lines : List (List Char)} (hne : lines ≠ []) :
    lines.flatMap (· ++ ['\n']) = ['\n'].intercalate lines ++ ['\n'] := by
  induction lines with
  | nil => exact absurd rfl hne
  | cons line rest ih =>
    cases rest with
    | nil => rw [List.flatMap_singleton, List.intercalate_singleton]
    | cons next rest =>
      rw [List.flatMap_cons, ih (List.cons_ne_nil next rest), List.intercalate_cons_cons]
      simp only [List.append_assoc]

end Text

namespace Chat

open Text

/-- The line of an item: the marker, a space and the text of the item. -/
def itemLine (ordered : Bool) (number : Nat) (text : List Char) : List Char :=
  itemMark ordered number ++ ' ' :: text

/-- The lines of items with these texts, numbered from a number on. -/
def itemLines (ordered : Bool) (number : Nat) (texts : List (List Char)) : List (List Char) :=
  (texts.zipIdx number).map fun item => itemLine ordered item.2 item.1

/-- The texts of items, trimmed. -/
def itemTexts (items : List Node) : List (List Char) :=
  items.map fun item => trim (render item)

/-- What is left of a line without its marker and the space behind it. -/
def withoutMark (line : List Char) : List Char :=
  (line.dropWhile (· ≠ ' ')).tail

/-- The number in decimal that a line begins with, if it begins with a digit. -/
def leadingNumber? (line : List Char) : Option Nat :=
  if line.takeWhile Char.isDigit = [] then none
  else some (Nat.ofDigitChars 10 (line.takeWhile Char.isDigit) 0)

/-- A document that holds nothing but a list. -/
def listDocument (ordered : Bool) (start : Nat) (items : List Node) : Node :=
  .mk .document [.mk (.list ordered start) items]

/-- A list has a line for each item, numbered from its first number on. -/
theorem listLines_eq_flatMap (ordered : Bool) (number : Nat) (items : List (List Char)) :
    listLines ordered number items =
      (itemLines ordered number (items.map trim)).flatMap (· ++ ['\n']) := by
  induction items generalizing number with
  | nil => rfl
  | cons item rest ih =>
    rw [listLines, ih, listMarker_eq_itemMark, List.map_cons, itemLines, itemLines,
      List.zipIdx_cons, List.map_cons, List.flatMap_cons, itemLine, List.append_assoc,
      List.append_assoc, List.append_assoc]
    rfl

/-- A mark is not empty and has visible characters only. -/
theorem itemMark_visible (ordered : Bool) (number : Nat) :
    itemMark ordered number ≠ [] ∧ ∀ c ∈ itemMark ordered number, isBlank c = false := by
  refine ⟨?_, fun c hc => ?_⟩
  · cases ordered with
    | false => exact List.cons_ne_nil _ _
    | true => exact List.append_ne_nil_of_right_ne_nil _ (List.cons_ne_nil _ _)
  · rw [← listMarker_eq_itemMark] at hc
    exact isBlank_of_mem_listMarker hc

/-- The line of an item that is unbroken is so itself. -/
theorem unbroken_itemLine {text : List Char} (h : Unbroken text) (ordered : Bool)
    (number : Nat) : Unbroken (itemLine ordered number text) := by
  obtain ⟨hmark, hvisible⟩ := itemMark_visible ordered number
  have hsplit : itemLine ordered number text = itemMark ordered number ++ [' '] ++ text := by
    rw [itemLine, List.append_assoc, List.singleton_append]
  have hbreak : '\n' ∉ itemMark ordered number := fun hmem =>
    ne_newline_of_not_blank (hvisible _ hmem) rfl
  rw [hsplit]
  refine ⟨List.append_ne_nil_of_right_ne_nil _ h.filled, ?_, ?_⟩
  · exact (tight_of_visible hvisible).append h.tight hmark h.filled [' ']
  · simp [hbreak, h.oneLine]

/-- The lines of unbroken items are unbroken. -/
theorem unbroken_of_mem_itemLines {texts : List (List Char)} (h : ∀ text ∈ texts, Unbroken text)
    {ordered : Bool} {number : Nat} {line : List Char}
    (hline : line ∈ itemLines ordered number texts) : Unbroken line := by
  obtain ⟨item, hitem, rfl⟩ := List.mem_map.mp hline
  exact unbroken_itemLine (h item.1 (List.fst_mem_of_mem_zipIdx hitem)) ordered item.2

/-- Taking the marker off leaves the text of the item. -/
theorem withoutMark_itemLine (ordered : Bool) (number : Nat) (text : List Char) :
    withoutMark (itemLine ordered number text) = text := by
  have hmark : ∀ c ∈ itemMark ordered number, decide (c ≠ ' ') = true := by
    intro c hc
    rw [decide_eq_true_eq]
    rintro rfl
    have hblank := (itemMark_visible ordered number).2 _ hc
    rw [isBlank_space] at hblank
    contradiction
  rw [withoutMark, itemLine, List.dropWhile_append_of_pos hmark]
  simp

/-- The number of an ordered item is read back from its line. -/
theorem leadingNumber?_itemLine (number : Nat) (text : List Char) :
    leadingNumber? (itemLine true number text) = some number := by
  have hmark : itemLine true number text = Nat.toDigits 10 number ++ '.' :: ' ' :: text := by
    simp [itemLine, itemMark, toString, Nat.repr]
  have htake : (itemLine true number text).takeWhile Char.isDigit = Nat.toDigits 10 number := by
    rw [hmark, takeWhile_isDigit_toDigits number (by simp)]
  rw [leadingNumber?, htake, if_neg Nat.toDigits_ne_nil, Nat.ofDigitChars_ten_toDigits]

/-- Each line of a list has the text of its item behind its marker. -/
theorem map_withoutMark (ordered : Bool) (number : Nat) (texts : List (List Char)) :
    (itemLines ordered number texts).map withoutMark = texts := by
  rw [itemLines, List.map_map]
  refine (List.map_congr_left fun item _ => ?_).trans (List.zipIdx_map_fst number texts)
  exact withoutMark_itemLine ordered item.2 item.1

/-- The lines of an ordered list begin with one number after the other. -/
theorem map_leadingNumber? (number : Nat) (texts : List (List Char)) :
    (itemLines true number texts).map leadingNumber? =
      (List.range' number texts.length).map some := by
  rw [itemLines, List.map_map, ← List.zipIdx_map_snd, List.map_map]
  refine List.map_congr_left fun item _ => ?_
  rw [Function.comp_apply, Function.comp_apply, leadingNumber?_itemLine]

/-- A document that holds nothing but a list is the lines of its items, trimmed. -/
theorem renderDocument_listDocument (ordered : Bool) (start : Nat) (items : List Node) :
    renderDocument (listDocument ordered start items) =
      trim ((itemLines ordered 1 (itemTexts items)).flatMap (· ++ ['\n'])) := by
  rw [listDocument, renderDocument_eq_trim, List.flatMap_singleton, render, listLines_eq_flatMap,
    renderEach_eq_map, List.map_map, trim_append_of_allBlank (by decide)]
  rfl

/-- The lines of a document of a list are those of its items, when these are unbroken. -/
theorem lines_listDocument {items : List Node} (hne : items ≠ [])
    (h : ∀ text ∈ itemTexts items, Unbroken text) (ordered : Bool) (start : Nat) :
    (renderDocument (listDocument ordered start items)).splitOn '\n' =
      itemLines ordered 1 (itemTexts items) := by
  have hlines : ∀ line ∈ itemLines ordered 1 (itemTexts items), Unbroken line :=
    fun line hline => unbroken_of_mem_itemLines h hline
  have hlines0 : itemLines ordered 1 (itemTexts items) ≠ [] := by
    simpa [itemLines, itemTexts] using hne
  have htight : Tight (['\n'].intercalate (itemLines ordered 1 (itemTexts items))) :=
    (tight_intercalate hlines0 fun line hline =>
      ⟨(hlines line hline).filled, (hlines line hline).tight⟩).2
  -- The lines begin and end with visible characters, so only the last newline is trimmed.
  have hblank : AllBlank ['\n'] := by decide
  have htrim := (trim_append_of_allBlank hblank).trans (trim_eq_self htight)
  rw [renderDocument_listDocument, flatMap_append_newline hlines0, htrim,
    List.splitOn_intercalate '\n' (fun line hline => (hlines line hline).oneLine) hlines0]

/-- A list of items that are not empty and on one line each is written line by line: the
number and a dot, or a bullet, then a space and the item. The numbers count from one,
whatever the first number of the list was in the source, and the items are found again
behind the markers. -/
theorem splitOn_renderDocument_list {items : List Node} (hne : items ≠ [])
    (h : ∀ item ∈ items, trim (render item) ≠ [] ∧ '\n' ∉ trim (render item)) (ordered : Bool)
    (start : Nat) :
    (renderDocument (listDocument ordered start items)).splitOn '\n' =
        itemLines ordered 1 (itemTexts items) ∧
      ((renderDocument (listDocument ordered start items)).splitOn '\n').length = items.length ∧
      ((renderDocument (listDocument ordered start items)).splitOn '\n').map withoutMark =
        itemTexts items ∧
      (ordered = true →
        ((renderDocument (listDocument ordered start items)).splitOn '\n').map leadingNumber? =
          (List.range' 1 items.length).map some) := by
  have htexts : ∀ text ∈ itemTexts items, Unbroken text := by
    intro text htext
    obtain ⟨item, hitem, rfl⟩ := List.mem_map.mp htext
    exact ⟨(h item hitem).1, tight_trim _, (h item hitem).2⟩
  rw [lines_listDocument hne htexts]
  refine ⟨rfl, ?_, map_withoutMark ordered 1 _, ?_⟩
  · rw [itemLines, List.length_map, List.length_zipIdx, itemTexts, List.length_map]
  · rintro rfl
    rw [map_leadingNumber?, itemTexts, List.length_map]

/-- Three items: one with spaces around its text, one with a bold word and one with a list
of one item in it. -/
def sampleItems : List Node :=
  [.mk .listItem [.mk .paragraph [.text " one "]],
    .mk .listItem [.mk .paragraph [.mk .strong [.text "two"]]],
    .mk .listItem [.mk (.list false 0) [.mk .listItem [.text "three"]]]]

/-- The three items are three lines, numbered from one. -/
theorem splitOn_renderDocument_sampleItems :
    (sampleItems ≠ [] ∧
        ∀ item ∈ sampleItems, trim (render item) ≠ [] ∧ '\n' ∉ trim (render item)) ∧
      (renderDocument (listDocument true 7 sampleItems)).splitOn '\n' =
        ["1. one".toList, "2. *two*".toList, "3. • three".toList] ∧
      ((renderDocument (listDocument true 7 sampleItems)).splitOn '\n').map leadingNumber? =
        [some 1, some 2, some 3] := by
  have hne : sampleItems ≠ [] := List.cons_ne_nil _ _
  have hitems : ∀ item ∈ sampleItems, trim (render item) ≠ [] ∧ '\n' ∉ trim (render item) := by
    decide
  obtain ⟨hlines, -, -, hnumbers⟩ := splitOn_renderDocument_list hne hitems true 7
  exact ⟨⟨hne, hitems⟩, hlines.trans (by decide), hnumbers rfl⟩

end Chat

end Chatdown
