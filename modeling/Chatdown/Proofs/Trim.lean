import Chatdown.Text.Blank
import Mathlib.Data.List.Basic
import Mathlib.Data.List.TakeWhile

/-!
# What trimming keeps

Every text is a run of blank characters, a core that neither begins nor ends with
one, and another run of blank characters. The core is unique when it is not empty,
and trimming returns it. So trimming never touches a visible character.
-/

namespace Chatdown.Text

/-- The visible characters of a text, in order. -/
def visible (s : List Char) : List Char :=
  s.filter fun c => !isBlank c

/-- A text of blank characters only. -/
def AllBlank (s : List Char) : Prop :=
  ∀ c ∈ s, isBlank c = true

instance (s : List Char) : Decidable (AllBlank s) :=
  List.decidableBAll (fun c => isBlank c = true) s

/-- A text that neither begins nor ends with a blank character. -/
structure Tight (s : List Char) : Prop where
  /-- The first character is visible. -/
  head : ∀ c ∈ s.head?, isBlank c = false
  /-- The last character is visible. -/
  last : ∀ c ∈ s.getLast?, isBlank c = false

/-- The empty text has no visible character. -/
@[simp]
theorem visible_nil : visible [] = [] := rfl

/-- The visible characters of two texts in a row. -/
@[simp]
theorem visible_append (s t : List Char) : visible (s ++ t) = visible s ++ visible t :=
  List.filter_append s t

/-- The visible characters of many texts in a row. -/
theorem visible_flatten (texts : List (List Char)) :
    visible texts.flatten = (texts.map visible).flatten :=
  List.filter_flatten

/-- A blank first character is left out. -/
theorem visible_cons_of_blank {c : Char} (h : isBlank c = true) (s : List Char) :
    visible (c :: s) = visible s := by
  simp [visible, h]

/-- A visible first character is kept. -/
theorem visible_cons_of_not_blank {c : Char} (h : isBlank c = false) (s : List Char) :
    visible (c :: s) = c :: visible s := by
  simp [visible, h]

/-- The visible characters of a text are a subsequence of it. -/
theorem visible_sublist (s : List Char) : (visible s).Sublist s :=
  List.filter_sublist

/-- A text has no visible character exactly when all of it is blank. -/
theorem visible_eq_nil_iff {s : List Char} : visible s = [] ↔ AllBlank s := by
  simp [visible, AllBlank]

/-- The characters of a text that are visible are all of them when none is blank. -/
theorem visible_eq_self {s : List Char} (h : ∀ c ∈ s, isBlank c = false) : visible s = s := by
  simpa [visible] using h

/-- A text with a visible character is not blank. -/
theorem not_allBlank {s : List Char} {c : Char} (hc : c ∈ s) (h : isBlank c = false) :
    ¬AllBlank s := by
  intro hblank
  rw [hblank c hc] at h
  contradiction

/-- A visible character is not a newline. -/
theorem ne_newline_of_not_blank {c : Char} (h : isBlank c = false) : c ≠ '\n' := by
  rintro rfl
  rw [isBlank_newline] at h
  contradiction

/-- Two blank texts in a row are blank. -/
theorem AllBlank.append {s t : List Char} (hs : AllBlank s) (ht : AllBlank t) :
    AllBlank (s ++ t) := by
  intro c hc
  rcases List.mem_append.mp hc with hc | hc
  · exact hs c hc
  · exact ht c hc

/-- What a text starts with until its first visible character is blank. -/
theorem allBlank_takeWhile (s : List Char) : AllBlank (s.takeWhile isBlank) :=
  fun _ hc => List.mem_takeWhile_imp hc

/-- Trimming the end cuts a blank run off. -/
theorem exists_trimEnd (s : List Char) :
    ∃ back, s = trimEnd s ++ back ∧ AllBlank back := by
  refine ⟨(s.reverse.takeWhile isBlank).reverse, ?_, ?_⟩
  · rw [trimEnd, ← List.reverse_append, List.takeWhile_append_dropWhile, List.reverse_reverse]
  · intro c hc
    exact allBlank_takeWhile _ c (List.mem_reverse.mp hc)

/-- A text is its trimmed core between two blank runs. -/
theorem exists_trim (s : List Char) :
    ∃ front back, s = front ++ trim s ++ back ∧ AllBlank front ∧ AllBlank back := by
  obtain ⟨back, hs, hback⟩ := exists_trimEnd (trimStart s)
  refine ⟨s.takeWhile isBlank, back, ?_, allBlank_takeWhile s, hback⟩
  rw [List.append_assoc, trim, ← hs, trimStart, List.takeWhile_append_dropWhile]

/-- Trimming leaves a stretch of the text. -/
theorem trim_isInfix (s : List Char) : trim s <:+: s := by
  obtain ⟨front, back, hs, -, -⟩ := exists_trim s
  exact ⟨front, back, hs.symm⟩

/-- What is left after the leading blank run begins with a visible character. -/
theorem head_dropWhile_not_blank {s : List Char} {c : Char}
    (h : c ∈ (s.dropWhile isBlank).head?) : isBlank c = false := by
  have hd := List.head?_dropWhile_not isBlank s
  rw [Option.mem_def.mp h] at hd
  exact hd

/-- The trimmed text neither begins nor ends with a blank character. -/
theorem tight_trim (s : List Char) : Tight (trim s) := by
  constructor
  · intro c hc
    obtain ⟨back, hs, -⟩ := exists_trimEnd (trimStart s)
    apply head_dropWhile_not_blank (s := s)
    change c ∈ (trimStart s).head?
    rw [hs, List.head?_append, ← trim, Option.mem_def.mp hc]
    rfl
  · intro c hc
    rw [trim, trimEnd, List.getLast?_reverse] at hc
    exact head_dropWhile_not_blank hc

/-- Leading blank characters do not outlast trimming the start. -/
theorem dropWhile_append_of_allBlank {front : List Char} (h : AllBlank front) (s : List Char) :
    (front ++ s).dropWhile isBlank = s.dropWhile isBlank := by
  rw [List.dropWhile_append_of_pos h]

/-- A text that begins with a visible character keeps its start. -/
theorem dropWhile_eq_self {s : List Char} (h : ∀ c ∈ s.head?, isBlank c = false) :
    s.dropWhile isBlank = s := by
  cases s with
  | nil => rfl
  | cons c rest => simp [h c rfl]

/-- A blank run at either end of a tight core is all that trimming removes. -/
theorem trim_of_tight {front core back : List Char} (hfront : AllBlank front)
    (hcore : Tight core) (hback : AllBlank back) : trim (front ++ core ++ back) = core := by
  cases core with
  | nil =>
    have hall : AllBlank (front ++ back) := hfront.append hback
    rw [List.append_nil, trim, trimStart, ← List.append_nil (front ++ back),
      dropWhile_append_of_allBlank hall]
    rfl
  | cons c rest =>
    have hstart : trimStart (front ++ c :: rest ++ back) = c :: rest ++ back := by
      rw [trimStart, List.append_assoc, dropWhile_append_of_allBlank hfront]
      exact dropWhile_eq_self (fun d hd => hcore.head d hd)
    have hrev : AllBlank back.reverse := fun d hd => hback d (List.mem_reverse.mp hd)
    rw [trim, hstart, trimEnd, List.reverse_append, dropWhile_append_of_allBlank hrev,
      dropWhile_eq_self, List.reverse_reverse]
    intro d hd
    rw [List.head?_reverse] at hd
    exact hcore.last d hd

/-- Trimming leaves a tight text as it is. -/
theorem trim_eq_self {s : List Char} (h : Tight s) : trim s = s := by
  have hnil : AllBlank [] := by decide
  have htrim : trim ([] ++ s ++ []) = s := trim_of_tight hnil h hnil
  rwa [List.nil_append, List.append_nil] at htrim

/-- A text without blank characters is tight. -/
theorem tight_of_visible {s : List Char} (h : ∀ c ∈ s, isBlank c = false) : Tight s where
  head := fun c hc => h c (List.mem_of_head? hc)
  last := fun c hc => h c (List.mem_of_getLast? hc)

/-- A text is tight when it begins and ends with the tight texts it is put together
from, provided that neither is empty. -/
theorem Tight.append {s t : List Char} (hs : Tight s) (ht : Tight t) (hs0 : s ≠ [])
    (ht0 : t ≠ []) (between : List Char) : Tight (s ++ between ++ t) := by
  constructor
  · intro c hc
    rw [List.append_assoc, List.head?_append_of_ne_nil _ hs0] at hc
    exact hs.head c hc
  · intro c hc
    rw [List.getLast?_append_of_ne_nil _ ht0] at hc
    exact ht.last c hc

/-- Tight texts that are not empty, whatever is between them, make a text that is neither
empty nor begins or ends with a blank character. -/
theorem tight_intercalate {sep : List Char} {texts : List (List Char)} (hne : texts ≠ [])
    (h : ∀ text ∈ texts, text ≠ [] ∧ Tight text) :
    sep.intercalate texts ≠ [] ∧ Tight (sep.intercalate texts) := by
  induction texts with
  | nil => exact absurd rfl hne
  | cons text rest ih =>
    obtain ⟨⟨hfilled, htight⟩, hrest⟩ := List.forall_mem_cons.mp h
    cases rest with
    | nil =>
      rw [List.intercalate_singleton]
      exact ⟨hfilled, htight⟩
    | cons next rest =>
      obtain ⟨hnext, htail⟩ := ih (List.cons_ne_nil next rest) hrest
      rw [List.intercalate_cons_cons]
      exact ⟨List.append_ne_nil_of_right_ne_nil _ hnext, htight.append htail hfilled hnext sep⟩

/-- Trimming keeps every visible character. -/
@[simp]
theorem visible_trim (s : List Char) : visible (trim s) = visible s := by
  obtain ⟨front, back, hs, hfront, hback⟩ := exists_trim s
  have hv := congrArg visible hs
  rw [visible_append, visible_append, visible_eq_nil_iff.mpr hfront,
    visible_eq_nil_iff.mpr hback, List.nil_append, List.append_nil] at hv
  exact hv.symm

/-- Trimming leaves nothing exactly of the blank texts. -/
theorem trim_eq_nil_iff {s : List Char} : trim s = [] ↔ AllBlank s := by
  constructor
  · intro h
    rw [← visible_eq_nil_iff, ← visible_trim, h, visible_nil]
  · intro h
    have hnil : AllBlank [] := fun _ hc => absurd hc List.not_mem_nil
    have ht : trim (s ++ [] ++ []) = [] := trim_of_tight h ⟨by simp, by simp⟩ hnil
    rwa [List.append_nil, List.append_nil] at ht

end Chatdown.Text
