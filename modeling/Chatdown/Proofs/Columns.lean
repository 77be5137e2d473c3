import Chatdown.Chat.Columns
import Mathlib.Data.List.Basic

/-!
# What column alignment keeps

Alignment takes a text apart at newlines and tabs, adds spaces, and puts the
newlines back. So it keeps every character that is neither a space nor a tab, in
its place, whatever the widths are.
-/

namespace Chatdown.Chat

variable {p : Char → Bool}

/-- Picking characters from texts joined by a separator joins what is picked. -/
theorem filter_intercalate (sep : List Char) (texts : List (List Char)) :
    (sep.intercalate texts).filter p = (sep.filter p).intercalate (texts.map (·.filter p)) := by
  induction texts with
  | nil => rfl
  | cons text rest ih =>
    cases rest with
    | nil => simp
    | cons next rest => simp_all [List.intercalate_cons_cons]

/-- A character that is not in the separator is in one of the texts that are joined. -/
theorem mem_intercalate_iff {sep : List Char} {c : Char} (h : c ∉ sep)
    {texts : List (List Char)} : c ∈ sep.intercalate texts ↔ ∃ text ∈ texts, c ∈ text := by
  induction texts with
  | nil => simp
  | cons text rest ih =>
    cases rest with
    | nil => simp
    | cons next rest =>
      simp only [List.intercalate_cons_cons, List.mem_append, h, or_false, ih,
        List.exists_mem_cons_iff]

/-- Texts joined by nothing stand in a row. -/
theorem intercalate_nil (texts : List (List Char)) : [].intercalate texts = texts.flatten := by
  induction texts with
  | nil => rfl
  | cons text rest ih =>
    cases rest with
    | nil => simp
    | cons next rest => simp_all [List.intercalate_cons_cons]

/-- Texts that tabs separate have the newlines of the texts. -/
theorem count_newline_tabbed (texts : List (List Char)) :
    (['\t'].intercalate texts).count '\n' = texts.flatten.count '\n' := by
  have htab : ['\t'].filter (· == '\n') = [] := by decide
  rw [List.count_eq_length_filter, List.count_eq_length_filter, filter_intercalate, htab,
    intercalate_nil, List.filter_flatten]

/-- Padding adds spaces only. -/
theorem filter_pad (space : p ' ' = false) (width : Nat) (cell : List Char) :
    (pad width cell).filter p = cell.filter p := by
  simp [pad, List.filter_append, space]

/-- A cell that another one follows is padded to the width of its column, which is
none where the widths have run out. -/
theorem alignCells_cons_cons (widths : List Nat) (cell next : List Char)
    (rest : List (List Char)) :
    alignCells widths (cell :: next :: rest) =
      pad (widths.headD 0) cell ++ alignCells widths.tail (next :: rest) := by
  cases widths with
  | nil => simp [alignCells, pad]
  | cons width widths => simp [alignCells]

/-- An aligned line holds its cells in order, and spaces. -/
theorem filter_alignCells (space : p ' ' = false) (widths : List Nat) (cells : List (List Char)) :
    (alignCells widths cells).filter p = (cells.map (·.filter p)).flatten := by
  induction cells generalizing widths with
  | nil => simp [alignCells]
  | cons cell rest ih =>
    cases rest with
    | nil => simp [alignCells]
    | cons next rest =>
      simp only [alignCells_cons_cons, List.filter_append, filter_pad space, ih, List.map_cons,
        List.flatten_cons]

/-- Taken apart at its tabs and aligned, a line loses its tabs and gains spaces. -/
theorem filter_alignCells_splitOn (space : p ' ' = false) (tab : p '\t' = false)
    (widths : List Nat) (line : List Char) :
    (alignCells widths (line.splitOn '\t')).filter p = line.filter p := by
  have hline : line.filter p = ((line.splitOn '\t').map (·.filter p)).flatten := by
    have hjoin : ['\t'].intercalate (line.splitOn '\t') = line := List.intercalate_splitOn '\t'
    conv_lhs => rw [← hjoin]
    rw [filter_intercalate, List.filter_singleton, tab]
    exact intercalate_nil _
  rw [filter_alignCells space, hline]

/-- Alignment keeps all characters but spaces and tabs, in order. -/
theorem filter_alignColumns (space : p ' ' = false) (tab : p '\t' = false) (text : List Char) :
    (alignColumns text).filter p = text.filter p := by
  have hjoin : ['\n'].intercalate (text.splitOn '\n') = text := List.intercalate_splitOn '\n'
  conv_rhs => rw [← hjoin]
  rw [alignColumns, grid, filter_intercalate, filter_intercalate, List.map_map, List.map_map]
  congr 1
  apply List.map_congr_left
  intro line _
  exact filter_alignCells_splitOn space tab _ line

end Chatdown.Chat
