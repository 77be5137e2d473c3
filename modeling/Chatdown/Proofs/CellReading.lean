import Chatdown.Proofs.Geometry
import Mathlib.Data.List.Infix
import Mathlib.Data.List.SplitBy

/-!
# Reading cells back from an aligned line

Alignment takes the tabs out of a line and puts spaces in their place, as many as the other
lines ask for. A line can be read all the same: where no cell is empty, begins or ends with
a space or has two of them in a row, each longest run of two spaces or more stands between
two cells, and the cells are what is between such runs. So nothing has to be known of the
widths, and no two such texts of more than one column look alike when they are aligned.
-/

namespace Chatdown.Chat

/-- The runs of a line, each as long as it can be, of spaces only or without any space. -/
def runs (line : List Char) : List (List Char) :=
  line.splitBy fun a b => (a == ' ') == (b == ' ')

/-- Whether a run is two spaces or more. -/
def isGap (run : List Char) : Bool :=
  2 ≤ run.length && run.all (· == ' ')

/-- The cells of a line are what stands between the gaps among its runs. -/
def readCells (line : List Char) : List (List Char) :=
  ((runs line).splitOnP isGap).map List.flatten

/-- A cell that cannot be taken for a part of a gap, nor for two cells. -/
structure Solid (cell : List Char) : Prop where
  /-- It is not empty. -/
  filled : cell ≠ []
  /-- It does not begin with a space. -/
  head : cell.head? ≠ some ' '
  /-- It does not end with a space. -/
  last : cell.getLast? ≠ some ' '
  /-- It has no two spaces in a row. -/
  single : ¬[' ', ' '] <:+: cell

instance : DecidablePred Solid := fun cell =>
  decidable_of_iff
    (cell ≠ [] ∧ cell.head? ≠ some ' ' ∧ cell.getLast? ≠ some ' ' ∧ ¬[' ', ' '] <:+: cell)
    ⟨fun ⟨filled, head, last, single⟩ => ⟨filled, head, last, single⟩,
      fun ⟨filled, head, last, single⟩ => ⟨filled, head, last, single⟩⟩

/-- A text is legible when all cells are solid that share their line with others. -/
def Legible (text : List Char) : Prop :=
  ∀ cells ∈ grid text, 1 < cells.length → ∀ cell ∈ cells, Solid cell

/-- A text is tabular when each line of it has more than one cell. -/
def Tabular (text : List Char) : Prop :=
  ∀ cells ∈ grid text, 1 < cells.length

instance : DecidablePred Legible := fun text =>
  inferInstanceAs (Decidable (∀ cells ∈ grid text, 1 < cells.length → ∀ cell ∈ cells, Solid cell))

instance : DecidablePred Tabular := fun text =>
  inferInstanceAs (Decidable (∀ cells ∈ grid text, 1 < cells.length))

/-- The runs of two texts in a row are those of each when a space meets something else
between them. -/
theorem runs_append {front back : List Char}
    (h : ∀ a ∈ front.getLast?, ∀ b ∈ back.head?, (a == ' ') ≠ (b == ' ')) :
    runs (front ++ back) = runs front ++ runs back :=
  List.splitBy_append fun a ha b hb => beq_eq_false_iff_ne.mpr (h a ha b hb)

/-- Spaces in a row are one run. -/
theorem runs_replicate {n : Nat} (h : n ≠ 0) :
    runs (List.replicate n ' ') = [List.replicate n ' '] :=
  List.splitBy_of_isChain (mt (List.replicate_eq_nil_iff ' ').mp h)
    (List.isChain_replicate_of_rel n rfl)

/-- A gap holds two spaces in a row. -/
theorem spaces_infix_of_isGap {run : List Char} (h : isGap run = true) :
    [' ', ' '] <:+: run := by
  rw [isGap, Bool.and_eq_true, decide_eq_true_eq, List.all_eq_true] at h
  obtain ⟨hlength, hspaces⟩ := h
  have hrun : run = List.replicate run.length ' ' :=
    List.eq_replicate_of_mem fun c hc => beq_iff_eq.mp (hspaces c hc)
  have hsplit : run.length = 2 + (run.length - 2) := by omega
  rw [hrun, hsplit, List.replicate_add]
  exact (List.prefix_append _ _).isInfix

/-- No run of a solid cell is a gap. -/
theorem isGap_of_mem_runs {cell run : List Char} (h : Solid cell) (hrun : run ∈ runs cell) :
    isGap run = false := by
  have hinfix : run <:+: cell := by
    have hflatten : (runs cell).flatten = cell := List.flatten_splitBy _ cell
    rw [← hflatten]
    exact List.infix_of_mem_flatten hrun
  rw [← Bool.not_eq_true]
  intro hgap
  exact h.single ((spaces_infix_of_isGap hgap).trans hinfix)

/-- A solid cell that stands alone is read as it is. -/
theorem readCells_of_solid {cell : List Char} (h : Solid cell) : readCells cell = [cell] := by
  rw [readCells, List.splitOnP_eq_singleton fun _ hrun => isGap_of_mem_runs h hrun,
    List.map_singleton, runs, List.flatten_splitBy]

/-- A solid cell is read first when two spaces or more part it from what follows. -/
theorem readCells_append {cell rest : List Char} {n : Nat} (h : Solid cell) (hn : 2 ≤ n)
    (hrest : rest.head? ≠ some ' ') :
    readCells (cell ++ List.replicate n ' ' ++ rest) = cell :: readCells rest := by
  have hn0 : n ≠ 0 := by omega
  have hgap : isGap (List.replicate n ' ') = true := by
    rw [isGap, List.length_replicate, List.all_replicate]
    simp [hn]
  -- The gap is a run of its own, since neither the cell nor what follows touches it with a
  -- space.
  have hopens : runs (cell ++ (List.replicate n ' ' ++ rest)) =
      runs cell ++ runs (List.replicate n ' ' ++ rest) := by
    refine runs_append fun a ha b hb => ?_
    have hspace : b = ' ' := by
      rw [List.head?_append, List.head?_replicate, if_neg hn0] at hb
      exact (Option.some.inj hb).symm
    have hother : a ≠ ' ' := by
      rintro rfl
      exact h.last ha
    rw [hspace, beq_eq_false_iff_ne.mpr hother]
    decide
  have hcloses : runs (List.replicate n ' ' ++ rest) = List.replicate n ' ' :: runs rest := by
    rw [runs_append, runs_replicate hn0, List.singleton_append]
    intro a ha b hb
    have hspace : a = ' ' := List.eq_of_mem_replicate (List.mem_of_getLast? ha)
    have hother : b ≠ ' ' := by
      rintro rfl
      exact hrest hb
    rw [hspace, beq_eq_false_iff_ne.mpr hother]
    decide
  rw [readCells, List.append_assoc, hopens, hcloses,
    List.splitOnP_append_cons_of_forall_mem (fun _ hrun => isGap_of_mem_runs h hrun) _ hgap,
    List.map_cons, runs, List.flatten_splitBy, readCells, runs]

/-- A line of solid cells is read back whatever its columns measure, as long as each is two
wider than the cell in it. -/
theorem readCells_setLine {width : Nat → Nat} {cells : List (List Char)} (hne : cells ≠ [])
    (solid : ∀ cell ∈ cells, Solid cell)
    (fits : ∀ column cell, cells.dropLast[column]? = some cell → cell.length + 2 ≤ width column) :
    readCells (setLine width cells) = cells := by
  -- The cells behind the first one are set with the widths of the columns behind the first.
  induction cells generalizing width with
  | nil => exact absurd rfl hne
  | cons cell rest ih =>
    obtain ⟨hcell, hrest⟩ := List.forall_mem_cons.mp solid
    cases rest with
    | nil => exact readCells_of_solid hcell
    | cons next rest =>
      have hwidth : cell.length + 2 ≤ width 0 := fits 0 cell rfl
      have hgap : 2 ≤ width 0 - cell.length := by omega
      have hnext : (setLine (fun column => width (column + 1)) (next :: rest)).head? ≠
          some ' ' := by
        obtain ⟨back, hback⟩ := exists_setLine_cons (fun column => width (column + 1)) next rest
        have hsolid : Solid next := hrest next List.mem_cons_self
        rw [hback, List.head?_append_of_ne_nil _ hsolid.filled]
        exact hsolid.head
      have htail : readCells (setLine (fun column => width (column + 1)) (next :: rest)) =
          next :: rest := by
        refine ih (List.cons_ne_nil next rest) hrest fun column other hother => ?_
        exact fits (column + 1) other hother
      rw [setLine_cons_cons, List.rightpad, readCells_append hcell hgap hnext, htail]

/-- A line among others is read back when it has solid cells, whatever the others hold. -/
theorem readCells_of_mem {lines : List (List (List Char))} {cells : List (List Char)}
    (h : cells ∈ lines) (hne : cells ≠ []) (solid : ∀ cell ∈ cells, Solid cell) :
    readCells (setLine (columnWidth lines) cells) = cells :=
  readCells_setLine hne solid fun _ _ hcell =>
    length_add_two_le_columnWidth (mem_followed_iff.mpr ⟨cells, h, hcell⟩)

/-- Texts of the same cells are the same. -/
theorem grid_injective {text other : List Char} (h : grid text = grid other) : text = other := by
  have hjoin : ∀ t : List Char,
      ['\n'].intercalate ((grid t).map (['\t'].intercalate ·)) = t := by
    intro t
    have hlines : (grid t).map (['\t'].intercalate ·) = t.splitOn '\n' := by
      rw [grid, List.map_map]
      exact List.map_id'' (fun line => List.intercalate_splitOn '\t') _
    rw [hlines]
    exact List.intercalate_splitOn '\n'
  rw [← hjoin text, h, hjoin other]

/-- Each line of a legible text that has more than one cell is read back from the aligned
text. -/
theorem forall₂_readCells {text : List Char} (h : Legible text) :
    List.Forall₂ (fun cells line => 1 < cells.length → readCells line = cells)
      (grid text) ((alignColumns text).splitOn '\n') := by
  rw [splitOn_alignColumns, List.forall₂_map_right_iff, List.forall₂_same]
  intro cells hcells hlength
  exact readCells_of_mem hcells (List.ne_nil_of_length_pos (by omega)) (h cells hcells hlength)

/-- All of a legible text of more than one column is read back from the aligned text. -/
theorem map_readCells {text : List Char} (h : Legible text) (htabular : Tabular text) :
    ((alignColumns text).splitOn '\n').map readCells = grid text := by
  rw [splitOn_alignColumns, List.map_map]
  refine (List.map_congr_left fun cells hcells => ?_).trans (List.map_id _)
  have hlength := htabular cells hcells
  exact readCells_of_mem hcells (List.ne_nil_of_length_pos (by omega)) (h cells hcells hlength)

/-- The cells of an aligned line are found between its gaps, the longest runs of two spaces
or more, if there is more than one and none of them is empty, begins or ends with a space or
has two spaces in a row. What the other lines are and how wide the columns are makes no
difference. So two such texts are the same if they look alike when they are aligned and all
their lines have more than one cell. -/
theorem readCells_alignColumns {text : List Char} (h : Legible text) :
    List.Forall₂ (fun cells line => 1 < cells.length → readCells line = cells)
        (grid text) ((alignColumns text).splitOn '\n') ∧
      ∀ other, Legible other → Tabular text → Tabular other →
        alignColumns text = alignColumns other → text = other := by
  refine ⟨forall₂_readCells h, fun other hother htext hcolumns heq => ?_⟩
  apply grid_injective
  rw [← map_readCells h htext, ← map_readCells hother hcolumns, heq]

/-- A text with a ragged line, a line of one cell that is not solid, and a cell of two
words. -/
def raggedText : List Char := "a b\tc\n  alone  here\nlonger\td\te".toList

/-- A text of two columns, in which the first column is wide. -/
def wideText : List Char := "a\tb\nlonger\tc".toList

/-- A text of two columns, which differs in one letter. -/
def changedText : List Char := "a\tb\nlonger\td".toList

/-- The ragged text is read back, and the wide one does not look like the changed one. -/
theorem readCells_raggedText :
    Legible raggedText ∧
      List.Forall₂ (fun cells line => 1 < cells.length → readCells line = cells)
        (grid raggedText) ((alignColumns raggedText).splitOn '\n') ∧
      Legible wideText ∧ Legible changedText ∧ Tabular wideText ∧ Tabular changedText ∧
      alignColumns wideText ≠ alignColumns changedText := by
  have hragged : Legible raggedText := by decide
  have hwide : Legible wideText := by decide
  have hchanged : Legible changedText := by decide
  have hcolumns : Tabular wideText ∧ Tabular changedText := by decide
  have hne : wideText ≠ changedText := by decide
  refine ⟨hragged, (readCells_alignColumns hragged).1, hwide, hchanged, hcolumns.1, hcolumns.2, ?_⟩
  exact mt ((readCells_alignColumns hwide).2 changedText hchanged hcolumns.1 hcolumns.2) hne

/-- A line of one cell may look like a line of two. -/
example : alignColumns "a\tb".toList = alignColumns "a  b".toList := by decide

end Chatdown.Chat
