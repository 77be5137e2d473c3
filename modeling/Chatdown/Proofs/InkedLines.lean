import Chatdown.Proofs.Trim

/-!
# Lines that are not blank

The lines of a text that have something visible on them can be counted while the text is
written from its start to its end, by a pen that remembers how many there are so far and
whether the current line is one of them. A newline begins a fresh line, and a visible
character counts its line unless that is counted. So the count for texts in a row follows
from their parts, and trimming a text leaves its count as it is.
-/

namespace Chatdown.Text

/-- Whether something visible is on a line. -/
def isInked (line : List Char) : Bool :=
  line.any fun c => !isBlank c

/-- A line has something visible when its first character is visible or there is
something visible behind it. -/
theorem isInked_cons (c : Char) (rest : List Char) :
    isInked (c :: rest) = (!isBlank c || isInked rest) :=
  List.any_cons

/-- The number of lines of a text that are not blank. -/
def inkedLines (text : List Char) : Nat :=
  (text.splitOn '\n').countP isInked

/-- What is known of a text while it is written. -/
@[ext]
structure Pen where
  /-- The number of lines so far that are not blank. -/
  lines : Nat
  /-- Whether the current line is one of them. -/
  inked : Bool
deriving DecidableEq, Repr

namespace Pen

/-- Nothing is written. -/
def fresh : Pen := ⟨0, false⟩

/-- Something visible goes on the current line. -/
def mark (pen : Pen) : Pen :=
  ⟨if pen.inked then pen.lines else pen.lines + 1, true⟩

/-- The next line begins. -/
def feed (pen : Pen) : Pen :=
  ⟨pen.lines, false⟩

/-- One character is written. -/
def put (pen : Pen) (c : Char) : Pen :=
  if c = '\n' then pen.feed else if isBlank c then pen else pen.mark

/-- A text is written. -/
def write (pen : Pen) (text : List Char) : Pen :=
  text.foldl put pen

/-- Something is written that begins and ends with a mark and has so many lines that are
not blank, or one if it has none. -/
def enclose (pen : Pen) (lines : Nat) : Pen :=
  ⟨pen.mark.lines + (lines - 1), true⟩

variable (pen : Pen) (text : List Char)

/-- One character after another. -/
theorem write_cons (c : Char) : pen.write (c :: text) = (pen.put c).write text := rfl

/-- One text after another. -/
theorem write_append (more : List Char) :
    pen.write (text ++ more) = (pen.write text).write more :=
  List.foldl_append

/-- A newline begins a line. -/
theorem put_newline : pen.put '\n' = pen.feed := if_pos rfl

/-- A visible character marks its line. -/
theorem put_of_not_blank {c : Char} (h : isBlank c = false) : pen.put c = pen.mark := by
  rw [put, if_neg (ne_newline_of_not_blank h), if_neg (by rw [h]; decide)]

/-- A blank character other than a newline leaves no mark. -/
theorem put_of_blank {c : Char} (h : isBlank c = true) (hne : c ≠ '\n') : pen.put c = pen := by
  rw [put, if_neg hne, if_pos h]

/-- What is marked twice is marked. -/
theorem mark_mark : pen.mark.mark = pen.mark := rfl

/-- A mark takes no line away. -/
theorem lines_le_mark : pen.lines ≤ pen.mark.lines := by
  rw [mark]
  cases pen.inked
  · exact Nat.le_succ pen.lines
  · exact Nat.le_refl pen.lines

/-- The lines that a text adds: all that are not blank, save its first one when the
current line is not blank either. -/
theorem lines_write {first : List Char} {others : List (List Char)}
    (h : text.splitOn '\n' = first :: others) :
    (pen.write text).lines =
      pen.lines + (if isInked first && !pen.inked then 1 else 0) + others.countP isInked := by
  induction text generalizing pen first others with
  | nil =>
    obtain ⟨rfl, rfl⟩ := List.cons.inj h
    rfl
  | cons c rest ih =>
    obtain ⟨next, more, hrest⟩ := List.exists_cons_of_ne_nil (List.splitOn_ne_nil '\n' rest)
    rw [List.splitOn_cons_eq_if_modifyHead, hrest] at h
    rw [write_cons, ih (pen.put c) hrest]
    by_cases hnewline : c = '\n'
    · rw [if_pos (beq_iff_eq.mpr hnewline)] at h
      obtain ⟨rfl, rfl⟩ := List.cons.inj h
      have hempty : isInked [] = false := rfl
      rw [hnewline, put_newline, List.countP_cons, hempty]
      cases isInked next with
      | false => rfl
      | true => exact Nat.add_right_comm pen.lines 1 _
    · rw [if_neg (mt beq_iff_eq.mp hnewline), List.modifyHead_cons] at h
      obtain ⟨rfl, rfl⟩ := List.cons.inj h
      cases hblank : isBlank c with
      | true =>
        rw [put_of_blank pen hblank hnewline, isInked_cons, hblank]
        rfl
      | false =>
        rw [put_of_not_blank pen hblank, isInked_cons, hblank, mark]
        cases pen.inked <;> simp

/-- Lines that the pen has had before are added to those of the text. -/
theorem write_add (n lines : Nat) (inked : Bool) :
    write ⟨n + lines, inked⟩ text =
      ⟨n + (write ⟨lines, inked⟩ text).lines, (write ⟨lines, inked⟩ text).inked⟩ := by
  induction text generalizing lines inked with
  | nil => rfl
  | cons c rest ih =>
    rw [write_cons, write_cons, put, put]
    split
    · exact ih lines false
    split
    · exact ih lines inked
    · rw [mark, mark]
      cases inked with
      | false => exact ih (lines + 1) true
      | true => exact ih lines true

/-- A text on one line marks it, unless the text is blank. -/
theorem write_of_newline_not_mem {text : List Char} (h : '\n' ∉ text) :
    pen.write text = if isInked text then pen.mark else pen := by
  induction text generalizing pen with
  | nil => rfl
  | cons c rest ih =>
    obtain ⟨hc, hrest⟩ := not_or.mp (mt List.mem_cons.mpr h)
    rw [write_cons, ih (pen.put c) hrest, isInked_cons]
    cases hblank : isBlank c with
    | true =>
      rw [put_of_blank pen hblank (Ne.symm hc)]
      rfl
    | false =>
      rw [put_of_not_blank pen hblank, mark_mark, ite_self, Bool.not_false, Bool.true_or,
        if_pos rfl]

/-- A blank text adds no line. -/
theorem lines_write_of_allBlank {text : List Char} (h : AllBlank text) :
    (pen.write text).lines = pen.lines := by
  induction text generalizing pen with
  | nil => rfl
  | cons c rest ih =>
    rw [write_cons, ih _ fun d hd => h d (List.mem_cons_of_mem c hd), put,
      if_pos (h c List.mem_cons_self)]
    split <;> rfl

/-- A blank text leaves a fresh pen as it is. -/
theorem write_fresh_of_allBlank {text : List Char} (h : AllBlank text) :
    fresh.write text = fresh := by
  induction text with
  | nil => rfl
  | cons c rest ih =>
    have hput : fresh.put c = fresh := by
      rw [put, if_pos (h c List.mem_cons_self)]
      exact ite_self _
    rw [write_cons, hput, ih fun d hd => h d (List.mem_cons_of_mem c hd)]

/-- Trimming a text takes no line away that is not blank. -/
theorem lines_write_trim : (fresh.write (trim text)).lines = (fresh.write text).lines := by
  obtain ⟨front, back, htext, hfront, hback⟩ := exists_trim text
  conv_rhs => rw [htext]
  rw [write_append, write_append, write_fresh_of_allBlank hfront, lines_write_of_allBlank _ hback]

/-- A tight text that is not empty ends on a line that is marked. -/
theorem inked_write_of_tight {text : List Char} (h : Tight text) (hne : text ≠ []) :
    (pen.write text).inked = true := by
  obtain hnil | ⟨front, c, rfl⟩ := List.eq_nil_or_concat' text
  · exact absurd hnil hne
  · rw [write_append, write_cons, put_of_not_blank _ (h.last c List.getLast?_concat)]
    rfl

/-- A tight text that is not empty goes on with a line that is marked. -/
theorem write_of_tight {text : List Char} (h : Tight text) (hne : text ≠ []) (n : Nat) :
    write ⟨n, true⟩ text = ⟨n + ((fresh.write text).lines - 1), true⟩ := by
  have hinked : (write ⟨n, true⟩ text).inked = true := inked_write_of_tight _ h hne
  have hlines : (write ⟨n, true⟩ text).lines = n + ((fresh.write text).lines - 1) := by
    obtain ⟨c, rest, rfl⟩ := List.exists_cons_of_ne_nil hne
    have hc : isBlank c = false := h.head c rfl
    have hgoes := congrArg Pen.lines (write_add rest n 0 true)
    have hbegins := congrArg Pen.lines (write_add rest 1 0 true)
    rw [write_cons, write_cons, put_of_not_blank _ hc, put_of_not_blank _ hc]
    change (write ⟨n + 0, true⟩ rest).lines = n + ((write ⟨1 + 0, true⟩ rest).lines - 1)
    rw [hgoes, hbegins, Nat.add_sub_cancel_left]
  exact Pen.ext hlines hinked

/-- What stands trimmed between an opening and a closing on one line each, the opening
not blank, is enclosed. -/
theorem write_enclosed {opening closing : List Char} (hopening : '\n' ∉ opening)
    (hink : isInked opening = true) (hclosing : '\n' ∉ closing) :
    pen.write (opening ++ trim text ++ closing) = pen.enclose (fresh.write text).lines := by
  have hinside : pen.mark.write (trim text) = pen.enclose (fresh.write text).lines := by
    by_cases hnil : trim text = []
    · rw [← lines_write_trim, hnil]
      rfl
    · rw [← lines_write_trim]
      exact write_of_tight (tight_trim text) hnil pen.mark.lines
  have hend : (pen.enclose (fresh.write text).lines).mark = pen.enclose (fresh.write text).lines :=
    rfl
  rw [write_append, write_append, write_of_newline_not_mem _ hopening, if_pos hink, hinside,
    write_of_newline_not_mem _ hclosing, hend, ite_self]

end Pen

/-- The lines that are not blank are counted while a text is written. -/
theorem inkedLines_eq (text : List Char) : inkedLines text = (Pen.fresh.write text).lines := by
  obtain ⟨first, others, hsplit⟩ := List.exists_cons_of_ne_nil (List.splitOn_ne_nil '\n' text)
  rw [inkedLines, Pen.lines_write Pen.fresh text hsplit, hsplit, List.countP_cons]
  simp [Pen.fresh, Nat.add_comm]

end Chatdown.Text
