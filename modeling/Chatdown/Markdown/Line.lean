import Chatdown.Text.Ascii

/-!
# Reading a line

Block structure is read off the start of each line. A cursor stands somewhere in
a line and knows its column, where a tab reaches to the next multiple of four;
it may stand inside a tab of which some columns are used up. The recognisers say
what kind of block a line starts, seen from its first character that is no space
or tab. Every line ends in its newline.
-/

namespace Chatdown.Markdown

open Text

/-- A place in a line. -/
structure Cursor where
  /-- The rest of the line, its newline included. -/
  rest : List Char
  /-- The column of the place. -/
  column : Nat
  /-- Whether `rest` starts with a tab of which some columns are used up. -/
  inTab : Bool
deriving Repr

namespace Cursor

/-- The start of a line. -/
def ofLine (line : List Char) : Cursor :=
  ⟨line, 0, false⟩

/-- The number of columns to the next tab stop. -/
def toTabStop (cursor : Cursor) : Nat :=
  4 - cursor.column % 4

/-- Go past the spaces and tabs from a column on. -/
def skipBlanksFrom (column : Nat) : List Char → Cursor
  | ' ' :: rest => skipBlanksFrom (column + 1) rest
  | '\t' :: rest => skipBlanksFrom (column + (4 - column % 4)) rest
  | rest => ⟨rest, column, false⟩

/-- Go to the first character that is no space or tab. -/
def skipBlanks (cursor : Cursor) : Cursor :=
  skipBlanksFrom cursor.column cursor.rest

/-- The number of columns of white space ahead. -/
def indent (cursor : Cursor) : Nat :=
  cursor.skipBlanks.column - cursor.column

/-- Whether nothing but white space is left of the line. -/
def isBlank (cursor : Cursor) : Bool :=
  cursor.skipBlanks.rest.head? = some '\n'

/-- Go on by one character. -/
def next (cursor : Cursor) : Cursor :=
  match cursor.rest with
  | [] => cursor
  | '\t' :: rest => ⟨rest, cursor.column + cursor.toTabStop, false⟩
  | _ :: rest => ⟨rest, cursor.column + 1, false⟩

/-- Go on by some characters. -/
def advance : Nat → Cursor → Cursor
  | 0, cursor => cursor
  | count + 1, cursor => advance count cursor.next

/-- Go on by one column; a tab is left when its last column is used up. -/
def nextColumn (cursor : Cursor) : Cursor :=
  match cursor.rest with
  | [] => cursor
  | '\t' :: rest =>
    if cursor.toTabStop = 1 then ⟨rest, cursor.column + 1, false⟩
    else ⟨cursor.rest, cursor.column + 1, true⟩
  | _ :: rest => ⟨rest, cursor.column + 1, false⟩

/-- Go on by some columns. -/
def advanceColumns : Nat → Cursor → Cursor
  | 0, cursor => cursor
  | count + 1, cursor => advanceColumns count cursor.nextColumn

/-- Whether a space or tab is next. -/
def atBlank (cursor : Cursor) : Bool :=
  match cursor.rest with
  | c :: _ => isSpaceOrTab c
  | [] => false

/-- Go on by one column when a space or tab is next. -/
def skipOneBlank (cursor : Cursor) : Cursor :=
  if cursor.atBlank then cursor.nextColumn else cursor

/-- Go on over at most so many columns of spaces and tabs. -/
def skipUpTo : Nat → Cursor → Cursor
  | 0, cursor => cursor
  | count + 1, cursor =>
    if cursor.atBlank then skipUpTo count cursor.nextColumn else cursor

/-- Go to the newline. -/
def toEnd (cursor : Cursor) : Cursor :=
  ⟨['\n'], cursor.column, false⟩

/-- The rest of the line as content. What is left of a tab in use becomes
spaces. -/
def content (cursor : Cursor) : List Char :=
  if cursor.inTab then
    List.replicate cursor.toTabStop ' ' ++ cursor.rest.drop 1
  else cursor.rest

/-- A column step never makes the rest of the line longer. -/
theorem length_nextColumn_le (cursor : Cursor) :
    cursor.nextColumn.rest.length ≤ cursor.rest.length := by
  unfold nextColumn
  split
  · simp_all
  · rename_i rest h
    split <;> simp [h]
  · rename_i h
    simp [h]

/-- Nor do several. -/
theorem length_advanceColumns_le (count : Nat) (cursor : Cursor) :
    (advanceColumns count cursor).rest.length ≤ cursor.rest.length := by
  induction count generalizing cursor with
  | zero => exact Nat.le_refl _
  | succ count ih => exact Nat.le_trans (ih _) (length_nextColumn_le cursor)

/-- Nor does the step over one blank. -/
theorem length_skipOneBlank_le (cursor : Cursor) :
    cursor.skipOneBlank.rest.length ≤ cursor.rest.length := by
  unfold skipOneBlank
  split
  · exact length_nextColumn_le cursor
  · exact Nat.le_refl _

/-- Nor does the step over the blanks. -/
theorem length_skipBlanksFrom_le (column : Nat) (rest : List Char) :
    (skipBlanksFrom column rest).rest.length ≤ rest.length := by
  fun_induction skipBlanksFrom column rest with
  | case1 _ _ ih => exact Nat.le_trans ih (Nat.le_succ _)
  | case2 _ _ ih => exact Nat.le_trans ih (Nat.le_succ _)
  | case3 => exact Nat.le_refl _

/-- Nor does the step over a bounded number of blanks. -/
theorem length_skipUpTo_le (count : Nat) (cursor : Cursor) :
    (skipUpTo count cursor).rest.length ≤ cursor.rest.length := by
  induction count generalizing cursor with
  | zero => exact Nat.le_refl _
  | succ count ih =>
    unfold skipUpTo
    split
    · exact Nat.le_trans (ih _) (length_nextColumn_le cursor)
    · exact Nat.le_refl _

/-- A character step leaves one character less, if there is one. -/
theorem length_next (cursor : Cursor) :
    cursor.next.rest.length = cursor.rest.length - 1 := by
  unfold next
  split <;> rename_i h <;> simp [h]

/-- Several character steps leave as many characters less. -/
theorem length_advance (count : Nat) (cursor : Cursor) :
    (advance count cursor).rest.length = cursor.rest.length - count := by
  induction count generalizing cursor with
  | zero => rfl
  | succ count ih =>
    simp only [advance, ih, length_next]
    omega

end Cursor

/-- The level of a heading that starts with number signs, and what follows its
opening marks: a space, a tab or the end of the line has to. -/
def headingMarks (s : List Char) : Option (Nat × List Char) :=
  let level := (s.takeWhile (· = '#')).length
  let rest := s.dropWhile (· = '#')
  if 1 ≤ level ∧ level ≤ 6 then
    match rest with
    | c :: _ => if isSpaceOrTab c || c = '\n' then some (level, rest) else none
    | [] => none
  else none

/-- The text of a heading from what follows its opening marks: trimmed, and
without the closing marks that a space or tab stands before. -/
def headingText (s : List Char) : List Char :=
  let text := trimSpacesEnd s
  let marks := text.reverse.takeWhile (· = '#')
  let before := text.reverse.dropWhile (· = '#')
  let kept :=
    match marks, before with
    | _ :: _, c :: _ => if isSpaceOrTab c then trimSpacesEnd before.reverse else text
    | _, _ => text
  kept.dropWhile isSpaceOrTab

/-- A fence that opens a code block. -/
structure Fence where
  /-- A backtick or a tilde. -/
  mark : Char
  /-- How many marks there are. -/
  length : Nat
deriving DecidableEq, Repr

/-- The fence a line starts with, and what follows it. Behind backticks no other
backtick may stand on the line. -/
def openingFence (s : List Char) : Option (Fence × List Char) :=
  match s with
  | mark :: _ =>
    let length := (s.takeWhile (· = mark)).length
    let rest := s.dropWhile (· = mark)
    if (mark = '~' ∨ (mark = '\x60' ∧ '\x60' ∉ rest)) ∧ 3 ≤ length then
      some (⟨mark, length⟩, rest)
    else none
  | [] => none

/-- Whether a line closes the code block that a fence opened. -/
def closesFence (fence : Fence) (s : List Char) : Bool :=
  fence.length ≤ (s.takeWhile (· = fence.mark)).length &&
    (s.dropWhile (· = fence.mark)).dropWhile isSpaceOrTab = ['\n']

/-- The level of the heading that a line of equal signs or hyphens makes of the
paragraph before it. -/
def underlineLevel (s : List Char) : Option Nat :=
  match s with
  | mark :: _ =>
    if (s.dropWhile (· = mark)).dropWhile isSpaceOrTab = ['\n'] then
      if mark = '=' then some 1 else if mark = '-' then some 2 else none
    else none
  | [] => none

/-- Whether a line is a thematic break: three or more of one mark, with nothing
but spaces and tabs between them. -/
def isThematicBreak (s : List Char) : Bool :=
  match s with
  | mark :: _ =>
    (mark = '*' || mark = '-' || mark = '_') &&
      s.all (fun c => c = mark || isSpaceOrTab c || c = '\n') && 3 ≤ s.count mark
  | [] => false

/-- The marks of list items that belong to one list. -/
inductive Bullet where
  /-- A bullet character. -/
  | sign (mark : Char)
  /-- A number and the character behind it. -/
  | number (delimiter : Char)
deriving DecidableEq, Repr

/-- The marker a list item starts with. -/
structure Marker where
  /-- What lists are told apart by. -/
  bullet : Bullet
  /-- The number of the item; one for a bullet. -/
  start : Nat
  /-- The number of characters of the marker. -/
  width : Nat
deriving DecidableEq, Repr

/-- The value of a sequence of decimal digits. -/
def decimalValue (digits : List Char) : Nat :=
  digits.foldl (fun value digit => 10 * value + (digit.toNat - 48)) 0

/-- Whether white space stands at the start. -/
def startsWithSpace : List Char → Bool
  | c :: _ => isSpace c
  | [] => false

/-- The list marker a line starts with. White space has to follow it. To interrupt
a paragraph, more than white space has to follow it, and a number has to be one. -/
def listMarker (interrupts : Bool) (s : List Char) : Option Marker :=
  let follows (rest : List Char) : Bool :=
    startsWithSpace rest && !(interrupts && (rest.dropWhile isSpaceOrTab).head? = some '\n')
  match s with
  | [] => none
  | mark :: rest =>
    if mark = '*' ∨ mark = '-' ∨ mark = '+' then
      if follows rest then some ⟨.sign mark, 1, 1⟩ else none
    else
      let digits := (s.takeWhile Char.isDigit).take 9
      match digits, s.drop digits.length with
      | _ :: _, delimiter :: rest =>
        if (delimiter = '.' ∨ delimiter = ')') ∧ follows rest ∧
            !(interrupts && decimalValue digits ≠ 1) then
          some ⟨.number delimiter, decimalValue digits, digits.length + 1⟩
        else none
      | _, _ => none

end Chatdown.Markdown
