import Chatdown.Markdown.Syntax
import Chatdown.Text.Ascii

/-!
# Table rows

A row is a line of cells with bars between them; a bar at either end of the line
is optional. A bar behind a backslash belongs to its cell, without the backslash.
The row below the header holds a run of hyphens for each column, and colons that
tell how the column is set.
-/

namespace Chatdown.Markdown.Row

open Text

/-- White space that may stand around a cell. -/
def isCellSpace (c : Char) : Bool :=
  isSpaceOrTab c || c.toNat = 11 || c.toNat = 12

/-- The pieces of a line between its bars; `escaped` tells whether a backslash
stands just before. There is always a last piece. -/
def pieces (escaped : Bool) : List Char → List Char × List (List Char)
  | [] => ([], [])
  | c :: rest =>
    if c = '|' ∧ !escaped then
      let (piece, others) := pieces false rest
      ([], piece :: others)
    else
      let (piece, others) := pieces (c = '\\') rest
      (c :: piece, others)

/-- Take the backslash from every bar behind one. -/
def unescapeBars : List Char → List Char
  | '\\' :: '|' :: rest => '|' :: unescapeBars rest
  | c :: rest => c :: unescapeBars rest
  | [] => []

/-- The text of a cell: trimmed, its bars without their backslashes. -/
def cellText (piece : List Char) : List Char :=
  trimSpaces (unescapeBars piece)

/-- A line without the bar it starts with. -/
def afterFirstBar : List Char → List Char
  | '|' :: rest => rest.dropWhile isCellSpace
  | line => line

/-- The cells of a line. Behind the last bar there is a cell only when more than
white space is there. -/
def cells (line : List Char) : List (List Char) :=
  let (first, others) := pieces false (afterFirstBar line)
  let all := first :: others
  let last := all.getLast (by simp [all])
  (if last.all isCellSpace then all.dropLast else all).map cellText

/-- A paragraph as the lines before its last one and that last line. -/
def splitLast (paragraph : List Char) : List Char × List Char :=
  let text := if paragraph.getLast? = some '\n' then paragraph.dropLast else paragraph
  let line := (text.reverse.takeWhile (· ≠ '\n')).reverse
  (text.take (text.length - line.length), line)

/-- How a column is set, when its cell in the row below the header is a run of
hyphens with optional colons around it. -/
def alignment? (cell : List Char) : Option ColumnAlignment :=
  let left := cell.head? = some ':'
  let inner := if left then cell.drop 1 else cell
  let hyphens := inner.takeWhile (· = '-')
  match hyphens, inner.dropWhile (· = '-') with
  | [], _ => none
  | _, [] => some (if left then .left else .unset)
  | _, [':'] => some (if left then .center else .right)
  | _, _ => none

/-- How the columns are set, when a line is the row below the header of a
table. -/
def alignments? (line : List Char) : Option (List ColumnAlignment) :=
  let inner := (line.reverse.dropWhile isCellSpace).reverse
  let inner := if inner.head? = some '|' then inner.drop 1 else inner
  let inner := if inner.getLast? = some '|' then inner.dropLast else inner
  let (first, others) := pieces false inner
  (first :: others).mapM fun piece =>
    alignment? ((piece.dropWhile isCellSpace).reverse.dropWhile isCellSpace).reverse

/-- The cells of a row below a header of so many columns: the rest left out, the
missing ones empty. -/
def fit (columns : Nat) (row : List (List Char)) : List (List Char) :=
  row.take columns ++ List.replicate (columns - row.length) []

end Chatdown.Markdown.Row
