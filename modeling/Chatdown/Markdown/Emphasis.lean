import Chatdown.Markdown.Syntax
import Chatdown.Text.Blank
import Chatdown.Text.Mark

/-!
# Emphasis

Runs of asterisks, underscores and tildes open and close emphasis, depending on
the characters around them. A closing run pairs with the nearest run before it that
may open, two marks at a time where both have two; what lies between becomes the
content, and marks that pair with none are text. Tildes pair only when both runs
are equally long and used up by it; a pair of runs that is not ends all pairing.
-/

namespace Chatdown.Markdown

open Text

/-- A run of one mark. -/
structure Run where
  mark : Char
  /-- The marks that no pair has used. -/
  left : Nat
  /-- The marks it was written with. -/
  length : Nat
  canOpen : Bool
  canClose : Bool
deriving Repr

/-- A part of a line of text: a finished node, or a run that may still pair. -/
inductive Piece where
  | done (node : Syntax)
  | run (marks : Run)
deriving Repr

/-- The node of a piece; a run is the text of the marks it has left. -/
def Piece.node : Piece → Syntax
  | .done node => node
  | .run marks => .text (List.replicate marks.left marks.mark)

namespace Run

/-- A run between two characters. It may open when it is flanked by what follows
it, and close when it is flanked by what comes before; an underscore within a word
does neither. -/
def between (mark : Char) (length : Nat) (before after : Char) : Run :=
  let leftFlanking :=
    !isBlank after && (!isMark after || isBlank before || isMark before)
  let rightFlanking :=
    !isBlank before && (!isMark before || isBlank after || isMark after)
  if mark = '_' then
    ⟨mark, length, length, leftFlanking && (!rightFlanking || isMark before),
      rightFlanking && (!leftFlanking || isMark after)⟩
  else ⟨mark, length, length, leftFlanking, rightFlanking⟩

/-- Whether one run may open what another closes. When one of them may both open
and close, their lengths must not add up to a multiple of three, unless both are
such multiples. -/
def opens (opener closer : Run) : Bool :=
  opener.canOpen && opener.mark = closer.mark &&
    !((closer.canOpen || opener.canClose) && (opener.length + closer.length) % 3 = 0 &&
      !(opener.length % 3 = 0 && closer.length % 3 = 0))

/-- The construct that so many marks of a kind stand for. -/
def construct (mark : Char) (used : Nat) : Construct :=
  if mark = '~' then .strikethrough else if used = 1 then .emph else .strong

end Run

namespace Emphasis

/-- The nearest run before a closing one that may open what it closes, with the
pieces between them and those before it. All lists have the nearest piece first. -/
def findOpener (closer : Run) : List Piece → Option (Run × List Piece × List Piece)
  | [] => none
  | .run opener :: rest =>
    if opener.opens closer then some (opener, [], rest)
    else (findOpener closer rest).map fun (found, between, outer) =>
      (found, .run opener :: between, outer)
  | .done node :: rest =>
    (findOpener closer rest).map fun (found, between, outer) =>
      (found, .done node :: between, outer)

/-- A measure of the pairing still to do. -/
def weight : List Piece → Nat
  | [] => 0
  | .done _ :: rest => weight rest + 1
  | .run marks :: rest => weight rest + marks.left + 1

/-- Pair the runs among pieces. Those in `before` were looked at, the last one
first. -/
def pair (before : List Piece) : List Piece → List Piece
  | [] => before.reverse
  | .done node :: rest => pair (.done node :: before) rest
  | .run closer :: rest =>
    if !closer.canClose then pair (.run closer :: before) rest
    else
      match findOpener closer before with
      | none =>
        if closer.canOpen then pair (.run closer :: before) rest
        else pair (.done (Piece.run closer).node :: before) rest
      | some (opener, between, outer) =>
        let used := if 2 ≤ opener.left ∧ 2 ≤ closer.left then 2 else 1
        if closer.mark = '~' ∧ (opener.left ≠ closer.left ∨ used < opener.left) then
          before.reverse ++ .run closer :: rest
        else
          let node := Syntax.mk (Run.construct closer.mark used) (between.reverse.map Piece.node)
          let outer :=
            if opener.left ≤ used then outer
            else .run { opener with left := opener.left - used } :: outer
          if closer.left ≤ used then pair (.done node :: outer) rest
          else
            pair (.done node :: outer)
              (.run { closer with left := closer.left - used } :: rest)
termination_by pieces => weight pieces
decreasing_by
  all_goals simp only [weight]
  all_goals try omega
  rename_i h
  simp only [used] at h ⊢
  split at h <;> split <;> omega

/-- The nodes of pieces, their runs paired. -/
def resolve (pieces : List Piece) : List Syntax :=
  (pair [] pieces).map Piece.node

end Emphasis

end Chatdown.Markdown
