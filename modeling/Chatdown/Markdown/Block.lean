import Chatdown.Markdown.Line
import Chatdown.Markdown.RawHtml
import Chatdown.Markdown.Reference
import Chatdown.Markdown.Row

/-!
# Blocks, open and closed

While a text is read, each block that may still go on is a frame: it gathers lines
of text and closed children. Closing a frame makes a block of it. Paragraphs,
headings and table cells keep their text as it was read; definitions at the start
of a paragraph are taken off when it closes.
-/

namespace Chatdown.Markdown

open Text

/-- A closed block. -/
inductive Block where
  /-- What the block is, the text in it that is still to be read, whether a blank
  line follows its last part, and its children. -/
  | mk (construct : Construct) (raw : List Char) (endsBlank : Bool) (children : List Block)
deriving Repr

namespace Block

/-- Whether a blank line follows the last part of a block. -/
def endsBlank : Block → Bool
  | mk _ _ endsBlank _ => endsBlank

/-- The children of a block. -/
def children : Block → List Block
  | mk _ _ _ children => children

/-- The block with a blank line behind it. -/
def followedByBlank : Block → Block
  | mk construct raw _ children => mk construct raw true children

end Block

/-- What an open block is. -/
inductive Shape where
  | document
  | blockQuote
  /-- A list of items that go by one kind of marker. -/
  | list (marker : Marker)
  /-- A list item, and the columns its content is indented by. -/
  | item (marker : Marker) (indent : Nat)
  | paragraph
  | heading (level : Nat)
  /-- A code block between fences, the first of which is indented so far. -/
  | fenced (fence : Fence) (indent : Nat)
  | indented
  | html (kind : RawHtml.BlockKind)
  | thematicBreak
  | table (alignments : List ColumnAlignment)
deriving DecidableEq, Repr

/-- An open block. -/
structure Frame where
  /-- What the block is. -/
  shape : Shape
  /-- The number of the line it starts on. -/
  startLine : Nat
  /-- The lines of its text, the last one first. -/
  lines : List (List Char)
  /-- Whether its last line was blank. -/
  lastBlank : Bool
  /-- Whether a paragraph was tried as the header of a table. -/
  triedTable : Bool
  /-- Its closed children, the last one first. -/
  children : List Block
deriving Repr

namespace Frame

/-- A block that opens on a line. -/
def opened (shape : Shape) (line : Nat) : Frame :=
  ⟨shape, line, [], false, false, []⟩

/-- The text of an open block. -/
def text (frame : Frame) : List Char :=
  frame.lines.reverse.flatten

/-- Add a line to the text of an open block. -/
def addLine (frame : Frame) (line : List Char) : Frame :=
  { frame with lines := line :: frame.lines }

/-- Add closed children; there is mostly one or none. -/
def addChildren (frame : Frame) (children : List Block) : Frame :=
  { frame with children := children.reverse ++ frame.children }

/-- Whether the block is a paragraph. -/
def isParagraph (frame : Frame) : Bool :=
  frame.shape = .paragraph

/-- Whether the block is a list. -/
def isList (frame : Frame) : Bool :=
  match frame.shape with
  | .list _ => true
  | _ => false

/-- Whether the last part of the block, below lists and items, has a blank line
behind it. -/
def endsBlank (frame : Frame) : Bool :=
  frame.lastBlank ||
    match frame.shape, frame.children with
    | .list _, child :: _ | .item _ _, child :: _ => child.endsBlank
    | _, _ => false

/-- Note a blank line behind the last closed child. -/
def blankAfterLastChild (frame : Frame) : Frame :=
  match frame.children with
  | child :: rest => { frame with children := child.followedByBlank :: rest }
  | [] => frame

end Frame

/-- Whether the items of a list, the last one first, are set without space between
them: no blank line stands between two items or between two blocks of one item. -/
def isTight (items : List Block) : Bool :=
  match items with
  | [] => true
  | last :: before =>
    !(last.children.dropLast.any Block.endsBlank) &&
      before.all fun item => !item.endsBlank && !(item.children.any Block.endsBlank)

/-- The literal of an indented code block: its text without the blank lines at its
end. -/
def indentedLiteral (text : List Char) : List Char :=
  let isBlankChar (c : Char) : Bool := isSpaceOrTab c || c = '\n'
  let kept := text.reverse.dropWhile isBlankChar
  let tail := (text.reverse.takeWhile isBlankChar).reverse
  kept.reverse ++ tail.takeWhile (· ≠ '\n') ++ ['\n']

/-- The info string behind an opening fence. -/
def fenceInfo (line : List Char) : List Char :=
  unescape (trimSpaces (Entity.decode line))

/-- Close a block, given the definitions so far. A paragraph of nothing but
definitions leaves no block. -/
def Frame.close (frame : Frame) (definitions : Definitions) (tight : Bool) :
    Option Block × Definitions :=
  let closed (construct : Construct) (raw : List Char) :=
    (some (Block.mk construct raw frame.endsBlank frame.children.reverse), definitions)
  match frame.shape with
  | .document => closed .document []
  | .blockQuote => closed .blockQuote []
  | .list marker =>
    let ordered := match marker.bullet with
      | .sign _ => false
      | .number _ => true
    closed (.list ordered marker.start tight) []
  | .item _ _ => closed .item []
  | .paragraph =>
    let (definitions, rest) := takeDefinitions definitions frame.text
    if startsBlank rest then (none, definitions)
    else (some (.mk .paragraph rest frame.endsBlank []), definitions)
  | .heading level => closed (.heading level) frame.text
  | .fenced _ _ =>
    let info := frame.text.takeWhile (· ≠ '\n')
    let literal := (frame.text.dropWhile (· ≠ '\n')).drop 1
    closed (.codeBlock (String.ofList (fenceInfo info)) (String.ofList literal)) []
  | .indented => closed (.codeBlock "" (String.ofList (indentedLiteral frame.text))) []
  | .html _ => closed (.htmlBlock (String.ofList frame.text)) []
  | .thematicBreak => closed .thematicBreak []
  | .table alignments => closed (.table alignments) []

end Chatdown.Markdown
