import Chatdown.Markdown.Block

/-!
# Reading lines into blocks

A text is read line by line. The blocks that may still go on form a stack of
frames, from the innermost one out to the document. A line is matched against the
frames from the outside in; what is left of it may open new blocks below the
innermost matched frame, go on a paragraph, or start one. Frames that a line does
not go on with are closed, and a closed block is the last child of the frame around
it.
-/

namespace Chatdown.Markdown

open Text

/-- What has been read. The frames that the line at hand goes on with are apart
from the open ones below them that it does not; both have the innermost frame
first. The document is the last matched frame. -/
structure Reading where
  /-- The frames that the line goes on with. -/
  matched : List Frame
  /-- The open frames below those. -/
  unmatched : List Frame
  /-- The definitions so far. -/
  definitions : Definitions
  /-- The number of the line. -/
  line : Nat
deriving Repr

namespace Reading

/-- Before the first line. -/
def start : Reading :=
  ⟨[.opened .document 0], [], .empty, 0⟩

/-- The innermost matched frame. -/
def tip (reading : Reading) : Frame :=
  reading.matched.headD (.opened .document 0)

/-- Change the innermost matched frame. -/
def modifyTip (reading : Reading) (change : Frame → Frame) : Reading :=
  match reading.matched with
  | frame :: rest => { reading with matched := change frame :: rest }
  | [] => reading

/-- Close frames, the innermost one first, each into the next. What is left is the
block of the last one, if it leaves any. -/
def closeChain (definitions : Definitions) (frames : List Frame) :
    Option Block × Definitions :=
  frames.foldl
    (fun (child, definitions) frame =>
      let frame := frame.addChildren child.toList
      frame.close definitions (isTight frame.children))
    (none, definitions)

/-- Close the frames that the line does not go on with. -/
def closeUnmatched (reading : Reading) : Reading :=
  let (child, definitions) := closeChain reading.definitions reading.unmatched
  { reading.modifyTip (·.addChildren child.toList) with unmatched := [], definitions }

/-- The block that a chain of open frames, the innermost one first, would be if
every part of it were kept as it is. -/
def snapshot (frames : List Frame) : Option Block :=
  frames.foldl
    (fun child frame =>
      let frame := frame.addChildren child.toList
      some (.mk .item [] frame.endsBlank frame.children.reverse))
    none

/-- Close the innermost matched frame. A list is judged tight or not by its parts
as they are before the frames below it close. -/
def closeTip (reading : Reading) : Reading :=
  let tight := isTight ((snapshot reading.unmatched).toList ++ reading.tip.children)
  let reading := reading.closeUnmatched
  match reading.matched with
  | frame :: rest =>
    let (child, definitions) := frame.close reading.definitions tight
    { reading with matched := rest, definitions }.modifyTip (·.addChildren child.toList)
  | [] => reading

/-- Whether a frame may have a block of a shape as its child. -/
def holds (frame : Frame) (shape : Shape) : Bool :=
  match frame.shape, shape with
  | .list _, .item _ _ => true
  | .document, .item _ _ | .blockQuote, .item _ _ | .item _ _, .item _ _ => false
  | .document, _ | .blockQuote, _ | .item _ _, _ => true
  | _, _ => false

/-- Open a block below the innermost matched frame, or beside that frame when it
may not hold the block. -/
def openBlock (reading : Reading) (shape : Shape) : Reading :=
  let reading :=
    if holds reading.tip shape then reading.closeUnmatched else reading.closeTip
  { reading with matched := .opened shape reading.line :: reading.matched }

/-- How a line goes on from a frame. -/
inductive Continuation where
  /-- The frame goes on, and the line is read on from a place in it. -/
  | matched (cursor : Cursor)
  /-- The frame does not go on. -/
  | unmatched
  /-- The line is the closing fence of the frame. -/
  | closing
deriving Repr

/-- Whether a frame goes on with a line. `hasChild` tells whether the frame has any
child, open or closed. -/
def goOn (frame : Frame) (hasChild : Bool) (cursor : Cursor) : Continuation :=
  let ahead := cursor.skipBlanks
  let matchedIf (condition : Bool) (next : Cursor) : Continuation :=
    if condition then .matched next else .unmatched
  match frame.shape with
  | .document | .list _ | .thematicBreak => .matched cursor
  | .blockQuote =>
    matchedIf (cursor.indent ≤ 3 && ahead.rest.head? = some '>')
      (cursor.advanceColumns (cursor.indent + 1)).skipOneBlank
  | .item _ indent =>
    if indent ≤ cursor.indent then .matched (cursor.advanceColumns indent)
    else matchedIf (cursor.isBlank && hasChild) ahead
  | .fenced fence indent =>
    if cursor.indent ≤ 3 && closesFence fence ahead.rest then .closing
    else .matched (cursor.skipUpTo indent)
  | .indented =>
    if 4 ≤ cursor.indent then .matched (cursor.advanceColumns 4)
    else matchedIf cursor.isBlank ahead
  | .html kind => matchedIf (!(cursor.isBlank && kind.endsAtBlank)) cursor
  | .paragraph => matchedIf (!cursor.isBlank) cursor
  | .table _ =>
    matchedIf (!(Row.cells (ahead.rest.takeWhile (· ≠ '\n'))).isEmpty) cursor
  | .heading _ => .unmatched

/-- What matching a line against the open frames yields. -/
inductive Match where
  /-- The frames that go on, innermost first, those that do not, innermost first,
  and the place in the line behind what they take. -/
  | frames (matched unmatched : List Frame) (cursor : Cursor)
  /-- The line closes the innermost one of these frames. -/
  | closing (matched : List Frame)

/-- Match a line against open frames, the outermost one first, inside frames that
go on. -/
def matchFrames (matched : List Frame) (cursor : Cursor) : List Frame → Match
  | [] => .frames matched [] cursor
  | frame :: inner =>
    match goOn frame (!frame.children.isEmpty || !inner.isEmpty) cursor with
    | .matched cursor => matchFrames (frame :: matched) cursor inner
    | .unmatched => .frames matched (frame :: inner).reverse cursor
    | .closing => .closing (frame :: matched)

/-- What opening blocks leaves of a line. -/
inductive Opened where
  /-- The new block may hold others, which the line is read on for. -/
  | nested (reading : Reading) (cursor : Cursor)
  /-- No block opens; the line is read on as text. -/
  | text (reading : Reading) (cursor : Cursor)
  /-- Nothing is left. -/
  | taken (reading : Reading)

/-- Open a list item, below the list it belongs to or below a new one. Its content
is indented to where its text starts, or to one column behind its marker when the
text is missing or indented like code. -/
def openItem (reading : Reading) (cursor : Cursor) (marker : Marker) : Opened :=
  let behind := cursor.skipBlanks.advance marker.width
  let text := behind.skipUpTo 5
  let gap := text.column - behind.column
  let (width, cursor') :=
    if gap = 0 ∨ 5 ≤ gap ∨ text.rest.head? = some '\n' then (1, behind.skipOneBlank)
    else (gap, text)
  let belongs : Bool :=
    match reading.tip.shape with
    | .list other => other.bullet = marker.bullet
    | _ => false
  let reading := if belongs then reading else reading.openBlock (.list marker)
  .nested (reading.openBlock (.item marker (cursor.indent + marker.width + width))) cursor'

/-- A closed row of a table. -/
def rowBlock (header : Bool) (cells : List (List Char)) : Block :=
  .mk (.tableRow header) [] false (cells.map fun cell => .mk .tableCell cell false [])

/-- Try to make the innermost matched frame, a paragraph, the header of a table
whose next row is a line. The lines before its last one become a paragraph before
the table. It is tried once for a paragraph, whether or not the header fits. -/
def openTable (reading : Reading) (cursor : Cursor) (line : List Char) : Opened :=
  let frame := reading.tip
  match if frame.triedTable then none else Row.alignments? line with
  | none => .text reading cursor
  | some alignments =>
    let (before, headerLine) := Row.splitLast frame.text
    let header := Row.cells headerLine
    if header.length ≠ alignments.length then
      .text (reading.modifyTip fun frame => { frame with triedTable := true }) cursor
    else
      let intro :=
        if before.isEmpty then []
        else [Block.mk .paragraph (Row.cellText before) false []]
      let table := (Frame.opened (.table alignments) reading.line).addChildren
        [rowBlock true header]
      let reading := { reading with matched := reading.matched.drop 1 }
      let reading := reading.modifyTip (·.addChildren intro)
      .text { reading with matched := table :: reading.matched } cursor.toEnd

/-- Note that no open frame ends in a blank line. -/
def clearBlank (reading : Reading) : Reading :=
  { reading with matched := reading.matched.map fun frame => { frame with lastBlank := false } }

/-- The deepest nesting of blocks in which a line opens a list. -/
def maxListDepth : Nat := 100

/-- Open the next block that a line starts, the `depth`-th on this line. `lazy`
tells whether the line may go on an open paragraph. -/
def openNext (reading : Reading) (cursor : Cursor) (depth : Nat) (lazy : Bool) : Opened :=
  let ahead := cursor.skipBlanks
  let s := ahead.rest
  let tip := reading.tip
  if 4 ≤ cursor.indent then
    if lazy || cursor.isBlank then .text reading cursor
    else .text (reading.openBlock .indented) (cursor.advanceColumns 4)
  else if s.head? = some '>' then
    .nested (reading.openBlock .blockQuote) ahead.next.skipOneBlank
  else if let some (level, rest) := headingMarks s then
    .text ((reading.openBlock (.heading level)).modifyTip (·.addLine (headingText rest)))
      cursor.toEnd
  else if let some (fence, rest) := openingFence s then
    let indent := cursor.rest.length - s.length
    .text (reading.openBlock (.fenced fence indent)) { ahead with rest }
  else if let some kind := RawHtml.startedBlock tip.isParagraph s then
    .text (reading.openBlock (.html kind)) cursor
  else if let some level := if tip.isParagraph then underlineLevel s else none then
    let (definitions, rest) := takeDefinitions reading.definitions tip.text
    let reading := { reading with definitions }
    if startsBlank rest then
      .text (reading.modifyTip fun frame => { frame with lines := [rest] }) cursor
    else
      .text (reading.modifyTip fun frame => { frame with shape := .heading level, lines := [rest] })
        cursor.toEnd
  else if isThematicBreak s then
    .text (reading.openBlock .thematicBreak) cursor.toEnd
  else if let some marker := if depth < maxListDepth then listMarker tip.isParagraph s else none then
    openItem reading cursor marker
  else match tip.shape with
    | .paragraph => openTable reading cursor (s.takeWhile (· ≠ '\n'))
    | .table alignments =>
      if cursor.isBlank then .text reading cursor
      else
        let row := Row.fit alignments.length (Row.cells (s.takeWhile (· ≠ '\n')))
        .taken (reading.modifyTip (·.addChildren [rowBlock false row])).clearBlank
    | _ => .text reading cursor

/-- Whether a frame may hold blocks that open on the same line. -/
def mayOpen (frame : Frame) : Bool :=
  match frame.shape with
  | .fenced _ _ | .indented | .html _ => false
  | _ => true

/-- Open all blocks that a line starts, given at least as much fuel as it has
characters left. -/
def openBlocks (reading : Reading) (cursor : Cursor) (depth : Nat) (lazy : Bool) :
    Nat → Opened
  | 0 => .text reading cursor
  | fuel + 1 =>
    match openNext reading cursor depth lazy with
    | .nested reading cursor => openBlocks reading cursor (depth + 1) false fuel
    | opened => opened

/-- Note whether a line that no more blocks open on is blank. The last child of the
innermost matched frame then has a blank line behind it, and so has the frame,
unless it is of a shape that keeps no account of blank lines. -/
def noteBlank (reading : Reading) (blank : Bool) : Reading :=
  let tip := reading.tip
  let counts :=
    match tip.shape with
    | .blockQuote | .heading _ | .thematicBreak | .fenced _ _ => false
    | .item _ _ =>
      !tip.children.isEmpty || !reading.unmatched.isEmpty || tip.startLine ≠ reading.line
    | _ => true
  let reading :=
    if blank then
      match reading.unmatched.reverse with
      | outermost :: inner =>
        { reading with unmatched := ({ outermost with lastBlank := true } :: inner).reverse }
      | [] => reading.modifyTip (·.blankAfterLastChild)
    else reading
  reading.clearBlank.modifyTip fun frame => { frame with lastBlank := blank && counts }

/-- Read what is left of a line as text. Behind frames that do not go on it may go
on the paragraph among them. -/
def addText (reading : Reading) (cursor : Cursor) : Reading :=
  let blank := cursor.isBlank
  let reading := reading.noteBlank blank
  let goesOnParagraph :=
    match reading.unmatched with
    | innermost :: _ => innermost.isParagraph && !blank
    | [] => false
  if goesOnParagraph then
    match reading.unmatched with
    | innermost :: outer =>
      { reading with
        matched := innermost.addLine cursor.content :: (outer ++ reading.matched)
        unmatched := [] }
    | [] => reading
  else
    let reading := reading.closeUnmatched
    match reading.tip.shape with
    | .fenced _ _ | .indented => reading.modifyTip (·.addLine cursor.content)
    | .html kind =>
      let reading := reading.modifyTip (·.addLine cursor.content)
      if RawHtml.endsOnLine kind cursor.skipBlanks.rest then reading.closeTip else reading
    | .paragraph =>
      if blank then reading else reading.modifyTip (·.addLine cursor.skipBlanks.rest)
    | .heading _ => reading
    | _ =>
      if blank then reading
      else (reading.openBlock .paragraph).modifyTip (·.addLine cursor.skipBlanks.rest)

/-- Read a line, its newline included. -/
def readLine (reading : Reading) (line : List Char) : Reading :=
  let reading := { reading with line := reading.line + 1 }
  match reading.matched.reverse with
  | [] => reading
  | document :: inner =>
    match matchFrames [document] (.ofLine line) inner with
    | .closing matched => { reading with matched }.closeTip
    | .frames matched unmatched cursor =>
      let lazy :=
        match unmatched ++ matched with
        | innermost :: _ => innermost.isParagraph
        | [] => false
      let reading := { reading with matched, unmatched }
      let opened :=
        if mayOpen reading.tip then
          openBlocks reading cursor 0 lazy (line.length + 1)
        else .text reading cursor
      match opened with
      | .nested reading cursor | .text reading cursor => reading.addText cursor
      | .taken reading => reading

/-- The blocks of the document and the definitions, when no line is left. -/
def finish (reading : Reading) : List Block × Definitions :=
  match closeChain reading.definitions reading.matched with
  | (some document, definitions) => (document.children, definitions)
  | (none, definitions) => ([], definitions)

end Reading

/-- The lines of a text, each with its newline. -/
def textLines (s : List Char) : List (List Char) :=
  let lines := s.splitOn '\n'
  let lines := if lines.getLast? = some [] then lines.dropLast else lines
  lines.map (· ++ ['\n'])

/-- The blocks of a text, and the definitions in it. -/
def readBlocks (s : List Char) : List Block × Definitions :=
  ((textLines s).foldl Reading.readLine Reading.start).finish

end Chatdown.Markdown
