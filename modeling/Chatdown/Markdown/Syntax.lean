/-!
# The syntax tree of Markdown

The tree that reading a Markdown text yields, and a little more: it also has the
constructs of extensions that the reader does not turn on, so that a tree made
elsewhere can be narrowed to a document as well. Table rows are flat below their
table, header rows marked as such.
-/

namespace Chatdown.Markdown

/-- How the cells of a table column are set. -/
inductive ColumnAlignment where
  | unset
  | left
  | center
  | right
deriving DecidableEq, Repr

/-- A construct of Markdown, with its attributes. -/
inductive Construct where
  | document
  | frontMatter (literal : String)
  | blockQuote
  /-- A list: whether it is numbered, its first number, and whether its items are
  set without space between them. -/
  | list (ordered : Bool) (start : Nat) (tight : Bool)
  | item
  | descriptionList
  | descriptionItem
  | descriptionTerm
  | descriptionDetails
  | codeBlock (info literal : String)
  | htmlBlock (literal : String)
  | paragraph
  | heading (level : Nat)
  | thematicBreak
  | footnoteDefinition (name : String)
  | footnoteReference (name : String)
  /-- A table and the alignment of each of its columns. -/
  | table (alignments : List ColumnAlignment)
  /-- A table row, and whether it belongs to the header. -/
  | tableRow (header : Bool)
  | tableCell
  | text (literal : String)
  /-- A list item with a check box, and the mark in it when it is ticked. -/
  | taskItem (symbol : Option String)
  | softBreak
  | lineBreak
  | code (literal : String)
  | htmlInline (literal : String)
  | emph
  | strong
  | strikethrough
  | superscript
  | link (url title : String)
  | image (url title : String)
  | math (literal : String)
  | multilineBlockQuote
  | escaped
  | wikiLink (url : String)
  | underline
  | spoileredText
  | escapedTag (literal : String)
deriving DecidableEq, Repr

/-- A node of the syntax tree. -/
inductive Syntax where
  | mk (construct : Construct) (children : List Syntax)
deriving Repr

namespace Syntax

/-- The construct at a node. -/
def construct : Syntax → Construct
  | mk construct _ => construct

/-- The children of a node, in order. -/
def children : Syntax → List Syntax
  | mk _ children => children

/-- A node without children. -/
def leaf (construct : Construct) : Syntax :=
  mk construct []

/-- A text node. -/
def text (literal : List Char) : Syntax :=
  leaf (.text (String.ofList literal))

end Syntax

end Chatdown.Markdown
