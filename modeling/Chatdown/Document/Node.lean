/-!
# The document tree

A document is a tree over a small, closed set of kinds. A node carries its kind,
with the attributes of that kind, and its children in order. Constructs that no
kind stands for are kept as `unsupported`, so that their text survives.

Any kind may hold any children. Leaf kinds carry their content as a literal, and
the children of a leaf have no say in what is printed for it.
-/

namespace Chatdown

/-- The kind of a document node, with the attributes of that kind. -/
inductive Kind where
  | document
  /-- A heading of a level from one on. -/
  | heading (level : Nat)
  | paragraph
  | strong
  | emphasis
  | strikethrough
  | blockQuote
  /-- A list, whether its items are numbered, and the number the source wrote
  before the first one. -/
  | list (ordered : Bool) (start : Nat)
  | listItem
  | inlineCode (literal : String)
  | codeBlock (info literal : String)
  | link (destination title : String)
  | horizontalRule
  | table
  | tableHeader
  | tableBody
  | tableRow
  | tableCell
  | text (literal : String)
  /-- A construct without a kind of its own: its name, and its text when it is a
  leaf. -/
  | unsupported (name : String) (literal : Option String)
deriving DecidableEq, Repr

/-- A node of the document tree. -/
inductive Node where
  | mk (kind : Kind) (children : List Node)
deriving Repr

namespace Node

/-- The kind of a node. -/
def kind : Node → Kind
  | mk kind _ => kind

/-- The children of a node, in order. -/
def children : Node → List Node
  | mk _ children => children

/-- A node without children. -/
def leaf (kind : Kind) : Node :=
  mk kind []

/-- A text node. -/
def text (literal : String) : Node :=
  leaf (.text literal)

end Node

/-- Whether nodes of a kind carry their content as a literal. -/
def Kind.isLeaf : Kind → Bool
  | .text _ | .inlineCode _ | .codeBlock _ _ | .horizontalRule => true
  | .unsupported _ literal => literal.isSome
  | _ => false

/-- The name of a kind; an unsupported construct goes by its own name. -/
def Kind.name : Kind → String
  | .document => "document"
  | .heading _ => "heading"
  | .paragraph => "paragraph"
  | .strong => "strong"
  | .emphasis => "emphasis"
  | .strikethrough => "strikethrough"
  | .blockQuote => "block_quote"
  | .list _ _ => "list"
  | .listItem => "list_item"
  | .inlineCode _ => "inline_code"
  | .codeBlock _ _ => "code_block"
  | .link _ _ => "link"
  | .horizontalRule => "horizontal_rule"
  | .table => "table"
  | .tableHeader => "table_header"
  | .tableBody => "table_body"
  | .tableRow => "table_row"
  | .tableCell => "table_cell"
  | .text _ => "text"
  | .unsupported name _ => name

namespace Node

/-- Whether a node carries its content as a literal. -/
def isLeaf (node : Node) : Bool :=
  node.kind.isLeaf

mutual

/-- The kinds of a node and everything below it, each node before its
children. -/
def kinds : Node → List Kind
  | mk kind children => kind :: kindsAll children

/-- The kinds of a sequence of nodes and everything below them. -/
def kindsAll : List Node → List Kind
  | [] => []
  | node :: rest => kinds node ++ kindsAll rest

end

/-- Whether a table cell occurs in a node, the node itself included. -/
def hasCell (node : Node) : Bool :=
  node.kinds.contains .tableCell

end Node

end Chatdown
