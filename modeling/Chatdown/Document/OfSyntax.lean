import Chatdown.Document.Node
import Chatdown.Markdown.Syntax

/-!
# From syntax to document

The syntax tree is narrowed to the kinds of the document tree. Line breaks become
the text of one newline, raw HTML a leaf that holds it, and a construct without a
kind of its own an unsupported node that keeps its children. The rows of a table
are gathered: each header row stands in a header of its own, and all other rows
follow in one body.
-/

namespace Chatdown.Node

open Markdown

/-- The name an unsupported construct goes by. -/
def unsupportedName : Construct → String
  | .image _ _ => "image"
  | .footnoteReference _ => "footnote_reference"
  | .footnoteDefinition _ => "footnote_definition"
  | .frontMatter _ => "front_matter"
  | .taskItem _ => "task_item"
  | .superscript => "superscript"
  | .descriptionList => "description_list"
  | _ => "unsupported"

/-- The kind that stands for a construct. -/
def kindOf : Construct → Kind
  | .document => .document
  | .heading level => .heading level
  | .paragraph => .paragraph
  | .strong => .strong
  | .emph => .emphasis
  | .strikethrough => .strikethrough
  | .blockQuote => .blockQuote
  | .list ordered start _ => .list ordered start
  | .item => .listItem
  | .code literal => .inlineCode literal
  | .codeBlock info literal => .codeBlock info literal
  | .link url title => .link url title
  | .thematicBreak => .horizontalRule
  | .table _ => .table
  | .tableRow _ => .tableRow
  | .tableCell => .tableCell
  | .text literal => .text literal
  | .softBreak | .lineBreak => .text "\n"
  | .htmlInline literal => .unsupported "html_inline" (some literal)
  | .htmlBlock literal => .unsupported "html_block" (some literal)
  | construct => .unsupported (unsupportedName construct) none

/-- Whether a construct is a header row. -/
def isHeaderRow : Construct → Bool
  | .tableRow header => header
  | _ => false

/-- Whether a construct is a table. -/
def isTable : Construct → Bool
  | .table _ => true
  | _ => false

mutual

/-- The document node of a syntax node. -/
def ofSyntax : Syntax → Node
  | .mk construct children =>
    if (kindOf construct).isLeaf then leaf (kindOf construct)
    else if isTable construct then
      mk .table (headersOf children ++
        match bodyOf children with
        | [] => []
        | row :: rows => [mk .tableBody (row :: rows)])
    else mk (kindOf construct) (ofSyntaxAll children)

/-- The document nodes of a sequence of syntax nodes. -/
def ofSyntaxAll : List Syntax → List Node
  | [] => []
  | s :: rest => ofSyntax s :: ofSyntaxAll rest

/-- The headers of a table, one for each header row among its children. -/
def headersOf : List Syntax → List Node
  | [] => []
  | s :: rest =>
    if isHeaderRow s.construct then mk .tableHeader [ofSyntax s] :: headersOf rest
    else headersOf rest

/-- The body of a table: its children that are no header rows. -/
def bodyOf : List Syntax → List Node
  | [] => []
  | s :: rest =>
    if isHeaderRow s.construct then bodyOf rest
    else ofSyntax s :: bodyOf rest

end

end Chatdown.Node
