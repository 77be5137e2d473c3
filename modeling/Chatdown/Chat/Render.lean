import Chatdown.Chat.Columns
import Chatdown.Chat.Delimiter
import Chatdown.Document.Node
import Chatdown.Text.Blank

/-!
# Chat markup of a document tree

Each kind has a rule that writes a node from the texts of its children. Rules
that wrap text in delimiters do so child by child and trim what they wrap, save
that a heading wraps its children as they are. A leaf is its literal. Every other
node ends in a newline, except links, table cells, table bodies and table
headers; together with the newline a paragraph or a heading starts with, these
newlines are all that separates blocks.
-/

namespace Chatdown.Chat

open Text (trim)

/-- The lines of a list whose items are rendered, numbered from `number` on. -/
def listLines (ordered : Bool) (number : Nat) : List (List Char) → List Char
  | [] => []
  | item :: rest =>
    listMarker ordered number ++ ' ' :: trim item ++ '\n' ::
      listLines ordered (number + 1) rest

mutual

/-- The chat markup of a node and everything below it. -/
def render : Node → List Char
  | .mk (.text literal) _ => literal.toList
  | .mk (.inlineCode literal) _ => inlineCode (trim literal.toList)
  | .mk (.codeBlock _ literal) _ => codeBlock (trim literal.toList)
  | .mk .horizontalRule _ => ['\n', '\n']
  | .mk (.unsupported _ (some literal)) _ => literal.toList
  | .mk (.unsupported _ none) children => (renderEach children).flatten ++ ['\n']
  | .mk .document children => (renderEach children).flatten ++ ['\n']
  | .mk (.heading _) children =>
    (renderEach children).flatMap (fun text => '\n' :: bold text) ++ ['\n']
  | .mk .paragraph children => '\n' :: (renderEach children).flatten ++ ['\n']
  | .mk .strong children =>
    (renderEach children).flatMap (fun text => bold (trim text)) ++ ['\n']
  | .mk .emphasis children =>
    (renderEach children).flatMap (fun text => italic (trim text)) ++ ['\n']
  | .mk .strikethrough children =>
    (renderEach children).flatMap (fun text => strike (trim text)) ++ ['\n']
  | .mk .blockQuote children =>
    (renderEach children).flatMap (fun text => quote (trim text)) ++ ['\n']
  | .mk (.list ordered _) children => listLines ordered 1 (renderEach children) ++ ['\n']
  | .mk .listItem children => (renderEach children).flatMap trim ++ ['\n']
  | .mk (.link destination _) children =>
    link destination.toList (trim (renderEach children).flatten)
  | .mk .table children =>
    '\n' :: (if (Node.kindsAll children).contains .tableCell
      then alignColumns (renderRows children ++ ['\n']) else []) ++ ['\n']
  | .mk .tableHeader [] => []
  | .mk .tableHeader (.mk _ cells :: _) =>
    ['\t'].intercalate ((renderEach cells).map fun text => bold (trim text))
  | .mk .tableBody children => (renderEach children).flatten
  | .mk .tableRow children => ['\t'].intercalate (renderEach children) ++ ['\n']
  | .mk .tableCell children => (renderEach children).flatten

/-- The chat markup of each of a sequence of nodes. -/
def renderEach : List Node → List (List Char)
  | [] => []
  | node :: rest => render node :: renderEach rest

/-- The tab-separated lines of the children of a table. The line of a header gets
the newline that a row writes by itself. -/
def renderRows : List Node → List Char
  | [] => []
  | node :: rest =>
    render node ++ (if node.kind = .tableHeader then ['\n'] else []) ++ renderRows rest

end

/-- The aligned text of a table: nothing when no cell occurs in it, else its
lines and an empty line after them. -/
def renderTable (table : Node) : List Char :=
  if table.hasCell then alignColumns (renderRows table.children ++ ['\n']) else []

/-- The chat markup of a document, trimmed at both ends. -/
def renderDocument (document : Node) : List Char :=
  trim (render document)

end Chatdown.Chat
