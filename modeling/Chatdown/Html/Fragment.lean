import Chatdown.Html.Escape
import Chatdown.Markdown.Syntax

/-!
# HTML of a syntax tree

The tree is written from left to right. Some tags start on a line of their own:
whether a newline is due depends on what was written last, so the output so far is
handed from node to node, the last character first. Raw HTML is not let through;
a comment stands in its place. In the text that stands for an image, only the texts
below it are written.
-/

namespace Chatdown.Html

open Markdown
open Text (isSpace)

/-- Output, the last character first. -/
abbrev Output := List Char

/-- Write some characters. -/
def put (out : Output) (s : List Char) : Output :=
  s.reverse ++ out

/-- Write a text as it is. -/
def putText (out : Output) (s : String) : Output :=
  put out s.toList

/-- Start a new line, unless at the start of one. -/
def freshLine (out : Output) : Output :=
  match out with
  | [] => []
  | c :: _ => if c = '\n' then out else '\n' :: out

/-- What stands in the place of raw HTML. -/
def omitted : String := "<!-- raw HTML omitted -->"

/-- The tag that opens a code block. Its language is the first word of the info
string. -/
def codeBlockTag (info : String) : List Char :=
  if info.isEmpty then "<pre><code>".toList
  else
    let language := String.ofList (info.toList.takeWhile fun c => !isSpace c)
    "<pre><code class=\"language-".toList ++ escape language ++ "\">".toList

/-- The tag that opens a list. -/
def listTag (ordered : Bool) (start : Nat) : List Char :=
  if !ordered then "<ul>\n".toList
  else if start = 1 then "<ol>\n".toList
  else "<ol start=\"".toList ++ Nat.toDigits 10 start ++ "\">\n".toList

/-- A title attribute between the quotation marks of two others, if there is a
title. -/
def titleAttribute (title : String) : List Char :=
  if title.isEmpty then [] else "\" title=\"".toList ++ escape title

/-- The attribute that sets a table cell. -/
def alignAttribute : ColumnAlignment → String
  | .unset => ""
  | .left => " align=\"left\""
  | .center => " align=\"center\""
  | .right => " align=\"right\""

/-- What inline constructs write before and behind their content. -/
def inlineTags : Construct → String × String
  | .emph => ("<em>", "</em>")
  | .strong => ("<strong>", "</strong>")
  | .strikethrough => ("<del>", "</del>")
  | _ => ("", "")

/-- Whether a construct is a list without space between its items. -/
def isTightList : Construct → Bool
  | .list _ _ tight => tight
  | _ => false

/-- Whether a construct is a header row. -/
def isHeader : Construct → Bool
  | .tableRow header => header
  | _ => false

mutual

/-- Write only the texts of a node and below it. -/
def putPlain (out : Output) : Syntax → Output
  | .mk construct children =>
    let out :=
      match construct with
      | .text literal | .code literal | .htmlInline literal => put out (escape literal)
      | .lineBreak | .softBreak => ' ' :: out
      | _ => out
    putPlainAll out children

/-- Write only the texts of a sequence of nodes and below them. -/
def putPlainAll (out : Output) : List Syntax → Output
  | [] => out
  | node :: rest => putPlainAll (putPlain out node) rest

end

mutual

/-- Write a node. The first two arguments tell whether its parent, and whether the
parent of that, is a list without space between its items. -/
def putNode (inTight inTightItem : Bool) (out : Output) : Syntax → Output
  | .mk construct children =>
    let content (out : Output) : Output := putAll (isTightList construct) inTight out children
    match construct with
    | .blockQuote =>
      putText (freshLine (content (putText (freshLine out) "<blockquote>\n"))) "</blockquote>\n"
    | .list ordered start _ =>
      putText (content (put (freshLine out) (listTag ordered start)))
        (if ordered then "</ol>\n" else "</ul>\n")
    | .item => putText (content (putText (freshLine out) "<li>")) "</li>\n"
    | .heading level =>
      let tag := Nat.toDigits 10 level ++ ['>']
      put (content (put (freshLine out) ('<' :: 'h' :: tag))) ("</h".toList ++ tag ++ ['\n'])
    | .codeBlock info literal =>
      putText (put (put (freshLine out) (codeBlockTag info)) (escape literal))
        "</code></pre>\n"
    | .htmlBlock _ => freshLine (putText (freshLine out) omitted)
    | .thematicBreak => putText (freshLine out) "<hr />\n"
    | .paragraph =>
      if inTightItem then content out
      else putText (content (putText (freshLine out) "<p>")) "</p>\n"
    | .table alignments =>
      let out := putRows alignments false (putText (freshLine out) "<table>\n") children
      let out := if children.length ≤ 1 then out else putText (freshLine out) "</tbody>\n"
      putText (freshLine out) "</table>\n"
    | .text literal => put out (escape literal)
    | .lineBreak => putText out "<br />\n"
    | .softBreak => '\n' :: out
    | .code literal => putText (put (putText out "<code>") (escape literal)) "</code>"
    | .htmlInline _ => putText out omitted
    | .link url title =>
      let out := put (put (putText out "<a href=\"") (escapeUrl url)) (titleAttribute title)
      putText (content (putText out "\">")) "</a>"
    | .image url title =>
      let out := putText (put (putText out "<img src=\"") (escapeUrl url)) "\" alt=\""
      putText (put (putPlainAll out children) (titleAttribute title)) "\" />"
    | construct =>
      let (before, behind) := inlineTags construct
      putText (content (putText out before)) behind

/-- Write a sequence of nodes. -/
def putAll (inTight inTightItem : Bool) (out : Output) : List Syntax → Output
  | [] => out
  | node :: rest => putAll inTight inTightItem (putNode inTight inTightItem out node) rest

/-- Write the rows of a table. `afterHeader` tells whether a header row was written
just before: the body starts with the row behind it. -/
def putRows (alignments : List ColumnAlignment) (afterHeader : Bool) (out : Output) :
    List Syntax → Output
  | [] => out
  | .mk construct cells :: rest =>
    let header := isHeader construct
    let out := freshLine out
    let out :=
      if header then putText out "<thead>\n"
      else if afterHeader then putText out "<tbody>\n"
      else out
    let out := putCells (if header then "th" else "td") alignments (putText out "<tr>") cells
    let out := putText (freshLine out) "</tr>"
    let out := if header then putText (freshLine out) "</thead>" else out
    putRows alignments header out rest

/-- Write the cells of a table row. -/
def putCells (tag : String) (alignments : List ColumnAlignment) (out : Output) :
    List Syntax → Output
  | [] => out
  | .mk _ children :: rest =>
    let setting := alignAttribute (alignments.headD .unset)
    let out := putText (freshLine out) ("<" ++ tag ++ setting ++ ">")
    let out := putText (putAll false false out children) ("</" ++ tag ++ ">")
    putCells tag (alignments.drop 1) out rest

end

/-- The HTML of a syntax tree. -/
def fragment (tree : Syntax) : List Char :=
  (putNode false false [] tree).reverse

end Chatdown.Html
