import Chatdown.Markdown.Inline
import Chatdown.Markdown.Reading

/-!
# Reading Markdown

A text is read into blocks, then the text of each block into nodes, and last
neighbouring texts are joined and searched for e-mail addresses. The last step
leaves the content of links and images as it is.
-/

namespace Chatdown.Markdown

open Text

/-- Whether the text of a block is read into nodes. -/
def holdsInlines : Construct → Bool
  | .paragraph | .heading _ | .tableCell => true
  | _ => false

mutual

/-- The syntax node of a block. -/
def Block.read (definitions : Definitions) : Block → Syntax × Definitions
  | .mk construct raw _ children =>
    if holdsInlines construct then
      let (nodes, definitions) := readInlines definitions raw
      (.mk construct nodes, definitions)
    else
      let (nodes, definitions) := Block.readAll definitions children
      (.mk construct nodes, definitions)

/-- The syntax nodes of a sequence of blocks. -/
def Block.readAll (definitions : Definitions) : List Block → List Syntax × Definitions
  | [] => ([], definitions)
  | block :: rest =>
    let (node, definitions) := Block.read definitions block
    let (nodes, definitions) := Block.readAll definitions rest
    (node :: nodes, definitions)

end

/-- Join each text with the one before it. -/
def joinTexts : List Syntax → List Syntax
  | [] => []
  | .mk (.text first) children :: rest =>
    match joinTexts rest with
    | .mk (.text second) _ :: rest => .mk (.text (first ++ second)) children :: rest
    | rest => .mk (.text first) children :: rest
  | node :: rest => node :: joinTexts rest

/-- A text with the e-mail addresses in it made links, any other node as it is. -/
def linkEmails : Syntax → List Syntax
  | .mk (.text literal) _ => Autolink.splitEmails literal.toList
  | node => [node]

/-- Whether the content of a construct is left as it was scanned. -/
def keepsPieces : Construct → Bool
  | .link _ _ | .image _ _ => true
  | _ => false

mutual

/-- Join the texts below a node and link the e-mail addresses in them. -/
def polish : Syntax → Syntax
  | .mk construct children =>
    if keepsPieces construct then .mk construct children
    else .mk construct ((joinTexts (polishAll children)).flatMap linkEmails)

/-- Join the texts below each of a sequence of nodes and link the e-mail addresses
in them. -/
def polishAll : List Syntax → List Syntax
  | [] => []
  | node :: rest => polish node :: polishAll rest

end

/-- A text with each NUL replaced and without a byte order mark at its start. -/
def cleanSource (s : List Char) : List Char :=
  let s := if s.head? = some '\uFEFF' then s.drop 1 else s
  s.map fun c => if c.toNat = 0 then '\uFFFD' else c

/-- The octets that links may take from definitions even in a small text. -/
def smallestBudget : Nat := 100000

/-- The syntax tree of a Markdown text whose lines end in LF. -/
def parse (s : List Char) : Syntax :=
  let (blocks, definitions) := readBlocks (cleanSource s)
  let budget := max smallestBudget (octetsOf s)
  let (nodes, _) := Block.readAll { definitions with budget } blocks
  polish (.mk .document nodes)

end Chatdown.Markdown
