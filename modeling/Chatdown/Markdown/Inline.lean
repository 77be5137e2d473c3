import Chatdown.Markdown.Autolink
import Chatdown.Markdown.Emphasis
import Chatdown.Markdown.RawHtml
import Chatdown.Markdown.Reference

/-!
# Reading text

The text of a paragraph, a heading or a table cell is scanned from left to right
into pieces. Code, escapes, character references, raw HTML and addresses are
finished pieces; runs of emphasis marks are left to be paired. A bracket sets the
pieces before it aside until it is closed: then either the pieces since become the
content of a link or an image, or the bracket turns out to be text and all pieces
come together again.

Neighbouring texts are left apart here. Which characters a text ends before shows
in the tree wherever texts are never joined, as in the content of links.
-/

namespace Chatdown.Markdown

open Text

/-- An open bracket. -/
structure Bracket where
  /-- Whether an exclamation mark stands before it. -/
  image : Bool
  /-- The text behind it. -/
  opening : List Char
  /-- Whether another bracket opened behind it. -/
  followed : Bool
  /-- The pieces before it, the last one first. -/
  outer : List Piece

/-- The text that an open bracket is when nothing closes it. -/
def Bracket.node (bracket : Bracket) : Syntax :=
  .text (if bracket.image then ['!', '['] else ['['])

/-- A scan of some text. -/
structure Scan where
  /-- What was scanned, the last character first. -/
  before : List Char
  /-- What is left to scan. -/
  rest : List Char
  /-- The pieces since the innermost open bracket, the last one first. -/
  pieces : List Piece
  /-- The open brackets, the innermost one first. -/
  brackets : List Bracket
  /-- Whether the last bracket scanned was an opening one. Addresses are no links
  then. -/
  inBracket : Bool
  /-- Whether a link was closed since the last bracket that could open one. None of
  the open brackets opens a link then. -/
  noLinks : Bool
  /-- Whether a comment was found not to end. No declaration, comment or character
  data section is looked for after that. -/
  noComments : Bool
  /-- The definitions that links refer to. -/
  definitions : Definitions

namespace Scan

/-- Before the first character of a text. -/
def start (definitions : Definitions) (s : List Char) : Scan :=
  ⟨[], s, [], [], false, false, false, definitions⟩

/-- Go on to where some text is left, which is an end of the text left before. -/
def goTo (scan : Scan) (rest : List Char) : Scan :=
  let taken := scan.rest.take (scan.rest.length - rest.length)
  { scan with before := taken.reverse ++ scan.before, rest }

/-- Add a piece. -/
def addPiece (scan : Scan) (piece : Piece) : Scan :=
  { scan with pieces := piece :: scan.pieces }

/-- Add a finished node and go on to where some text is left. -/
def add (scan : Scan) (node : Syntax) (rest : List Char) : Scan :=
  (scan.goTo rest).addPiece (.done node)

/-- Add the first so many characters as text. -/
def addText (scan : Scan) (count : Nat) : Scan :=
  scan.add (.text (scan.rest.take count)) (scan.rest.drop count)

/-- Whether the last piece is a hard line break. -/
def afterLineBreak (scan : Scan) : Bool :=
  match scan.pieces with
  | .done (.mk .lineBreak _) :: _ => true
  | _ => false

/-- Scan a newline. It is a hard break behind two spaces. The white space that
starts the next line is skipped. -/
def newline (scan : Scan) (rest : List Char) : Scan :=
  let construct :=
    match scan.before with
    | ' ' :: ' ' :: _ => Construct.lineBreak
    | _ => Construct.softBreak
  scan.add (.leaf construct) (rest.dropWhile isSpaceOrTab)

/-- The longest run of backticks that opens a code span. -/
def maxBackticks : Nat := 80

/-- The text of a code span that a run of so many backticks closes, reversed, and
what follows. `run` counts the backticks just before. -/
def codeSpan (ticks run : Nat) (code : List Char) :
    List Char → Option (List Char × List Char)
  | [] => if run = ticks then some (code.drop ticks, []) else none
  | c :: rest =>
    if c = '\x60' then codeSpan ticks (run + 1) (c :: code) rest
    else if run = ticks then some (code.drop ticks, c :: rest)
    else codeSpan ticks 0 (c :: code) rest

/-- The literal of a code span: newlines become spaces, and one space is taken from
each end when both have one and more than spaces is there. -/
def codeLiteral (code : List Char) : List Char :=
  let code := code.map fun c => if c = '\n' then ' ' else c
  if code.any (· ≠ ' ') && code.head? = some ' ' && code.getLast? = some ' ' then
    (code.drop 1).dropLast
  else code

/-- Scan a run of backticks: a code span, if as long a run closes it. -/
def backticks (scan : Scan) : Scan :=
  let ticks := (scan.rest.takeWhile (· = '\x60')).length
  match if ticks ≤ maxBackticks then codeSpan ticks 0 [] (scan.rest.drop ticks) else none with
  | some (code, rest) =>
    scan.add (.leaf (.code (String.ofList (codeLiteral code.reverse)))) rest
  | none => scan.addText ticks

/-- Scan a backslash: it escapes punctuation and makes a newline a hard break. -/
def backslash (scan : Scan) (rest : List Char) : Scan :=
  match rest with
  | c :: rest' =>
    if isPunct c then scan.add (.text [c]) rest'
    else if c = '\n' then scan.add (.leaf .lineBreak) rest'
    else scan.addText 1
  | [] => scan.addText 1

/-- Scan an ampersand, which may start a character reference. -/
def ampersand (scan : Scan) (rest : List Char) : Scan :=
  match Entity.read rest with
  | some (characters, rest) => scan.add (.text characters) rest
  | none => scan.addText 1

/-- Whether a character may go on the scheme of an address between angle
brackets. -/
def isSchemeChar (c : Char) : Bool :=
  c.isAlphanum || c = '+' || c = '.' || c = '-'

/-- The address with a scheme between angle brackets, and what follows it, from
behind the opening one. -/
def pointyAddress (s : List Char) : Option (List Char × List Char) :=
  let scheme := s.takeWhile isSchemeChar
  match scheme, s.dropWhile isSchemeChar with
  | c :: _, ':' :: rest =>
    let tail := rest.takeWhile fun c => 32 < c.toNat && c ≠ '<' && c ≠ '>'
    match rest.drop tail.length with
    | '>' :: rest =>
      if c.isAlpha ∧ 2 ≤ scheme.length ∧ scheme.length ≤ 32 then
        some (scheme ++ ':' :: tail, rest)
      else none
    | _ => none
  | _, _ => none

/-- Whether a character may stand before the at-sign of an e-mail address between
angle brackets. -/
def isMailboxChar (c : Char) : Bool :=
  c.isAlphanum || ".!#$%&'*+/=?^_\x60\x7b|\x7d~-".toList.contains c

/-- Whether a text is one part of the name of a host: letters, digits and hyphens,
at most 63 of them, with no hyphen at either end. -/
def isHostPart (part : List Char) : Bool :=
  part.length ≤ 63 && part.all (fun c => c.isAlphanum || c = '-') &&
    (part.head?.map Char.isAlphanum) = some true &&
    (part.getLast?.map Char.isAlphanum) = some true

/-- The e-mail address between angle brackets, and what follows it, from behind the
opening one. -/
def pointyEmail (s : List Char) : Option (List Char × List Char) :=
  let mailbox := s.takeWhile isMailboxChar
  match mailbox, s.dropWhile isMailboxChar with
  | _ :: _, '@' :: rest =>
    let host := rest.takeWhile (· ≠ '>')
    match rest.drop host.length with
    | '>' :: rest =>
      if (host.splitOn '.').all isHostPart then some (mailbox ++ '@' :: host, rest) else none
    | _ => none
  | _, _ => none

/-- What follows the raw HTML that starts with an exclamation mark, from behind the
mark, if any does; or nothing and the news that a comment there does not end. -/
def bang (s : List Char) : Option (List Char) × Bool :=
  match s with
  | '-' :: '-' :: '>' :: rest => (some rest, false)
  | '-' :: '-' :: '-' :: '>' :: rest => (some rest, false)
  | '-' :: '-' :: rest =>
    match RawHtml.commentRest rest with
    | some rest => (some rest, false)
    | none => (none, true)
  | '[' :: rest =>
    ((stripWord "CDATA[".toList rest).bind RawHtml.characterDataRest, false)
  | _ => (RawHtml.declaration s, false)

/-- Add the raw HTML up to where some text is left. -/
def addHtml (scan : Scan) (rest : List Char) : Scan :=
  let html := scan.rest.take (scan.rest.length - rest.length)
  scan.add (.leaf (.htmlInline (String.ofList html))) rest

/-- Scan an angle bracket: an address or raw HTML may follow. -/
def pointyBracket (scan : Scan) (s : List Char) : Scan :=
  match pointyAddress s with
  | some (address, rest) =>
    let text := Entity.decode address
    scan.add (Autolink.link text text) rest
  | none =>
    match pointyEmail s with
    | some (address, rest) =>
      let text := Entity.decode address
      scan.add (Autolink.link ("mailto:".toList ++ text) text) rest
    | none =>
      match s with
      | '!' :: rest =>
        if scan.noComments then scan.addText 1
        else match bang rest with
          | (some rest, _) => scan.addHtml rest
          | (none, endless) => { scan.addText 1 with noComments := endless }
      | '?' :: rest =>
        match RawHtml.instructionRest rest with
        | some rest => scan.addHtml rest
        | none => scan.addText 1
      | _ =>
        match RawHtml.tag s with
        | some rest => scan.addHtml rest
        | none => scan.addText 1

/-- Take characters back off the texts that were added last. -/
def takeBack : Nat → List Piece → List Piece
  | count, .done (.mk (.text literal) children) :: rest =>
    let text := literal.toList
    if count = 0 then .done (.mk (.text literal) children) :: rest
    else if count < text.length then
      .done (.text (text.take (text.length - count))) :: rest
    else takeBack (count - text.length) rest
  | _, pieces => pieces

/-- Scan a colon, which may stand behind the scheme of a web address. -/
def colon (scan : Scan) : Scan :=
  match if scan.inBracket then none else Autolink.url? scan.before scan.rest with
  | some (scheme, tail) =>
    let url := scheme ++ tail
    { scan with pieces := takeBack scheme.length scan.pieces }.add (Autolink.link url url)
      (scan.rest.drop tail.length)
  | none => scan.addText 1

/-- Scan the letter that `www.` starts with. -/
def letterW (scan : Scan) : Scan :=
  match if scan.inBracket then none else Autolink.www? scan.before scan.rest with
  | some text =>
    scan.add (Autolink.link ("http://".toList ++ text) text) (scan.rest.drop text.length)
  | none => scan.addText 1

/-- Scan a run of emphasis marks. Tildes do not count as the characters around
it, and neither end of the text counts for more than a newline. -/
def emphasisRun (scan : Scan) (mark : Char) : Scan :=
  let marks := scan.rest.takeWhile (· = mark)
  let rest := scan.rest.dropWhile (· = mark)
  let neighbour (s : List Char) : Char := (s.dropWhile (· = '~')).headD '\n'
  let run := Run.between mark marks.length (neighbour scan.before) (neighbour rest)
  if run.canOpen || run.canClose then (scan.goTo rest).addPiece (.run run)
  else scan.addText marks.length

/-- Scan an opening bracket, of an image or of a link. -/
def openBracket (scan : Scan) (image : Bool) (rest : List Char) : Scan :=
  let brackets :=
    match scan.brackets with
    | bracket :: outer => { bracket with followed := true } :: outer
    | [] => []
  { scan.goTo rest with
    pieces := []
    brackets := ⟨image, rest, false, scan.pieces⟩ :: brackets
    inBracket := true
    noLinks := scan.noLinks && image }

/-- The target in parentheses behind the content of a link, and what follows it. A
title has white space before it. -/
def inlineTarget : List Char → Option (Target × List Char)
  | '(' :: rest =>
    match readUrl (rest.dropWhile isAnySpace) with
    | none => none
    | some (url, afterUrl) =>
      let beforeTitle := afterUrl.dropWhile isAnySpace
      let (title, afterTitle) :=
        if beforeTitle.length = afterUrl.length then ([], beforeTitle)
        else (readTitle beforeTitle).getD ([], beforeTitle)
      match afterTitle.dropWhile isAnySpace with
      | ')' :: rest => some (⟨cleanUrl url, cleanTitle title⟩, rest)
      | _ => none
  | _ => none

/-- The target of the label behind the content of a link, or of that content when
no label is there, and what follows it. `content` is the text between the
brackets. -/
def referredTarget (definitions : Definitions) (followed : Bool) (content s : List Char) :
    Option (Target × Definitions × List Char) :=
  let found (label rest : List Char) : Option (Target × Definitions × List Char) :=
    (definitions.find label).map fun (target, definitions) => (target, definitions, rest)
  match readLabel s with
  | some (label, rest) =>
    if label.isEmpty && !followed then found content rest else found label rest
  | none => if followed then none else found content s

/-- The pieces since an open bracket and those before it, the bracket between them
as text. -/
def unwrap (bracket : Bracket) (pieces : List Piece) : List Piece :=
  pieces ++ .done bracket.node :: bracket.outer

/-- Make the pieces since an open bracket the content of a link or an image. -/
def closeLink (scan : Scan) (bracket : Bracket) (brackets : List Bracket) (target : Target)
    (rest : List Char) : Scan :=
  let url := String.ofList target.url
  let title := String.ofList target.title
  let construct := if bracket.image then Construct.image url title else .link url title
  let node := Syntax.mk construct (Emphasis.resolve scan.pieces.reverse)
  { scan.goTo rest with
    pieces := .done node :: bracket.outer
    brackets
    noLinks := scan.noLinks || !bracket.image }

/-- Scan a closing bracket, from before which some text follows it. -/
def closeBracket (scan : Scan) (rest : List Char) : Scan :=
  let scan := { scan with inBracket := false }
  match scan.brackets with
  | [] => scan.addText 1
  | bracket :: brackets =>
    let asText := { scan with pieces := unwrap bracket scan.pieces, brackets }.addText 1
    if !bracket.image && scan.noLinks then asText
    else match inlineTarget rest with
      | some (target, rest) => scan.closeLink bracket brackets target rest
      | none =>
        let content := bracket.opening.take (bracket.opening.length - scan.rest.length)
        match referredTarget scan.definitions bracket.followed content rest with
        | some (target, definitions, rest) =>
          { scan with definitions }.closeLink bracket brackets target rest
        | none => asText

/-- The characters that a text ends before. -/
def specials : List Char :=
  ['\n', '_', '*', '"', '\x60', '\'', '\\', '&', '<', '[', ']', '!', ':', 'w', '~']

/-- Scan text up to the next special character. White space is dropped before a
newline and behind a hard line break. -/
def plainText (scan : Scan) (first : Char) (rest : List Char) : Scan :=
  let taken := rest.takeWhile fun c => !specials.contains c
  let rest := rest.drop taken.length
  let text := first :: taken
  let text := if rest.head? = some '\n' then trimSpacesEnd text else text
  let text := if scan.afterLineBreak then text.dropWhile isSpace else text
  scan.add (.text text) rest

/-- Scan the next piece. A caret behind an exclamation mark and a bracket keeps the
mark out of it: the bracket is then one of a link. -/
def step (scan : Scan) : Scan :=
  match scan.rest with
  | [] => scan
  | '\n' :: rest => scan.newline rest
  | '\x60' :: _ => scan.backticks
  | '\\' :: rest => scan.backslash rest
  | '&' :: rest => scan.ampersand rest
  | '<' :: rest => scan.pointyBracket rest
  | ':' :: _ => scan.colon
  | 'w' :: _ => scan.letterW
  | '[' :: rest => scan.openBracket false rest
  | ']' :: rest => scan.closeBracket rest
  | '!' :: '[' :: '^' :: _ => scan.addText 1
  | '!' :: '[' :: rest => scan.openBracket true rest
  | c :: rest =>
    if c = '*' ∨ c = '_' ∨ c = '~' then scan.emphasisRun c
    else if c = '!' ∨ c = '"' ∨ c = '\'' ∨ c = '-' ∨ c = '.' then scan.addText 1
    else scan.plainText c rest

/-- Scan all that is left, given at least as much fuel as it has characters. -/
def run : Nat → Scan → Scan
  | 0, scan => scan
  | fuel + 1, scan => if scan.rest.isEmpty then scan else run fuel scan.step

/-- The pieces of a finished scan, in order; open brackets are text. -/
def finish (scan : Scan) : List Piece :=
  (scan.brackets.foldl (fun pieces bracket => unwrap bracket pieces) scan.pieces).reverse

end Scan

/-- The nodes of a text, and the definitions with what is left of their budget. -/
def readInlines (definitions : Definitions) (s : List Char) : List Syntax × Definitions :=
  let s := trimSpacesEnd s
  let scan := (Scan.start definitions s).run s.length
  (Emphasis.resolve scan.finish, scan.definitions)

end Chatdown.Markdown
