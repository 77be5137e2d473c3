import Chatdown.Text.Ascii

/-!
# Raw HTML

The pieces of HTML that Markdown passes through untouched, on lines of their own
and within text. A recogniser is given the text from where the piece would start
and returns what follows it. Text that ends inside a piece is no piece.
-/

namespace Chatdown.Markdown.RawHtml

open Text

/-- Whether a character may go on the name of a tag. -/
def isTagNameChar (c : Char) : Bool :=
  c.isAlphanum || c = '-'

/-- After the name of a tag: a letter, then letters, digits and hyphens. -/
def tagName : List Char → Option (List Char)
  | c :: rest => if c.isAlpha then some (rest.dropWhile isTagNameChar) else none
  | [] => none

/-- Whether a character may start the name of an attribute. -/
def isAttributeNameStart (c : Char) : Bool :=
  c.isAlpha || c = '_' || c = ':'

/-- Whether a character may go on the name of an attribute. -/
def isAttributeNameChar (c : Char) : Bool :=
  c.isAlphanum || c = '_' || c = ':' || c = '.' || c = '-'

/-- Whether a character may stand in an attribute value without quotes. -/
def isUnquotedChar (c : Char) : Bool :=
  !(isAnySpace c || c = '"' || c = '\'' || c = '=' || c = '<' || c = '>' || c = '\x60')

/-- After a character that closes what stands before it. -/
def afterChar (close : Char) (s : List Char) : Option (List Char) :=
  match s.dropWhile (· ≠ close) with
  | _ :: rest => some rest
  | [] => none

/-- After an attribute value, quoted or not. -/
def attributeValue : List Char → Option (List Char)
  | [] => none
  | c :: rest =>
    if c = '"' ∨ c = '\'' then afterChar c rest
    else if isUnquotedChar c then some (rest.dropWhile isUnquotedChar)
    else none

/-- After the value of an attribute whose name was just read, if it has one: white
space may stand around its equals sign. -/
def attributeRest (s : List Char) : Option (List Char) :=
  match s.dropWhile isAnySpace with
  | '=' :: rest => attributeValue (rest.dropWhile isAnySpace)
  | _ => some s

/-- After the attributes of an opening tag and the mark that closes it. White
space stands before each attribute and may stand before the mark. The fuel bounds
the number of attributes. -/
def openTagRest : Nat → List Char → Option (List Char)
  | 0, _ => none
  | fuel + 1, s =>
    match s.dropWhile isAnySpace with
    | '>' :: rest => some rest
    | '/' :: '>' :: rest => some rest
    | c :: rest =>
      if startsSpaced s && isAttributeNameStart c then
        match attributeRest (rest.dropWhile isAttributeNameChar) with
        | some rest => openTagRest fuel rest
        | none => none
      else none
    | [] => none
where
  startsSpaced : List Char → Bool
    | c :: _ => isAnySpace c
    | [] => false

/-- After an opening tag, from behind its `<`. -/
def openTag (s : List Char) : Option (List Char) :=
  (tagName s).bind (openTagRest (s.length + 1))

/-- After a closing tag, from behind its `<`. -/
def closeTag : List Char → Option (List Char)
  | '/' :: rest =>
    match tagName rest with
    | some rest =>
      match rest.dropWhile isAnySpace with
      | '>' :: rest => some rest
      | _ => none
    | none => none
  | _ => none

/-- After a tag of either sort, from behind its `<`. -/
def tag (s : List Char) : Option (List Char) :=
  (openTag s).or (closeTag s)

/-- After the text of a comment and its close, from behind the two hyphens that
open it. Two hyphens in the text take the character behind them along, so that
`--->` closes nothing. -/
def commentRest : List Char → Option (List Char)
  | [] => none
  | '-' :: '-' :: '>' :: rest => some rest
  | '-' :: '-' :: _ :: rest => commentRest rest
  | ['-', '-'] => none
  | '-' :: c :: rest => if c = '-' then none else commentRest rest
  | _ :: rest => commentRest rest

/-- After the text of a processing instruction and its close, from behind its
first question mark. A question mark in the text takes the next character
along. -/
def instructionRest : List Char → Option (List Char)
  | [] => none
  | '?' :: '>' :: rest => some rest
  | '?' :: _ :: rest => instructionRest rest
  | _ :: rest => instructionRest rest

/-- After a declaration, from behind its exclamation mark: capital letters, white
space, and then all up to the next `>`. -/
def declaration (s : List Char) : Option (List Char) :=
  match s.takeWhile Char.isUpper, s.dropWhile Char.isUpper with
  | _ :: _, c :: rest => if isAnySpace c then afterChar '>' rest else none
  | _, _ => none

/-- After the text of a character data section and its close, from behind its
second bracket. One bracket in the text takes the next character along, two take
the one behind them. -/
def characterDataRest : List Char → Option (List Char)
  | [] => none
  | ']' :: ']' :: '>' :: rest => some rest
  | ']' :: ']' :: _ :: rest => characterDataRest rest
  | [']', ']'] => none
  | ']' :: c :: rest => if c = ']' then none else characterDataRest rest
  | _ :: rest => characterDataRest rest

/-- The names of the elements that make up blocks. -/
def blockElements : List String :=
  ["address", "article", "aside", "base", "basefont", "blockquote", "body", "caption",
   "center", "col", "colgroup", "dd", "details", "dialog", "dir", "div", "dl", "dt",
   "fieldset", "figcaption", "figure", "footer", "form", "frame", "frameset", "h1", "h2",
   "h3", "h4", "h5", "h6", "head", "header", "hr", "html", "iframe", "legend", "li", "link",
   "main", "menu", "menuitem", "nav", "noframes", "ol", "optgroup", "option", "p", "param",
   "search", "section", "summary", "table", "tbody", "td", "tfoot", "th", "thead", "title",
   "tr", "track", "ul"]

/-- The names of the elements whose text is not Markdown. -/
def verbatimElements : List String :=
  ["script", "pre", "textarea", "style"]

/-- What a block of raw HTML starts with, which decides where it ends. -/
inductive BlockKind where
  /-- An element whose text is not Markdown; ends with its closing tag. -/
  | verbatim
  /-- A comment. -/
  | comment
  /-- A processing instruction. -/
  | processing
  /-- A declaration. -/
  | declaration
  /-- A character data section. -/
  | characterData
  /-- A tag of a block element; ends before a blank line. -/
  | element
  /-- Any complete tag on a line of its own; ends before a blank line. -/
  | anyTag
deriving DecidableEq, Repr

/-- Whether white space or `>` is next. -/
def endsName : List Char → Bool
  | c :: _ => isAnySpace c || c = '>'
  | [] => false

/-- Whether what follows the name of a block element ends it. -/
def endsElementName (rest : List Char) : Bool :=
  endsName rest || (stripWord ['/', '>'] rest).isSome

/-- Whether one of some names stands at the start, in either case, and what
follows it ends the name. -/
def startsWithName (names : List String) (ends : List Char → Bool) (s : List Char) : Bool :=
  names.any fun name =>
    match stripWordAnyCase name.toList s with
    | some rest => ends rest
    | none => false

/-- The raw HTML block that a line starts, if it may do so in the midst of a
paragraph too. -/
def interruptingBlock (s : List Char) : Option BlockKind :=
  match s with
  | '<' :: rest =>
    if startsWithName verbatimElements endsName rest then some .verbatim
    else match rest with
      | '!' :: '-' :: '-' :: _ => some .comment
      | '?' :: _ => some .processing
      | '!' :: c :: more =>
        if c.isAlpha then some .declaration
        else if (stripWordAnyCase "cdata[".toList more).isSome && c = '[' then
          some .characterData
        else none
      | '/' :: more =>
        if startsWithName blockElements endsElementName more then some .element else none
      | _ => if startsWithName blockElements endsElementName rest then some .element else none
  | _ => none

/-- The raw HTML block that a line starts. A complete tag alone on its line only
does so outside a paragraph. -/
def startedBlock (inParagraph : Bool) (s : List Char) : Option BlockKind :=
  match interruptingBlock s with
  | some kind => some kind
  | none =>
    if inParagraph then none
    else match s with
      | '<' :: rest =>
        match tag rest with
        | some rest =>
          if rest.dropWhile (fun c => c = ' ' || c = '\t' || c.toNat = 12) = ['\n'] then
            some .anyTag
          else none
        | none => none
      | _ => none

/-- Whether a line holds the end of a raw HTML block of a kind. -/
def endsOnLine (kind : BlockKind) (s : List Char) : Bool :=
  match kind with
  | .verbatim =>
    verbatimElements.any fun name => hasWordAnyCase ("</" ++ name ++ ">").toList s
  | .comment => hasWord "-->".toList s
  | .processing => hasWord "?>".toList s
  | .declaration => hasWord ">".toList s
  | .characterData => hasWord "]]>".toList s
  | .element | .anyTag => false

/-- Whether a block of a kind ends before a blank line. -/
def BlockKind.endsAtBlank : BlockKind → Bool
  | .element | .anyTag => true
  | _ => false

end Chatdown.Markdown.RawHtml
