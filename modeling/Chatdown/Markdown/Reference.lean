import Chatdown.Markdown.Entity
import Chatdown.Text.Blank
import Chatdown.Text.Fold

/-!
# Link targets, labels and definitions

A link names its target in place, or by a label that a definition elsewhere in
the text gives a target. Labels match when they are equal after case folding, with
every run of white space read as one space. The first definition of a label
counts.
-/

namespace Chatdown.Markdown

open Text

/-- Where a link leads. -/
structure Target where
  url : List Char
  title : List Char
deriving DecidableEq, Repr

/-- Take the backslash from every escaped punctuation character. -/
def unescape : List Char → List Char
  | '\\' :: c :: rest => if isPunct c then c :: unescape rest else '\\' :: c :: unescape rest
  | c :: rest => c :: unescape rest
  | [] => []

/-- The destination that its source text stands for. -/
def cleanUrl (s : List Char) : List Char :=
  unescape (Entity.decode (trimSpaces s))

/-- The title that the text between its quotes stands for. -/
def cleanTitle (s : List Char) : List Char :=
  unescape (Entity.decode s)

/-- Read every run of white space as one space, where white space may have come
just before. -/
def collapseBlanks (afterBlank : Bool) : List Char → List Char
  | [] => []
  | c :: rest =>
    if !isBlank c then c :: collapseBlanks false rest
    else if afterBlank then collapseBlanks true rest
    else ' ' :: collapseBlanks true rest

/-- The form of a label that decides whether labels match. -/
def normalizeLabel (label : List Char) : List Char :=
  fold (collapseBlanks false (trimSpaces label))

/-- The number of octets of a character in UTF-8. -/
def octets (c : Char) : Nat :=
  if c.toNat < 0x80 then 1 else if c.toNat < 0x800 then 2
  else if c.toNat < 0x10000 then 3 else 4

/-- The number of octets of a text in UTF-8. -/
def octetsOf (s : List Char) : Nat :=
  s.foldl (fun count c => count + octets c) 0

/-- The longest label, in octets. -/
def maxLabel : Nat := 1000

/-- The text of a label and what follows its closing bracket, after so many octets
of it and perhaps behind a backslash. No bracket stands in a label unless a backslash
stands before it. -/
def labelRest (length : Nat) (escaped : Bool) : List Char → Option (List Char × List Char)
  | [] => none
  | c :: rest =>
    let continued (escaped : Bool) :=
      (labelRest (length + octets c) escaped rest).map fun (label, rest) => (c :: label, rest)
    if length > maxLabel then none
    else if escaped && isPunct c then continued false
    else if c = ']' then some ([], rest)
    else if c = '[' then none
    else continued (c = '\\')

/-- A label between brackets, without the white space at its ends, and what
follows it. -/
def readLabel : List Char → Option (List Char × List Char)
  | '[' :: rest => (labelRest 0 false rest).map fun (label, rest) => (trimSpaces label, rest)
  | _ => none

/-- A destination between angle brackets and what follows it, from behind the
opening one. -/
def pointyUrl : List Char → Option (List Char × List Char)
  | [] => none
  | '>' :: rest => some ([], rest)
  | '\n' :: _ => none
  | '<' :: _ => none
  | '\\' :: c :: rest => (pointyUrl rest).map fun (url, rest) => ('\\' :: c :: url, rest)
  | c :: rest => (pointyUrl rest).map fun (url, rest) => (c :: url, rest)

/-- The deepest nesting of parentheses in a destination. -/
def maxParentheses : Nat := 32

/-- A destination without angle brackets and what follows it, inside so many
parentheses and perhaps behind a backslash. It ends before white space, a control
character or a closing parenthesis that nothing in it opens. -/
def plainUrl (depth : Nat) (escaped : Bool) : List Char → Option (List Char × List Char)
  | [] => none
  | c :: rest =>
    let continued (depth : Nat) (escaped : Bool) :=
      (plainUrl depth escaped rest).map fun (url, rest) => (c :: url, rest)
    if escaped && isPunct c then continued depth false
    else if c = '(' then
      if depth < maxParentheses then continued (depth + 1) false else none
    else if c = ')' then
      if depth = 0 then some ([], c :: rest) else continued (depth - 1) false
    else if isSpace c || isControl c then
      if depth = 0 then some ([], c :: rest) else none
    else continued depth (c = '\\')

/-- A destination and what follows it. -/
def readUrl (s : List Char) : Option (List Char × List Char) :=
  match s with
  | '<' :: rest =>
    match pointyUrl rest with
    | some (_, []) => none
    | result => result
  | c :: _ => if isSpace c || isControl c then none else plainUrl 0 false s
  | [] => none

/-- The text of a title and what follows its closing mark, from behind the opening
one. A mark behind a backslash closes the title only when none follows that is not
behind one. -/
def titleRest (close : Char) (escaped : Bool) : List Char → Option (List Char × List Char)
  | [] => none
  | c :: rest =>
    let continued := (titleRest close (c = '\\') rest).map fun (title, rest) => (c :: title, rest)
    if c = close then
      if escaped then continued.or (some ([], rest)) else some ([], rest)
    else if close = ')' ∧ c = '(' ∧ !escaped then none
    else continued

/-- A title between quotation marks, apostrophes or parentheses, and what follows
it. -/
def readTitle : List Char → Option (List Char × List Char)
  | '"' :: rest => titleRest '"' false rest
  | '\'' :: rest => titleRest '\'' false rest
  | '(' :: rest => titleRest ')' false rest
  | _ => none

/-- Go past spaces and tabs, at most one newline among them. -/
def skipLineSpace (s : List Char) : List Char :=
  match s.dropWhile isSpaceOrTab with
  | '\n' :: rest => rest.dropWhile isSpaceOrTab
  | rest => rest

/-- What follows the end of a line with nothing but spaces and tabs before it. -/
def endOfLine (s : List Char) : Option (List Char) :=
  match s.dropWhile isSpaceOrTab with
  | '\n' :: rest => some rest
  | [] => some []
  | _ => none

/-- A definition at the start of a text: its label, its target and what follows
it. A title that more text follows on its line is none, and then the definition
has to end before it. -/
def readDefinition (s : List Char) : Option (List Char × Target × List Char) :=
  match readLabel s with
  | some (label, ':' :: rest) =>
    if label.isEmpty then none
    else match readUrl (skipLineSpace rest) with
      | none => none
      | some (url, afterUrl) =>
        let beforeTitle := skipLineSpace afterUrl
        let titled :=
          if beforeTitle.length = afterUrl.length then none
          else (readTitle beforeTitle).bind fun (title, rest) =>
            (endOfLine rest).map fun rest => (title, rest)
        match titled with
        | some (title, rest) => some (label, ⟨cleanUrl url, cleanTitle title⟩, rest)
        | none => (endOfLine afterUrl).map fun rest => (label, ⟨cleanUrl url, []⟩, rest)
  | _ => none

/-- The definitions of a text, and how much of the text that links may take from
them is taken. -/
structure Definitions where
  /-- Labels in their normal form, the first definition first. -/
  entries : List (List Char × Target)
  /-- The octets that links may still take from definitions. -/
  budget : Nat
deriving Repr

namespace Definitions

/-- Without any definition. -/
def empty : Definitions :=
  ⟨[], 0⟩

/-- Add a definition, unless its label is defined already or empty. -/
def define (definitions : Definitions) (label : List Char) (target : Target) : Definitions :=
  let key := normalizeLabel label
  if key.isEmpty || (definitions.entries.lookup key).isSome then definitions
  else { definitions with entries := definitions.entries ++ [(key, target)] }

/-- The target of a label, and the definitions with what is left of their budget.
A target that is larger than that is not found. -/
def find (definitions : Definitions) (label : List Char) : Option (Target × Definitions) :=
  match definitions.entries.lookup (normalizeLabel label) with
  | none => none
  | some target =>
    let size := octetsOf (target.url ++ target.title)
    if size ≤ definitions.budget then
      some (target, { definitions with budget := definitions.budget - size })
    else none

end Definitions

/-- Take the definitions off the start of a paragraph, given at least as much fuel
as the paragraph has characters. -/
def takeDefinitionsFuel : Nat → Definitions → List Char → Definitions × List Char
  | 0, definitions, s => (definitions, s)
  | fuel + 1, definitions, s =>
    match readDefinition s with
    | some (label, target, rest) =>
      takeDefinitionsFuel fuel (definitions.define label target) rest
    | none => (definitions, s)

/-- Take the definitions off the start of a paragraph: the definitions with those
added, and the text that is left. -/
def takeDefinitions (definitions : Definitions) (s : List Char) : Definitions × List Char :=
  takeDefinitionsFuel s.length definitions s

end Chatdown.Markdown
