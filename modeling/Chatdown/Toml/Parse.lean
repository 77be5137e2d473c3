import Chatdown.Toml.Moment
import Chatdown.Toml.Numeral
import Chatdown.Toml.Quoted
import Chatdown.Toml.Value

/-!
# Reading TOML

A document is a sequence of lines: headers that name a table, pairs of a key and a
value in the table named last, comments and blank lines. Only values in brackets and
texts between three marks go over several lines. A document is refused when a line
is none of these or a key is given twice; why is not told.
-/

namespace Chatdown.Toml

open Text

/-- The deepest nesting of values in brackets and braces, and the most keys that
dots join. -/
def maxDepth : Nat := 79

/-- Go past spaces and tabs. -/
def skipBlanks (s : List Char) : List Char :=
  s.dropWhile isSpaceOrTab

/-- Go past a comment, if one starts here. -/
def skipComment : List Char → List Char
  | '#' :: rest => rest.dropWhile isPlain
  | s => s

/-- What follows a newline. -/
def newline? : List Char → Option (List Char)
  | '\n' :: rest => some rest
  | '\r' :: '\n' :: rest => some rest
  | _ => none

/-- What follows the end of a line that holds at most a comment. -/
def lineEnd? (s : List Char) : Option (List Char) :=
  match skipComment (skipBlanks s) with
  | [] => some []
  | rest => newline? rest

/-- Go past blank lines, comments and white space, given at least as much fuel as
there are characters. -/
def skipLines : Nat → List Char → List Char
  | 0, s => s
  | fuel + 1, s =>
    match newline? (skipComment (skipBlanks s)) with
    | some rest => skipLines fuel rest
    | none => skipBlanks s

/-- Whether a character may stand in a key without quotes. -/
def isBareChar (c : Char) : Bool :=
  c.isAlphanum || c = '_' || c = '-'

/-- One key, and what follows it. -/
def simpleKey (s : List Char) : Option (String × List Char) :=
  match quoted s with
  | some (key, rest) => some (String.ofList key, rest)
  | none =>
    match s.takeWhile isBareChar with
    | [] => none
    | key => some (String.ofList key, s.dropWhile isBareChar)

/-- At most so many keys with dots between them, the last one apart from those
before it, and what follows them. -/
def dottedKey : Nat → List Char → Option (List String × String × List Char)
  | 0, _ => none
  | count + 1, s =>
    match simpleKey (skipBlanks s) with
    | none => none
    | some (key, rest) =>
      match skipBlanks rest with
      | '.' :: rest =>
        (dottedKey count rest).map fun (path, last, rest) => (key :: path, last, rest)
      | rest => some ([], key, rest)

/-- Whether a character may stand in a value without quotes. -/
def isWordChar (c : Char) : Bool :=
  isBareChar c || c = '+' || c = '.' || c = ':'

/-- A value without quotes or brackets. -/
def word? (s : List Char) : Option Toml :=
  if s = "true".toList then some (.boolean true)
  else if s = "false".toList then some (.boolean false)
  else
    match Moment.plain? s, Numeral.real? s, Numeral.integer? s with
    | some written, _, _ => some (.moment (String.ofList written))
    | none, some number, _ => some (.real number)
    | none, none, some number => some (.integer number)
    | none, none, none => none

/-- A value without quotes or brackets, and what follows it. A space may stand
between a date and the time of day. -/
def scalar (s : List Char) : Option (Toml × List Char) :=
  let word := s.takeWhile isWordChar
  let rest := s.dropWhile isWordChar
  let longer :=
    match Moment.date? word, rest with
    | some (_, []), ' ' :: rest =>
      (word? (word ++ 'T' :: rest.takeWhile isWordChar)).map fun value =>
        (value, rest.dropWhile isWordChar)
    | _, _ => none
  longer.or ((word? word).map fun value => (value, rest))

/-- The table in braces of pairs, each with the keys before its last one and
that one. -/
def tableOfPairs (pairs : List (List String × String × Toml)) : Option Toml :=
  (pairs.foldlM
    (fun (kind, entries) (path, key, value) => addDotted path key value kind entries)
    (TableKind.inline, [])).map fun (kind, entries) => .table kind entries

mutual

/-- A value and what follows it, inside so many brackets and braces. The fuel
bounds the steps: two for each character suffice. -/
def value : Nat → Nat → List Char → Option (Toml × List Char)
  | 0, _, _ => none
  | fuel + 1, depth, s =>
    match s with
    | '[' :: rest =>
      if depth = 0 then none
      else
        (elements fuel (depth - 1) (skipLines rest.length rest)).map fun (elements, rest) =>
          (.array elements, rest)
    | '{' :: rest =>
      if depth = 0 then none
      else
        match skipBlanks rest with
        | '}' :: rest => some (.table .inline [], rest)
        | rest =>
          match pairs fuel (depth - 1) rest with
          | some (pairs, rest) => (tableOfPairs pairs).map fun table => (table, rest)
          | none => none
    | s =>
      match anyQuoted s with
      | some (content, rest) => some (.text (String.ofList content), rest)
      | none => scalar s

/-- The elements of an array and what follows its closing bracket. A comma may
follow the last one. -/
def elements : Nat → Nat → List Char → Option (List Toml × List Char)
  | 0, _, _ => none
  | fuel + 1, depth, s =>
    match s with
    | ']' :: rest => some ([], rest)
    | s =>
      match value fuel depth s with
      | none => none
      | some (element, rest) =>
        match skipLines rest.length rest with
        | ',' :: rest =>
          (elements fuel depth (skipLines rest.length rest)).map fun (elements, rest) =>
            (element :: elements, rest)
        | ']' :: rest => some ([element], rest)
        | _ => none

/-- The pairs of a table in braces and what follows its closing brace. -/
def pairs : Nat → Nat → List Char → Option (List (List String × String × Toml) × List Char)
  | 0, _, _ => none
  | fuel + 1, depth, s =>
    match dottedKey maxDepth s with
    | some (path, key, '=' :: rest) =>
      match value fuel depth (skipBlanks rest) with
      | none => none
      | some (value, rest) =>
        match skipBlanks rest with
        | ',' :: rest =>
          (pairs fuel depth rest).map fun (pairs, rest) => ((path, key, value) :: pairs, rest)
        | '}' :: rest => some ([(path, key, value)], rest)
        | _ => none
    | _ => none

end

/-- A line that says something. -/
inductive Statement where
  /-- Name a table. -/
  | table (path : List String) (key : String)
  /-- Name the next table of an array of tables. -/
  | element (path : List String) (key : String)
  /-- A key, dotted or not, and its value. -/
  | pair (path : List String) (key : String) (value : Toml)

/-- What follows a text, if it stands here. -/
def past? (word s : List Char) : Option (List Char) :=
  stripWord word s

/-- The statement at the start of a line and what follows its line. -/
def statement (s : List Char) : Option (Statement × List Char) :=
  match s with
  | '[' :: '[' :: rest => do
    let (path, key, rest) ← dottedKey maxDepth rest
    let rest ← lineEnd? (← past? [']', ']'] rest)
    return (.element path key, rest)
  | '[' :: rest => do
    let (path, key, rest) ← dottedKey maxDepth rest
    let rest ← lineEnd? (← past? [']'] rest)
    return (.table path key, rest)
  | s => do
    let (path, key, rest) ← dottedKey maxDepth s
    let rest ← past? ['='] rest
    let (value, rest) ← value (2 * rest.length + 2) maxDepth (skipBlanks rest)
    let rest ← lineEnd? rest
    return (.pair path key value, rest)

/-- The statements of a document, given at least one fuel more than there are
characters. -/
def statements : Nat → List Char → Option (List Statement)
  | 0, _ => none
  | fuel + 1, s =>
    match skipLines s.length s with
    | [] => some []
    | '#' :: rest => if (rest.dropWhile isPlain).isEmpty then some [] else none
    | s =>
      match statement s with
      | none => none
      | some (first, rest) => (statements fuel rest).map (first :: ·)

/-- The document so far, and the keys that lead to the table named last. -/
structure Progress where
  entries : Entries
  current : List String

/-- Take a statement into account. -/
def Progress.take (progress : Progress) : Statement → Option Progress
  | .table path key => do
    let (_, entries) ← changeAt false (nameTable key) path .named progress.entries
    return ⟨entries, path ++ [key]⟩
  | .element path key => do
    let (_, entries) ← changeAt false (nameElement key) path .named progress.entries
    return ⟨entries, path ++ [key]⟩
  | .pair path key value => do
    let (_, entries) ←
      changeAt false (addDotted path key value) progress.current .named progress.entries
    return { progress with entries }

/-- The entries of a document. A byte order mark may stand at its start. -/
def parse? (s : List Char) : Option Entries := do
  let s := if s.head? = some '\uFEFF' then s.drop 1 else s
  let statements ← statements (s.length + 1) s
  let progress ← statements.foldlM Progress.take ⟨[], []⟩
  return progress.entries

end Chatdown.Toml
