import Chatdown.Text.Ascii

/-!
# Quoted texts of TOML

A text stands between quotation marks, with escapes, or between apostrophes, as it
is; between three of either it may go over several lines. A newline right behind
the opening three is left out, and a backslash at the end of a line takes all white
space along up to the next character. A reader is given what follows the opening
mark, and returns the text and what follows its closing mark.
-/

namespace Chatdown.Toml

open Text

/-- Whether a character may stand in a comment or a text: no control character
but the tab. -/
def isPlain (c : Char) : Bool :=
  c = '\t' || !isControl c

/-- The scalar value of hexadecimal digits. -/
def scalar? (digits : List Char) : Option Char :=
  let n := digits.foldl (fun n c => 16 * n + hexValue c) 0
  if digits.all isHexDigit ∧ (n < 0xD800 ∨ (0xDFFF < n ∧ n < 0x110000)) then
    some (Char.ofNat n)
  else none

/-- What a letter behind a backslash stands for. -/
def escaped? (c : Char) : Option Char :=
  match c with
  | 'b' => some '\x08'
  | 't' => some '\t'
  | 'n' => some '\n'
  | 'f' => some '\x0c'
  | 'r' => some '\r'
  | '"' => some '"'
  | '\\' => some '\\'
  | _ => none

/-- Put a character in front of a text that was read. -/
def withFront (front : Option Char) (read : Option (List Char × List Char)) :
    Option (List Char × List Char) :=
  match front, read with
  | some c, some (text, rest) => some (c :: text, rest)
  | _, _ => none

/-- A text up to a quotation mark. -/
def basic : List Char → Option (List Char × List Char)
  | [] => none
  | '"' :: rest => some ([], rest)
  | '\\' :: 'u' :: a :: b :: c :: d :: rest => withFront (scalar? [a, b, c, d]) (basic rest)
  | '\\' :: 'U' :: a :: b :: c :: d :: e :: f :: g :: h :: rest =>
    withFront (scalar? [a, b, c, d, e, f, g, h]) (basic rest)
  | '\\' :: c :: rest => withFront (escaped? c) (basic rest)
  | c :: rest => if isPlain c then withFront (some c) (basic rest) else none

/-- A text up to an apostrophe. -/
def literal : List Char → Option (List Char × List Char)
  | [] => none
  | '\'' :: rest => some ([], rest)
  | c :: rest => if isPlain c then withFront (some c) (literal rest) else none

/-- Behind three closing marks: up to two more belong to the text before them. -/
def closing (mark : Char) (s : List Char) : Option (List Char × List Char) :=
  let more := s.takeWhile (· = mark)
  if more.length ≤ 2 then some (more, s.dropWhile (· = mark)) else none

/-- Whether nothing but spaces and tabs stands before the end of the line. -/
def lineIsOver (s : List Char) : Bool :=
  match s.dropWhile isSpaceOrTab with
  | '\n' :: _ => true
  | '\r' :: '\n' :: _ => true
  | _ => false

/-- A text up to three quotation marks. `skipping` tells whether white space is
taken along by a backslash. -/
def longBasic (skipping : Bool) : List Char → Option (List Char × List Char)
  | [] => none
  | '"' :: '"' :: '"' :: rest => closing '"' rest
  | '\\' :: 'u' :: a :: b :: c :: d :: rest =>
    withFront (scalar? [a, b, c, d]) (longBasic false rest)
  | '\\' :: 'U' :: a :: b :: c :: d :: e :: f :: g :: h :: rest =>
    withFront (scalar? [a, b, c, d, e, f, g, h]) (longBasic false rest)
  | '\\' :: c :: rest =>
    if lineIsOver (c :: rest) then longBasic true (c :: rest)
    else withFront (escaped? c) (longBasic false rest)
  | '\r' :: '\n' :: rest =>
    if skipping then longBasic true rest else withFront (some '\n') (longBasic false rest)
  | c :: rest =>
    if c = '\n' ∨ isSpaceOrTab c then
      if skipping then longBasic true rest else withFront (some c) (longBasic false rest)
    else if isPlain c then withFront (some c) (longBasic false rest)
    else none

/-- A text up to three apostrophes. -/
def longLiteral : List Char → Option (List Char × List Char)
  | [] => none
  | '\'' :: '\'' :: '\'' :: rest => closing '\'' rest
  | '\r' :: '\n' :: rest => withFront (some '\n') (longLiteral rest)
  | c :: rest =>
    if c = '\n' ∨ isPlain c then withFront (some c) (longLiteral rest) else none

/-- What follows a newline, if there is one. -/
def pastNewline : List Char → List Char
  | '\n' :: rest => rest
  | '\r' :: '\n' :: rest => rest
  | s => s

/-- A text on one line, with its marks. -/
def quoted : List Char → Option (List Char × List Char)
  | '"' :: rest => basic rest
  | '\'' :: rest => literal rest
  | _ => none

/-- A text of either sort, with its marks. -/
def anyQuoted : List Char → Option (List Char × List Char)
  | '"' :: '"' :: '"' :: rest => longBasic false (pastNewline rest)
  | '\'' :: '\'' :: '\'' :: rest => longLiteral (pastNewline rest)
  | s => quoted s

end Chatdown.Toml
