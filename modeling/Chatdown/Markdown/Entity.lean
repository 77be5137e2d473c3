import Chatdown.Markdown.EntityTable
import Chatdown.Text.Ascii

/-!
# Character references

A reference to a character is an ampersand, a name or a number, and a semicolon.
Unknown names are no references. A number that stands for no character that may
be referred to gives U+FFFD.
-/

namespace Chatdown.Markdown.Entity

open Text

/-- The character that a number refers to. -/
def scalar (code : Nat) : Char :=
  if code = 0 ∨ (0xD800 ≤ code ∧ code ≤ 0xE000) ∨ 0x110000 ≤ code then '\uFFFD'
  else Char.ofNat code

/-- The value of a sequence of digits in a base. -/
def value (base : Nat) (digits : List Char) : Nat :=
  digits.foldl (fun value digit => base * value + hexValue digit) 0

/-- A number in a base with at most so many digits, and what follows its
semicolon. -/
def number (base most : Nat) (isDigit : Char → Bool) (s : List Char) :
    Option (List Char × List Char) :=
  let digits := s.takeWhile isDigit
  match s.dropWhile isDigit with
  | ';' :: rest =>
    if 1 ≤ digits.length ∧ digits.length ≤ most then
      some ([scalar (value base digits)], rest)
    else none
  | _ => none

/-- A name and what follows its semicolon. A name holds at least two characters
and neither a space nor a semicolon. -/
def named (s : List Char) : Option (List Char × List Char) :=
  let name := (s.take 32).takeWhile fun c => c ≠ ';' && c ≠ ' '
  match s.drop name.length with
  | ';' :: rest =>
    if 2 ≤ name.length ∧ name.length < 32 then
      (lookup name).map fun characters => (characters, rest)
    else none
  | _ => none

/-- The characters a reference stands for and what follows it, from behind its
ampersand. -/
def read (s : List Char) : Option (List Char × List Char) :=
  let numeric :=
    match s with
    | '#' :: 'x' :: digits => number 16 6 isHexDigit digits
    | '#' :: 'X' :: digits => number 16 6 isHexDigit digits
    | '#' :: digits => number 10 7 Char.isDigit digits
    | _ => none
  numeric.or (named s)

/-- Replace every reference in a text, given at least as much fuel as the text has
characters. -/
def decodeFuel : Nat → List Char → List Char
  | 0, s => s
  | _, [] => []
  | fuel + 1, c :: rest =>
    if c = '&' then
      match read rest with
      | some (characters, rest) => characters ++ decodeFuel fuel rest
      | none => c :: decodeFuel fuel rest
    else c :: decodeFuel fuel rest

/-- Replace every reference in a text. -/
def decode (s : List Char) : List Char :=
  decodeFuel s.length s

end Chatdown.Markdown.Entity
