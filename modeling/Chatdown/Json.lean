/-!
# JSON values and their indented text

The values that the program prints are texts, natural numbers, truth values,
null, arrays and objects; objects keep their members in order. The indented text
puts each element and each member on a line of its own, two spaces deeper than
the bracket that holds it, and writes an empty array or object as two brackets.
-/

namespace Chatdown

/-- A JSON value. -/
inductive Json where
  | null
  | bool (value : Bool)
  | number (value : Nat)
  | string (value : String)
  | array (elements : List Json)
  /-- An object, its members in the order they are written. -/
  | object (members : List (String × Json))
deriving Repr

namespace Json

/-- A hexadecimal digit, in lower case. -/
def hexDigit (n : Nat) : Char :=
  if n < 10 then Char.ofNat (48 + n) else Char.ofNat (87 + n)

/-- One character inside a quoted text. The quotation mark, the backslash and the
control characters below U+0020 are escaped, all else stands for itself. -/
def escapeChar (c : Char) : List Char :=
  if c = '"' then ['\\', '"']
  else if c = '\\' then ['\\', '\\']
  else if c = '\n' then ['\\', 'n']
  else if c = '\r' then ['\\', 'r']
  else if c = '\t' then ['\\', 't']
  else if c.toNat = 8 then ['\\', 'b']
  else if c.toNat = 12 then ['\\', 'f']
  else if c.toNat < 32 then
    ['\\', 'u', '0', '0', hexDigit (c.toNat / 16), hexDigit (c.toNat % 16)]
  else [c]

/-- A text between quotation marks. -/
def quote (s : String) : List Char :=
  '"' :: s.toList.flatMap escapeChar ++ ['"']

/-- The start of a line at an indentation depth. -/
def newline (depth : Nat) : List Char :=
  '\n' :: List.replicate (2 * depth) ' '

mutual

/-- The indented text of a value whose first line is `depth` levels deep. -/
def print (depth : Nat) : Json → List Char
  | null => "null".toList
  | bool value => (if value then "true" else "false").toList
  | number value => Nat.toDigits 10 value
  | string value => quote value
  | array elements =>
    '[' :: printElements depth true elements ++ [']']
  | object members =>
    '{' :: printMembers depth true members ++ ['}']

/-- The elements of an array that is `depth` levels deep, with the line breaks
around them. A comma stands before all but the first. -/
def printElements (depth : Nat) (isFirst : Bool) : List Json → List Char
  | [] => if isFirst then [] else newline depth
  | element :: rest =>
    (if isFirst then [] else [',']) ++ newline (depth + 1) ++ print (depth + 1) element ++
      printElements depth false rest

/-- The members of an object that is `depth` levels deep, with the line breaks
around them. A comma stands before all but the first. -/
def printMembers (depth : Nat) (isFirst : Bool) : List (String × Json) → List Char
  | [] => if isFirst then [] else newline depth
  | (key, value) :: rest =>
    (if isFirst then [] else [',']) ++ newline (depth + 1) ++ quote key ++ [':', ' '] ++
      print (depth + 1) value ++ printMembers depth false rest

end

/-- The indented text of a value. -/
def pretty (value : Json) : List Char :=
  print 0 value

end Json

end Chatdown
