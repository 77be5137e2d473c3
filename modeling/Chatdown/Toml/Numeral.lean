import Chatdown.Number.Double
import Chatdown.Text.Ascii

/-!
# Numbers of TOML

Whole numbers are decimal with an optional sign, or hexadecimal, octal or binary
behind `0x`, `0o` or `0b`, and fit into 64 bits with a sign. Other numbers have a
fraction or a power of ten, or are infinite or no number at all. Between two digits
there may be an underscore, and a decimal does not start with a needless zero.
-/

namespace Chatdown.Toml.Numeral

open Text Number

/-- Digits without the underscores between them. -/
def ungroup (isDigit : Char → Bool) : List Char → Option (List Char)
  | [] => none
  | [c] => if isDigit c then some [c] else none
  | c :: '_' :: rest => if isDigit c then (ungroup isDigit rest).map (c :: ·) else none
  | c :: rest => if isDigit c then (ungroup isDigit rest).map (c :: ·) else none

/-- The value of digits in a base. -/
def valueIn (base : Nat) (digits : List Char) : Nat :=
  digits.foldl (fun n c => base * n + hexValue c) 0

/-- Digits of a decimal: no zero before others. -/
def decimalDigits? (s : List Char) : Option (List Char) :=
  match ungroup Char.isDigit s with
  | some ('0' :: _ :: _) => none
  | digits => digits

/-- A sign, if there is one, and what follows it: whether the number is negative. -/
def splitSign : List Char → Bool × List Char
  | '-' :: rest => (true, rest)
  | '+' :: rest => (false, rest)
  | s => (false, s)

/-- A whole number that fits into 64 bits with a sign. -/
def fitting? (value : Int) : Option Int :=
  if -0x8000000000000000 ≤ value ∧ value < 0x8000000000000000 then some value else none

/-- The value of a text that is all whole number. -/
def integer? (s : List Char) : Option Int :=
  let prefixed (base : Nat) (digits : List Char) : Option Int :=
    (ungroup (fun c => isHexDigit c && hexValue c < base) digits).bind fun digits =>
      fitting? (valueIn base digits)
  match s with
  | '0' :: 'x' :: digits => prefixed 16 digits
  | '0' :: 'o' :: digits => prefixed 8 digits
  | '0' :: 'b' :: digits => prefixed 2 digits
  | s =>
    let (negative, digits) := splitSign s
    (decimalDigits? digits).bind fun digits =>
      let value : Int := valueIn 10 digits
      fitting? (if negative then -value else value)

/-- Whether a character may stand among grouped digits. -/
def isGroupedDigit (c : Char) : Bool :=
  c.isDigit || c = '_'

/-- The power of ten at the end of a number: zero when there is none. -/
def power? : List Char → Option Int
  | [] => some 0
  | e :: s =>
    if e = 'e' ∨ e = 'E' then
      let (negative, digits) := splitSign s
      (ungroup Char.isDigit digits).map fun digits =>
        let value : Int := valueIn 10 digits
        if negative then -value else value
    else none

/-- The nearest double of a text that is all fraction or power of ten. A positive
one must not be too large; a negative one may be. -/
def fraction? (negative : Bool) (s : List Char) : Option Double := do
  let whole ← decimalDigits? (s.takeWhile isGroupedDigit)
  let (decimals, rest) ←
    match s.dropWhile isGroupedDigit with
    | [] => none
    | '.' :: rest =>
      (ungroup Char.isDigit (rest.takeWhile isGroupedDigit)).map fun decimals =>
        (decimals, rest.dropWhile isGroupedDigit)
    | rest => some ([], rest)
  let power ← power? rest
  let value := Double.ofDecimal negative (valueIn 10 (whole ++ decimals))
    (power - (decimals.length : Int))
  if value = .infinite false then none else some value

/-- The value of a text that is all number but no whole one. -/
def real? (s : List Char) : Option Double :=
  let (negative, magnitude) := splitSign s
  match magnitude with
  | ['i', 'n', 'f'] => some (.infinite negative)
  | ['n', 'a', 'n'] => some .nan
  | magnitude => fraction? negative magnitude

end Chatdown.Toml.Numeral
