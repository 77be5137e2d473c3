import Chatdown.Settings.Value
import Chatdown.Text.Invisible

/-!
# Errors of settings

What can keep settings from being loaded, and the text each cause is shown with.
Where the text quotes a value, a string stands between quotation marks with escapes,
and characters that cannot be seen are written by their number.
-/

namespace Chatdown.Settings

open Text

/-- Values that stand for no text. -/
inductive Shape where
  | unit
  | sequence
  | map
deriving DecidableEq, Repr

/-- The name of a shape. -/
def Shape.name : Shape → String
  | unit => "unit value"
  | sequence => "sequence"
  | map => "map"

/-- Why settings could not be loaded. -/
inductive LoadError where
  /-- A file is not TOML. -/
  | badSyntax
  /-- A text is no path of keys. -/
  | badPath
  /-- A file that was asked for is missing. -/
  | fileNotFound (path : String)
  /-- A file that was asked for is not text. -/
  | notUtf8
  /-- A value stands for no text; the file it comes from, if one is known. -/
  | notText (found : Shape) (key : String) (origin : Option String)
  /-- A section is neither a table nor a sequence. -/
  | notSection (name : String) (found : Value)
  /-- A sequence that stands for a section is empty. -/
  | emptySection (name : String)
  /-- A table lacks a key. -/
  | missingKey (key : String)
deriving Repr

/-- The hexadecimal digits of a number, in lower case. -/
def hexDigits (n : Nat) : List Char :=
  Nat.toDigits 16 n

/-- A character inside a quoted string. -/
def quoteChar (c : Char) : List Char :=
  if c = '"' ∨ c = '\\' then ['\\', c]
  else if c = '\n' then ['\\', 'n']
  else if c = '\r' then ['\\', 'r']
  else if c = '\t' then ['\\', 't']
  else if c.toNat = 0 then ['\\', '0']
  else if isInvisible c then '\\' :: 'u' :: '\x7b' :: hexDigits c.toNat ++ ['\x7d']
  else [c]

/-- A string between quotation marks. -/
def quoteText (s : String) : String :=
  String.ofList ('"' :: s.toList.flatMap quoteChar ++ ['"'])

/-- A number with a point in its text, unless it is infinite or none at all. -/
def pointed (value : Number.Double) : String :=
  let text := value.text
  let suffix := match value with
    | .finite _ _ _ => if text.contains '.' then [] else ['.', '0']
    | _ => []
  String.ofList (text ++ suffix)

/-- What a value is, in a few words. -/
def Value.describe : Value → String
  | .null => "unit value"
  | .boolean value => "boolean \x60" ++ (if value then "true" else "false") ++ "\x60"
  | .integer value => "integer \x60" ++ toString value ++ "\x60"
  | .real value => "floating point \x60" ++ pointed value ++ "\x60"
  | .text value => "string " ++ quoteText value
  | .sequence _ _ => "sequence"
  | .table _ _ => "map"

/-- The text of an error. Syntax errors are only named. -/
def LoadError.message : LoadError → String
  | badSyntax => "TOML parse error"
  | badPath => "invalid key"
  | fileNotFound path => "configuration file \"" ++ path ++ "\" not found"
  | notUtf8 => "stream did not contain valid UTF-8"
  | notText found key origin =>
    let place := match origin with
      | some origin => " in " ++ origin
      | none => ""
    "invalid type: " ++ found.name ++ ", expected a string for key \x60" ++ key ++ "\x60" ++ place
  | notSection name found =>
    "invalid type: " ++ found.describe ++ ", expected struct " ++ name
  | emptySection name => "invalid length 0, expected struct " ++ name ++ " with 1 element"
  | missingKey key => "missing field \x60" ++ key ++ "\x60"

end Chatdown.Settings
