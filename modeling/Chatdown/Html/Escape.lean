import Chatdown.Text.Ascii
import Chatdown.Text.Utf8

/-!
# Text in HTML

Text and attribute values hold no character that HTML would read as markup. The
octets of a destination that no address may hold are written in percent notation.
A destination whose scheme could run code or read local data is left out.
-/

namespace Chatdown.Html

open Text

/-- A character of text. -/
def escapeChar (c : Char) : List Char :=
  if c = '"' then "&quot;".toList
  else if c = '&' then "&amp;".toList
  else if c = '<' then "&lt;".toList
  else if c = '>' then "&gt;".toList
  else [c]

/-- A text. -/
def escape (s : String) : List Char :=
  s.toList.flatMap escapeChar

/-- A hexadecimal digit, in upper case. -/
def hexDigit (n : Nat) : Char :=
  if n < 10 then Char.ofNat (48 + n) else Char.ofNat (55 + n)

/-- An octet in percent notation. -/
def percent (octet : UInt8) : List Char :=
  ['%', hexDigit (octet.toNat / 16), hexDigit (octet.toNat % 16)]

/-- Whether a character stands for itself in a destination. -/
def isUrlChar (c : Char) : Bool :=
  c.isAlphanum || "-_.+!*(),%#@?=;:/$~".toList.contains c

/-- A character of a destination. -/
def escapeUrlChar (c : Char) : List Char :=
  if isUrlChar c then [c]
  else if c = '&' then "&amp;".toList
  else if c = '\'' then "&#x27;".toList
  else (Utf8.encodeChar c).flatMap percent

/-- The schemes of destinations that are left out. -/
def dangerousSchemes : List String :=
  ["javascript:", "vbscript:", "file:", "data:"]

/-- The images that may be written as data. -/
def safeData : List String :=
  ["data:image/png", "data:image/gif", "data:image/jpeg", "data:image/webp"]

/-- Whether a destination is left out. -/
def isDangerous (url : List Char) : Bool :=
  let startsWith (word : String) : Bool := (stripWordAnyCase word.toList url).isSome
  dangerousSchemes.any startsWith && !safeData.any startsWith

/-- A destination. -/
def escapeUrl (url : String) : List Char :=
  if isDangerous url.toList then [] else url.toList.flatMap escapeUrlChar

end Chatdown.Html
