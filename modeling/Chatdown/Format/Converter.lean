import Chatdown.Format.Error
import Chatdown.Text.Utf8

/-!
# Converters

A converter turns Markdown text into one target markup and goes by a name. Bytes
are converted by way of the text they encode; bytes that encode no text are
refused before the converter sees them.
-/

namespace Chatdown.Format

/-- A named conversion of Markdown text. -/
structure Converter where
  /-- The name that selects this converter. -/
  name : String
  /-- What the converter writes, in a few words; empty when it does not say. -/
  description : String
  /-- The conversion itself. -/
  convert : String → Except ConvertError String

/-- Read bytes as text. -/
def decodeText (bytes : List UInt8) : Except ConvertError String :=
  match Text.Utf8.decode bytes with
  | .ok s => .ok (String.ofList s)
  | .error fault => .error (.invalidInput ("input is not valid UTF-8: " ++ fault.message))

/-- The bytes of a text. -/
def encodeText (s : String) : List UInt8 :=
  Text.Utf8.encode s.toList

/-- Convert bytes to bytes. -/
def Converter.convertBytes (converter : Converter) (bytes : List UInt8) :
    Except ConvertError (List UInt8) := do
  let source ← decodeText bytes
  let output ← converter.convert source
  return encodeText output

end Chatdown.Format
