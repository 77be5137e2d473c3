import Chatdown.Document.OfSyntax
import Chatdown.Format.Converter
import Chatdown.Markdown.Parse
import Chatdown.Text.Newline

/-!
# Reading documents

A document is read from Markdown text with line endings of any sort, or from the
bytes of such a text.
-/

namespace Chatdown.Node

/-- The document of a Markdown text. -/
def parse (source : String) : Node :=
  ofSyntax (Markdown.parse (Text.unifyNewlines source.toList))

/-- The document of the Markdown text that some bytes encode. -/
def parseBytes (source : List UInt8) : Except Format.ConvertError Node :=
  parse <$> Format.decodeText source

end Chatdown.Node
