import Chatdown.Chat.Render
import Chatdown.Document.Parse
import Chatdown.Format.Registry
import Chatdown.Html.Fragment

/-!
# The built-in formats

Chat markup and HTML, and the registry that holds just these two. Neither
conversion ever fails.
-/

namespace Chatdown.Format

/-- The chat markup of a Markdown text. -/
def toChat (source : String) : String :=
  String.ofList (Chat.renderDocument (Node.parse source))

/-- The HTML of a Markdown text, trimmed at both ends. -/
def toHtml (source : String) : String :=
  let tree := Markdown.parse (Text.unifyNewlines source.toList)
  String.ofList (Text.trim (Html.fragment tree))

/-- The converter to chat markup. -/
def slack : Converter where
  name := "slack"
  description := "Slack chat-markup (mrkdwn)"
  convert source := .ok (toChat source)

/-- The converter to HTML. -/
def http : Converter where
  name := "http"
  description := "HTML fragment"
  convert source := .ok (toHtml source)

/-- The registry of the built-in converters. -/
def Registry.withDefaults : Registry :=
  (Registry.empty.register slack).register http

end Chatdown.Format
