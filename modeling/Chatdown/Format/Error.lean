/-!
# Conversion errors

What can keep a conversion from giving an answer, and the text each cause is
shown with.
-/

namespace Chatdown.Format

/-- Why a conversion failed. -/
inductive ConvertError where
  /-- No converter has the name; the names there are, in order. -/
  | formatNotFound (name : String) (available : List String)
  /-- The input cannot be accepted. -/
  | invalidInput (message : String)
  /-- The output cannot be produced. -/
  | render (message : String)
deriving DecidableEq, Repr

/-- The text of a conversion error. -/
def ConvertError.message : ConvertError → String
  | .formatNotFound name available =>
    let names := ", ".intercalate available
    s!"unexpected format '{name}', expected: ({names})"
  | .invalidInput message => s!"invalid input: {message}"
  | .render message => s!"render error: {message}"

end Chatdown.Format
