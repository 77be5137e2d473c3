import Chatdown.Settings.Error
import Chatdown.Text.Blank

/-!
# Settings

The settings have two sections of one text each: the format to convert to when none
is asked for, and how much is logged. A section is a table, or a sequence whose
first element is its text. Truth values and numbers count as text.
-/

namespace Chatdown

open Settings

/-- The settings of the program. -/
structure Settings where
  /-- The format to convert to when none is asked for. -/
  defaultFormat : String
  /-- What is logged. -/
  level : String
deriving DecidableEq, Repr

namespace Settings

/-- The format to convert to when none is asked for, trimmed, if it is not blank. -/
def chosenFormat (settings : Settings) : Option String :=
  match Text.trim settings.defaultFormat.toList with
  | [] => none
  | format => some (String.ofList format)

/-- The text of a value, which goes by a key in errors. -/
def Value.toText (key : String) : Value → Except LoadError String
  | .text value => .ok value
  | .boolean value => .ok (if value then "true" else "false")
  | .integer value => .ok (toString value)
  | .real value => .ok (String.ofList value.text)
  | .null => .error (.notText .unit key none)
  | .sequence origin _ => .error (.notText .sequence key origin)
  | .table origin _ => .error (.notText .map key origin)

/-- The one text of a section, which goes by a key; its kind has a name in
errors. -/
def sectionText (name key field : String) : Value → Except LoadError String
  | .table _ entries =>
    match entries.lookup field with
    | some value => value.toText (key ++ "." ++ field)
    | none => .error (.missingKey field)
  | .sequence _ (first :: _) => first.toText (key ++ "[0]")
  | .sequence _ [] => .error (.emptySection name)
  | value => .error (.notSection name value)

/-- The section under a key of a table. -/
def sectionAt (entries : Value.Entries) (key : String) : Except LoadError Value :=
  match entries.lookup key with
  | some value => .ok value
  | none => .error (.missingKey key)

/-- The settings that a table holds. -/
def ofEntries (entries : Value.Entries) : Except LoadError Settings := do
  let defaultFormat ←
    sectionText "ConvertConfig" "convert" "default_format" (← sectionAt entries "convert")
  let level ← sectionText "LoggingConfig" "logging" "level" (← sectionAt entries "logging")
  return ⟨defaultFormat, level⟩

/-- The table of the settings that hold when nothing else is said. -/
def builtin : Value :=
  .table none
    [("convert", .table none [("default_format", .text "")]),
     ("logging", .table none [("level", .text "warn")])]

end Settings

end Chatdown
