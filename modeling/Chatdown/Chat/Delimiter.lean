/-!
# Chat-markup delimiters

Every delimiter of chat markup is written here and nowhere else. The functions
only wrap the text they are given; trimming is left to their callers.
-/

namespace Chatdown.Chat

/-- Bold text stands between asterisks. -/
def bold (text : List Char) : List Char :=
  '*' :: text ++ ['*']

/-- Italic text stands between underscores. -/
def italic (text : List Char) : List Char :=
  '_' :: text ++ ['_']

/-- Struck text stands between tildes. -/
def strike (text : List Char) : List Char :=
  '~' :: text ++ ['~']

/-- Inline code stands between single backticks. -/
def inlineCode (text : List Char) : List Char :=
  '\x60' :: text ++ ['\x60']

/-- A code block stands between lines of three backticks. -/
def codeBlock (text : List Char) : List Char :=
  ['\x60', '\x60', '\x60', '\n'] ++ text ++ ['\n', '\x60', '\x60', '\x60']

/-- A link is a destination and a title between angle brackets, separated by a
bar. Neither is escaped. -/
def link (destination title : List Char) : List Char :=
  '<' :: destination ++ '|' :: title ++ ['>']

/-- Quoted text follows a closing angle bracket. -/
def quote (text : List Char) : List Char :=
  '>' :: ' ' :: text

/-- The marker of an unordered list item. -/
def bullet : List Char :=
  ['•']

/-- The marker of the ordered list item with a number. -/
def ordinal (number : Nat) : List Char :=
  Nat.toDigits 10 number ++ ['.']

/-- The marker of the list item with a number, in a list of either order. -/
def listMarker (ordered : Bool) (number : Nat) : List Char :=
  if ordered then ordinal number else bullet

end Chatdown.Chat
