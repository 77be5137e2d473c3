/-!
# Blank characters and trimming

A character is blank when it has the `White_Space` property. Trimming removes
the longest run of blank characters from either end of a text and touches
nothing between them.
-/

namespace Chatdown.Text

/-- The code points with the `White_Space` property, as inclusive ranges in
ascending order. -/
def blankRanges : List (Nat × Nat) :=
  [(0x0009, 0x000D), (0x0020, 0x0020), (0x0085, 0x0085), (0x00A0, 0x00A0),
   (0x1680, 0x1680), (0x2000, 0x200A), (0x2028, 0x2029), (0x202F, 0x202F),
   (0x205F, 0x205F), (0x3000, 0x3000)]

/-- Whether a character is blank. -/
def isBlank (c : Char) : Bool :=
  blankRanges.any fun range => range.1 ≤ c.toNat && c.toNat ≤ range.2

/-- Drop the blank characters a text starts with. -/
def trimStart (s : List Char) : List Char :=
  s.dropWhile isBlank

/-- Drop the blank characters a text ends with. -/
def trimEnd (s : List Char) : List Char :=
  (s.reverse.dropWhile isBlank).reverse

/-- Drop the blank characters at both ends of a text. -/
def trim (s : List Char) : List Char :=
  trimEnd (trimStart s)

/-- The empty text has nothing to trim. -/
theorem trim_nil : trim [] = [] := rfl

/-- The newline is blank. -/
theorem isBlank_newline : isBlank '\n' = true := by decide

/-- The tab is blank. -/
theorem isBlank_tab : isBlank '\t' = true := by decide

/-- The space is blank. -/
theorem isBlank_space : isBlank ' ' = true := by decide

end Chatdown.Text
