/-!
# Character classes of ASCII

Markdown's own syntax is ASCII: its white space, its letters and digits, and its
punctuation. Characters above U+007F belong to none of these classes.
-/

namespace Chatdown.Text

/-- Space, tab, line feed or carriage return. -/
def isSpace (c : Char) : Bool :=
  c = ' ' || c = '\t' || c = '\n' || c = '\r'

/-- Space, tab, line feed, vertical tab, form feed or carriage return. -/
def isAnySpace (c : Char) : Bool :=
  c = ' ' || (9 ≤ c.toNat && c.toNat ≤ 13)

/-- Space or tab. -/
def isSpaceOrTab (c : Char) : Bool :=
  c = ' ' || c = '\t'

/-- Whether the first line of a text holds nothing but spaces and tabs. -/
def startsBlank (s : List Char) : Bool :=
  (s.takeWhile (· ≠ '\n')).all isSpaceOrTab

/-- ASCII punctuation, symbols included. -/
def isPunct (c : Char) : Bool :=
  (33 ≤ c.toNat && c.toNat ≤ 47) || (58 ≤ c.toNat && c.toNat ≤ 64) ||
    (91 ≤ c.toNat && c.toNat ≤ 96) || (123 ≤ c.toNat && c.toNat ≤ 126)

/-- A control character of ASCII. -/
def isControl (c : Char) : Bool :=
  c.toNat < 32 || c.toNat = 127

/-- A hexadecimal digit of either case. -/
def isHexDigit (c : Char) : Bool :=
  c.isDigit || ('a' ≤ c && c ≤ 'f') || ('A' ≤ c && c ≤ 'F')

/-- The value of a hexadecimal digit; zero for any other character. -/
def hexValue (c : Char) : Nat :=
  if c.isDigit then c.toNat - 48
  else if 'a' ≤ c && c ≤ 'f' then c.toNat - 87
  else if 'A' ≤ c && c ≤ 'F' then c.toNat - 55
  else 0

/-- Drop spaces, tabs and line ends at both ends. -/
def trimSpaces (s : List Char) : List Char :=
  ((s.dropWhile isSpace).reverse.dropWhile isSpace).reverse

/-- Drop spaces, tabs and line ends at the end. -/
def trimSpacesEnd (s : List Char) : List Char :=
  (s.reverse.dropWhile isSpace).reverse

/-- What follows a word at the start of a text. -/
def stripWord : List Char → List Char → Option (List Char)
  | [], s => some s
  | _ :: _, [] => none
  | w :: word, c :: s => if w = c then stripWord word s else none

/-- What follows a word at the start of a text, where letters of the text count in
either case. The word itself is in lower case. -/
def stripWordAnyCase : List Char → List Char → Option (List Char)
  | [], s => some s
  | _ :: _, [] => none
  | w :: word, c :: s => if w = c.toLower then stripWordAnyCase word s else none

/-- Whether a word occurs in a text. -/
def hasWord (word : List Char) : List Char → Bool
  | [] => word.isEmpty
  | c :: s => (stripWord word (c :: s)).isSome || hasWord word s

/-- Whether a word occurs in a text, where letters of the text count in either
case. -/
def hasWordAnyCase (word : List Char) : List Char → Bool
  | [] => word.isEmpty
  | c :: s => (stripWordAnyCase word (c :: s)).isSome || hasWordAnyCase word s

/-- What is left of a text after a word has at least one character less for each
character of the word. -/
theorem length_of_stripWord {word s rest : List Char} (h : stripWord word s = some rest) :
    word.length + rest.length = s.length := by
  induction word generalizing s with
  | nil => simp_all [stripWord]
  | cons w word ih =>
    cases s with
    | nil => simp [stripWord] at h
    | cons c s =>
      simp only [stripWord] at h
      split at h
      · have := ih h
        simp only [List.length_cons]
        omega
      · contradiction

/-- A text that begins with a number in decimal has just the digits of the number at its
start, when no other digit follows them. -/
theorem takeWhile_isDigit_toDigits (n : Nat) {rest : List Char}
    (h : ∀ c ∈ rest.head?, c.isDigit = false) :
    (Nat.toDigits 10 n ++ rest).takeWhile Char.isDigit = Nat.toDigits 10 n := by
  have hdigits : ∀ c ∈ Nat.toDigits 10 n, c.isDigit = true := fun c hc =>
    Nat.isDigit_of_mem_toDigits (by decide) (by decide) hc
  rw [List.takeWhile_append_of_pos hdigits]
  cases rest with
  | nil => simp
  | cons c rest => simp [h c rfl]

end Chatdown.Text
