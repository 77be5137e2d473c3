import Chatdown.Json
import Chatdown.Text.Ascii
import Mathlib.Data.List.Basic

/-!
# Reading JSON text

A reader for the texts of JSON values, with white space wherever JSON allows it and with
all of its escapes, pairs of surrogates included. Numbers are natural ones. What the
printer writes is read back as the value that was printed, whatever its texts hold and
however deep it is.
-/

namespace Chatdown.Json

open Text

/-- What follows a mark at the start of a text, white space before it aside. -/
def past (mark : Char) (s : List Char) : Option (List Char) :=
  match s.dropWhile isSpace with
  | c :: rest => if c = mark then some rest else none
  | [] => none

/-- The number that hexadecimal digits write. -/
def hexNumber? (digits : List Char) : Option Nat :=
  if digits.all isHexDigit then some (digits.foldl (fun n c => 16 * n + hexValue c) 0) else none

/-- The code point that a letter behind a backslash stands for. -/
def escaped? : Char → Option Nat
  | '"' => some 34
  | '\\' => some 92
  | '/' => some 47
  | 'b' => some 8
  | 'f' => some 12
  | 'n' => some 10
  | 'r' => some 13
  | 't' => some 9
  | _ => none

/-- Put a unit in front of those that were read. -/
def withUnit (unit : Option Nat) (read : Option (List Nat × List Char)) :
    Option (List Nat × List Char) := do
  let n ← unit
  let (units, rest) ← read
  some (n :: units, rest)

/-- The units up to a quotation mark, and what follows it. A unit is the code point of a
character that stands for itself, or what an escape stands for; that may be half of a
pair of surrogates. -/
def readUnits : List Char → Option (List Nat × List Char)
  | [] => none
  | '"' :: rest => some ([], rest)
  | '\\' :: 'u' :: a :: b :: c :: d :: rest =>
    withUnit (hexNumber? [a, b, c, d]) (readUnits rest)
  | '\\' :: c :: rest => withUnit (escaped? c) (readUnits rest)
  | c :: rest => if c.toNat < 32 then none else withUnit (some c.toNat) (readUnits rest)

/-- Whether a unit is the first half of a pair of surrogates. -/
def isLead (unit : Nat) : Bool :=
  0xD800 ≤ unit && unit < 0xDC00

/-- Whether a unit is the second half of a pair of surrogates. -/
def isTrail (unit : Nat) : Bool :=
  0xDC00 ≤ unit && unit < 0xE000

/-- The characters that units stand for; there are none for half a pair. -/
def ofUnits : List Nat → Option (List Char)
  | [] => some []
  | lead :: trail :: rest =>
    if isLead lead && isTrail trail then
      (Char.ofNat (0x10000 + (lead - 0xD800) * 0x400 + (trail - 0xDC00)) :: ·) <$> ofUnits rest
    else if isLead lead || isTrail lead then none
    else (Char.ofNat lead :: ·) <$> ofUnits (trail :: rest)
  | [unit] => if isLead unit || isTrail unit then none else some [Char.ofNat unit]

/-- A text up to its closing quotation mark, and what follows it. -/
def readText (s : List Char) : Option (String × List Char) := do
  let (units, rest) ← readUnits s
  let text ← ofUnits units
  some (String.ofList text, rest)

/-- A natural number without leading zeros, and what follows it. -/
def readNumber (s : List Char) : Option (Json × List Char) :=
  let digits := s.takeWhile Char.isDigit
  if digits = [] ∨ (digits.head? = some '0' ∧ digits ≠ ['0']) then none
  else some (.number (Nat.ofDigitChars 10 digits 0), s.dropWhile Char.isDigit)

mutual

/-- A value, and what follows it. -/
def readValue : Nat → List Char → Option (Json × List Char)
  | 0, _ => none
  | fuel + 1, s =>
    match s.dropWhile isSpace with
    | 'n' :: 'u' :: 'l' :: 'l' :: rest => some (.null, rest)
    | 't' :: 'r' :: 'u' :: 'e' :: rest => some (.bool true, rest)
    | 'f' :: 'a' :: 'l' :: 's' :: 'e' :: rest => some (.bool false, rest)
    | '"' :: rest => do
      let (text, rest) ← readText rest
      some (.string text, rest)
    | '[' :: rest =>
      match past ']' rest with
      | some rest => some (.array [], rest)
      | none => do
        let (elements, rest) ← readElements fuel rest
        some (.array elements, rest)
    | '{' :: rest =>
      match past '}' rest with
      | some rest => some (.object [], rest)
      | none => do
        let (members, rest) ← readMembers fuel rest
        some (.object members, rest)
    | rest => readNumber rest

/-- The elements of an array up to its closing bracket, and what follows it. -/
def readElements : Nat → List Char → Option (List Json × List Char)
  | 0, _ => none
  | fuel + 1, s => do
    let (element, rest) ← readValue fuel s
    match past ',' rest with
    | some rest => do
      let (elements, rest) ← readElements fuel rest
      some (element :: elements, rest)
    | none => do
      let rest ← past ']' rest
      some ([element], rest)

/-- The members of an object up to its closing bracket, and what follows it. -/
def readMembers : Nat → List Char → Option (List (String × Json) × List Char)
  | 0, _ => none
  | fuel + 1, s => do
    let (key, rest) ← readText (← past '"' s)
    let (value, rest) ← readValue fuel (← past ':' rest)
    match past ',' rest with
    | some rest => do
      let (members, rest) ← readMembers fuel rest
      some ((key, value) :: members, rest)
    | none => do
      let rest ← past '}' rest
      some ([(key, value)], rest)

end

/-- The value that a text writes. Nothing but white space may follow it. -/
def read (text : List Char) : Option Json := do
  let (value, rest) ← readValue text.length text
  if rest.all isSpace then some value else none

/-- What passes from the elements of arrays and the members of objects to them holds of
all values. -/
@[elab_as_elim, induction_eliminator]
theorem induction {motive : Json → Prop} (null : motive .null)
    (bool : ∀ value, motive (.bool value)) (number : ∀ value, motive (.number value))
    (string : ∀ value, motive (.string value))
    (array : ∀ elements, (∀ element ∈ elements, motive element) → motive (.array elements))
    (object : ∀ members : List (String × Json),
      (∀ member ∈ members, motive member.2) → motive (.object members))
    (value : Json) : motive value :=
  @Json.rec motive (fun elements => ∀ element ∈ elements, motive element)
    (fun members => ∀ member ∈ members, motive member.2) (fun member => motive member.2)
    null bool number string array object
    (fun _ h => absurd h List.not_mem_nil)
    (fun _ _ helement hrest => List.forall_mem_cons.mpr ⟨helement, hrest⟩)
    (fun _ h => absurd h List.not_mem_nil)
    (fun _ _ hmember hrest => List.forall_mem_cons.mpr ⟨hmember, hrest⟩)
    (fun _ _ hvalue => hvalue) value

/-- The four digits of a control character write its code point. -/
theorem hexNumber?_control : ∀ n < 32,
    hexNumber? ['0', '0', hexDigit (n / 16), hexDigit (n % 16)] = some n := by
  decide

/-- A character is read as its code point, whether it is escaped or stands for itself. -/
theorem readUnits_escapeChar (c : Char) (rest : List Char) :
    readUnits (escapeChar c ++ rest) = withUnit (some c.toNat) (readUnits rest) := by
  rw [escapeChar]
  split
  · next h => rw [h]; rfl
  split
  · next h => rw [h]; rfl
  split
  · next h => rw [h]; rfl
  split
  · next h => rw [h]; rfl
  split
  · next h => rw [h]; rfl
  split
  · next h => rw [h]; rfl
  split
  · next h => rw [h]; rfl
  split
  · next h => rw [← hexNumber?_control c.toNat h]; rfl
  · next hquote hslash _ _ _ _ _ hcontrol =>
    rw [List.singleton_append, readUnits, if_neg hcontrol]
    · exact hquote
    · exact fun a b c d rest h _ => hslash h
    · exact fun d rest h _ => hslash h

/-- The escaped characters of a text are read as its code points, up to the quotation
mark behind them. -/
theorem readUnits_escaped (s rest : List Char) :
    readUnits (s.flatMap escapeChar ++ '"' :: rest) = some (s.map Char.toNat, rest) := by
  induction s with
  | nil => rfl
  | cons c s ih =>
    rw [List.flatMap_cons, List.append_assoc, readUnits_escapeChar, ih]
    rfl

/-- No character is half of a pair. -/
theorem not_surrogate (c : Char) : (isLead c.toNat || isTrail c.toNat) = false := by
  have hvalid : c.toNat < 0xD800 ∨ 0xDFFF < c.toNat ∧ c.toNat < 0x110000 := c.valid
  simp only [isLead, isTrail, Bool.or_eq_false_iff, Bool.and_eq_false_iff, decide_eq_false_iff_not]
  omega

/-- The code points of a text stand for it. -/
theorem ofUnits_map_toNat (s : List Char) : ofUnits (s.map Char.toNat) = some s := by
  induction s with
  | nil => rfl
  | cons c rest ih =>
    have hwhole := not_surrogate c
    cases rest with
    | nil =>
      rw [List.map_cons, List.map_nil, ofUnits, hwhole, Char.ofNat_toNat]
      rfl
    | cons d rest =>
      have hlead : isLead c.toNat = false := (Bool.or_eq_false_iff.mp hwhole).1
      rw [List.map_cons, List.map_cons, ofUnits, hlead, Bool.false_and, ← List.map_cons, ih,
        Char.ofNat_toNat]
      rw [hlead] at hwhole
      rw [hwhole]
      rfl

/-- A quoted text is read back, and what follows it is left. -/
theorem readText_escaped (text : String) (rest : List Char) :
    readText (text.toList.flatMap escapeChar ++ '"' :: rest) = some (text, rest) := by
  rw [readText, readUnits_escaped, Option.bind_eq_bind, Option.bind_some]
  simp [ofUnits_map_toNat]

/-- A number other than zero does not begin with a zero. -/
theorem head?_toDigits {n : Nat} (h : n ≠ 0) : (Nat.toDigits 10 n).head? ≠ some '0' := by
  induction n using Nat.strongRecOn with
  | ind n ih =>
    by_cases hsmall : n < 10
    · have hdigit : ∀ n < 10, n ≠ 0 → some n.digitChar ≠ some '0' := by decide
      rw [Nat.toDigits_of_lt_base hsmall]
      exact hdigit n hsmall h
    · rw [Nat.toDigits_of_base_le (by decide) (by omega),
        List.head?_append_of_ne_nil _ Nat.toDigits_ne_nil]
      exact ih (n / 10) (by omega) (by omega)

/-- The digits of a number begin with a digit. -/
theorem exists_toDigits_cons (n : Nat) :
    ∃ c rest, Nat.toDigits 10 n = c :: rest ∧ c.isDigit = true := by
  obtain ⟨c, rest, hdigits⟩ :=
    List.exists_cons_of_ne_nil (Nat.toDigits_ne_nil (b := 10) (n := n))
  have hmem : c ∈ Nat.toDigits 10 n := by
    rw [hdigits]
    exact List.mem_cons_self
  exact ⟨c, rest, hdigits, Nat.isDigit_of_mem_toDigits (by decide) (by decide) hmem⟩

/-- The digits of a number are read back as the number when no digit follows them. -/
theorem readNumber_toDigits (n : Nat) {rest : List Char}
    (hrest : ∀ c ∈ rest.head?, c.isDigit = false) :
    readNumber (Nat.toDigits 10 n ++ rest) = some (.number n, rest) := by
  have hdigits : ∀ c ∈ Nat.toDigits 10 n, c.isDigit = true := fun c hc =>
    Nat.isDigit_of_mem_toDigits (by decide) (by decide) hc
  have htake := takeWhile_isDigit_toDigits n hrest
  have hdrop : (Nat.toDigits 10 n ++ rest).dropWhile Char.isDigit = rest := by
    rw [List.dropWhile_append_of_pos hdigits]
    cases rest with
    | nil => rfl
    | cons c rest => simp [hrest c rfl]
  rw [readNumber, htake, hdrop, if_neg, Nat.ofDigitChars_ten_toDigits]
  rintro (hnil | ⟨hzero, hmore⟩)
  · exact Nat.toDigits_ne_nil hnil
  · by_cases h : n = 0
    · exact hmore (h ▸ Nat.toDigits_zero 10)
    · exact head?_toDigits h hzero

/-- White space is skipped before a value. -/
theorem readValue_append {space : List Char} (h : ∀ c ∈ space, isSpace c = true) (fuel : Nat)
    (s : List Char) : readValue fuel (space ++ s) = readValue fuel s := by
  cases fuel with
  | zero => rw [readValue, readValue]
  | succ fuel => rw [readValue, readValue, List.dropWhile_append_of_pos h]

/-- White space is skipped before a mark. -/
theorem past_append {space : List Char} (h : ∀ c ∈ space, isSpace c = true) (mark : Char)
    (s : List Char) : past mark (space ++ s) = past mark s := by
  rw [past, past, List.dropWhile_append_of_pos h]

/-- The start of a line is white space. -/
theorem isSpace_of_mem_newline {depth : Nat} {c : Char} (h : c ∈ newline depth) :
    isSpace c = true := by
  rcases List.mem_cons.mp h with rfl | hspace
  · rfl
  · rw [List.eq_of_mem_replicate hspace]
    rfl

/-- A mark that comes first is found. -/
theorem past_cons_self {mark : Char} (h : isSpace mark = false) (rest : List Char) :
    past mark (mark :: rest) = some rest := by
  simp [past, h]

/-- A mark is not found where another character comes first. -/
theorem past_cons_of_ne {mark c : Char} (h : isSpace c = false) (hne : c ≠ mark)
    (rest : List Char) : past mark (c :: rest) = none := by
  simp [past, h, hne]

/-- The bracket that closes an array or an object on its own line is found, and no comma
before it. -/
theorem past_closing {bracket : Char} (hspace : isSpace bracket = false) (hne : bracket ≠ ',')
    (depth : Nat) (rest : List Char) :
    past ',' (newline depth ++ bracket :: rest) = none ∧
      past bracket (newline depth ++ bracket :: rest) = some rest := by
  rw [past_append fun _ => isSpace_of_mem_newline, past_append fun _ => isSpace_of_mem_newline]
  exact ⟨past_cons_of_ne hspace hne rest, past_cons_self hspace rest⟩

/-- A digit is no white space. -/
theorem isSpace_of_isDigit {c : Char} (h : c.isDigit = true) : isSpace c = false := by
  by_contra hspace
  simp only [isSpace, Bool.not_eq_false, Bool.or_eq_true, decide_eq_true_eq] at hspace
  rcases hspace with ((rfl | rfl) | rfl) | rfl <;> contradiction

/-- A value begins with a character that is no white space and no closing bracket. -/
theorem exists_print_cons (depth : Nat) (value : Json) :
    ∃ c rest, print depth value = c :: rest ∧ isSpace c = false ∧ c ≠ ']' ∧ c ≠ '}' := by
  cases value with
  | null => exact ⟨_, _, rfl, by decide⟩
  | bool value => cases value <;> exact ⟨_, _, rfl, by decide⟩
  | string text => exact ⟨_, _, rfl, by decide⟩
  | array elements => exact ⟨_, _, rfl, by decide⟩
  | object members => exact ⟨_, _, rfl, by decide⟩
  | number n =>
    obtain ⟨c, rest, hdigits, hdigit⟩ := exists_toDigits_cons n
    refine ⟨c, rest, hdigits, isSpace_of_isDigit hdigit, ?_, ?_⟩
    · rintro rfl; contradiction
    · rintro rfl; contradiction

/-- A value is read back from its text, and what follows it is left, with as much fuel as
the text is long. No digit may follow, since it would be read as one of a number. -/
def ReadsBack (value : Json) : Prop :=
  ∀ fuel depth rest, (print depth value).length ≤ fuel → (∀ c ∈ rest.head?, c.isDigit = false) →
    readValue fuel (print depth value ++ rest) = some (value, rest)

/-- The elements after the first one stand behind a comma as all of them would without
it. -/
theorem printElements_cons (depth : Nat) (element : Json) (rest : List Json) :
    printElements depth false (element :: rest) =
      ',' :: printElements depth true (element :: rest) :=
  rfl

/-- The members after the first one stand behind a comma as all of them would without
it. -/
theorem printMembers_cons (depth : Nat) (member : String × Json)
    (rest : List (String × Json)) :
    printMembers depth false (member :: rest) =
      ',' :: printMembers depth true (member :: rest) :=
  rfl

/-- The elements of an array are read back when each of them is. -/
theorem readElements_print {elements : List Json} (h : ∀ element ∈ elements, ReadsBack element)
    (hne : elements ≠ []) {fuel depth : Nat}
    (hfuel : (printElements depth true elements).length ≤ fuel) (rest : List Char) :
    readElements fuel (printElements depth true elements ++ ']' :: rest) =
      some (elements, rest) := by
  induction elements generalizing fuel with
  | nil => contradiction
  | cons element others ih =>
    obtain ⟨helement, hothers⟩ := List.forall_mem_cons.mp h
    simp only [printElements, if_true, List.nil_append, List.length_append, newline,
      List.length_cons] at hfuel
    obtain ⟨fuel, rfl⟩ : ∃ less, fuel = less + 1 := ⟨fuel - 1, by omega⟩
    rw [printElements, if_pos rfl, List.nil_append, List.append_assoc, List.append_assoc,
      readElements, readValue_append fun _ => isSpace_of_mem_newline]
    cases others with
    | nil =>
      obtain ⟨hcomma, hclose⟩ :=
        past_closing (by decide : isSpace ']' = false) (by decide) depth rest
      rw [printElements, if_neg (by decide),
        helement fuel (depth + 1) _ (by omega) (by simp [newline])]
      simp only [Option.bind_eq_bind, Option.bind_some, hcomma, hclose]
    | cons other others =>
      rw [printElements_cons, List.length_cons] at hfuel
      rw [printElements_cons, List.cons_append,
        helement fuel (depth + 1) _ (by omega) (by simp)]
      simp only [Option.bind_eq_bind, Option.bind_some,
        past_cons_self (by decide : isSpace ',' = false)]
      rw [ih hothers (List.cons_ne_nil _ _) (by omega)]
      rfl

/-- The members of an object are read back when the value of each of them is. -/
theorem readMembers_print {members : List (String × Json)}
    (h : ∀ member ∈ members, ReadsBack member.2) (hne : members ≠ []) {fuel depth : Nat}
    (hfuel : (printMembers depth true members).length ≤ fuel) (rest : List Char) :
    readMembers fuel (printMembers depth true members ++ '}' :: rest) =
      some (members, rest) := by
  induction members generalizing fuel with
  | nil => contradiction
  | cons member others ih =>
    obtain ⟨key, value⟩ := member
    have hmember : ReadsBack value := h (key, value) List.mem_cons_self
    have hothers : ∀ member ∈ others, ReadsBack member.2 := fun member hmem =>
      h member (List.mem_cons_of_mem _ hmem)
    simp only [printMembers, if_true, List.nil_append, List.length_append, newline,
      List.length_cons] at hfuel
    obtain ⟨fuel, rfl⟩ : ∃ less, fuel = less + 1 := ⟨fuel - 1, by omega⟩
    have hkey : ∀ after, past '"' (newline (depth + 1) ++ (quote key ++ after)) =
        some (key.toList.flatMap escapeChar ++ '"' :: after) := by
      intro after
      rw [past_append fun _ => isSpace_of_mem_newline, quote, List.cons_append, List.cons_append,
        past_cons_self (by decide), List.append_assoc]
      rfl
    have hcolon : ∀ after, past ':' (':' :: ' ' :: after) = some (' ' :: after) := fun after =>
      past_cons_self (by decide) _
    have hvalue : ∀ after, readValue fuel (' ' :: after) = readValue fuel after :=
      readValue_append (List.forall_mem_singleton.mpr rfl) fuel
    rw [printMembers, if_pos rfl]
    simp only [List.nil_append, List.append_assoc, List.cons_append]
    rw [readMembers, hkey, Option.bind_eq_bind, Option.bind_some, readText_escaped]
    simp only [Option.bind_eq_bind, Option.bind_some, hcolon, hvalue]
    cases others with
    | nil =>
      obtain ⟨hcomma, hclose⟩ :=
        past_closing (by decide : isSpace '}' = false) (by decide) depth rest
      rw [printMembers, if_neg (by decide),
        hmember fuel (depth + 1) _ (by omega) (by simp [newline])]
      simp only [Option.bind_some, hcomma, hclose]
    | cons other others =>
      rw [printMembers_cons, List.length_cons] at hfuel
      rw [printMembers_cons, List.cons_append,
        hmember fuel (depth + 1) _ (by omega) (by simp)]
      simp only [Option.bind_some, past_cons_self (by decide : isSpace ',' = false)]
      rw [ih hothers (List.cons_ne_nil _ _) (by omega)]
      rfl

/-- Fuel for the text of a value is not spent at once. -/
theorem exists_eq_succ {fuel depth : Nat} {value : Json}
    (h : (print depth value).length ≤ fuel) : ∃ less, fuel = less + 1 := by
  obtain ⟨c, rest, hprint, -⟩ := exists_print_cons depth value
  rw [hprint, List.length_cons] at h
  exact ⟨fuel - 1, by omega⟩

/-- A number is read where a digit comes first. -/
theorem readValue_of_digit {fuel : Nat} {c : Char} (h : c.isDigit = true) (rest : List Char) :
    readValue (fuel + 1) (c :: rest) = readNumber (c :: rest) := by
  have hdrop : (c :: rest).dropWhile isSpace = c :: rest :=
    List.dropWhile_cons_of_neg (by rw [isSpace_of_isDigit h]; decide)
  rw [readValue, hdrop]
  split
  case h_7 => rfl
  all_goals
    next heq =>
      obtain ⟨rfl, -⟩ := List.cons.inj heq
      contradiction

/-- The bracket that closes an array does not come before its elements. -/
theorem past_printElements {elements : List Json} (h : elements ≠ []) (depth : Nat)
    (rest : List Char) : past ']' (printElements depth true elements ++ rest) = none := by
  cases elements with
  | nil => contradiction
  | cons element others =>
    obtain ⟨c, after, hprint, hspace, hne, -⟩ := exists_print_cons (depth + 1) element
    rw [printElements, if_pos rfl, List.nil_append, List.append_assoc, List.append_assoc,
      past_append fun _ => isSpace_of_mem_newline, hprint, List.cons_append,
      past_cons_of_ne hspace hne]

/-- The bracket that closes an object does not come before its members. -/
theorem past_printMembers {members : List (String × Json)} (h : members ≠ []) (depth : Nat)
    (rest : List Char) : past '}' (printMembers depth true members ++ rest) = none := by
  cases members with
  | nil => contradiction
  | cons member others =>
    rw [printMembers, if_pos rfl, List.nil_append, quote]
    simp only [List.append_assoc, List.cons_append]
    rw [past_append fun _ => isSpace_of_mem_newline, past_cons_of_ne (by decide) (by decide)]

/-- An array is read when its elements are. -/
theorem readValue_array {fuel : Nat} {s rest : List Char} {elements : List Json}
    (hopen : past ']' s = none) (h : readElements fuel s = some (elements, rest)) :
    readValue (fuel + 1) ('[' :: s) = some (.array elements, rest) := by
  have hdrop : ('[' :: s).dropWhile isSpace = '[' :: s := rfl
  rw [readValue, hdrop]
  simp only [hopen, h]
  rfl

/-- An object is read when its members are. -/
theorem readValue_object {fuel : Nat} {s rest : List Char} {members : List (String × Json)}
    (hopen : past '}' s = none) (h : readMembers fuel s = some (members, rest)) :
    readValue (fuel + 1) ('{' :: s) = some (.object members, rest) := by
  have hdrop : ('{' :: s).dropWhile isSpace = '{' :: s := rfl
  rw [readValue, hdrop]
  simp only [hopen, h]
  rfl

/-- Every value is read back from its text. -/
theorem readsBack (value : Json) : ReadsBack value := by
  induction value with
  | null =>
    intro fuel depth rest hfuel _
    obtain ⟨fuel, rfl⟩ := exists_eq_succ hfuel
    rfl
  | bool value =>
    intro fuel depth rest hfuel _
    obtain ⟨fuel, rfl⟩ := exists_eq_succ hfuel
    cases value <;> rfl
  | number n =>
    intro fuel depth rest hfuel hrest
    obtain ⟨fuel, rfl⟩ := exists_eq_succ hfuel
    obtain ⟨c, others, hdigits, hdigit⟩ := exists_toDigits_cons n
    have hnumber := readNumber_toDigits n hrest
    rw [hdigits, List.cons_append] at hnumber
    rw [print, hdigits, List.cons_append, readValue_of_digit hdigit, hnumber]
  | string text =>
    intro fuel depth rest hfuel _
    obtain ⟨fuel, rfl⟩ := exists_eq_succ hfuel
    have htext := readText_escaped text rest
    rw [print, quote, List.cons_append, List.cons_append, List.append_assoc]
    change (do
      let (text, rest) ← readText (text.toList.flatMap escapeChar ++ '"' :: rest)
      some (Json.string text, rest)) = _
    rw [htext]
    rfl
  | array elements ih =>
    intro fuel depth rest hfuel _
    obtain ⟨fuel, rfl⟩ := exists_eq_succ hfuel
    by_cases hne : elements = []
    · rw [hne]
      rfl
    · rw [print, List.length_append, List.length_cons] at hfuel
      have hless : (printElements depth true elements).length ≤ fuel := by omega
      rw [print, List.append_assoc, List.cons_append]
      exact readValue_array (past_printElements hne depth _) (readElements_print ih hne hless rest)
  | object members ih =>
    intro fuel depth rest hfuel _
    obtain ⟨fuel, rfl⟩ := exists_eq_succ hfuel
    by_cases hne : members = []
    · rw [hne]
      rfl
    · rw [print, List.length_append, List.length_cons] at hfuel
      have hless : (printMembers depth true members).length ≤ fuel := by omega
      rw [print, List.append_assoc, List.cons_append]
      exact readValue_object (past_printMembers hne depth _) (readMembers_print ih hne hless rest)

/-- The text of a value is read as the value, with white space behind it or none. -/
theorem read_pretty (value : Json) {space : List Char} (h : ∀ c ∈ space, isSpace c = true) :
    read (value.pretty ++ space) = some value := by
  have hspace : ∀ c ∈ space.head?, c.isDigit = false := by
    intro c hc
    by_contra hdigit
    have hblank := h c (List.mem_of_mem_head? hc)
    rw [isSpace_of_isDigit (Bool.not_eq_false _ ▸ hdigit)] at hblank
    contradiction
  have hfuel : (print 0 value).length ≤ (print 0 value ++ space).length := by
    rw [List.length_append]
    omega
  rw [read, pretty, readsBack value _ 0 space hfuel hspace, Option.bind_eq_bind, Option.bind_some]
  exact if_pos (List.all_eq_true.mpr h)

end Chatdown.Json
