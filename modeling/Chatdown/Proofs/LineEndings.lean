import Chatdown.Format.Builtin
import Chatdown.Proofs.Utf8

/-!
# Line endings make no difference

A text can be written with any mix of line endings. Unifying them gives the text back,
whatever the mix, so long as no lone CR stands right before a bare LF: these two would
be one ending. Every way into the program unifies the endings before anything else
looks at the text, so documents and conversions do not depend on how lines end.
-/

namespace Chatdown.Text

/-- A CR and the LF after it become one LF. -/
theorem unifyNewlines_pair (rest : List Char) :
    unifyNewlines ('\r' :: '\n' :: rest) = '\n' :: unifyNewlines rest := by
  rw [unifyNewlines, joinPairs, replaceReturns, List.map_cons, ← replaceReturns, ← unifyNewlines]
  rfl

/-- A CR that no LF follows becomes an LF. -/
theorem unifyNewlines_return {rest : List Char} (h : rest.head? ≠ some '\n') :
    unifyNewlines ('\r' :: rest) = '\n' :: unifyNewlines rest := by
  have hjoin : joinPairs ('\r' :: rest) = '\r' :: joinPairs rest := by
    rw [joinPairs]
    rintro tail - rfl
    exact h rfl
  rw [unifyNewlines, hjoin, replaceReturns, List.map_cons, ← replaceReturns, ← unifyNewlines,
    if_pos rfl]

/-- Any other character stays. -/
theorem unifyNewlines_cons {c : Char} (h : c ≠ '\r') (rest : List Char) :
    unifyNewlines (c :: rest) = c :: unifyNewlines rest := by
  have hjoin : joinPairs (c :: rest) = c :: joinPairs rest := by
    rw [joinPairs]
    rintro tail rfl
    exact absurd rfl h
  rw [unifyNewlines, hjoin, replaceReturns, List.map_cons, ← replaceReturns, ← unifyNewlines,
    if_neg h]

/-- The ways to end a line. -/
inductive LineEnding where
  | lf
  | crlf
  | cr
deriving DecidableEq, Repr

/-- The characters of a line ending. -/
def LineEnding.chars : LineEnding → List Char
  | .lf => ['\n']
  | .crlf => ['\r', '\n']
  | .cr => ['\r']

/-- A text with each newline written as the ending that is chosen for its position. -/
def respell (ending : Nat → LineEnding) : List Char → List Char
  | [] => []
  | c :: rest =>
    (if c = '\n' then (ending 0).chars else [c]) ++
      respell (fun position => ending (position + 1)) rest

/-- No newline of a text that is written as a lone CR has one right after it that is
written as a bare LF. -/
def Readable (ending : Nat → LineEnding) (s : List Char) : Prop :=
  ∀ position, s[position]? = some '\n' → s[position + 1]? = some '\n' →
    ending position = .cr → ending (position + 1) ≠ .lf

instance (ending : Nat → LineEnding) (s : List Char) : Decidable (Readable ending s) :=
  decidable_of_iff
    (∀ position < s.length, s[position]? = some '\n' → s[position + 1]? = some '\n' →
      ending position = .cr → ending (position + 1) ≠ .lf)
    ⟨fun h position hhere => h position (List.getElem?_eq_some_iff.mp hhere).1 hhere,
      fun h position _ => h position⟩

/-- What is readable is readable from its second character on. -/
theorem Readable.tail {ending : Nat → LineEnding} {c : Char} {rest : List Char}
    (h : Readable ending (c :: rest)) : Readable (fun position => ending (position + 1)) rest := by
  intro position hhere hnext
  rw [← List.getElem?_cons_succ (a := c)] at hhere hnext
  exact h (position + 1) hhere hnext

/-- A text is written with an LF in front only when a newline is in front, and written as
a bare LF. -/
theorem head?_respell_ne {ending : Nat → LineEnding} {s : List Char}
    (h : s.head? = some '\n' → ending 0 ≠ .lf) : (respell ending s).head? ≠ some '\n' := by
  cases s with
  | nil => simp [respell]
  | cons c rest =>
    by_cases hc : c = '\n'
    · subst hc
      have hending : ending 0 ≠ .lf := h rfl
      cases hchosen : ending 0 with
      | lf => contradiction
      | crlf => simp [respell, hchosen, LineEnding.chars]
      | cr => simp [respell, hchosen, LineEnding.chars]
    · simp [respell, hc]

/-- Unifying the line endings of a readable text gives back the text that was written. -/
theorem unifyNewlines_respell {ending : Nat → LineEnding} {s : List Char} (hs : '\r' ∉ s)
    (h : Readable ending s) : unifyNewlines (respell ending s) = s := by
  induction s generalizing ending with
  | nil => rfl
  | cons c rest ih =>
    have hrest := ih (fun hmem => hs (List.mem_cons_of_mem c hmem)) h.tail
    by_cases hc : c = '\n'
    · subst hc
      cases hchosen : ending 0 with
      | lf =>
        rw [respell, if_pos rfl, hchosen, LineEnding.chars, List.singleton_append,
          unifyNewlines_cons (by decide), hrest]
      | crlf =>
        rw [respell, if_pos rfl, hchosen, LineEnding.chars, List.cons_append,
          List.singleton_append, unifyNewlines_pair, hrest]
      | cr =>
        -- Only a bare LF next to it could turn the lone CR into half of a pair.
        have hnext : rest.head? = some '\n' → ending 1 ≠ .lf := by
          intro hhead
          rw [List.head?_eq_getElem?] at hhead
          exact h 0 rfl hhead hchosen
        rw [respell, if_pos rfl, hchosen, LineEnding.chars, List.singleton_append,
          unifyNewlines_return (head?_respell_ne hnext), hrest]
    · have hne : c ≠ '\r' := fun he => hs (he ▸ List.mem_cons_self)
      rw [respell, if_neg hc, List.singleton_append, unifyNewlines_cons hne, hrest]

/-- A text without CR has its line endings unified already. -/
theorem unifyNewlines_eq_self {s : List Char} (hs : '\r' ∉ s) : unifyNewlines s = s := by
  induction s with
  | nil => rfl
  | cons c rest ih =>
    have hne : c ≠ '\r' := fun he => hs (he ▸ List.mem_cons_self)
    rw [unifyNewlines_cons hne, ih fun hmem => hs (List.mem_cons_of_mem c hmem)]

end Chatdown.Text

namespace Chatdown.Format

open Text

/-- The built-in converters are chat markup and HTML. -/
theorem converters_withDefaults : Registry.withDefaults.converters = [slack, http] := rfl

/-- A converter that a name selects is in the registry. -/
theorem mem_converters_of_get {registry : Registry} {name : String} {converter : Converter}
    (h : registry.get name = .ok converter) : converter ∈ registry.converters := by
  rw [Registry.get] at h
  split at h
  · rename_i found hfound
    rw [← Except.ok.inj h]
    exact List.mem_of_find?_eq_some hfound
  · contradiction

/-- Two texts that are read alike: from either of them, and from the bytes of either,
comes the same document and the same answer for each format name. -/
structure ReadAlike (a b : String) : Prop where
  /-- The document of the texts. -/
  document : Node.parse a = Node.parse b
  /-- The document of their bytes. -/
  documentOfBytes : Node.parseBytes (encodeText a) = Node.parseBytes (encodeText b)
  /-- The conversion of the texts. -/
  conversion : ∀ format,
    Registry.withDefaults.convert a format = Registry.withDefaults.convert b format
  /-- The conversion of their bytes. -/
  conversionOfBytes : ∀ format,
    Registry.withDefaults.convertBytes (encodeText a) format =
      Registry.withDefaults.convertBytes (encodeText b) format

section SameLines

variable {a b : String}

/-- Texts with the same unified line endings are the same document. -/
theorem parse_congr (h : unifyNewlines a.toList = unifyNewlines b.toList) :
    Node.parse a = Node.parse b := by
  rw [Node.parse, Node.parse, h]

/-- The bytes of texts with the same unified line endings are the same document. -/
theorem parseBytes_congr (h : unifyNewlines a.toList = unifyNewlines b.toList) :
    Node.parseBytes (encodeText a) = Node.parseBytes (encodeText b) := by
  rw [Node.parseBytes, Node.parseBytes, decodeText_encodeText, decodeText_encodeText]
  exact congrArg Except.ok (parse_congr h)

/-- Each built-in converter unifies line endings first. -/
theorem convert_congr (h : unifyNewlines a.toList = unifyNewlines b.toList)
    {converter : Converter} (hbuiltin : converter ∈ Registry.withDefaults.converters) :
    converter.convert a = converter.convert b := by
  rw [converters_withDefaults] at hbuiltin
  have hor : converter = slack ∨ converter = http := by simpa using hbuiltin
  rcases hor with rfl | rfl
  · change Except.ok (toChat a) = .ok (toChat b)
    rw [toChat, toChat, parse_congr h]
  · change Except.ok (toHtml a) = .ok (toHtml b)
    rw [toHtml, toHtml, h]

/-- Each built-in converter does so with bytes, too. -/
theorem convertBytes_congr (h : unifyNewlines a.toList = unifyNewlines b.toList)
    {converter : Converter} (hbuiltin : converter ∈ Registry.withDefaults.converters) :
    converter.convertBytes (encodeText a) = converter.convertBytes (encodeText b) := by
  rw [Converter.convertBytes, Converter.convertBytes, decodeText_encodeText,
    decodeText_encodeText]
  change (converter.convert a >>= _) = (converter.convert b >>= _)
  rw [convert_congr h hbuiltin]

/-- Texts with the same unified line endings are read alike. -/
theorem readAlike_of_unifyNewlines_eq (h : unifyNewlines a.toList = unifyNewlines b.toList) :
    ReadAlike a b := by
  refine ⟨parse_congr h, parseBytes_congr h, fun format => ?_, fun format => ?_⟩
  · rw [Registry.convert, Registry.convert]
    cases hget : Registry.withDefaults.get format with
    | error refusal => rfl
    | ok converter => exact convert_congr h (mem_converters_of_get hget)
  · rw [Registry.convertBytes, Registry.convertBytes]
    cases hget : Registry.withDefaults.get format with
    | error refusal => rfl
    | ok converter => exact convertBytes_congr h (mem_converters_of_get hget)

end SameLines

/-- How the lines of a text end makes no difference. A text without CR may be written
with an ending of any sort for each of its newlines, save a bare LF right after a lone
CR: unifying the endings gives the text back, and what was written is read like the
text itself. -/
theorem readAlike_respell (source : String) (ending : Nat → LineEnding)
    (hsource : '\r' ∉ source.toList) (hreadable : Readable ending source.toList) :
    unifyNewlines (respell ending source.toList) = source.toList ∧
      ReadAlike (String.ofList (respell ending source.toList)) source := by
  have hunify := unifyNewlines_respell hsource hreadable
  refine ⟨hunify, readAlike_of_unifyNewlines_eq ?_⟩
  rw [String.toList_ofList, hunify, unifyNewlines_eq_self hsource]

/-- An ending of each sort: a lone CR, then CR LF, and a bare LF further on. -/
def mixedEndings : Nat → LineEnding
  | 1 => .cr
  | 2 => .crlf
  | _ => .lf

/-- A text of four lines, one of them empty, is read alike with mixed line endings. -/
theorem readAlike_mixedEndings :
    '\r' ∉ "a\n\n*b*\nc".toList ∧ Readable mixedEndings "a\n\n*b*\nc".toList ∧
      respell mixedEndings "a\n\n*b*\nc".toList = "a\r\r\n*b*\nc".toList ∧
      unifyNewlines (respell mixedEndings "a\n\n*b*\nc".toList) = "a\n\n*b*\nc".toList ∧
      ReadAlike (String.ofList (respell mixedEndings "a\n\n*b*\nc".toList))
        "a\n\n*b*\nc" := by
  have hsource : '\r' ∉ "a\n\n*b*\nc".toList := by decide
  have hreadable : Readable mixedEndings "a\n\n*b*\nc".toList := by decide
  exact ⟨hsource, hreadable, by decide, readAlike_respell _ mixedEndings hsource hreadable⟩

end Chatdown.Format
