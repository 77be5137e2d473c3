import Chatdown.Markdown.Syntax
import Chatdown.Text.Ascii
import Chatdown.Text.Blank
import Chatdown.Text.Mark

/-!
# Links without brackets

A web address in the midst of text is a link to itself: one that starts with a
scheme, or one that starts with `www.`. So is an e-mail address, but those are
looked for only after neighbouring texts have been joined. Punctuation at the end
of an address belongs to the text around it.
-/

namespace Chatdown.Markdown.Autolink

open Text

/-- A link to an address, which is also its text. -/
def link (url text : List Char) : Syntax :=
  .mk (.link (String.ofList url) "") [.text text]

/-- Whether a character may stand in the name of a host, where a full stop or an
underscore has a role of its own. -/
def isHostChar (c : Char) : Bool :=
  c = '-' || !(isBlank c || isMark c)

/-- Whether a text starts with the name of a host, after so many full stops and
with so many underscores in the part before the last full stop and in the part
after it. The last two parts of a name hold no underscore, unless a name that goes
on to the end of the text has more than ten full stops. -/
def isDomain (short : Bool) (stops before last : Nat) : List Char → Bool
  | [] => !((0 < before || 0 < last) && stops ≤ 10) && (short || 0 < stops)
  | c :: rest =>
    if c = '_' then isDomain short stops before (last + 1) rest
    else if c = '.' then isDomain short (stops + 1) last 0 rest
    else if isHostChar c then isDomain short stops before last rest
    else before = 0 && last = 0 && (short || 0 < stops)

/-- The punctuation that never ends an address. -/
def trailing : List Char :=
  ['?', '!', '.', ',', ':', '*', '_', '~', '\'', '"', '[', ']']

/-- An address, reversed, without what is no part of it at its end: punctuation, a
closing parenthesis that nothing in it opens, and what looks like a character
reference. -/
def trimReversed (address : List Char) : List Char :=
  match address with
  | [] => []
  | c :: rest =>
    if trailing.contains c then trimReversed rest
    else if c = ';' then
      match rest.dropWhile Char.isAlpha with
      | '&' :: before =>
        if before.length + 1 < rest.length then trimReversed before else trimReversed rest
      | _ => trimReversed rest
    else if c = ')' ∧ address.count '(' < address.count ')' then trimReversed rest
    else address
termination_by address.length
decreasing_by
  all_goals simp only [List.length_cons]
  all_goals try omega

/-- The address at the start of a text: up to white space or `<`, without what is
no part of it at its end. -/
def address (s : List Char) : List Char :=
  (trimReversed (s.takeWhile fun c => !isSpace c && c ≠ '<').reverse).reverse

/-- The schemes of web addresses. -/
def schemes : List String :=
  ["http", "https", "ftp"]

/-- The scheme before a colon, the character next to the colon first. -/
def schemeBefore (before : List Char) : List Char :=
  before.takeWhile Char.isAlpha

/-- The web address around a colon: its part before the colon and its part from
there on. The text before the colon is reversed. -/
def url? (before s : List Char) : Option (List Char × List Char) :=
  match s with
  | ':' :: '/' :: '/' :: host =>
    let scheme := (schemeBefore before).reverse
    if !host.isEmpty && schemes.contains (String.ofList scheme) && isDomain true 0 0 0 host then
      some (scheme, address s)
    else none
  | _ => none

/-- Whether an address may start behind a character. -/
def mayStartBehind (c : Char) : Bool :=
  isSpace c || ['*', '_', '~', '(', '['].contains c

/-- The web address that starts with `www.`, after a text that is reversed. -/
def www? (before s : List Char) : Option (List Char) :=
  let free :=
    match before with
    | c :: _ => mayStartBehind c
    | [] => true
  if free && (stripWord ['w', 'w', 'w', '.'] s).isSome && isDomain false 0 0 0 s then
    some (address s)
  else none

/-- Whether a character may stand in the part of an e-mail address before the
at-sign. -/
def isLocalChar (c : Char) : Bool :=
  c.isAlphanum || c = '.' || c = '+' || c = '-' || c = '_'

/-- What comes before the at-sign of an e-mail address. -/
structure Sender where
  /-- The number of characters that belong to the address. -/
  length : Nat
  /-- Whether the address names its own scheme. -/
  hasScheme : Bool
  /-- Whether that scheme allows a slash behind the at-sign. -/
  allowsSlash : Bool

/-- Read what comes before an at-sign, the nearest character first. -/
def sender : List Char → Sender
  | [] => ⟨0, false, false⟩
  | c :: rest =>
    let more (hasScheme allowsSlash : Bool) : Sender :=
      let inner := sender rest
      ⟨inner.length + 1, inner.hasScheme || hasScheme, inner.allowsSlash || allowsSlash⟩
    if isLocalChar c then more false false
    else if c = ':' then
      let scheme := String.ofList (rest.takeWhile Char.isAlpha).reverse
      if scheme = "mailto" then more true false
      else if scheme = "xmpp" then more true true
      else ⟨0, false, false⟩
    else ⟨0, false, false⟩

/-- What comes behind the at-sign of an e-mail address, and whether there is a full
stop in it. Another at-sign makes it no address. -/
def host (allowsSlash : Bool) : List Char → Option (List Char × Bool)
  | [] => some ([], false)
  | c :: rest =>
    let more (stop : Bool) : Option (List Char × Bool) :=
      (host allowsSlash rest).map fun (host, stops) => (c :: host, stops || stop)
    if c.isAlphanum then more false
    else if c = '@' then none
    else if c = '.' ∧ (rest.head?.map Char.isAlphanum) = some true then more true
    else if (c = '/' ∧ allowsSlash) ∨ c = '-' ∨ c = '_' then more false
    else some ([], false)

/-- The e-mail address around an at-sign: the number of characters before the
at-sign, the destination and the text. The text before the at-sign is reversed. -/
def email? (before s : List Char) : Option (Nat × List Char × List Char) :=
  let sender := sender before
  match host sender.allowsSlash s with
  | some (host, true) =>
    if 0 < sender.length ∧ (host.getLast?.map Char.isAlpha) = some true then
      let text := (before.take sender.length).reverse ++ '@' :: host
      let scheme := if sender.hasScheme then [] else "mailto:".toList
      some (sender.length, scheme ++ text, text)
    else none
  | _ => none

/-- The first e-mail address in a text that no bracket is open before: what comes
before it, its destination and text, and what follows. Text that was looked at is
reversed. -/
def findEmail (before : List Char) (depth : Int) :
    List Char → Option (List Char × List Char × List Char × List Char)
  | [] => none
  | c :: rest =>
    let depth := if c = '[' then depth + 1 else if c = ']' then depth - 1 else depth
    if c = '@' ∧ depth ≤ 0 then
      match email? before rest with
      | some (length, url, text) =>
        some ((before.drop length).reverse, url, text, rest.drop (text.length - length - 1))
      | none => findEmail (c :: before) depth rest
    else findEmail (c :: before) depth rest

/-- A text with the e-mail addresses in it made links, given at least as much fuel
as it has characters. -/
def splitEmailsFuel : Nat → List Char → List Syntax
  | 0, s => [.text s]
  | fuel + 1, s =>
    match findEmail [] 0 s with
    | none => [.text s]
    | some (before, url, text, rest) =>
      .text before :: link url text ::
        if rest.isEmpty then [] else splitEmailsFuel fuel rest

/-- A text with the e-mail addresses in it made links. The text before an address
is kept even when it is empty. -/
def splitEmails (s : List Char) : List Syntax :=
  splitEmailsFuel s.length s

end Chatdown.Markdown.Autolink
