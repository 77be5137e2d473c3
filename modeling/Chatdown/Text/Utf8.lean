/-!
# UTF-8

Octets are read as the encodings of Unicode scalar values, one after another.
No overlong form, no surrogate and nothing above U+10FFFF is accepted. A refusal
tells how many octets before it were good, and how long the longest beginning of
a scalar's encoding is that stands there; when the input simply ends inside an
encoding there is no such length.
-/

namespace Chatdown.Text.Utf8

/-- Why a sequence of octets is not UTF-8. -/
structure Fault where
  /-- The octets before the fault, all of them complete encodings. -/
  index : Nat
  /-- The octets of the bad sequence, or nothing when the input ends inside an
  encoding that was good so far. -/
  length : Option Nat
deriving DecidableEq, Repr

/-- The text of a fault. -/
def Fault.message (fault : Fault) : String :=
  match fault.length with
  | some length =>
    s!"invalid utf-8 sequence of {length} bytes from index {fault.index}"
  | none => s!"incomplete utf-8 byte sequence from index {fault.index}"

/-- Whether an octet lies between two bounds. -/
def within (low high octet : UInt8) : Bool :=
  low ≤ octet && octet ≤ high

/-- Whether an octet continues an encoding. -/
def isContinuation (octet : UInt8) : Bool :=
  within 0x80 0xBF octet

/-- The number of octets of the encoding that a first octet announces, or zero
when no encoding starts with it. -/
def announced (first : UInt8) : Nat :=
  if first < 0x80 then 1
  else if within 0xC2 0xDF first then 2
  else if within 0xE0 0xEF first then 3
  else if within 0xF0 0xF4 first then 4
  else 0

/-- Whether a second octet may follow a first one. The narrower ranges keep out
overlong forms, surrogates and values above U+10FFFF. -/
def mayFollow (first second : UInt8) : Bool :=
  if first = 0xE0 then within 0xA0 0xBF second
  else if first = 0xED then within 0x80 0x9F second
  else if first = 0xF0 then within 0x90 0xBF second
  else if first = 0xF4 then within 0x80 0x8F second
  else isContinuation second

/-- The low six bits that a continuation octet carries. -/
def payload (octet : UInt8) : Nat :=
  octet.toNat % 64

/-- The scalar value of a two-octet encoding. -/
def scalar2 (a b : UInt8) : Char :=
  Char.ofNat (a.toNat % 32 * 64 + payload b)

/-- The scalar value of a three-octet encoding. -/
def scalar3 (a b c : UInt8) : Char :=
  Char.ofNat (a.toNat % 16 * 4096 + payload b * 64 + payload c)

/-- The scalar value of a four-octet encoding. -/
def scalar4 (a b c d : UInt8) : Char :=
  Char.ofNat (a.toNat % 8 * 262144 + payload b * 4096 + payload c * 64 + payload d)

/-- Decode octets of which `index` were read before. -/
def decodeFrom (index : Nat) : List UInt8 → Except Fault (List Char)
  | [] => .ok []
  | a :: rest =>
    if announced a = 1 then
      (Char.ofNat a.toNat :: ·) <$> decodeFrom (index + 1) rest
    else if announced a = 0 then .error ⟨index, some 1⟩
    else match rest with
      | [] => .error ⟨index, none⟩
      | b :: rest =>
        if !mayFollow a b then .error ⟨index, some 1⟩
        else if announced a = 2 then (scalar2 a b :: ·) <$> decodeFrom (index + 2) rest
        else match rest with
          | [] => .error ⟨index, none⟩
          | c :: rest =>
            if !isContinuation c then .error ⟨index, some 2⟩
            else if announced a = 3 then
              (scalar3 a b c :: ·) <$> decodeFrom (index + 3) rest
            else match rest with
              | [] => .error ⟨index, none⟩
              | d :: rest =>
                if !isContinuation d then .error ⟨index, some 3⟩
                else (scalar4 a b c d :: ·) <$> decodeFrom (index + 4) rest

/-- Decode octets as UTF-8. -/
def decode (octets : List UInt8) : Except Fault (List Char) :=
  decodeFrom 0 octets

/-- The encoding of one scalar value. -/
def encodeChar (c : Char) : List UInt8 :=
  let n := c.toNat
  if n < 0x80 then [n.toUInt8]
  else if n < 0x800 then [(0xC0 + n / 64).toUInt8, (0x80 + n % 64).toUInt8]
  else if n < 0x10000 then
    [(0xE0 + n / 4096).toUInt8, (0x80 + n / 64 % 64).toUInt8, (0x80 + n % 64).toUInt8]
  else
    [(0xF0 + n / 262144).toUInt8, (0x80 + n / 4096 % 64).toUInt8,
     (0x80 + n / 64 % 64).toUInt8, (0x80 + n % 64).toUInt8]

/-- The UTF-8 encoding of a text. -/
def encode (s : List Char) : List UInt8 :=
  s.flatMap encodeChar

/-- The empty input decodes to the empty text. -/
theorem decode_nil : decode [] = .ok [] := rfl

/-- Encoding works character by character. -/
theorem encode_append (s t : List Char) : encode (s ++ t) = encode s ++ encode t :=
  List.flatMap_append

end Chatdown.Text.Utf8
