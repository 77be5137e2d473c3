import Chatdown.Format.Converter
import Mathlib.Tactic.SplitIfs

/-!
# Reading back what was encoded

The encoding of a scalar value starts with an octet that announces its length and goes
on with octets that carry six bits each. Reading such a sequence returns the scalar and
goes on behind it, so the encoding of a text reads back as the text.
-/

namespace Chatdown.Text.Utf8

/-- An octet made from a small number has that number. -/
theorem toNat_toUInt8 {n : Nat} (h : n < 256) : n.toUInt8.toNat = n :=
  UInt8.toNat_ofNat_of_lt h

/-- Bounds on octets are bounds on their numbers. -/
theorem within_iff {low high octet : UInt8} :
    within low high octet = true ↔ low.toNat ≤ octet.toNat ∧ octet.toNat ≤ high.toNat := by
  simp only [within, Bool.and_eq_true, decide_eq_true_eq, UInt8.le_iff_toNat_le]

/-- The length that a first octet announces, by its number. -/
theorem announced_eq (first : UInt8) : announced first =
    if first.toNat < 128 then 1
    else if 194 ≤ first.toNat ∧ first.toNat ≤ 223 then 2
    else if 224 ≤ first.toNat ∧ first.toNat ≤ 239 then 3
    else if 240 ≤ first.toNat ∧ first.toNat ≤ 244 then 4
    else 0 := by
  simp only [announced, within_iff, UInt8.lt_iff_toNat_lt]
  rfl

/-- The octets that continue an encoding, by their numbers. -/
theorem isContinuation_iff {octet : UInt8} :
    isContinuation octet = true ↔ 128 ≤ octet.toNat ∧ octet.toNat ≤ 191 :=
  within_iff

/-- The octets that may follow a first one, by their numbers: they continue an encoding,
and behind four of the first octets some of them are kept out. -/
theorem mayFollow_iff {first second : UInt8} :
    mayFollow first second = true ↔ 128 ≤ second.toNat ∧ second.toNat ≤ 191 ∧
      (first.toNat = 224 → 160 ≤ second.toNat) ∧ (first.toNat = 237 → second.toNat ≤ 159) ∧
      (first.toNat = 240 → 144 ≤ second.toNat) ∧ (first.toNat = 244 → second.toNat ≤ 143) := by
  have h : ∀ n : UInt8, first = n ↔ first.toNat = n.toNat := fun n => UInt8.toNat_inj.symm
  simp only [mayFollow, h, isContinuation_iff, apply_ite (· = true), within_iff]
  simp only [UInt8.toNat_ofNat, Nat.reducePow, Nat.reduceMod]
  split_ifs <;> omega

/-- An octet with six bits to carry continues an encoding. -/
theorem isContinuation_octet {n : Nat} (h : n < 64) :
    isContinuation (0x80 + n).toUInt8 = true := by
  rw [isContinuation_iff, toNat_toUInt8 (by omega)]
  omega

/-- The six bits that an octet carries are read off it. -/
theorem payload_octet {n : Nat} (h : n < 64) : payload (0x80 + n).toUInt8 = n := by
  rw [payload, toNat_toUInt8 (by omega)]
  omega

/-- The codes of characters are the scalar values. -/
theorem toNat_scalar (c : Char) :
    c.toNat < 0xD800 ∨ 0xDFFF < c.toNat ∧ c.toNat < 0x110000 := c.valid

section Octets

variable {n : Nat}

/-- The first octet of a scalar below 0x800 announces two octets. -/
theorem announced_lead2 (hlow : 0x80 ≤ n) (hhigh : n < 0x800) :
    announced (0xC0 + n / 64).toUInt8 = 2 := by
  rw [announced_eq, toNat_toUInt8 (by omega)]
  split_ifs <;> omega

/-- The first octet of a scalar below 0x10000 announces three octets. -/
theorem announced_lead3 (h : n < 0x10000) : announced (0xE0 + n / 4096).toUInt8 = 3 := by
  rw [announced_eq, toNat_toUInt8 (by omega)]
  split_ifs <;> omega

/-- The first octet of any other scalar announces four octets. -/
theorem announced_lead4 (h : n < 0x110000) : announced (0xF0 + n / 262144).toUInt8 = 4 := by
  rw [announced_eq, toNat_toUInt8 (by omega)]
  split_ifs <;> omega

/-- The second of two octets may follow the first. -/
theorem mayFollow_lead2 (h : n < 0x800) :
    mayFollow (0xC0 + n / 64).toUInt8 (0x80 + n % 64).toUInt8 = true := by
  rw [mayFollow_iff, toNat_toUInt8 (by omega), toNat_toUInt8 (by omega)]
  omega

/-- The second of three octets may follow the first: no shorter encoding would do, and the
scalar is no surrogate. -/
theorem mayFollow_lead3 (hlow : 0x800 ≤ n) (hhigh : n < 0x10000)
    (hscalar : n < 0xD800 ∨ 0xDFFF < n) :
    mayFollow (0xE0 + n / 4096).toUInt8 (0x80 + n / 64 % 64).toUInt8 = true := by
  rw [mayFollow_iff, toNat_toUInt8 (by omega), toNat_toUInt8 (by omega)]
  omega

/-- The second of four octets may follow the first: no shorter encoding would do, and the
scalar is not above U+10FFFF. -/
theorem mayFollow_lead4 (hlow : 0x10000 ≤ n) (hhigh : n < 0x110000) :
    mayFollow (0xF0 + n / 262144).toUInt8 (0x80 + n / 4096 % 64).toUInt8 = true := by
  rw [mayFollow_iff, toNat_toUInt8 (by omega), toNat_toUInt8 (by omega)]
  omega

/-- Two octets carry the scalar they were made from. -/
theorem scalar2_octets (h : n < 0x800) :
    scalar2 (0xC0 + n / 64).toUInt8 (0x80 + n % 64).toUInt8 = Char.ofNat n := by
  rw [scalar2, payload_octet (by omega), toNat_toUInt8 (by omega)]
  congr 1
  omega

/-- Three octets carry the scalar they were made from. -/
theorem scalar3_octets (h : n < 0x10000) :
    scalar3 (0xE0 + n / 4096).toUInt8 (0x80 + n / 64 % 64).toUInt8 (0x80 + n % 64).toUInt8 =
      Char.ofNat n := by
  rw [scalar3, payload_octet (by omega), payload_octet (by omega), toNat_toUInt8 (by omega)]
  congr 1
  omega

/-- Four octets carry the scalar they were made from. -/
theorem scalar4_octets (h : n < 0x110000) :
    scalar4 (0xF0 + n / 262144).toUInt8 (0x80 + n / 4096 % 64).toUInt8
      (0x80 + n / 64 % 64).toUInt8 (0x80 + n % 64).toUInt8 = Char.ofNat n := by
  rw [scalar4, payload_octet (by omega), payload_octet (by omega), payload_octet (by omega),
    toNat_toUInt8 (by omega)]
  congr 1
  omega

end Octets

section Steps

variable (index : Nat) {a b c d : UInt8} (rest : List UInt8)

/-- An octet that announces itself alone is read by itself. -/
theorem decodeFrom_one (ha : announced a = 1) : decodeFrom index (a :: rest) =
    (Char.ofNat a.toNat :: ·) <$> decodeFrom (index + 1) rest := by
  rw [decodeFrom.eq_def]
  simp only [ha, if_true]

/-- An encoding of two octets is read at once. -/
theorem decodeFrom_two (ha : announced a = 2) (hb : mayFollow a b = true) :
    decodeFrom index (a :: b :: rest) =
      (scalar2 a b :: ·) <$> decodeFrom (index + 2) rest := by
  rw [decodeFrom.eq_def]
  simp [ha, hb]

/-- An encoding of three octets is read at once. -/
theorem decodeFrom_three (ha : announced a = 3) (hb : mayFollow a b = true)
    (hc : isContinuation c = true) : decodeFrom index (a :: b :: c :: rest) =
      (scalar3 a b c :: ·) <$> decodeFrom (index + 3) rest := by
  rw [decodeFrom.eq_def]
  simp [ha, hb, hc]

/-- An encoding of four octets is read at once. -/
theorem decodeFrom_four (ha : announced a = 4) (hb : mayFollow a b = true)
    (hc : isContinuation c = true) (hd : isContinuation d = true) :
    decodeFrom index (a :: b :: c :: d :: rest) =
      (scalar4 a b c d :: ·) <$> decodeFrom (index + 4) rest := by
  rw [decodeFrom.eq_def]
  simp [ha, hb, hc, hd]

end Steps

/-- The octets that stand for a character: the first announces how many there are, the
second may follow it, and the others continue an encoding. -/
inductive Encodes : Char → List UInt8 → Prop
  /-- An octet that announces itself alone. -/
  | one {a : UInt8} (ha : announced a = 1) : Encodes (Char.ofNat a.toNat) [a]
  /-- Two octets. -/
  | two {a b : UInt8} (ha : announced a = 2) (hb : mayFollow a b = true) :
      Encodes (scalar2 a b) [a, b]
  /-- Three octets. -/
  | three {a b c : UInt8} (ha : announced a = 3) (hb : mayFollow a b = true)
      (hc : isContinuation c = true) : Encodes (scalar3 a b c) [a, b, c]
  /-- Four octets. -/
  | four {a b c d : UInt8} (ha : announced a = 4) (hb : mayFollow a b = true)
      (hc : isContinuation c = true) (hd : isContinuation d = true) :
      Encodes (scalar4 a b c d) [a, b, c, d]

/-- The encoding of a character stands for it. -/
theorem encodes_encodeChar (c : Char) : Encodes c (encodeChar c) := by
  have hscalar := toNat_scalar c
  have htail : ∀ n : Nat, isContinuation (0x80 + n % 64).toUInt8 = true :=
    fun n => isContinuation_octet (Nat.mod_lt n (by decide))
  simp only [encodeChar]
  split_ifs with hone htwo hthree
  · have ha : announced c.toNat.toUInt8 = 1 := by
      rw [announced_eq, toNat_toUInt8 (by omega), if_pos hone]
    have h := Encodes.one ha
    rwa [toNat_toUInt8 (by omega), Char.ofNat_toNat] at h
  · have ha := announced_lead2 (Nat.le_of_not_lt hone) htwo
    have h := Encodes.two ha (mayFollow_lead2 htwo)
    rwa [scalar2_octets htwo, Char.ofNat_toNat] at h
  · have ha := announced_lead3 hthree
    have hb := mayFollow_lead3 (Nat.le_of_not_lt htwo) hthree (by omega)
    have h := Encodes.three ha hb (htail c.toNat)
    rwa [scalar3_octets hthree, Char.ofNat_toNat] at h
  · have hlast : c.toNat < 0x110000 := by omega
    have ha := announced_lead4 hlast
    have hb := mayFollow_lead4 (Nat.le_of_not_lt hthree) hlast
    have h := Encodes.four ha hb (htail (c.toNat / 64)) (htail c.toNat)
    rwa [scalar4_octets hlast, Char.ofNat_toNat] at h

/-- Reading octets that stand for a character returns the character and goes on behind
them. -/
theorem decodeFrom_of_encodes {c : Char} {octets : List UInt8} (h : Encodes c octets)
    (index : Nat) (rest : List UInt8) : decodeFrom index (octets ++ rest) =
      (c :: ·) <$> decodeFrom (index + octets.length) rest := by
  cases h with
  | one ha => exact decodeFrom_one index rest ha
  | two ha hb => exact decodeFrom_two index rest ha hb
  | three ha hb hc => exact decodeFrom_three index rest ha hb hc
  | four ha hb hc hd => exact decodeFrom_four index rest ha hb hc hd

/-- The encoding of a text reads back as the text, wherever it stands. -/
theorem decodeFrom_encode (index : Nat) (s : List Char) : decodeFrom index (encode s) = .ok s := by
  induction s generalizing index with
  | nil => rfl
  | cons c rest ih =>
    rw [encode, List.flatMap_cons, decodeFrom_of_encodes (encodes_encodeChar c),
      ← encode, ih]
    rfl

/-- The encoding of a text reads back as the text. -/
theorem decode_encode (s : List Char) : decode (encode s) = .ok s :=
  decodeFrom_encode 0 s

end Chatdown.Text.Utf8

namespace Chatdown.Format

/-- The bytes of a text read back as the text. -/
theorem decodeText_encodeText (s : String) : decodeText (encodeText s) = .ok s := by
  rw [decodeText, encodeText, Text.Utf8.decode_encode]
  simp only [String.ofList_toList]

end Chatdown.Format
