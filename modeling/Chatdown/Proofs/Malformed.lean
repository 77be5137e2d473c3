import Chatdown.Proofs.Utf8
import Mathlib.Data.List.Infix
import Mathlib.Order.Bounds.Basic

/-!
# Where octets stop being UTF-8

Octets that are not UTF-8 are refused with a place and a length. Here these are shown to
be what they are meant to be: all octets before the place encode a text, no more of them
do, and the length is that of the longest beginning of an encoding that stands at the
place, or one. When all that is left begins an encoding, there is no length.
-/

namespace Chatdown.Text.Utf8

/-- An octet is made from its number. -/
theorem toUInt8_eq {n : Nat} (octet : UInt8) (h : n = octet.toNat) : n.toUInt8 = octet :=
  h ▸ UInt8.ofNat_toNat

/-- A scalar value is the code of its character. -/
theorem toNat_ofNat {n : Nat} (h : n < 0xD800 ∨ 0xDFFF < n ∧ n < 0x110000) :
    (Char.ofNat n).toNat = n := by
  rw [Char.ofNat, dif_pos h]
  rfl

/-- The first octets that announce each length, by their numbers. -/
theorem announced_iff (first : UInt8) :
    (announced first = 1 ↔ first.toNat < 128) ∧
      (announced first = 2 ↔ 194 ≤ first.toNat ∧ first.toNat ≤ 223) ∧
      (announced first = 3 ↔ 224 ≤ first.toNat ∧ first.toNat ≤ 239) ∧
      (announced first = 4 ↔ 240 ≤ first.toNat ∧ first.toNat ≤ 244) ∧ announced first ≤ 4 := by
  rw [announced_eq]
  repeat' split
  all_goals omega

/-- Octets that stand for a character are its encoding. -/
theorem Encodes.encodeChar_eq {c : Char} {octets : List UInt8} (h : Encodes c octets) :
    encodeChar c = octets := by
  cases h with
  | @one a ha =>
    have hlead := (announced_iff a).1.mp ha
    rw [encodeChar, toNat_ofNat (by omega), if_pos (by omega), toUInt8_eq a rfl]
  | @two a b ha hb =>
    have hlead := (announced_iff a).2.1.mp ha
    have hsecond := mayFollow_iff.mp hb
    rw [scalar2, payload, encodeChar, toNat_ofNat (by omega), if_neg (by omega),
      if_pos (by omega), toUInt8_eq a (by omega), toUInt8_eq b (by omega)]
  | @three a b c ha hb hc =>
    have hlead := (announced_iff a).2.2.1.mp ha
    have hsecond := mayFollow_iff.mp hb
    have hthird := isContinuation_iff.mp hc
    rw [scalar3, payload, payload, encodeChar, toNat_ofNat (by omega), if_neg (by omega),
      if_neg (by omega), if_pos (by omega), toUInt8_eq a (by omega),
      toUInt8_eq b (by omega), toUInt8_eq c (by omega)]
  | @four a b c d ha hb hc hd =>
    have hlead := (announced_iff a).2.2.2.1.mp ha
    have hsecond := mayFollow_iff.mp hb
    have hthird := isContinuation_iff.mp hc
    have hfourth := isContinuation_iff.mp hd
    rw [scalar4, payload, payload, payload, encodeChar, toNat_ofNat (by omega),
      if_neg (by omega), if_neg (by omega), if_neg (by omega),
      toUInt8_eq a (by omega), toUInt8_eq b (by omega),
      toUInt8_eq c (by omega), toUInt8_eq d (by omega)]

/-- The octets begin the encoding of some scalar value. -/
def Begins (octets : List UInt8) : Prop :=
  ∃ c, octets <+: encodeChar c

/-- What begins an encoding can be cut off anywhere. -/
theorem Begins.front {octets front : List UInt8} (h : Begins octets)
    (hfront : front <+: octets) : Begins front := by
  obtain ⟨c, hc⟩ := h
  exact ⟨c, hfront.trans hc⟩

/-- A beginning of octets that stand for a character begins its encoding. -/
theorem Encodes.begins {c : Char} {octets front : List UInt8} (h : Encodes c octets)
    (hfront : front <+: octets) : Begins front :=
  ⟨c, h.encodeChar_eq ▸ hfront⟩

/-- Octets that may begin an encoding, told by the octets: the first announces as many or
more, the second may follow it, and the others continue an encoding. -/
def mayBegin : List UInt8 → Bool
  | [] => true
  | [a] => announced a ≠ 0
  | [a, b] => 2 ≤ announced a && mayFollow a b
  | [a, b, c] => 3 ≤ announced a && mayFollow a b && isContinuation c
  | [a, b, c, d] => announced a = 4 && mayFollow a b && isContinuation c && isContinuation d
  | _ => false

/-- Some octet may follow each first octet. -/
theorem exists_mayFollow (a : UInt8) : ∃ b, mayFollow a b = true := by
  by_cases h : a.toNat = 237 ∨ a.toNat = 244
  · have hlow : (0x80 : UInt8).toNat = 128 := rfl
    exact ⟨0x80, by rw [mayFollow_iff, hlow]; omega⟩
  · have hhigh : (0xA0 : UInt8).toNat = 160 := rfl
    exact ⟨0xA0, by rw [mayFollow_iff, hhigh]; omega⟩

section Beginnings

variable {a b c : UInt8}

/-- Three octets begin an encoding when at least as many are announced. -/
theorem begins_three (ha : 3 ≤ announced a) (hb : mayFollow a b = true)
    (hc : isContinuation c = true) : Begins [a, b, c] := by
  have hmax := (announced_iff a).2.2.2.2
  have hfill : isContinuation 0x80 = true := by decide
  obtain hthree | hfour : announced a = 3 ∨ announced a = 4 := by omega
  · exact (Encodes.three hthree hb hc).begins (List.prefix_refl _)
  · exact (Encodes.four hfour hb hc hfill).begins ⟨[0x80], rfl⟩

/-- Two octets begin an encoding when at least as many are announced. -/
theorem begins_two (ha : 2 ≤ announced a) (hb : mayFollow a b = true) : Begins [a, b] := by
  have hfill : isContinuation 0x80 = true := by decide
  obtain htwo | hmore : announced a = 2 ∨ 3 ≤ announced a := by omega
  · exact (Encodes.two htwo hb).begins (List.prefix_refl _)
  · exact (begins_three hmore hb hfill).front ⟨[0x80], rfl⟩

/-- An octet that announces any begins an encoding. -/
theorem begins_one (ha : announced a ≠ 0) : Begins [a] := by
  obtain hone | hmore : announced a = 1 ∨ 2 ≤ announced a := by omega
  · exact (Encodes.one hone).begins (List.prefix_refl _)
  · obtain ⟨b, hb⟩ := exists_mayFollow a
    exact (begins_two hmore hb).front ⟨[b], rfl⟩

end Beginnings

/-- Whether octets begin an encoding can be told by the octets. -/
theorem begins_iff {octets : List UInt8} : Begins octets ↔ mayBegin octets = true := by
  constructor
  · rintro ⟨c, hc⟩
    have h := encodes_encodeChar c
    generalize encodeChar c = whole at hc h
    have hmem : octets ∈ whole.inits := (List.mem_inits octets whole).mpr hc
    cases h with
    | one ha =>
      simp only [List.inits, List.map, List.mem_cons, List.not_mem_nil, or_false] at hmem
      rcases hmem with rfl | rfl <;> simp [mayBegin, ha]
    | two ha hb =>
      simp only [List.inits, List.map, List.mem_cons, List.not_mem_nil, or_false] at hmem
      rcases hmem with rfl | rfl | rfl <;> simp [mayBegin, ha, hb]
    | three ha hb hthird =>
      simp only [List.inits, List.map, List.mem_cons, List.not_mem_nil, or_false] at hmem
      rcases hmem with rfl | rfl | rfl | rfl <;> simp [mayBegin, ha, hb, hthird]
    | four ha hb hthird hd =>
      simp only [List.inits, List.map, List.mem_cons, List.not_mem_nil, or_false] at hmem
      rcases hmem with rfl | rfl | rfl | rfl | rfl <;> simp [mayBegin, ha, hb, hthird, hd]
  · intro h
    match octets, h with
    | [], _ => exact ⟨'0', List.nil_prefix⟩
    | [a], h => exact begins_one (by simpa [mayBegin] using h)
    | [a, b], h =>
      obtain ⟨ha, hb⟩ : 2 ≤ announced a ∧ mayFollow a b = true := by simpa [mayBegin] using h
      exact begins_two ha hb
    | [a, b, c], h =>
      obtain ⟨⟨ha, hb⟩, hc⟩ :
          (3 ≤ announced a ∧ mayFollow a b = true) ∧ isContinuation c = true := by
        simpa [mayBegin] using h
      exact begins_three ha hb hc
    | [a, b, c, d], h =>
      obtain ⟨⟨⟨ha, hb⟩, hc⟩, hd⟩ :
          ((announced a = 4 ∧ mayFollow a b = true) ∧ isContinuation c = true) ∧
            isContinuation d = true := by
        simpa [mayBegin] using h
      exact (Encodes.four ha hb hc hd).begins (List.prefix_refl _)

/-- It is decidable whether octets begin an encoding. -/
instance : DecidablePred Begins := fun _ => decidable_of_iff' _ begins_iff

/-- What a fault says of the octets it is found at. -/
def Stuck (octets : List UInt8) : Option Nat → Prop
  | none => Begins octets
  | some length => ∃ count < octets.length, count ≤ 3 ∧ length = max 1 count ∧
      Begins (octets.take count) ∧ ¬Begins (octets.take (count + 1))

/-- How reading goes on where there are octets left. -/
inductive Step (index : Nat) : List UInt8 → Prop
  /-- Some octets stand for a character. -/
  | reads {c : Char} {front : List UInt8} (h : Encodes c front) (rest : List UInt8) :
      Step index (front ++ rest)
  /-- The octets begin with a fault. -/
  | stops {octets : List UInt8} {length : Option Nat}
      (hfault : decodeFrom index octets = .error ⟨index, length⟩) (hstuck : Stuck octets length) :
      Step index octets

section Steps

variable (index : Nat) {a b c : UInt8} (rest : List UInt8)

/-- Behind three octets, the fourth of four is read. -/
theorem step_three (ha : announced a = 4) (hb : mayFollow a b = true)
    (hc : isContinuation c = true) : Step index (a :: b :: c :: rest) := by
  cases rest with
  | nil =>
    refine @Step.stops index _ none ?_ (begins_three (by omega) hb hc)
    rw [decodeFrom.eq_def]
    simp [ha, hb, hc]
  | cons d rest =>
    by_cases hd : isContinuation d = true
    · exact .reads (.four ha hb hc hd) rest
    · refine @Step.stops index _ (some 3) ?_ ⟨3, by simp, by simp, rfl, ?_⟩
      · rw [decodeFrom.eq_def]
        simp [ha, hb, hc, hd]
      · simp [begins_iff, mayBegin, ha, hb, hc, hd]

/-- Behind two octets, the third of three or four is read. -/
theorem step_two (ha : 3 ≤ announced a) (hb : mayFollow a b = true) :
    Step index (a :: b :: rest) := by
  have hlow : announced a ≠ 0 ∧ announced a ≠ 1 ∧ announced a ≠ 2 := by omega
  cases rest with
  | nil =>
    refine @Step.stops index _ none ?_ (begins_two (by omega) hb)
    rw [decodeFrom.eq_def]
    simp [hlow, hb]
  | cons c rest =>
    by_cases hc : isContinuation c = true
    · obtain hthree | hfour : announced a = 3 ∨ announced a = 4 := by
        have hmax := (announced_iff a).2.2.2.2
        omega
      · exact .reads (.three hthree hb hc) rest
      · exact step_three index rest hfour hb hc
    · refine @Step.stops index _ (some 2) ?_ ⟨2, by simp, by simp, rfl, ?_⟩
      · rw [decodeFrom.eq_def]
        simp [hlow, hb, hc]
      · have htwo : 2 ≤ announced a := by omega
        simp [begins_iff, mayBegin, htwo, hb, hc]

/-- Behind an octet that announces more, the second is read. -/
theorem step_one (ha : 2 ≤ announced a) : Step index (a :: rest) := by
  have hlow : announced a ≠ 0 ∧ announced a ≠ 1 := by omega
  cases rest with
  | nil =>
    refine @Step.stops index _ none ?_ (begins_one hlow.1)
    rw [decodeFrom.eq_def]
    simp [hlow]
  | cons b rest =>
    by_cases hb : mayFollow a b = true
    · obtain htwo | hmore : announced a = 2 ∨ 3 ≤ announced a := by omega
      · exact .reads (.two htwo hb) rest
      · exact step_two index rest hmore hb
    · refine @Step.stops index _ (some 1) ?_ ⟨1, by simp, by simp, rfl, ?_⟩
      · rw [decodeFrom.eq_def]
        simp [hlow, hb]
      · simp [begins_iff, mayBegin, hlow, hb]

/-- Where there are octets left, reading goes on in one of two ways. -/
theorem step_cons : Step index (a :: rest) := by
  obtain hzero | hone | hmore : announced a = 0 ∨ announced a = 1 ∨ 2 ≤ announced a := by omega
  · refine @Step.stops index _ (some 1) ?_ ⟨0, by simp, by simp, rfl, ?_⟩
    · rw [decodeFrom.eq_def]
      simp [hzero]
    · simp [begins_iff, mayBegin, hzero]
  · exact .reads (.one hone) rest
  · exact step_one index rest hmore

end Steps

/-- Octets that stand for a character are some octets. -/
theorem Encodes.length_pos {c : Char} {octets : List UInt8} (h : Encodes c octets) :
    0 < octets.length := by
  cases h <;> exact Nat.succ_pos _

/-- The encoding of a text is that of its first character and then that of the rest. -/
theorem encode_cons (c : Char) (s : List Char) : encode (c :: s) = encodeChar c ++ encode s :=
  List.flatMap_cons

/-- How reading ends: all octets encode a text, or there is a fault behind those that
do. -/
theorem decodeFrom_ends (index : Nat) (octets : List UInt8) :
    (∃ s, encode s = octets ∧ decodeFrom index octets = .ok s) ∨
      ∃ s rest length, encode s ++ rest = octets ∧
        decodeFrom index octets = .error ⟨index + (encode s).length, length⟩ ∧
        Stuck rest length := by
  induction hsize : octets.length using Nat.strong_induction_on generalizing index octets with
  | h size ih =>
    by_cases hnil : octets = []
    · exact .inl ⟨[], hnil.symm, hnil ▸ rfl⟩
    · obtain ⟨a, rest, hcons⟩ := List.exists_cons_of_ne_nil hnil
      cases hcons ▸ step_cons (a := a) index rest with
      | @reads c front h rest =>
        have hshorter : rest.length < size := by
          have hpos := h.length_pos
          rw [List.length_append] at hsize
          omega
        have hread := decodeFrom_of_encodes h index rest
        obtain ⟨s, hs, hok⟩ | ⟨s, bad, length, hs, herror, hstuck⟩ :=
          ih _ hshorter (index + front.length) rest rfl
        · refine .inl ⟨c :: s, ?_, ?_⟩
          · rw [encode_cons, h.encodeChar_eq, hs]
          · rw [hread, hok]
            rfl
        · refine .inr ⟨c :: s, bad, length, ?_, ?_, hstuck⟩
          · rw [encode_cons, h.encodeChar_eq, List.append_assoc, hs]
          · rw [hread, herror, encode_cons, h.encodeChar_eq, List.length_append, Nat.add_assoc]
            rfl
      | @stops octets length hfault hstuck =>
        exact .inr ⟨[], octets, length, rfl, hfault, hstuck⟩

/-- Reading accepts just what encoding produces. -/
theorem decode_eq_ok_iff {octets : List UInt8} {s : List Char} :
    decode octets = .ok s ↔ encode s = octets := by
  constructor
  · intro h
    obtain ⟨t, ht, hok⟩ | ⟨t, rest, length, -, herror, -⟩ := decodeFrom_ends 0 octets
    · rw [decode, hok] at h
      exact Except.ok.inj h ▸ ht
    · rw [decode, herror] at h
      contradiction
  · rintro rfl
    exact decode_encode s

/-- Reading behind the encoding of a text does not find a fault before its end. -/
theorem length_encode_le_index {s : List Char} {rest : List UInt8} {index : Nat} {fault : Fault}
    (h : decodeFrom index (encode s ++ rest) = .error fault) :
    index + (encode s).length ≤ fault.index := by
  induction s generalizing index fault with
  | nil =>
    obtain ⟨t, -, hok⟩ | ⟨t, bad, length, -, herror, -⟩ := decodeFrom_ends index rest
    · rw [encode, List.flatMap_nil, List.nil_append, hok] at h
      contradiction
    · rw [encode, List.flatMap_nil, List.nil_append, herror] at h
      rw [← Except.error.inj h]
      exact Nat.le_add_right _ _
  | cons c s ih =>
    rw [encode_cons, List.append_assoc, decodeFrom_of_encodes (encodes_encodeChar c)] at h
    cases htail : decodeFrom (index + (encodeChar c).length) (encode s ++ rest) with
    | ok t =>
      rw [htail] at h
      contradiction
    | error found =>
      rw [htail] at h
      have hle := ih htail
      rw [encode_cons, List.length_append, ← Except.error.inj h]
      omega

/-- A number has a property that it passes down, and the next does not: it is the greatest
up to a bound. -/
theorem isGreatest_of_not_succ {p : Nat → Prop} {bound count : Nat}
    (hdown : ∀ m n, m ≤ n → p n → p m) (hbound : count ≤ bound) (hcount : p count)
    (hsucc : ¬p (count + 1)) : IsGreatest {n | n ≤ bound ∧ p n} count := by
  refine ⟨⟨hbound, hcount⟩, fun n hn => ?_⟩
  by_contra hlt
  exact hsucc (hdown _ _ (Nat.lt_of_not_le hlt) hn.2)

/-- A fault has no length just when the octets at it begin an encoding. -/
theorem Stuck.eq_none_iff {octets : List UInt8} {length : Option Nat} (h : Stuck octets length) :
    length = none ↔ Begins octets := by
  cases length with
  | none => exact ⟨fun _ => h, fun _ => rfl⟩
  | some length =>
    obtain ⟨count, -, -, -, -, hsucc⟩ := h
    constructor
    · exact fun hnone => absurd hnone (Option.some_ne_none length)
    · exact fun hbegins => absurd (hbegins.front (List.take_prefix _ octets)) hsucc

/-- The length of a fault is that of the longest beginning of an encoding, or one. -/
theorem Stuck.length_eq {octets : List UInt8} {length : Nat} (h : Stuck octets (some length)) :
    1 ≤ length ∧ length ≤ 3 ∧ ∃ count, length = max 1 count ∧
      IsGreatest {count | count ≤ octets.length ∧ Begins (octets.take count)} count := by
  obtain ⟨count, hlt, hthree, rfl, hcount, hsucc⟩ := h
  refine ⟨Nat.le_max_left 1 count, by omega, count, rfl, ?_⟩
  have hdown : ∀ m n, m ≤ n → Begins (octets.take n) → Begins (octets.take m) :=
    fun m n hle hbegins => hbegins.front (List.take_prefix_take_left hle)
  exact isGreatest_of_not_succ hdown hlt.le hcount hsucc

/-- What a fault tells of the octets it was found in. -/
structure Pinpoints (octets : List UInt8) (fault : Fault) : Prop where
  /-- The octets before the fault encode a text. -/
  before : ∃ s, encode s = octets.take fault.index
  /-- No more octets from the first on encode a text. -/
  longest : ∀ s, encode s <+: octets → (encode s).length ≤ fault.index
  /-- There is no length just when the octets from the fault on begin the encoding of a
  scalar value, and are not all of it. -/
  incomplete : fault.length = none ↔
    ∃ c, octets.drop fault.index <+: encodeChar c ∧ octets.drop fault.index ≠ encodeChar c
  /-- Else the length is the number of the octets from the fault on that begin the encoding
  of a scalar value, or one when there is none; it is three at most. -/
  invalid : ∀ length, fault.length = some length → 1 ≤ length ∧ length ≤ 3 ∧
    ∃ count, length = max 1 count ∧ IsGreatest {count | count ≤ (octets.drop fault.index).length ∧
      Begins ((octets.drop fault.index).take count)} count

/-- Octets that are refused are refused with a fault that pinpoints what is wrong. -/
theorem pinpoints_of_decode {octets : List UInt8} {fault : Fault}
    (h : decode octets = .error fault) : Pinpoints octets fault := by
  obtain ⟨s, -, hok⟩ | ⟨s, rest, length, hs, herror, hstuck⟩ := decodeFrom_ends 0 octets
  · rw [decode, hok] at h
    contradiction
  rw [Nat.zero_add] at herror
  have hfault : fault = ⟨(encode s).length, length⟩ := by
    rw [decode, herror] at h
    exact (Except.error.inj h).symm
  have htake : octets.take (encode s).length = encode s := by
    rw [← hs, List.take_left]
  have hdrop : octets.drop (encode s).length = rest := by
    rw [← hs, List.drop_left]
  have hlongest : ∀ t, encode t <+: octets → (encode t).length ≤ (encode s).length := by
    rintro t ⟨tail, rfl⟩
    have hle := length_encode_le_index herror
    rwa [Nat.zero_add] at hle
  -- A whole encoding behind the text would make the text longer.
  have hproper : ∀ c, rest ≠ encodeChar c := by
    rintro c rfl
    have hall : encode (s ++ [c]) = octets := by
      rw [encode_append, ← hs, encode, encode, List.flatMap_singleton]
    have hmore := hlongest (s ++ [c]) (hall ▸ List.prefix_refl _)
    have hpos := (encodes_encodeChar c).length_pos
    rw [hall, ← hs, List.length_append] at hmore
    omega
  subst hfault
  refine ⟨⟨s, htake.symm⟩, hlongest, ?_, ?_⟩
  · rw [hdrop, hstuck.eq_none_iff]
    constructor
    · rintro ⟨c, hc⟩
      exact ⟨c, hc, hproper c⟩
    · rintro ⟨c, hc, -⟩
      exact ⟨c, hc⟩
  · rintro length rfl
    rw [hdrop]
    exact hstuck.length_eq

end Chatdown.Text.Utf8
