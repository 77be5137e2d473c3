import Chatdown.Document.Parse
import Chatdown.Proofs.Malformed
import Chatdown.Proofs.Registration

/-!
# Bytes are converted by way of the text they encode

There are three ways in for bytes: they are read as text, as a document, or converted to
a format. All three agree with the way in for text when the bytes encode one, down to the
errors of the converter, and all three refuse other bytes with the same words, which tell
where the bytes go wrong. An unknown format comes before all this.
-/

namespace Chatdown.Format

open Text

/-- The encoding of a character is that of the standard library. -/
theorem encodeChar_eq (c : Char) : Utf8.encodeChar c = String.utf8EncodeChar c := by
  have hscalar := Utf8.toNat_scalar c
  have hcode : c.val.toNat = c.toNat := rfl
  have htail : ∀ n : Nat, (0x80 + n % 64).toUInt8 = UInt8.ofNat (n % 64 + 128) :=
    fun n => congrArg UInt8.ofNat (Nat.add_comm 128 (n % 64))
  simp only [Utf8.encodeChar, String.utf8EncodeChar, hcode, htail]
  by_cases hone : c.toNat < 0x80
  · rw [if_pos hone, if_pos (by omega)]
  by_cases htwo : c.toNat < 0x800
  · rw [if_neg hone, if_pos htwo, if_neg (by omega), if_pos (by omega)]
    have hlead : 0xC0 + c.toNat / 64 = c.toNat / 64 % 32 + 192 := by omega
    rw [hlead]
  by_cases hthree : c.toNat < 0x10000
  · rw [if_neg hone, if_neg htwo, if_pos hthree, if_neg (by omega), if_neg (by omega),
      if_pos (by omega)]
    have hlead : 0xE0 + c.toNat / 4096 = c.toNat / 4096 % 16 + 224 := by omega
    rw [hlead]
  · rw [if_neg hone, if_neg htwo, if_neg hthree, if_neg (by omega), if_neg (by omega),
      if_neg (by omega)]
    have hlead : 0xF0 + c.toNat / 262144 = c.toNat / 262144 % 8 + 240 := by omega
    rw [hlead]

/-- The bytes of a text are those of the standard library. -/
theorem encodeText_eq (s : String) : encodeText s = s.toUTF8.data.toList := by
  have hlibrary : s.toUTF8.data.toList = s.toList.flatMap String.utf8EncodeChar := by
    conv => lhs; rw [← String.ofList_toList (s := s)]
    rw [String.toUTF8_eq_toByteArray]
    exact List.toList_data_toByteArray
  rw [hlibrary, encodeText, Utf8.encode]
  exact List.flatMap_congr fun c _ => encodeChar_eq c

/-- Bytes are read as a text when they are the encoding of this text, and only then. -/
theorem decodeText_eq_ok_iff {bytes : List UInt8} {s : String} :
    decodeText bytes = .ok s ↔ encodeText s = bytes := by
  constructor
  · intro h
    rw [decodeText] at h
    split at h
    · rename_i t ht
      rw [← Except.ok.inj h, encodeText, String.toList_ofList]
      exact Utf8.decode_eq_ok_iff.mp ht
    · contradiction
  · rintro rfl
    exact decodeText_encodeText s

/-- The error that a fault in the input is reported as. -/
def refusal (fault : Utf8.Fault) : ConvertError :=
  .invalidInput ("input is not valid UTF-8: " ++ fault.message)

/-- Bytes that are the encoding of no text are refused, and the refusal pinpoints what is
wrong with them. -/
theorem decodeText_refuses {bytes : List UInt8} (h : ∀ s, encodeText s ≠ bytes) :
    ∃ fault, Utf8.Pinpoints bytes fault ∧ decodeText bytes = .error (refusal fault) := by
  cases hdecode : Utf8.decode bytes with
  | ok s =>
    refine absurd ?_ (h (String.ofList s))
    rw [encodeText, String.toList_ofList]
    exact Utf8.decode_eq_ok_iff.mp hdecode
  | error fault =>
    refine ⟨fault, Utf8.pinpoints_of_decode hdecode, ?_⟩
    rw [decodeText, hdecode]
    rfl

/-- Bytes that are read as a text are converted as this text is, with the bytes of the
answer or the same error. -/
theorem convertBytes_of_decodeText {registry : Registry} {format s : String} {bytes : List UInt8}
    (h : decodeText bytes = .ok s) :
    registry.convertBytes bytes format = encodeText <$> registry.convert s format := by
  rw [Registry.convertBytes, Registry.convert]
  cases registry.get format with
  | error refused => rfl
  | ok converter =>
    change converter.convertBytes bytes = encodeText <$> converter.convert s
    rw [Converter.convertBytes, h]
    change (converter.convert s >>= _) = _
    cases converter.convert s <;> rfl

/-- Bytes that are refused are refused before any converter sees them. -/
theorem convertBytes_of_refused {registry : Registry} {format : String} {bytes : List UInt8}
    {refused : ConvertError} (hformat : format ∈ registry.names)
    (h : decodeText bytes = .error refused) :
    registry.convertBytes bytes format = .error refused := by
  obtain ⟨converter, hget⟩ := Registry.exists_get_of_mem hformat
  rw [Registry.convertBytes, hget]
  change converter.convertBytes bytes = .error refused
  rw [Converter.convertBytes, h]
  rfl

/-- Bytes agree with text, whatever the converters of the registry do. An unknown format
is reported first. Bytes are read as a text just when they are its UTF-8 encoding; then
they are parsed and converted as the text is. Else they are refused, by parsing and by
every conversion alike, and the refusal pinpoints the fault. -/
theorem convertBytes_agrees (registry : Registry) (format : String) (bytes : List UInt8) :
    (format ∉ registry.names →
        registry.convertBytes bytes format = .error (.formatNotFound format registry.names)) ∧
      (∀ s, encodeText s = s.toUTF8.data.toList ∧ (decodeText bytes = .ok s ↔ encodeText s = bytes)) ∧
      (∀ s, encodeText s = bytes →
        Node.parseBytes bytes = .ok (Node.parse s) ∧
          registry.convertBytes bytes format = encodeText <$> registry.convert s format) ∧
      ((∀ s, encodeText s ≠ bytes) → ∃ fault, Utf8.Pinpoints bytes fault ∧
        decodeText bytes = .error (refusal fault) ∧
        Node.parseBytes bytes = .error (refusal fault) ∧
        (format ∈ registry.names →
          registry.convertBytes bytes format = .error (refusal fault))) := by
  refine ⟨fun hformat => Registry.convertBytes_of_not_mem hformat bytes,
    fun s => ⟨encodeText_eq s, decodeText_eq_ok_iff⟩, fun s hs => ?_, fun hnone => ?_⟩
  · have hread := decodeText_eq_ok_iff.mpr hs
    refine ⟨?_, convertBytes_of_decodeText hread⟩
    rw [Node.parseBytes, hread]
    rfl
  · obtain ⟨fault, hfault, hrefused⟩ := decodeText_refuses hnone
    refine ⟨fault, hfault, hrefused, ?_, fun hformat => convertBytes_of_refused hformat hrefused⟩
    rw [Node.parseBytes, hrefused]
    rfl

/-- Bytes with a letter, half of a scalar above U+FFFF, and a parenthesis. -/
def brokenBytes : List UInt8 := [0x61, 0xF0, 0x90, 0x28]

/-- Chat markup is refused for the two octets that begin the scalar. -/
theorem convertBytes_brokenBytes :
    "slack" ∈ Registry.withDefaults.names ∧ (∀ s, encodeText s ≠ brokenBytes) ∧
      Registry.withDefaults.convertBytes brokenBytes "slack" =
        .error (.invalidInput
          "input is not valid UTF-8: invalid utf-8 sequence of 2 bytes from index 1") := by
  have hslack : "slack" ∈ Registry.withDefaults.names := by decide
  have hread : decodeText brokenBytes = .error (refusal ⟨1, some 2⟩) := rfl
  have hnone : ∀ s, encodeText s ≠ brokenBytes := by
    intro s hs
    have hok := decodeText_eq_ok_iff.mpr hs
    rw [hread] at hok
    contradiction
  obtain ⟨fault, -, hrefused, -, hconvert⟩ :=
    (convertBytes_agrees Registry.withDefaults "slack" brokenBytes).2.2.2 hnone
  have hmessage : refusal fault = refusal ⟨1, some 2⟩ := Except.error.inj (hrefused.symm.trans hread)
  refine ⟨hslack, hnone, ?_⟩
  rw [hconvert hslack, hmessage]
  rfl

end Chatdown.Format
