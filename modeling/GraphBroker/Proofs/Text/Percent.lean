import GraphBroker.Proofs.Text.Utf8
import GraphBroker.Text.Percent

namespace GraphBroker.Text.Percent

/-!
# Percent-encoding is undone

What is percent-encoded is read back byte by byte, as long as no byte is kept that is
no character of its own or that begins an escape.
-/

theorem decode_cons_of_ne
    {first : UInt8}
    (noEscape : first ≠ 0x25)
    (rest : List UInt8) :
    decode (first :: rest) = first :: decode rest := by
  match rest with
  | [] => simp [decode]
  | [second] => simp [decode]
  | second :: third :: others => simp [decode, noEscape]

theorem utf8EncodeChar_hexDigit :
    ∀ digit < 16, String.utf8EncodeChar (hexDigit digit) = [UInt8.ofNat (hexDigit digit).toNat] := by
  decide

theorem hexValue?_hexDigit :
    ∀ digit < 16, hexValue? (UInt8.ofNat (hexDigit digit).toNat) = some (UInt8.ofNat digit) := by
  decide

/-- The value of a byte is that of its two digits. -/
theorem byte_of_digits
    (byte : UInt8) :
    UInt8.ofNat (byte.toNat / 16) * 16 + UInt8.ofNat (byte.toNat % 16) = byte := by
  have whole : byte.toNat / 16 * 16 + byte.toNat % 16 = byte.toNat := Nat.div_add_mod' _ _
  rw [← UInt8.toNat_inj]
  have bound := byte.toNat_lt
  simp only [UInt8.toNat_add, UInt8.toNat_mul, UInt8.toNat_ofNat', UInt8.reduceToNat]
  omega

/-- An escape is read as the byte of its two digits, however they are written. -/
theorem decode_escape
    {byte high low : UInt8}
    (highDigit : hexValue? high = some (UInt8.ofNat (byte.toNat / 16)))
    (lowDigit : hexValue? low = some (UInt8.ofNat (byte.toNat % 16)))
    (rest : List UInt8) :
    decode (0x25 :: high :: low :: rest) = byte :: decode rest := by
  simp [decode, highDigit, lowDigit, byte_of_digits]

/-- One byte is read back, whatever follows it. -/
theorem decode_encodeByte
    {kept : UInt8 → Bool}
    {byte : UInt8}
    (plain : kept byte = true → byte.toNat < 128 ∧ byte ≠ 0x25)
    (rest : List UInt8) :
    decode (Utf8.encodeChars (encodeByte kept byte) ++ rest) = byte :: decode rest := by
  by_cases isKept : kept byte = true
  · obtain ⟨ascii, noEscape⟩ := plain isKept
    have bytes : Utf8.encodeChars (encodeByte kept byte) = [byte] := by
      simp [encodeByte, isKept, Utf8.encodeChars, Utf8.utf8EncodeChar_one ascii]
    rw [bytes]
    exact decode_cons_of_ne noEscape rest
  · have high : byte.toNat / 16 < 16 := Nat.div_lt_of_lt_mul byte.toNat_lt
    have low : byte.toNat % 16 < 16 := Nat.mod_lt _ (by decide)
    have percent : String.utf8EncodeChar '%' = [0x25] := by decide
    have bytes : Utf8.encodeChars (encodeByte kept byte) =
        [0x25, UInt8.ofNat (hexDigit (byte.toNat / 16)).toNat,
          UInt8.ofNat (hexDigit (byte.toNat % 16)).toNat] := by
      simp [encodeByte, isKept, Utf8.encodeChars, percent, utf8EncodeChar_hexDigit _ high,
        utf8EncodeChar_hexDigit _ low]
    rw [bytes]
    exact decode_escape (hexValue?_hexDigit _ high) (hexValue?_hexDigit _ low) rest

theorem decode_encode
    {kept : UInt8 → Bool}
    (plain : ∀ byte, kept byte = true → byte.toNat < 128 ∧ byte ≠ 0x25)
    (bytes : List UInt8) :
    decode (Utf8.encodeChars (encode kept bytes)) = bytes := by
  induction bytes with
  | nil =>
      rfl
  | cons byte rest inductionHypothesis =>
      have split : Utf8.encodeChars (encode kept (byte :: rest)) =
          Utf8.encodeChars (encodeByte kept byte) ++ Utf8.encodeChars (encode kept rest) := by
        simp [encode, Utf8.encodeChars]
      rw [split, decode_encodeByte (plain byte), inductionHypothesis]

/-- A character of an encoded byte is a kept byte, or belongs to an escape. -/
theorem of_mem_encodeByte
    {kept : UInt8 → Bool}
    {byte : UInt8}
    {c : Char}
    (member : c ∈ encodeByte kept byte) :
    (kept byte = true ∧ c = Char.ofNat byte.toNat) ∨ c = '%' ∨ ∃ digit < 16, c = hexDigit digit := by
  unfold encodeByte at member
  split at member
  · next isKept =>
      exact Or.inl ⟨isKept, List.mem_singleton.mp member⟩
  · have high : byte.toNat / 16 < 16 := Nat.div_lt_of_lt_mul byte.toNat_lt
    have low : byte.toNat % 16 < 16 := Nat.mod_lt _ (by decide)
    simp only [List.mem_cons, List.not_mem_nil, or_false] at member
    rcases member with rfl | rfl | rfl
    · exact Or.inr (Or.inl rfl)
    · exact Or.inr (Or.inr ⟨_, high, rfl⟩)
    · exact Or.inr (Or.inr ⟨_, low, rfl⟩)

end GraphBroker.Text.Percent
