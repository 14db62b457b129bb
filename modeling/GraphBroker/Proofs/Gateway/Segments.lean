import GraphBroker.Proofs.Gateway.Routes
import GraphBroker.Proofs.Text.Percent

namespace GraphBroker.Gateway

open Text

/-!
# Identifiers as they are written

An identifier is written in a path byte by byte.  A byte is escaped by two hexadecimal
digits in either letter case, or it stands for itself where the syntax of a URI allows
that.  However an identifier is written, it is what the path is read as.
-/

/-- A character that may stand for itself in a segment of a path. -/
def isSegmentChar (c : Char) : Bool :=
  c.isAlphanum ||
    ['-', '.', '_', '~', '!', '$', '&', '\'', '(', ')', '*', '+', ',', ';', '=', ':', '@'].contains c

/-- A hexadecimal digit in one of its letter cases. -/
def IsHexDigit (digit : Nat) (c : Char) : Prop :=
  c = Percent.hexDigit digit ∨ c = (Percent.hexDigit digit).toLower

/-- Characters are one way to write some bytes as a segment of a path. -/
inductive Spells : List Char → List UInt8 → Prop where
  | nil :
      Spells [] []
  | plain {c : Char} {chars : List Char} {bytes : List UInt8}
      (allowed : isSegmentChar c = true)
      (rest : Spells chars bytes) :
      Spells (c :: chars) (String.utf8EncodeChar c ++ bytes)
  | escaped {byte : UInt8} {high low : Char} {chars : List Char} {bytes : List UInt8}
      (highDigit : IsHexDigit (byte.toNat / 16) high)
      (lowDigit : IsHexDigit (byte.toNat % 16) low)
      (rest : Spells chars bytes) :
      Spells ('%' :: high :: low :: chars) (byte :: bytes)

/-- A text is one way to write an identifier as a segment of a path. -/
def Writes (raw id : String) : Prop :=
  Spells raw.toList (Utf8.encode id)

/-- Every identifier can be written, with all its bytes escaped. -/
theorem writes_escaped
    (id : String) :
    Writes (String.ofList (Percent.encode (fun _ => false) (Utf8.encode id))) id := by
  have spells (bytes : List UInt8) : Spells (Percent.encode (fun _ => false) bytes) bytes := by
    induction bytes with
    | nil =>
        exact .nil
    | cons byte rest inductionHypothesis =>
        exact .escaped (Or.inl rfl) (Or.inl rfl) inductionHypothesis
  rw [Writes, String.toList_ofList]
  exact spells (Utf8.encode id)

/-! ## What a segment is made of -/

theorem ascii_of_isAlphanum
    {c : Char}
    (alphanum : c.isAlphanum = true) :
    c.toNat < 128 := by
  have ranges :
      c.isAlphanum =
        (decide ('A' ≤ c ∧ c ≤ 'Z') || ('a' ≤ c && c ≤ 'z') || ('0' ≤ c && c ≤ '9')) :=
    rfl
  have bounded {most : Char} (below : c ≤ most) (small : most.toNat < 128) : c.toNat < 128 :=
    Nat.lt_of_le_of_lt below small
  simp only [ranges, Bool.or_eq_true, Bool.and_eq_true, decide_eq_true_eq] at alphanum
  rcases alphanum with (⟨-, upper⟩ | ⟨-, lower⟩) | ⟨-, digit⟩
  · exact bounded upper (by decide)
  · exact bounded lower (by decide)
  · exact bounded digit (by decide)

theorem ascii_of_isSegmentChar
    {c : Char}
    (allowed : isSegmentChar c = true) :
    c.toNat < 128 := by
  rcases Bool.or_eq_true _ _ ▸ allowed with alphanum | sign
  · exact ascii_of_isAlphanum alphanum
  · have signs : ['-', '.', '_', '~', '!', '$', '&', '\'', '(', ')', '*', '+', ',', ';', '=', ':',
        '@'].all (fun other => decide (other.toNat < 128)) = true := by decide
    exact of_decide_eq_true (List.all_eq_true.mp signs c (List.contains_iff_mem.mp sign))

/-- A character that stands for itself is one byte, and not the one that begins an escape. -/
theorem byte_of_isSegmentChar
    {c : Char}
    (allowed : isSegmentChar c = true) :
    ∃ byte, String.utf8EncodeChar c = [byte] ∧ byte ≠ 0x25 := by
  have small := ascii_of_isSegmentChar allowed
  have encoded := Utf8.utf8EncodeChar_one small
  rw [Char.ofNat_toNat] at encoded
  refine ⟨_, encoded, ?_⟩
  intro sign
  have code : c.toNat % 256 = 37 := congrArg UInt8.toNat sign
  rw [Nat.mod_eq_of_lt (Nat.lt_trans small (by decide))] at code
  obtain rfl : c = '%' := Char.toNat_inj.mp code
  exact absurd allowed (by decide)

theorem IsHexDigit.value
    {digit : Nat}
    {c : Char}
    (small : digit < 16)
    (isDigit : IsHexDigit digit c) :
    ∃ byte, String.utf8EncodeChar c = [byte] ∧
      Percent.hexValue? byte = some (UInt8.ofNat digit) := by
  have lower : ∀ digit < 16,
      String.utf8EncodeChar (Percent.hexDigit digit).toLower =
          [UInt8.ofNat (Percent.hexDigit digit).toLower.toNat] ∧
        Percent.hexValue? (UInt8.ofNat (Percent.hexDigit digit).toLower.toNat) =
          some (UInt8.ofNat digit) := by decide
  rcases isDigit with rfl | rfl
  · exact ⟨_, Percent.utf8EncodeChar_hexDigit digit small, Percent.hexValue?_hexDigit digit small⟩
  · exact ⟨_, lower digit small⟩

/-- No character of a segment ends it. -/
theorem IsHexDigit.allowed
    {digit : Nat}
    {c : Char}
    (small : digit < 16)
    (isDigit : IsHexDigit digit c) :
    isSegmentChar c = true := by
  have both : ∀ digit < 16, isSegmentChar (Percent.hexDigit digit) = true ∧
      isSegmentChar (Percent.hexDigit digit).toLower = true := by decide
  rcases isDigit with rfl | rfl
  · exact (both digit small).1
  · exact (both digit small).2

/-- The digits of a byte are below sixteen. -/
theorem digits_lt
    (byte : UInt8) :
    byte.toNat / 16 < 16 ∧ byte.toNat % 16 < 16 :=
  ⟨Nat.div_lt_of_lt_mul byte.toNat_lt, Nat.mod_lt _ (by decide)⟩

theorem Spells.isSegmentChar_of_mem
    {chars : List Char}
    {bytes : List UInt8}
    (spells : Spells chars bytes) :
    ∀ c ∈ chars, isSegmentChar c = true ∨ c = '%' := by
  induction spells with
  | nil =>
      simp
  | plain allowed rest inductionHypothesis =>
      rw [List.forall_mem_cons]
      exact ⟨Or.inl allowed, inductionHypothesis⟩
  | @escaped byte high low chars bytes highDigit lowDigit rest inductionHypothesis =>
      rw [List.forall_mem_cons, List.forall_mem_cons, List.forall_mem_cons]
      exact ⟨Or.inr rfl, Or.inl (highDigit.allowed (digits_lt byte).1),
        Or.inl (lowDigit.allowed (digits_lt byte).2), inductionHypothesis⟩

/-- A character that has a meaning of its own in a path or its end is in no segment. -/
theorem Spells.notMem
    {chars : List Char}
    {bytes : List UInt8}
    (spells : Spells chars bytes)
    {c : Char}
    (reserved : c ∈ ['/', '?', '#']) :
    c ∉ chars := by
  intro member
  have allowed := spells.isSegmentChar_of_mem c member
  simp only [List.mem_cons, List.not_mem_nil, or_false] at reserved
  rcases reserved with rfl | rfl | rfl <;> exact absurd allowed (by decide)

/-! ## What a segment is read as -/

theorem Spells.decode
    {chars : List Char}
    {bytes : List UInt8}
    (spells : Spells chars bytes) :
    Percent.decode (Utf8.encodeChars chars) = bytes := by
  induction spells with
  | nil =>
      rfl
  | @plain c chars bytes allowed rest inductionHypothesis =>
      obtain ⟨byte, encoded, noEscape⟩ := byte_of_isSegmentChar allowed
      have split : Utf8.encodeChars (c :: chars) = byte :: Utf8.encodeChars chars := by
        simp [Utf8.encodeChars, encoded]
      rw [split, Percent.decode_cons_of_ne noEscape, inductionHypothesis, encoded]
      rfl
  | @escaped byte high low chars bytes highDigit lowDigit rest inductionHypothesis =>
      obtain ⟨highByte, highEncoded, highValue⟩ := highDigit.value (digits_lt byte).1
      obtain ⟨lowByte, lowEncoded, lowValue⟩ := lowDigit.value (digits_lt byte).2
      have percent : String.utf8EncodeChar '%' = [0x25] := by decide
      have split : Utf8.encodeChars ('%' :: high :: low :: chars) =
          0x25 :: highByte :: lowByte :: Utf8.encodeChars chars := by
        simp [Utf8.encodeChars, percent, highEncoded, lowEncoded]
      rw [split, Percent.decode_escape highValue lowValue, inductionHypothesis]

/-- However an identifier is written, its segment stands for it. -/
theorem Writes.identifies
    {raw id : String}
    (writes : Writes raw id)
    (shows : ¬ IsBlank id) :
    Identifies raw id where
  slashless := writes.notMem (by simp)
  decodes := writes.decode
  shows := shows

end GraphBroker.Gateway
