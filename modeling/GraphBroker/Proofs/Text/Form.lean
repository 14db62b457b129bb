import GraphBroker.Proofs.Text.Percent
import GraphBroker.Proofs.Text.Split
import GraphBroker.Text.Form

namespace GraphBroker.Text.Form

/-!
# Forms are read as they were written

No name and no value holds an ampersand or an equals sign once it is encoded, so that
the fields of a form are found again, each with its name and its value.
-/

/-- The characters of one byte. -/
def byteChars (byte : UInt8) : List Char :=
  if byte == 0x20 then ['+'] else Percent.encodeByte kept byte

/-- A byte that is kept is a character of its own, and none that a form gives a meaning. -/
theorem plain_of_kept
    {byte : UInt8}
    (isKept : kept byte = true) :
    byte.toNat < 128 ∧ byte ≠ 0x25 ∧ Char.ofNat byte.toNat ∉ ['+', '&', '='] := by
  have bytes : ∀ value < 256, kept (UInt8.ofNat value) = true →
      (UInt8.ofNat value).toNat < 128 ∧ UInt8.ofNat value ≠ 0x25 ∧
        Char.ofNat (UInt8.ofNat value).toNat ∉ ['+', '&', '='] := by
    decide +kernel
  have plain := bytes byte.toNat byte.toNat_lt
  rw [UInt8.ofNat_toNat] at plain
  exact plain isKept

theorem plain_of_mem_encodeByte
    {byte : UInt8}
    {c : Char}
    (member : c ∈ Percent.encodeByte kept byte) :
    c ∉ ['+', '&', '='] := by
  have digits : ∀ digit < 16, Percent.hexDigit digit ∉ ['+', '&', '='] := by decide
  rcases Percent.of_mem_encodeByte member with ⟨isKept, rfl⟩ | rfl | ⟨digit, bound, rfl⟩
  · exact (plain_of_kept isKept).2.2
  · decide
  · exact digits digit bound

theorem decode_byteChars
    (byte : UInt8)
    (rest : List UInt8) :
    Percent.decode
        (Utf8.encodeChars ((byteChars byte).map fun c => if c = '+' then ' ' else c) ++ rest) =
      byte :: Percent.decode rest := by
  by_cases space : byte = 0x20
  · subst space
    exact Percent.decode_cons_of_ne (by decide) rest
  · have chars : (byteChars byte).map (fun c => if c = '+' then ' ' else c) =
        Percent.encodeByte kept byte := by
      have other : (byte == 0x20) = false := by simpa using space
      rw [byteChars, other]
      apply (List.map_congr_left ?_).trans (List.map_id _)
      intro c member
      have plain := plain_of_mem_encodeByte member
      have noPlus : c ≠ '+' := fun same => plain (by simp [same])
      simp [noPlus]
    rw [chars]
    exact Percent.decode_encodeByte
      (fun isKept => ⟨(plain_of_kept isKept).1, (plain_of_kept isKept).2.1⟩) rest

/-- A text is decoded from what it is encoded as. -/
theorem decode_encode
    (text : String) :
    decode (encode text).toList = text := by
  have bytes (bytes : List UInt8) :
      Percent.decode
          (Utf8.encodeChars ((bytes.flatMap byteChars).map fun c => if c = '+' then ' ' else c)) =
        bytes := by
    induction bytes with
    | nil =>
        rfl
    | cons byte rest inductionHypothesis =>
        have split : Utf8.encodeChars
            (((byte :: rest).flatMap byteChars).map fun c => if c = '+' then ' ' else c) =
              Utf8.encodeChars ((byteChars byte).map fun c => if c = '+' then ' ' else c) ++
                Utf8.encodeChars
                  ((rest.flatMap byteChars).map fun c => if c = '+' then ' ' else c) := by
          simp [Utf8.encodeChars]
        rw [split, decode_byteChars, inductionHypothesis]
  have read := bytes (Utf8.encode text)
  rw [decode, encode, String.toList_ofList]
  exact (congrArg Utf8.decodeLossy read).trans (Utf8.decodeLossy_encode text)

/-- No encoded name or value holds what separates fields, or a name from its value. -/
theorem plain_of_mem_encode
    {text : String}
    {c : Char}
    (member : c ∈ (encode text).toList) :
    c ≠ '&' ∧ c ≠ '=' := by
  rw [encode, String.toList_ofList, List.mem_flatMap] at member
  obtain ⟨byte, _, inByte⟩ := member
  split at inByte
  · obtain rfl := List.mem_singleton.mp inByte
    decide
  · have plain := plain_of_mem_encodeByte inByte
    simp only [List.mem_cons, List.not_mem_nil, or_false, not_or] at plain
    exact plain.2

/-- The written form of one field. -/
def fieldChars (field : Field) : List Char :=
  (encode field.name).toList ++ '=' :: (encode field.value).toList

/-- A field is read back from its characters. -/
theorem field_fieldChars
    (written : Field) :
    field (fieldChars written) = written := by
  have noEquals : ∀ c ∈ (encode written.name).toList, (c != '=') = true := by
    intro c member
    simpa using (plain_of_mem_encode member).2
  have before : (fieldChars written).takeWhile (· != '=') = (encode written.name).toList := by
    rw [fieldChars, List.takeWhile_append_of_pos noEquals]
    simp
  have after : ((fieldChars written).dropWhile (· != '=')).drop 1 =
      (encode written.value).toList := by
    rw [fieldChars, List.dropWhile_append_of_pos noEquals]
    simp
  rw [field, before, after, decode_encode, decode_encode]

theorem ampersand_of_mem_fieldChars
    {written : Field}
    {c : Char}
    (member : c ∈ fieldChars written) :
    (c == '&') = false := by
  rw [fieldChars, List.mem_append, List.mem_cons] at member
  rcases member with inName | rfl | inValue
  · simpa using (plain_of_mem_encode inName).1
  · decide
  · simpa using (plain_of_mem_encode inValue).1

theorem render_cons_cons
    (first second : Field)
    (rest : List Field) :
    (render (first :: second :: rest)).toList =
      fieldChars first ++ '&' :: (render (second :: rest)).toList := by
  simp [render, fieldChars]

/-- Fields are read as they were written. -/
theorem parse_render
    (fields : List Field) :
    parse (render fields).toList = fields := by
  induction fields with
  | nil =>
      rfl
  | cons first rest inductionHypothesis =>
      have piece : splitChars (· == '&') (fieldChars first) = [fieldChars first] :=
        splitChars_of_none fun _ => ampersand_of_mem_fieldChars
      have shows : (fieldChars first).isEmpty = false := by simp [fieldChars]
      cases rest with
      | nil =>
          have chars : (render [first]).toList = fieldChars first := by
            simp [render, fieldChars]
          simp [parse, chars, piece, shows, field_fieldChars]
      | cons second others =>
          rw [parse] at inductionHypothesis
          rw [parse, render_cons_cons, splitChars_append_cons (by decide), piece]
          simp [shows, field_fieldChars, inductionHypothesis]

/-! ## Sizes -/

theorem length_byteChars_le
    (byte : UInt8) :
    (Utf8.encodeChars (byteChars byte)).length ≤ 3 := by
  have bytes : ∀ value < 256, (Utf8.encodeChars (byteChars (UInt8.ofNat value))).length ≤ 3 := by
    decide +kernel
  have here := bytes byte.toNat byte.toNat_lt
  rwa [UInt8.ofNat_toNat] at here

/-- A name or a value has at most three bytes for each byte of its text. -/
theorem utf8ByteSize_encode_le
    (text : String) :
    (encode text).utf8ByteSize ≤ 3 * text.utf8ByteSize := by
  have sizes (bytes : List UInt8) :
      (Utf8.encodeChars (bytes.flatMap byteChars)).length ≤ 3 * bytes.length := by
    induction bytes with
    | nil =>
        exact Nat.le_refl 0
    | cons byte rest inductionHypothesis =>
        have split : Utf8.encodeChars ((byte :: rest).flatMap byteChars) =
            Utf8.encodeChars (byteChars byte) ++ Utf8.encodeChars (rest.flatMap byteChars) := by
          simp [Utf8.encodeChars]
        have here := length_byteChars_le byte
        rw [split, List.length_append, List.length_cons]
        omega
  have bytes : Utf8.encode (encode text) =
      Utf8.encodeChars ((Utf8.encode text).flatMap byteChars) := by
    rw [Utf8.encode, encode, String.toList_ofList]
    rfl
  rw [← Utf8.length_encode, ← Utf8.length_encode, bytes]
  exact sizes _

/-- A field is at most three times as long as its name and value. -/
theorem utf8ByteSize_render_le
    (field : Field) :
    (render [field]).utf8ByteSize ≤
      3 * (field.name.utf8ByteSize + field.value.utf8ByteSize) + 1 := by
  have name := utf8ByteSize_encode_le field.name
  have value := utf8ByteSize_encode_le field.value
  have equals : "=".utf8ByteSize = 1 := rfl
  simp only [render, List.map_cons, List.map_nil, String.intercalate_singleton,
    String.utf8ByteSize_append, equals]
  omega

end GraphBroker.Text.Form
