import GraphBroker.Proofs.Text.Percent
import GraphBroker.Remote.Url.Path

namespace GraphBroker.Remote.Url

open Text

/-!
# Names as segments of a path

A name is a segment of a path once the bytes are percent-encoded that would end the
segment or begin an escape.  What is encoded is read back, and no name but a dot segment
is taken for one.
-/

/-! ## What an encoded text is made of -/

theorem of_visibleExcept
    {excluded : List Char}
    {byte : UInt8}
    (kept : visibleExcept excluded byte = true) :
    byte.toNat < 128 ∧ ∀ c ∈ excluded, byte ≠ byteOf c := by
  simp only [visibleExcept, isVisible, Bool.and_eq_true, decide_eq_true_eq, Bool.not_eq_true',
    List.contains_eq_mem, decide_eq_false_iff_not, List.mem_map, not_exists, not_and] at kept
  obtain ⟨⟨-, below⟩, notExcluded⟩ := kept
  refine ⟨Nat.lt_of_lt_of_le (UInt8.lt_iff_toNat_lt.mp below) (by decide), ?_⟩
  intro c excludes same
  exact notExcluded c excludes same.symm

theorem byteOf_ofNat
    {byte : UInt8}
    (ascii : byte.toNat < 128) :
    byteOf (Char.ofNat byte.toNat) = byte := by
  have valid : byte.toNat.isValidChar := Or.inl (Nat.lt_trans ascii (by decide))
  have same : (Char.ofNat byte.toNat).toNat = byte.toNat := Utf8.toNat_ofNat_of_isValidChar valid
  rw [byteOf, same, UInt8.ofNat_toNat]

/-- An excluded character is not written, unless it belongs to every escape. -/
theorem notMem_encodeChars
    {excluded : List Char}
    {c : Char}
    (excludes : c ∈ excluded)
    (noSign : c ≠ '%')
    (noDigit : ∀ digit < 16, c ≠ Percent.hexDigit digit)
    (chars : List Char) :
    c ∉ (encodeChars (visibleExcept excluded) chars).toList := by
  rw [encodeChars, String.toList_ofList, Percent.encode, List.mem_flatMap]
  rintro ⟨byte, -, member⟩
  rcases Percent.of_mem_encodeByte member with ⟨kept, rfl⟩ | sign | ⟨digit, small, same⟩
  · obtain ⟨ascii, differs⟩ := of_visibleExcept kept
    exact differs _ excludes (byteOf_ofNat ascii).symm
  · exact noSign sign
  · exact noDigit digit small same

/-- Characters are read back from their encoding where every percent sign is encoded. -/
theorem decodeChars?_encodeChars
    {excluded : List Char}
    (excludes : '%' ∈ excluded)
    (chars : List Char) :
    decodeChars? (encodeChars (visibleExcept excluded) chars).toList = some (String.ofList chars) := by
  have plain : ∀ byte, visibleExcept excluded byte = true → byte.toNat < 128 ∧ byte ≠ 0x25 := by
    intro byte kept
    obtain ⟨ascii, differs⟩ := of_visibleExcept kept
    exact ⟨ascii, differs '%' excludes⟩
  rw [decodeChars?, encodeChars, String.toList_ofList, Percent.decode_encode plain]
  have whole : Utf8.encodeChars chars = Utf8.encode (String.ofList chars) := by
    rw [Utf8.encode, String.toList_ofList]
  rw [whole, Utf8.decode?_encode]

/-! ## Dot segments -/

/-- A letter in upper case is thirty-two places before the letter that it becomes. -/
theorem eq_or_toNat_add_of_toLower
    {c lower : Char}
    (same : c.toLower = lower) :
    c = lower ∨ (65 ≤ c.toNat ∧ c.toNat ≤ 90 ∧ c.toNat + 32 = lower.toNat) := by
  unfold Char.toLower at same
  split at same
  · next upper =>
      right
      have first : 65 ≤ c.toNat := UInt32.le_iff_toNat_le.mp upper.1
      have last : c.toNat ≤ 90 := UInt32.le_iff_toNat_le.mp upper.2
      have moved : (c.val + 32).toNat = lower.toNat := congrArg Char.toNat same
      refine ⟨first, last, ?_⟩
      rw [← moved, UInt32.toNat_add]
      exact (Nat.mod_eq_of_lt (by simp only [Char.toNat] at last ⊢; omega)).symm
  · exact Or.inl same

theorem eq_of_toLower
    {c lower : Char}
    (noLetter : lower.toNat < 97)
    (same : c.toLower = lower) :
    c = lower := by
  rcases eq_or_toNat_add_of_toLower same with unchanged | ⟨first, -, moved⟩
  · exact unchanged
  · omega

/-- A dot is written in three ways. -/
theorem dot_of_map_toLower
    {chars : List Char}
    (lower : chars.map Char.toLower ∈ [".".toList, "%2e".toList]) :
    chars ∈ [".".toList, "%2e".toList, "%2E".toList] := by
  simp only [List.mem_cons, List.not_mem_nil, or_false] at lower
  rcases lower with plain | escaped
  · obtain ⟨c, rest, rfl, dot, ended⟩ := List.map_eq_cons_iff.mp plain
    obtain rfl := eq_of_toLower (by decide) dot
    obtain rfl := List.map_eq_nil_iff.mp ended
    decide
  · obtain ⟨sign, afterSign, rfl, signLower, afterSignLower⟩ := List.map_eq_cons_iff.mp escaped
    obtain ⟨two, afterTwo, rfl, twoLower, afterTwoLower⟩ := List.map_eq_cons_iff.mp afterSignLower
    obtain ⟨letter, rest, rfl, letterLower, ended⟩ := List.map_eq_cons_iff.mp afterTwoLower
    obtain rfl := eq_of_toLower (by decide) signLower
    obtain rfl := eq_of_toLower (by decide) twoLower
    obtain rfl := List.map_eq_nil_iff.mp ended
    rcases eq_or_toNat_add_of_toLower letterLower with rfl | ⟨-, -, moved⟩
    · decide
    · have upper : letter = 'E' := Char.toNat_inj.mp (Nat.add_right_cancel moved)
      rw [upper]
      decide

/-- Whatever names the place itself is read as one dot. -/
theorem decodeChars?_of_isSingleDot
    {segment : String}
    (dot : isSingleDot segment = true) :
    decodeChars? segment.toList = some "." := by
  have written := dot_of_map_toLower (by simpa [isSingleDot] using dot)
  simp only [List.mem_cons, List.not_mem_nil, or_false] at written
  rcases written with same | same | same <;> rw [same] <;> rfl

/-- Whatever names the place before is read as two dots. -/
theorem decodeChars?_of_isDoubleDot
    {segment : String}
    (dots : isDoubleDot segment = true) :
    decodeChars? segment.toList = some ".." := by
  simp only [isDoubleDot, List.any_eq_true, beq_iff_eq] at dots
  obtain ⟨first, firstDot, second, secondDot, lower⟩ := dots
  obtain ⟨before, after, same, rfl, rfl⟩ := List.map_eq_append_iff.mp lower
  have one := dot_of_map_toLower firstDot
  have two := dot_of_map_toLower secondDot
  simp only [List.mem_cons, List.not_mem_nil, or_false] at one two
  rw [same]
  rcases one with rfl | rfl | rfl <;> rcases two with rfl | rfl | rfl <;> rfl

/-! ## Segments that stand for names -/

/-- A segment stands for a name if nothing in it ends it and the name is what it is read as. -/
def StandsFor (segment name : String) : Prop :=
  (∀ c ∈ segment.toList, c ∉ ['/', '\\', '?', '#']) ∧ decodeChars? segment.toList = some name

/-- A name that a segment can stand for: it is no dot segment, and no character of it is dropped. -/
def IsPlain (name : String) : Prop :=
  name ≠ "." ∧ name ≠ ".." ∧ ∀ c ∈ name.toList, isLineBreak c = false

instance (name : String) : Decidable (IsPlain name) :=
  @instDecidableAnd _ _ inferInstance
    (@instDecidableAnd _ _ inferInstance
      (List.decidableBAll (fun c => isLineBreak c = false) name.toList))

/-- The segment that a name is written as. -/
def segmentOf (special : Bool) (name : String) : String :=
  encodeChars (keptInSegment special) (withoutBreaks name.toList)

theorem decodeChars?_segmentOf
    (special : Bool)
    (name : String) :
    decodeChars? (segmentOf special name).toList =
      some (String.ofList (withoutBreaks name.toList)) :=
  decodeChars?_encodeChars (by simp) _

/-- Only a name that loses no character is read back from its segment. -/
theorem decodeChars?_segmentOf_iff
    {special : Bool}
    {name : String} :
    decodeChars? (segmentOf special name).toList = some name ↔
      ∀ c ∈ name.toList, isLineBreak c = false := by
  rw [decodeChars?_segmentOf, Option.some_inj, ← String.toList_inj, String.toList_ofList,
    withoutBreaks, List.filter_eq_self]
  simp

/-- A plain name is read back from its segment. -/
theorem decodeChars?_segmentOf_of_plain
    (special : Bool)
    {name : String}
    (plain : IsPlain name) :
    decodeChars? (segmentOf special name).toList = some name :=
  decodeChars?_segmentOf_iff.mpr plain.2.2

theorem segmentOf_ne_empty
    (special : Bool)
    {name : String}
    (nonempty : name ≠ "")
    (plain : IsPlain name) :
    segmentOf special name ≠ "" := by
  intro empty
  have read := decodeChars?_segmentOf_of_plain special plain
  rw [empty] at read
  exact nonempty (Option.some.inj read).symm

theorem standsFor_segmentOf
    {name : String}
    (plain : IsPlain name) :
    StandsFor (segmentOf true name) name := by
  refine ⟨?_, decodeChars?_segmentOf_of_plain true plain⟩
  intro c member separates
  simp only [List.mem_cons, List.not_mem_nil, or_false] at separates
  rcases separates with rfl | rfl | rfl | rfl <;>
    exact notMem_encodeChars (by decide) (by decide) (by decide) _ member

end GraphBroker.Remote.Url
