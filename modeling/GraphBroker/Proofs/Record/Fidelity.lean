import GraphBroker.Proofs.Json.Depth
import GraphBroker.Proofs.Json.Members
import GraphBroker.Proofs.Record.Stored

namespace GraphBroker

open Json Text

/-!
# What a stored text keeps of a record

Every record is stored, but not every record comes back.  One that is nested too deep is
stored as a text that nobody can read.  Within the limit different records are stored as
different texts, and a record comes back exactly if its payload is plain.
-/

/-! ## Texts in Base64 -/

namespace Text.Base64

/-- The characters of a written form: the digits, and what fills it up. -/
def isAlphabetChar (c : Char) : Bool :=
  ('A' ≤ c && c ≤ 'Z') || ('a' ≤ c && c ≤ 'z') || ('0' ≤ c && c ≤ '9')
    || c == '+' || c == '/' || c == '='

theorem isAlphabetChar_digitChar :
    ∀ digit, digit < 64 → isAlphabetChar (digitChar digit) = true := by
  decide

theorem isAlphabetChar_of_mem_encode
    {bytes : List UInt8}
    {c : Char}
    (member : c ∈ (encode bytes).toList) :
    isAlphabetChar c = true := by
  rw [encode, String.toList_ofList] at member
  rcases digit_of_mem_encodeOnto member with rfl | ⟨digit, bound, rfl⟩
  · decide
  · exact isAlphabetChar_digitChar digit bound

theorem encode_injective :
    Function.Injective encode := by
  intro bytes others same
  have read := decode?_encode bytes
  rw [same, decode?_encode] at read
  exact (Option.some.inj read).symm

/-- Blanks around a written form are trimmed away. -/
theorem trim_around_encode
    {before after : String}
    (blankBefore : IsBlank before)
    (blankAfter : IsBlank after)
    (bytes : List UInt8) :
    trim (before ++ encode bytes ++ after) = encode bytes := by
  have shown : ∀ c ∈ (encode bytes).toList, isBlank c = false :=
    fun c member => isBlank_of_mem_encode member
  rw [trim, String.toList_append, String.toList_append,
    trimChars_append blankBefore shown blankAfter, String.ofList_toList]

end Text.Base64

/-- Blanks around a stored text do not matter. -/
theorem readStored_around
    {before after : String}
    (blankBefore : IsBlank before)
    (blankAfter : IsBlank after)
    (codec : Codec α)
    (record : α) :
    readStored codec (before ++ storedText codec record ++ after) =
      readStored codec (storedText codec record) := by
  rw [readStored, readStored, storedText, Base64.trim_around_encode blankBefore blankAfter,
    Base64.trim_encode]

/-! ## Records with a payload -/

/-- What becomes of one record when it is stored. -/
structure Kept (codec : Codec α) (payload : α → Json) (record : α) : Prop where
  /-- It is stored as a text in Base64. -/
  alphabet : ∀ c ∈ (storedText codec record).toList, Base64.isAlphabetChar c = true
  /-- Unless it is nested too deep, it comes back exactly if its payload is plain. -/
  restored :
    (codec.write record).nesting ≤ depthLimit →
    ∀ before after, IsBlank before → IsBlank after →
      (readStored codec (before ++ storedText codec record ++ after) = .ok record ↔
        (payload record).Throughout IsPlain)
  /-- If it is nested too deep, its text is corrupt. -/
  lost :
    depthLimit < (codec.write record).nesting →
    ∀ before after, IsBlank before → IsBlank after →
      ∃ error, readStored codec (before ++ storedText codec record ++ after) = .error (.json error)
  /-- Unless it is nested too deep, no other record is stored as the same text. -/
  distinct :
    (codec.write record).nesting ≤ depthLimit →
    ∀ other, (payload other).Throughout IsIntegral →
      (codec.write other).nesting ≤ depthLimit →
      storedText codec other = storedText codec record →
      other = record

namespace CarriesPayload

variable {codec : Codec α} {payload : α → Json} {record : α}

/-- Different records are written differently. -/
theorem injective
    (carries : CarriesPayload codec payload) :
    Function.Injective codec.write := by
  obtain ⟨texts, written, whole⟩ := carries.written
  have named : Function.Injective
      fun named : String × String => (some named.1, Document.text named.2) := by
    rintro ⟨name, text⟩ ⟨other, otherText⟩ same
    simpa using same
  intro record other same
  rw [written, written] at same
  obtain ⟨sameTexts, samePayload⟩ := List.append_inj' (Document.table.inj same).1 rfl
  have samePayload : Document.ofJson (payload record) = .ofJson (payload other) := by
    simpa using samePayload
  exact whole record other (List.map_injective_iff.mpr named sameTexts)
    (Document.ofJson_injective samePayload)

/-- A record that is nested too deep is stored as a text that nobody can read. -/
theorem corrupt_of_deep
    (carries : CarriesPayload codec payload)
    (integral : (payload record).Throughout IsIntegral)
    (deep : depthLimit < (codec.write record).nesting) :
    ∃ error, readStored codec (storedText codec record) = .error (.json error) := by
  rw [readStored_storedText (carries.legible integral)]
  cases outcome : codec.read ((codec.write record).clip 0) with
  | error error =>
      exact ⟨error.inText, rfl⟩
  | ok found =>
      have shallow := Reader.shallow_of_valueWith (by decide) (carries.payload_of_read outcome)
      rw [carries.nesting, Json.nesting] at deep
      omega

/--
Records of integral numbers, nested no deeper than can be read, are known by their stored texts.
-/
theorem eq_of_storedText_eq
    {other : α}
    (carries : CarriesPayload codec payload)
    (integral : (payload record).Throughout IsIntegral)
    (otherIntegral : (payload other).Throughout IsIntegral)
    (shallow : (codec.write record).nesting ≤ depthLimit)
    (otherShallow : (codec.write other).nesting ≤ depthLimit)
    (same : storedText codec other = storedText codec record) :
    other = record := by
  have legible := carries.legible integral
  have otherLegible := carries.legible otherIntegral
  have source := otherLegible.ofBytes_chars
  rw [Base64.encode_injective same, legible.ofBytes_chars, legible.clip_eq (by simpa using shallow),
    otherLegible.clip_eq (by simpa using otherShallow)] at source
  exact carries.injective (Source.mk.inj source).1.symm

/-- A record whose payload is sorted and of integral numbers is kept by its stored text. -/
theorem kept
    (carries : CarriesPayload codec payload)
    (sorted : (payload record).Throughout IsSorted)
    (integral : (payload record).Throughout IsIntegral) :
    Kept codec payload record where
  alphabet :=
    fun _ member => Base64.isAlphabetChar_of_mem_encode member
  restored := by
    intro shallow before after blankBefore blankAfter
    rw [carries.nesting] at shallow
    have storable : (payload record).IsStorable := ⟨sorted, integral, Nat.le_of_succ_le_succ shallow⟩
    rw [readStored_around blankBefore blankAfter, carries.readable storable,
      Reader.value_ofJson_iff sorted]
  lost := by
    intro deep before after blankBefore blankAfter
    rw [readStored_around blankBefore blankAfter]
    exact carries.corrupt_of_deep integral deep
  distinct := by
    intro shallow other otherIntegral otherShallow same
    exact carries.eq_of_storedText_eq integral otherIntegral shallow otherShallow same

end CarriesPayload

/--
What becomes of the record of an instance, and of that of a binding, which hold no number
but integers.  Each is stored as a text in Base64, and read with blanks around it or without.
If its document nests more containers than the limit, the text is corrupt.  Otherwise the
record comes back exactly if no object in its payload begins with the key that stands for a
JSON text, and in any case no other such record is stored as the same text.
-/
theorem stored_records_kept
    (record : ServiceInstance)
    (binding : ServiceBinding) :
    (record.payload.Throughout IsSorted → record.payload.Throughout IsIntegral →
        Kept ServiceInstance.codec ServiceInstance.payload record) ∧
      (binding.payload.Throughout IsSorted → binding.payload.Throughout IsIntegral →
        Kept ServiceBinding.codec ServiceBinding.payload binding) := by
  constructor
  · intro sorted integral
    exact ServiceInstance.carriesPayload.kept sorted integral
  · intro sorted integral
    exact ServiceBinding.carriesPayload.kept sorted integral

/-- A binding with a payload that begins with the key that stands for a JSON text. -/
def embeddingBinding : ServiceBinding :=
  ⟨"b1", .object [(Reader.embeddedKey, .null), ("z", .number (.natural 1))]⟩

theorem throughout_embeddingBinding
    {property : Json → Prop}
    (whole : property embeddingBinding.payload)
    (held : property .null)
    (one : property (.number (.natural 1))) :
    embeddingBinding.payload.Throughout property := by
  refine .intro whole ?_
  simp only [embeddingBinding, parts, List.map_cons, List.map_nil, List.forall_mem_cons]
  exact ⟨.of_undivided held rfl, .of_undivided one rfl, nofun⟩

theorem storable_embeddingBinding :
    embeddingBinding.payload.IsStorable where
  sorted := by
    have ascending : embeddingBinding.payload.IsSorted := by
      simpa [IsSorted, embeddingBinding, Ascending] using (by decide : Reader.embeddedKey < "z")
    exact throughout_embeddingBinding ascending trivial trivial
  integral :=
    throughout_embeddingBinding trivial trivial trivial
  shallow := by
    decide

/-- The record of an instance with a database comes back; the binding is stored as a text. -/
theorem stored_records_kept_alpha :
    let payload : Json := .object [("db_name", .text "alpha")]
    let record : ServiceInstance := ⟨"i1", "shared", "org", "space", "service", payload⟩
    readStored ServiceInstance.codec ("" ++ storedText ServiceInstance.codec record ++ " ") =
        .ok record ∧
      ∀ c ∈ (storedText ServiceBinding.codec embeddingBinding).toList,
        Base64.isAlphabetChar c = true := by
  intro payload record
  have everywhere {property : Json → Prop} (whole : property payload)
      (name : property (.text "alpha")) : payload.Throughout property := by
    refine .intro whole ?_
    simp only [payload, parts, List.map_cons, List.map_nil, List.forall_mem_cons]
    exact ⟨.of_undivided name rfl, nofun⟩
  have sorted : payload.Throughout IsSorted :=
    everywhere (by simp [payload, IsSorted, Ascending]) trivial
  have integral : payload.Throughout IsIntegral :=
    everywhere trivial trivial
  have plain : payload.Throughout IsPlain :=
    everywhere (by decide : "db_name" ≠ Reader.embeddedKey) trivial
  obtain ⟨keeps, keepsToo⟩ := stored_records_kept record embeddingBinding
  constructor
  · exact ((keeps sorted integral).restored (by decide) "" " " (by decide) (by decide)).mpr plain
  · exact (keepsToo storable_embeddingBinding.sorted storable_embeddingBinding.integral).alphabet

/-- The binding does not come back, although it is not nested too deep. -/
theorem embeddingBinding_lost :
    embeddingBinding.payload.IsStorable ∧
      readStored ServiceBinding.codec (storedText ServiceBinding.codec embeddingBinding) ≠
        .ok embeddingBinding := by
  refine ⟨storable_embeddingBinding, ?_⟩
  rw [ne_eq, ServiceBinding.carriesPayload.readable storable_embeddingBinding]
  exact nofun

end GraphBroker
