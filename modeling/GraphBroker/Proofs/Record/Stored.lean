import GraphBroker.Proofs.Fallible
import GraphBroker.Proofs.Json.Members
import GraphBroker.Proofs.Json.Readings
import GraphBroker.Proofs.Json.Shape
import GraphBroker.Proofs.Text.Base64
import GraphBroker.Record.Basic
import GraphBroker.Record.Stored

namespace GraphBroker

open Json

/-!
# Records behind stored texts

What is read of a stored text is what was stored, but for the payload, which is
read as its document is.  A payload within the limits of its written form is read
as itself if none of its objects is taken for a text that it holds.
-/

/-- Reading a stored text is reading the document of its record, but for what is nested too deep. -/
theorem readStored_storedText
    {codec : Codec α}
    {record : α}
    (legible : (codec.write record).Legible) :
    readStored codec (storedText codec record) =
      (codec.read (Document.clip 0 (codec.write record))).mapError
        fun error => .json error.inText := by
  have source := legible.ofBytes_chars
  rw [readStored, storedText, Text.Base64.trim_encode, Text.Base64.decode?_encode]
  simp only [Reader.bytes, Reader.source, source, if_true]
  cases codec.read (Document.clip 0 (codec.write record)) <;> rfl

/-- A stored text is read as the document of its record, which is not nested too deep. -/
theorem readStored_storedText_iff
    {codec : Codec α}
    {record found : α}
    (legible : (codec.write record).Legible)
    (shallow : (codec.write record).nesting ≤ depthLimit) :
    readStored codec (storedText codec record) = .ok found ↔
      codec.read (codec.write record) = .ok found := by
  rw [readStored_storedText legible, legible.clip_eq (by simpa using shallow), mapError_eq_ok_iff]

namespace Json

/-- A payload of which all is written, and nothing so deep that a record with it cannot be read. -/
structure IsStorable (payload : Json) : Prop where
  /-- Keys ascend in every object, as they do in every value. -/
  sorted : payload.Throughout IsSorted
  integral : payload.Throughout IsIntegral
  shallow : payload.nesting ≤ 126

end Json

/-! ## Records with a payload -/

/-- The document of a record: some texts by their names, and then a payload. -/
def Json.Document.ofTexts (texts : List (String × String)) (payload : Json) : Document :=
  .table
    (texts.map (fun named => (some named.1, .text named.2)) ++
      [(some "plan_params", .ofJson payload)])
    true

/-- The payload of a record is all that is nested in its document. -/
theorem Json.Document.nesting_ofTexts
    (texts : List (String × String))
    (payload : Json) :
    (Document.ofTexts texts payload).nesting = payload.nesting + 1 := by
  rw [ofTexts, Document.nesting]
  induction texts with
  | nil =>
      simp [membersNesting, Json.nesting]
  | cons text rest inductionHypothesis =>
      simpa [membersNesting, Document.nesting] using inductionHypothesis

/--
A codec writes a record as some texts and a payload, which make up the record.  Whatever is
read of its document has the payload that is read of the payload's document.
-/
structure CarriesPayload (codec : Codec α) (payload : α → Json) : Prop where
  written :
    ∃ texts : α → List (String × String),
      (∀ record, codec.write record = .ofTexts (texts record) (payload record)) ∧
      ∀ record other, texts record = texts other → payload record = payload other → record = other
  payload_of_read :
    ∀ {record found}, codec.read ((codec.write record).clip 0) = .ok found →
      Reader.value ((Document.ofJson (payload record)).clip 1) = .ok (payload found)
  read_of_payload :
    ∀ {record}, Reader.value (Document.ofJson (payload record)) = .ok (payload record) →
      codec.read (codec.write record) = .ok record

namespace CarriesPayload

variable {codec : Codec α} {payload : α → Json} {record found : α}

/-- A record whose payload has only integral numbers is written legibly. -/
theorem legible
    (carries : CarriesPayload codec payload)
    (integral : (payload record).Throughout IsIntegral) :
    (codec.write record).Legible := by
  obtain ⟨texts, written, -⟩ := carries.written
  have parts : ∀ member ∈
      (texts record).map (fun named => (some named.1, Document.text named.2)) ++
        [(some "plan_params", .ofJson (payload record))],
      member.1 ≠ none ∧ member.2.Legible := by
    intro member among
    rcases List.mem_append.mp among with inTexts | last
    · obtain ⟨named, -, rfl⟩ := List.mem_map.mp inTexts
      exact ⟨nofun, .text named.2⟩
    · obtain rfl := List.mem_singleton.mp last
      exact ⟨nofun, Document.legible_ofJson integral⟩
  rw [written]
  exact .table (fun member among => (parts member among).1) fun member among => (parts member among).2

/-- A record nests one deeper than its payload. -/
theorem nesting
    (carries : CarriesPayload codec payload)
    (record : α) :
    (codec.write record).nesting = (payload record).nesting + 1 := by
  obtain ⟨texts, written, -⟩ := carries.written
  rw [written, Document.nesting_ofTexts]

/-- What is read of a stored text has the payload that is read of the payload's document. -/
theorem payload_of_readStored
    (carries : CarriesPayload codec payload)
    (storable : (payload record).IsStorable)
    (read : readStored codec (storedText codec record) = .ok found) :
    Reader.value (Document.ofJson (payload record)) = .ok (payload found) := by
  have shallow : 1 + (Document.ofJson (payload record)).nesting ≤ depthLimit := by
    rw [Nat.add_comm]
    exact Nat.succ_le_succ storable.shallow
  rw [readStored_storedText (carries.legible storable.integral), mapError_eq_ok_iff] at read
  have payloadRead := carries.payload_of_read read
  rwa [(Document.legible_ofJson storable.integral).clip_eq shallow] at payloadRead

/-- A record is read of its text if its payload is read of the payload's document. -/
theorem readable
    (carries : CarriesPayload codec payload)
    (storable : (payload record).IsStorable) :
    readStored codec (storedText codec record) = .ok record ↔
      Reader.value (Document.ofJson (payload record)) = .ok (payload record) := by
  refine ⟨carries.payload_of_readStored storable, ?_⟩
  intro read
  have shallow : (codec.write record).nesting ≤ depthLimit := by
    rw [carries.nesting]
    exact Nat.succ_le_succ storable.shallow
  exact (readStored_storedText_iff (carries.legible storable.integral) shallow).mpr
    (carries.read_of_payload read)

/-- A record is read of its text if its payload is plain. -/
theorem readStored_of_plain
    (carries : CarriesPayload codec payload)
    (storable : (payload record).IsStorable)
    (plain : (payload record).Throughout IsPlain) :
    readStored codec (storedText codec record) = .ok record :=
  (carries.readable storable).mpr ((Reader.value_ofJson_iff storable.sorted).mpr plain)

/-- A record that was read of a stored text, and can be read again, has a plain payload. -/
theorem plain_of_readStored
    {source : α}
    (carries : CarriesPayload codec payload)
    (sourceStorable : (payload source).IsStorable)
    (before : readStored codec (storedText codec source) = .ok record)
    (storable : (payload record).IsStorable)
    (again : readStored codec (storedText codec record) = .ok found) :
    (payload record).Throughout IsPlain :=
  Reader.plain_of_readings (carries.payload_of_readStored sourceStorable before)
    (carries.payload_of_readStored storable again)

end CarriesPayload

/-- The record of an instance is five texts and a payload. -/
theorem ServiceInstance.carriesPayload :
    CarriesPayload codec payload where
  written := by
    refine ⟨fun record =>
      [("instance_guid", record.guid), ("plan_id", record.planId),
        ("organization_guid", record.organization), ("space_guid", record.space),
        ("service_id", record.service)], fun _ => rfl, ?_⟩
    rintro ⟨⟩ ⟨⟩ texts payload
    simp_all
  payload_of_read := by
    intro record found read
    obtain ⟨members, drawn, rfl⟩ := map_eq_ok_iff.mp read
    obtain ⟨-, -, -, -, -, -, -, -, -, -, payload, -⟩ := Shape.drawn_of_read (by decide) drawn
    exact payload _ rfl
  read_of_payload := by
    intro record read
    rw [codec, Codec.read_write_record_iff (by decide)]
    refine ⟨(record.guid, record.planId, record.organization, record.space, record.service,
      record.payload, ()), ?_, rfl⟩
    exact ⟨rfl, rfl, rfl, rfl, rfl, read, trivial⟩

/-- The record of a binding is a text and a payload. -/
theorem ServiceBinding.carriesPayload :
    CarriesPayload codec payload where
  written := by
    refine ⟨fun record => [("binding_guid", record.guid)], fun _ => rfl, ?_⟩
    rintro ⟨⟩ ⟨⟩ texts payload
    simp_all
  payload_of_read := by
    intro record found read
    obtain ⟨members, drawn, rfl⟩ := map_eq_ok_iff.mp read
    obtain ⟨-, -, payload, -⟩ := Shape.drawn_of_read (by decide) drawn
    exact payload _ rfl
  read_of_payload := by
    intro record read
    rw [codec, Codec.read_write_record_iff (by decide)]
    exact ⟨(record.guid, record.payload, ()), ⟨rfl, read, trivial⟩, rfl⟩

end GraphBroker
