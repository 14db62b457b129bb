import GraphBroker.Proofs.Record.Stored
import GraphBroker.Proofs.Store.Relational

namespace GraphBroker.Store

open Json

/-!
# Two stores in the place of one another

A store in memory and a relational store go through the same calls, and at any
time the tables of the relational store may be created once more.  Both answer
alike all the way, and the tables keep their constraints.  There is one exception:
a payload that has an object whose first key stands for a JSON text is kept in
memory as it is, but is never read back from the text that the other store keeps.
-/

/-- A step of two stores that go through the same calls. -/
inductive Step where
  | call (call : Call)
  /-- The tables of the relational store are created, unless they are there. -/
  | migrate

/-- The payload of the record that a call brings. -/
def Call.payload? : Call → Option Json
  | .addInstance _ record => some record.payload
  | .addBinding _ _ record => some record.payload
  | .getInstance _ | .deleteInstance _ | .getBinding _ _ | .getAllBindings _
  | .deleteBinding _ _ => none

/-- The payloads of the records that an answer carries. -/
def Call.payloads : (call : Call) → call.Outcome → List Json
  | .getInstance _, .ok (record : ServiceInstance) => [record.payload]
  | .getBinding _ _, .ok (record : ServiceBinding) => [record.payload]
  | .getAllBindings _, .ok (records : List ServiceBinding) => records.map ServiceBinding.payload
  | _, _ => []

/-- Outcomes agree exactly if no object of a payload expected stands for a JSON text. -/
def Call.AgreesIffPlain (call : Call) (outcome expected : call.Outcome) : Prop :=
  call.Agrees outcome expected ↔
    ∀ payload ∈ call.payloads expected, payload.Throughout IsPlain

/-- The tables are there, every binding has its instance and no identifier is used twice. -/
def Relational.Intact (relational : Relational) : Prop :=
  ∃ tables, relational.tables = some tables ∧ tables.Intact

/-- At every point of a script the tables are intact, and every call has two outcomes that are alike. -/
def Interchangeable (Alike : (call : Call) → call.Outcome → call.Outcome → Prop) :
    List Step → Memory → Relational → Prop
  | [], _, relational => relational.Intact
  | .migrate :: rest, memory, relational =>
      relational.Intact ∧ Interchangeable Alike rest memory relational.migrate.2
  | .call call :: rest, memory, relational =>
      relational.Intact ∧
        Alike call (relational.answer call).1 (memory.answer call).1 ∧
          Interchangeable Alike rest (memory.answer call).2 (relational.answer call).2

/-! ## Payloads -/

/-- Something holds of the payload of every record. -/
structure Contents.Carries
    (property : Json → Prop)
    (contents : Contents ServiceInstance ServiceBinding) :
    Prop where
  instances : ∀ {id record}, contents.instance? id = some record → property record.payload
  bindings :
    ∀ {id bindingId record}, contents.binding? id bindingId = some record → property record.payload

/-- What every payload meets is kept by a call that brings a payload meeting it. -/
theorem Contents.Carries.after
    {property : Json → Prop}
    {contents : Contents ServiceInstance ServiceBinding}
    (carries : contents.Carries property)
    {call : Call}
    (brought : ∀ payload ∈ call.payload?, property payload) :
    (contents.after Writing.exact call).Carries property := by
  constructor
  · intro id record recorded
    rcases instance?_of_after recorded with before | ⟨record, rfl, rfl⟩
    · exact carries.instances before
    · exact brought _ rfl
  · intro id bindingId record recorded
    rcases binding?_of_after recorded with before | ⟨record, rfl, rfl⟩
    · exact carries.bindings before
    · exact brought _ rfl

/-- What is served leaves payloads with a property, and answers with such payloads. -/
theorem Serves.carries
    {property : Json → Prop}
    {before next : Contents ServiceInstance ServiceBinding}
    {call : Call}
    {expected : call.Outcome}
    (serves : Serves Reading.exact Writing.exact before call expected next)
    (carries : before.Carries property)
    (brought : ∀ payload ∈ call.payload?, property payload) :
    next.Carries property ∧ ∀ payload ∈ call.payloads expected, property payload := by
  cases refusal : before.refusal? call with
  | some error =>
      obtain ⟨rfl, rfl⟩ := serves.refused refusal
      refine ⟨carries, ?_⟩
      cases call <;> simp [Call.payloads]
  | none =>
      obtain ⟨replies, rfl⟩ := serves.accepted refusal
      refine ⟨carries.after brought, ?_⟩
      cases call with
      | addInstance id record | deleteInstance id | addBinding id bindingId record
      | deleteBinding id bindingId =>
          simp [Call.payloads]
      | getInstance id =>
          obtain ⟨record, recorded, rfl⟩ := replies
          intro payload member
          obtain rfl := List.mem_singleton.mp member
          exact carries.instances recorded
      | getBinding id bindingId =>
          obtain ⟨record, recorded, rfl⟩ := replies
          intro payload member
          obtain rfl := List.mem_singleton.mp member
          exact carries.bindings recorded
      | getAllBindings id =>
          obtain ⟨listed, distinct, complete, rfl⟩ := replies
          rw [mapM_exact]
          intro payload member
          obtain ⟨record, inRecords, rfl⟩ := List.mem_map.mp member
          obtain ⟨entry, inListed, rfl⟩ := List.mem_map.mp inRecords
          exact carries.bindings ((complete entry.1 entry.2).mp inListed)

/-- Records whose payloads are storable and plain are read from their stored texts. -/
theorem readable_of_plain
    {call : Call}
    {expected : call.Outcome}
    (storable : ∀ payload ∈ call.payloads expected, payload.IsStorable)
    (plain : ∀ payload ∈ call.payloads expected, payload.Throughout IsPlain) :
    call.Readable .stored .stored expected := by
  cases expected with
  | error error =>
      cases call <;> trivial
  | ok reply =>
      cases call with
      | addInstance id record | deleteInstance id | addBinding id bindingId record
      | deleteBinding id bindingId =>
          trivial
      | getInstance id =>
          have member := List.mem_singleton_self (ServiceInstance.payload reply)
          have read := ServiceInstance.carriesPayload.readStored_of_plain (storable _ member)
            (plain _ member)
          simpa only [Call.Readable, Reading.stored, Writing.stored] using read
      | getBinding id bindingId =>
          have member := List.mem_singleton_self (ServiceBinding.payload reply)
          have read := ServiceBinding.carriesPayload.readStored_of_plain (storable _ member)
            (plain _ member)
          simpa only [Call.Readable, Reading.stored, Writing.stored] using read
      | getAllBindings id =>
          intro record inReply
          have member := List.mem_map_of_mem (f := ServiceBinding.payload) inReply
          have read := ServiceBinding.carriesPayload.readStored_of_plain (storable _ member)
            (plain _ member)
          simpa only [Reading.stored, Writing.stored] using read

/-- Payloads are plain if their records are read of the stored texts of one another. -/
theorem plain_of_reread
    {call : Call}
    {expected : call.Outcome}
    (storable : ∀ payload ∈ call.payloads expected, payload.IsStorable)
    (reread : call.Reread .stored .stored expected) :
    ∀ payload ∈ call.payloads expected, payload.Throughout IsPlain := by
  cases expected with
  | error error =>
      cases call <;> simp [Call.payloads]
  | ok reply =>
      cases call with
      | addInstance id record | deleteInstance id | addBinding id bindingId record
      | deleteBinding id bindingId =>
          simp [Call.payloads]
      | getInstance id =>
          intro payload member
          have isPayload := List.mem_singleton.mp member
          subst isPayload
          have limits := storable _ member
          have read : readStored ServiceInstance.codec
              (storedText ServiceInstance.codec reply) = .ok reply := by
            simpa only [Call.Reread, Call.Readable, Reading.stored, Writing.stored] using reread
          exact ServiceInstance.carriesPayload.plain_of_readStored limits read limits read
      | getBinding id bindingId =>
          intro payload member
          have isPayload := List.mem_singleton.mp member
          subst isPayload
          have limits := storable _ member
          have read : readStored ServiceBinding.codec
              (storedText ServiceBinding.codec reply) = .ok reply := by
            simpa only [Call.Reread, Call.Readable, Reading.stored, Writing.stored] using reread
          exact ServiceBinding.carriesPayload.plain_of_readStored limits read limits read
      | getAllBindings id =>
          intro payload member
          obtain ⟨record, inReply, rfl⟩ := List.mem_map.mp member
          obtain ⟨⟨found, again⟩, source, inSources, before⟩ := reread record inReply
          simp only [Reading.stored, Writing.stored] at again before
          have sourceMember := List.mem_map_of_mem (f := ServiceBinding.payload) inSources
          exact ServiceBinding.carriesPayload.plain_of_readStored (storable _ sourceMember) before
            (storable _ member) again

/-! ## Scripts -/

/-- The relational store holds the records of the store in memory, and all of them are storable. -/
structure Aligned (memory : Memory) (relational : Relational) (tables : Tables) : Prop where
  there : relational.tables = some tables
  sound : tables.Sound
  represents : Represents .stored memory.contents tables.contents
  storable : memory.contents.Carries IsStorable

/-- Empty stores are aligned. -/
theorem aligned_empty : Aligned .empty Relational.empty.migrate.2 .empty where
  there := rfl
  sound := Tables.sound_empty
  represents := ⟨fun _ => rfl, fun _ _ => rfl⟩
  storable :=
    { instances := fun recorded => nomatch recorded
      bindings := fun recorded => nomatch recorded }

namespace Aligned

variable {memory : Memory} {relational : Relational} {tables : Tables}

/-- Tables that are aligned with a memory are intact. -/
theorem intact
    (aligned : Aligned memory relational tables) :
    relational.Intact :=
  ⟨tables, aligned.there, aligned.sound.toIntact⟩

/-- Creating the tables once more changes nothing. -/
theorem migrate
    (aligned : Aligned memory relational tables) :
    relational.migrate.2 = relational := by
  obtain ⟨tables?⟩ := relational
  obtain rfl : tables? = some tables := aligned.there
  rfl

/-- A call is answered alike, and keeps the stores aligned. -/
theorem answer
    (aligned : Aligned memory relational tables)
    {call : Call}
    (storable : ∀ payload ∈ call.payload?, payload.IsStorable) :
    call.AgreesIffPlain (relational.answer call).1 (memory.answer call).1 ∧
      Aligned (memory.answer call).2 (relational.answer call).2 (Tables.answer call tables).2 := by
  obtain ⟨tables?⟩ := relational
  obtain rfl : tables? = some tables := aligned.there
  have exact := Memory.serves_answer call memory
  have serves := aligned.sound.serves_answer call
  obtain ⟨agrees, reread, represents⟩ := serves.agrees aligned.represents exact
  obtain ⟨carries, carried⟩ := exact.carries aligned.storable storable
  refine ⟨⟨?_, ?_⟩, rfl, aligned.sound.answer call, represents, carries⟩
  · intro alike
    exact plain_of_reread carried (reread alike)
  · intro plain
    exact agrees (readable_of_plain carried plain)

/-- Aligned stores can take the place of one another. -/
theorem interchangeable
    (aligned : Aligned memory relational tables)
    (script : List Step)
    (storable :
      ∀ call, .call call ∈ script → ∀ payload ∈ call.payload?, payload.IsStorable) :
    Interchangeable Call.AgreesIffPlain script memory relational := by
  induction script generalizing memory relational tables with
  | nil =>
      exact aligned.intact
  | cons step rest inductionHypothesis =>
      have later : ∀ call, .call call ∈ rest → ∀ payload ∈ call.payload?, payload.IsStorable :=
        fun call member => storable call (List.mem_cons_of_mem _ member)
      cases step with
      | migrate =>
          -- The tables are there already.
          refine ⟨aligned.intact, ?_⟩
          rw [aligned.migrate]
          exact inductionHypothesis aligned later
      | call call =>
          obtain ⟨agrees, next⟩ := aligned.answer (storable call List.mem_cons_self)
          exact ⟨aligned.intact, agrees, inductionHypothesis next later⟩

end Aligned

/--
From empty stores on, a relational store can stand in for a store in memory and the
other way round, except where a payload is asked for that has an object that stands
for a JSON text: there the two never agree.
-/
theorem interchangeable_from_empty
    (script : List Step)
    (storable :
      ∀ call, .call call ∈ script → ∀ payload ∈ call.payload?, payload.IsStorable) :
    Interchangeable Call.AgreesIffPlain script .empty Relational.empty.migrate.2 :=
  aligned_empty.interchangeable script storable

/-- A payload with an object whose first key makes it stand for a JSON text. -/
def embeddingPayload : Json :=
  .object [(Reader.embeddedKey, .null), ("z", .number (.natural 1))]

/--
A property holds throughout the sample payload when it holds of the object, of `null` and of
one.
-/
theorem throughout_embeddingPayload
    {property : Json → Prop}
    (whole : property embeddingPayload)
    (null : property .null)
    (one : property (.number (.natural 1))) :
    embeddingPayload.Throughout property := by
  refine .intro whole ?_
  intro part member
  have inside : part = .null ∨ part = .number (.natural 1) := by
    simpa [embeddingPayload, parts] using member
  rcases inside with rfl | rfl
  · exact .of_undivided null rfl
  · exact .of_undivided one rfl

theorem storable_embeddingPayload : embeddingPayload.IsStorable where
  sorted := by
    have ascending : embeddingPayload.IsSorted := by
      simpa [IsSorted, embeddingPayload, Ascending] using (by decide : Reader.embeddedKey < "z")
    exact throughout_embeddingPayload ascending trivial trivial
  integral := throughout_embeddingPayload trivial trivial trivial
  shallow := by decide

theorem storable_text
    (text : String) :
    (Json.text text).IsStorable where
  sorted := .of_undivided trivial rfl
  integral := .of_undivided trivial rfl
  shallow := Nat.zero_le _

def instanceOf (payload : Json) : ServiceInstance :=
  ⟨"i1", "P", "O", "Sp", "S", payload⟩

/-- Two instances come and go, each with a binding of the same identifier. -/
def mixedScript : List Step :=
  [.call (.addInstance "i1" (instanceOf embeddingPayload)),
    .call (.addInstance "i2" (instanceOf (.text "alpha"))),
    .call (.addBinding "i1" "b" ⟨"b", .text "bob"⟩),
    .migrate,
    .call (.addBinding "i2" "b" ⟨"b", .text "eve"⟩),
    .call (.deleteInstance "i1"),
    .call (.getAllBindings "i2")]

theorem interchangeable_mixedScript :
    (∀ call, .call call ∈ mixedScript → ∀ payload ∈ call.payload?, payload.IsStorable) ∧
      Interchangeable Call.AgreesIffPlain mixedScript .empty Relational.empty.migrate.2 := by
  have storable :
      ∀ call, .call call ∈ mixedScript → ∀ payload ∈ call.payload?, payload.IsStorable := by
    intro call member payload brought
    simp only [mixedScript, List.mem_cons, Step.call.injEq, reduceCtorEq, List.not_mem_nil, or_false,
      false_or] at member
    rcases member with rfl | rfl | rfl | rfl | rfl | rfl <;> cases brought
    · exact storable_embeddingPayload
    · exact storable_text "alpha"
    · exact storable_text "bob"
    · exact storable_text "eve"
  exact ⟨storable, interchangeable_from_empty mixedScript storable⟩

/-! ## The exception -/

theorem Memory.answer_added
    (id : String)
    (record : ServiceInstance) :
    (Memory.answer (.getInstance id) (Memory.answer (.addInstance id record) .empty).2).1 =
      .ok record := by
  simp [Memory.answer, Memory.empty, Keyed.find?_insert]

theorem Relational.answer_added
    (id : String)
    (record : ServiceInstance) :
    (Relational.answer (.getInstance id)
        (Relational.answer (.addInstance id record) Relational.empty.migrate.2).2).1 =
      (readStored ServiceInstance.codec (storedText ServiceInstance.codec record)).mapError
        .corrupt := by
  simp [Relational.answer, Relational.migrate, Relational.empty, Tables.answer, Tables.empty,
    Tables.insertInstance?, Tables.instanceRow?, Tables.record]
  rfl

/-- The record with the sample payload is not read back from its stored text. -/
theorem readStored_embedding :
    readStored ServiceInstance.codec
        (storedText ServiceInstance.codec (instanceOf embeddingPayload)) =
      .error (.json (.mismatch [.member "plan_params", .member Reader.embeddedKey]
        (.wrongType .null "raw value"))) := by
  have legible : (ServiceInstance.codec.write (instanceOf embeddingPayload)).Legible :=
    ServiceInstance.carriesPayload.legible storable_embeddingPayload.integral
  rw [readStored_storedText legible, legible.clip_eq (by decide)]
  rfl

/-- An instance with an embedding payload is kept and looked up. -/
def embeddingScript : List Step :=
  [.call (.addInstance "i1" (instanceOf embeddingPayload)), .call (.getInstance "i1")]

/-- Where the payload that is read is not plain, the stores cannot take the place of one another. -/
theorem not_interchangeable_embeddingScript :
    (∀ call, .call call ∈ embeddingScript → ∀ payload ∈ call.payload?, payload.IsStorable) ∧
      ¬ Interchangeable Call.Agrees embeddingScript .empty Relational.empty.migrate.2 := by
  constructor
  · intro call member payload brought
    simp only [embeddingScript, List.mem_cons, Step.call.injEq, List.not_mem_nil, or_false] at member
    rcases member with rfl | rfl <;> cases brought
    exact storable_embeddingPayload
  · rintro ⟨_, _, _, agrees, _⟩
    have same := agrees.eq_of_single rfl
    rw [Memory.answer_added, Relational.answer_added, readStored_embedding] at same
    cases same

end GraphBroker.Store
