import GraphBroker.Proofs.Fallible
import GraphBroker.Proofs.Store.Contract
import Mathlib.Data.List.Nodup
import Mathlib.Data.List.Perm.Basic

namespace GraphBroker.Store

/-!
# What a store holds

Whatever a store is made of, it holds something under each identifier, from which
it reads a record.  What a call does can be said of that alone.  Two stores that
hold the same records, each in its own form, answer every call alike.
-/

/-- What a store holds under each identifier, in whatever form it is held. -/
@[ext]
structure Contents (ι β : Type) where
  instance? : String → Option ι
  binding? : String → String → Option β

namespace Contents

/-- The contents with one more instance. -/
def withInstance (contents : Contents ι β) (id : String) (held : ι) : Contents ι β where
  instance? other := if other = id then some held else contents.instance? other
  binding? := contents.binding?

def withoutInstance (contents : Contents ι β) (id : String) : Contents ι β where
  instance? other := if other = id then none else contents.instance? other
  binding? other bindingId := if other = id then none else contents.binding? other bindingId

def withBinding (contents : Contents ι β) (id bindingId : String) (held : β) : Contents ι β where
  instance? := contents.instance?
  binding? other otherBinding :=
    if other = id ∧ otherBinding = bindingId then some held
    else contents.binding? other otherBinding

/-- The contents without one binding. -/
def without (contents : Contents ι β) (id bindingId : String) : Contents ι β where
  instance? := contents.instance?
  binding? other otherBinding :=
    if other = id ∧ otherBinding = bindingId then none else contents.binding? other otherBinding

end Contents

/-- How records are written into what is held. -/
structure Writing (ι β : Type) where
  writeInstance : ServiceInstance → ι
  writeBinding : ServiceBinding → β

/-- A binding as it is held under its identifier. -/
def Writing.entry (writing : Writing ι β) (entry : String × ServiceBinding) : String × β :=
  (entry.1, writing.writeBinding entry.2)

/-- What is held after a call that succeeds. -/
def Contents.after (writing : Writing ι β) (contents : Contents ι β) : Call → Contents ι β
  | .addInstance id record => contents.withInstance id (writing.writeInstance record)
  | .deleteInstance id => contents.withoutInstance id
  | .addBinding id bindingId record =>
      contents.withBinding id bindingId (writing.writeBinding record)
  | .deleteBinding id bindingId => contents.without id bindingId
  | .getInstance _ | .getBinding _ _ | .getAllBindings _ => contents

/-- How records are read from what is held. -/
structure Reading (ι β : Type) where
  readInstance : ι → Except CorruptRecord ServiceInstance
  readBinding : β → Except CorruptRecord ServiceBinding

/-- An instance that is held after a call was held before, or the call brought it. -/
theorem Contents.instance?_of_after
    {writing : Writing ι β}
    {contents : Contents ι β}
    {call : Call}
    {id : String}
    {held : ι}
    (present : (contents.after writing call).instance? id = some held) :
    contents.instance? id = some held ∨
      ∃ record, call = .addInstance id record ∧ held = writing.writeInstance record := by
  cases call with
  | addInstance other record =>
      simp only [after, withInstance] at present
      split at present
      · next same =>
          cases present
          exact Or.inr ⟨record, by rw [same], rfl⟩
      · exact Or.inl present
  | deleteInstance other =>
      simp only [after, withoutInstance] at present
      split at present
      · cases present
      · exact Or.inl present
  | addBinding _ _ _ | deleteBinding _ _ | getInstance _ | getBinding _ _ | getAllBindings _ =>
      exact Or.inl present

/-- A binding that is held after a call was held before, or the call brought it. -/
theorem Contents.binding?_of_after
    {writing : Writing ι β}
    {contents : Contents ι β}
    {call : Call}
    {id bindingId : String}
    {held : β}
    (present : (contents.after writing call).binding? id bindingId = some held) :
    contents.binding? id bindingId = some held ∨
      ∃ record, call = .addBinding id bindingId record ∧ held = writing.writeBinding record := by
  cases call with
  | addBinding other otherBinding record =>
      simp only [after, withBinding] at present
      split at present
      · next same =>
          cases present
          exact Or.inr ⟨record, by rw [same.1, same.2], rfl⟩
      · exact Or.inl present
  | deleteInstance other =>
      simp only [after, withoutInstance] at present
      split at present
      · cases present
      · exact Or.inl present
  | deleteBinding other otherBinding =>
      simp only [after, without] at present
      split at present
      · cases present
      · exact Or.inl present
  | addInstance _ _ | getInstance _ | getBinding _ _ | getAllBindings _ =>
      exact Or.inl present

/-- Why a call is refused, if it is. -/
def Contents.refusal? (contents : Contents ι β) : Call → Option Error
  | .addInstance id _ =>
      match contents.instance? id with
      | some _ => some (.duplicateInstance id)
      | none => none
  | .getInstance id | .deleteInstance id =>
      match contents.instance? id with
      | some _ => none
      | none => some (.instanceNotFound id)
  | .addBinding id bindingId _ =>
      match contents.instance? id, contents.binding? id bindingId with
      | none, _ => some (.parentMissing id)
      | some _, some _ => some (.duplicateBinding id bindingId)
      | some _, none => none
  | .getBinding id bindingId | .deleteBinding id bindingId =>
      match contents.binding? id bindingId with
      | some _ => none
      | none => some (.bindingNotFound id bindingId)
  | .getAllBindings id =>
      match contents.instance? id with
      | some _ => none
      | none => some (.parentMissing id)

/-- What a call that is not refused is answered with. -/
def Contents.Replies (reading : Reading ι β) (contents : Contents ι β) :
    (call : Call) → call.Outcome → Prop
  | .getInstance id, outcome =>
      ∃ held, contents.instance? id = some held ∧
        outcome = (reading.readInstance held).mapError .corrupt
  | .getBinding id bindingId, outcome =>
      ∃ held, contents.binding? id bindingId = some held ∧
        outcome = (reading.readBinding held).mapError .corrupt
  | .getAllBindings id, outcome =>
      ∃ listed : List (String × β),
        (listed.map Prod.fst).Nodup ∧
          (∀ bindingId held,
            (bindingId, held) ∈ listed ↔ contents.binding? id bindingId = some held) ∧
            outcome = listed.mapM fun entry => (reading.readBinding entry.2).mapError .corrupt
  | .addInstance _ _, outcome | .deleteInstance _, outcome | .addBinding _ _ _, outcome
  | .deleteBinding _ _, outcome => outcome = .ok ()

/-- A call is served on what a store holds. -/
structure Serves
    (reading : Reading ι β)
    (writing : Writing ι β)
    (before : Contents ι β)
    (call : Call)
    (outcome : call.Outcome)
    (after : Contents ι β) :
    Prop where
  refused :
    ∀ {error},
      before.refusal? call = some error →
      outcome = .error error ∧ after = before
  accepted :
    before.refusal? call = none →
    before.Replies reading call outcome ∧ after = before.after writing call

namespace Serves

variable {reading : Reading ι β} {writing : Writing ι β} {before : Contents ι β}

/-- A refusal that the contents call for leaves them as they are. -/
theorem of_refusal
    {call : Call}
    {error : Error}
    (refusal : before.refusal? call = some error) :
    Serves reading writing before call (.error error) before where
  refused refused := by
    rw [refusal] at refused
    cases refused
    exact ⟨rfl, rfl⟩
  accepted accepted := by
    rw [refusal] at accepted
    cases accepted

/-- A reply that the contents call for leaves them as the call makes them. -/
theorem of_reply
    {call : Call}
    (accepted : before.refusal? call = none)
    {outcome : call.Outcome}
    (replies : before.Replies reading call outcome) :
    Serves reading writing before call outcome (before.after writing call) where
  refused refused := by
    rw [accepted] at refused
    cases refused
  accepted _ := ⟨replies, rfl⟩

end Serves

/-! ## Stores in memory -/

/-- Records that are held as they are. -/
def Reading.exact : Reading ServiceInstance ServiceBinding :=
  ⟨.ok, .ok⟩

/-- Records that are held as they are. -/
def Writing.exact : Writing ServiceInstance ServiceBinding :=
  ⟨id, id⟩

/-- Bindings that are kept themselves are listed as they are. -/
theorem mapM_exact
    (entries : List (String × ServiceBinding)) :
    (entries.mapM fun entry => (Reading.exact.readBinding entry.2).mapError Error.corrupt) =
      .ok (entries.map Prod.snd) :=
  mapM_eq_ok_map fun _ _ => rfl

namespace Memory

/-- What a store in memory holds. -/
def contents (memory : Memory) : Contents ServiceInstance ServiceBinding :=
  ⟨memory.instance?, memory.binding?⟩

/-- An accepted call changes what the memory keeps as it changes contents. -/
theorem contents_answer
    {memory : Memory}
    {call : Call}
    (accepted : ¬ memory.Refuses call) :
    (answer call memory).2.contents = memory.contents.after Writing.exact call := by
  apply Contents.ext
  · funext other
    exact (instance?_answer accepted other).trans (by cases call <;> rfl)
  · funext other otherBinding
    exact (binding?_answer accepted other otherBinding).trans (by cases call <;> rfl)

theorem answer_of_refusal
    {memory : Memory}
    {call : Call}
    {error : Error}
    (refused : memory.contents.refusal? call = some error) :
    (answer call memory).1 = .error error := by
  cases call with
  | addInstance id record | getInstance id | deleteInstance id | getAllBindings id =>
      cases present : memory.instances.find? id with
      | none => simp_all [answer, contents, Contents.refusal?, instance?]
      | some held => simp_all [answer, contents, Contents.refusal?, instance?]
  | addBinding id bindingId record | deleteBinding id bindingId =>
      cases present : memory.instances.find? id with
      | none => simp_all [answer, contents, Contents.refusal?, instance?, binding?]
      | some held =>
          cases found : held.bindings.find? bindingId with
          | none => simp_all [answer, contents, Contents.refusal?, instance?, binding?]
          | some record => simp_all [answer, contents, Contents.refusal?, instance?, binding?]
  | getBinding id bindingId =>
      cases found : memory.binding? id bindingId with
      | none => simp_all [answer, contents, Contents.refusal?]
      | some record => simp_all [contents, Contents.refusal?]

theorem not_refuses_of_refusal
    {memory : Memory}
    {call : Call}
    (accepted : memory.contents.refusal? call = none) :
    ¬ memory.Refuses call := by
  cases call with
  | addInstance id record | getInstance id | deleteInstance id | getAllBindings id =>
      cases present : memory.instance? id with
      | none => simp_all [contents, Contents.refusal?, Refuses]
      | some held => simp_all [contents, Contents.refusal?, Refuses]
  | addBinding id bindingId record | getBinding id bindingId | deleteBinding id bindingId =>
      cases present : memory.instance? id with
      | none => simp_all [contents, Contents.refusal?, binding?_of_missing]
      | some held =>
          cases found : memory.binding? id bindingId with
          | none => simp_all [contents, Contents.refusal?, Refuses]
          | some record => simp_all [contents, Contents.refusal?, Refuses]

/-- The memory replies to an accepted call as its contents call for. -/
theorem replies_answer
    {memory : Memory}
    {call : Call}
    (accepted : ¬ memory.Refuses call) :
    memory.contents.Replies Reading.exact call (answer call memory).1 := by
  cases call with
  | addInstance id record | deleteInstance id =>
      cases present : memory.instances.find? id with
      | none => simp_all [answer, Contents.Replies, Refuses, instance?]
      | some held => simp_all [answer, Contents.Replies, Refuses, instance?]
  | addBinding id bindingId record | deleteBinding id bindingId =>
      cases present : memory.instances.find? id with
      | none => simp [Refuses, instance?, binding?, present] at accepted
      | some held =>
          cases found : held.bindings.find? bindingId with
          | none => simp_all [answer, Contents.Replies, Refuses, instance?, binding?]
          | some record => simp_all [answer, Contents.Replies, Refuses, instance?, binding?]
  | getInstance id =>
      cases present : memory.instances.find? id with
      | none => simp [Refuses, instance?, present] at accepted
      | some held =>
          have answered : (answer (.getInstance id) memory).1 = .ok held.record := by
            simp [answer, present]
          exact ⟨held.record, instance?_of_held present, answered⟩
  | getBinding id bindingId =>
      cases found : memory.binding? id bindingId with
      | none => simp [Refuses, found] at accepted
      | some record =>
          have answered : (answer (.getBinding id bindingId) memory).1 = .ok record := by
            simp [answer, found]
          exact ⟨record, found, answered⟩
  | getAllBindings id =>
      cases present : memory.instances.find? id with
      | none => simp [Refuses, instance?, present] at accepted
      | some held =>
          have answered : (answer (.getAllBindings id) memory).1 = .ok held.bindings.values := by
            simp [answer, present]
          have listed := answered.trans (mapM_exact held.bindings.entries).symm
          refine ⟨held.bindings.entries, held.bindings.nodup_keys, ?_, listed⟩
          intro bindingId record
          have recorded := binding?_of_held present bindingId
          exact Keyed.mem_entries_iff.trans (by rw [← recorded]; rfl)

/-- A store in memory serves every call on the records that it holds. -/
theorem serves_answer
    (call : Call)
    (memory : Memory) :
    Serves Reading.exact Writing.exact memory.contents call (answer call memory).1
      (answer call memory).2.contents where
  refused refused := by
    have failed := answer_of_refusal refused
    exact ⟨failed, by rw [answer_unchanged_of_error failed]⟩
  accepted unrefused := by
    have accepted := not_refuses_of_refusal unrefused
    exact ⟨replies_answer accepted, contents_answer accepted⟩

end Memory

/-! ## Stores that hold the same records -/

/-- Exactly these records are held, each as it is written. -/
structure Represents
    (writing : Writing ι β)
    (records : Contents ServiceInstance ServiceBinding)
    (held : Contents ι β) :
    Prop where
  instances : ∀ id, held.instance? id = (records.instance? id).map writing.writeInstance
  bindings :
    ∀ id bindingId,
      held.binding? id bindingId = (records.binding? id bindingId).map writing.writeBinding

/-- The records of an answer are read from what is written of them. -/
def Call.Readable (reading : Reading ι β) (writing : Writing ι β) :
    (call : Call) → call.Outcome → Prop
  | .getInstance _, .ok record => reading.readInstance (writing.writeInstance record) = .ok record
  | .getBinding _ _, .ok record => reading.readBinding (writing.writeBinding record) = .ok record
  | .getAllBindings _, .ok (records : List ServiceBinding) =>
      ∀ record ∈ records, reading.readBinding (writing.writeBinding record) = .ok record
  | _, _ => True

/--
The records of an answer are read of what is written of one another: each of them
can be read, and is what is read of one of them.
-/
def Call.Reread (reading : Reading ι β) (writing : Writing ι β) :
    (call : Call) → call.Outcome → Prop
  | .getAllBindings _, .ok (records : List ServiceBinding) =>
      ∀ record ∈ records,
        (∃ found, reading.readBinding (writing.writeBinding record) = .ok found) ∧
          ∃ source ∈ records, reading.readBinding (writing.writeBinding source) = .ok record
  | call, outcome => call.Readable reading writing outcome

namespace Represents

variable {reading : Reading ι β} {writing : Writing ι β}
variable {records : Contents ServiceInstance ServiceBinding} {held : Contents ι β}

/-- Which calls are refused does not depend on the form of what is held. -/
theorem refusal?_eq
    (represents : Represents writing records held)
    (call : Call) :
    held.refusal? call = records.refusal? call := by
  cases call with
  | addInstance id record | getInstance id | deleteInstance id | getAllBindings id =>
      simp only [Contents.refusal?, represents.instances]
      cases records.instance? id <;> rfl
  | getBinding id bindingId | deleteBinding id bindingId =>
      simp only [Contents.refusal?, represents.bindings]
      cases records.binding? id bindingId <;> rfl
  | addBinding id bindingId record =>
      simp only [Contents.refusal?, represents.instances, represents.bindings]
      cases records.instance? id <;> cases records.binding? id bindingId <;> rfl

/-- Written contents stay those of the records through every call. -/
theorem after
    (represents : Represents writing records held)
    (call : Call) :
    Represents writing (records.after Writing.exact call) (held.after writing call) := by
  cases call with
  | getInstance id | getBinding id bindingId | getAllBindings id =>
      exact represents
  | addInstance id record =>
      refine ⟨?_, represents.bindings⟩
      intro other
      simp only [Contents.after, Contents.withInstance]
      split
      · rfl
      · exact represents.instances other
  | deleteInstance id =>
      constructor
      · intro other
        simp only [Contents.after, Contents.withoutInstance]
        split
        · rfl
        · exact represents.instances other
      · intro other bindingId
        simp only [Contents.after, Contents.withoutInstance]
        split
        · rfl
        · exact represents.bindings other bindingId
  | addBinding id bindingId record =>
      refine ⟨represents.instances, ?_⟩
      intro other otherBinding
      simp only [Contents.after, Contents.withBinding]
      split
      · rfl
      · exact represents.bindings other otherBinding
  | deleteBinding id bindingId =>
      refine ⟨represents.instances, ?_⟩
      intro other otherBinding
      simp only [Contents.after, Contents.without]
      split
      · rfl
      · exact represents.bindings other otherBinding

/-- Bindings that are listed in any form are the bindings that are listed as records. -/
theorem perm_of_listed
    (represents : Represents writing records held)
    {id : String}
    {listed : List (String × β)}
    (distinct : (listed.map Prod.fst).Nodup)
    (complete :
      ∀ bindingId binding,
        (bindingId, binding) ∈ listed ↔ held.binding? id bindingId = some binding)
    {expected : List (String × ServiceBinding)}
    (expectedDistinct : (expected.map Prod.fst).Nodup)
    (expectedComplete :
      ∀ bindingId binding,
        (bindingId, binding) ∈ expected ↔ records.binding? id bindingId = some binding) :
    listed.Perm (expected.map writing.entry) := by
  have keys : (expected.map writing.entry).map Prod.fst = expected.map Prod.fst := by
    simp [Writing.entry]
  have expectedDistinct : (expected.map writing.entry).Nodup :=
    List.Nodup.of_map Prod.fst (keys ▸ expectedDistinct)
  -- No entry stands twice in either list, so that it is enough to compare their members.
  rw [List.perm_ext_iff_of_nodup distinct.of_map expectedDistinct]
  rintro ⟨bindingId, binding⟩
  rw [complete, represents.bindings, Option.map_eq_some_iff, List.mem_map]
  constructor
  · rintro ⟨record, recorded, rfl⟩
    exact ⟨(bindingId, record), (expectedComplete bindingId record).mpr recorded, rfl⟩
  · rintro ⟨⟨other, record⟩, member, same⟩
    obtain ⟨rfl, rfl⟩ := Prod.mk.inj same
    exact ⟨record, (expectedComplete other record).mp member, rfl⟩

/-- What is held in another order is read in that order. -/
theorem mapM_of_perm
    {listed : List (String × β)}
    {expected : List (String × ServiceBinding)}
    (same : listed.Perm (expected.map writing.entry))
    (readable :
      ∀ record ∈ expected.map Prod.snd,
        reading.readBinding (writing.writeBinding record) = .ok record) :
    ∃ found : List ServiceBinding,
      (listed.mapM fun entry => (reading.readBinding entry.2).mapError Error.corrupt) = .ok found ∧
        found.Perm (expected.map Prod.snd) := by
  have ordered : Relation.Comp (· = List.map writing.entry ·) List.Perm listed expected := by
    rw [List.eq_map_comp_perm]
    exact same
  obtain ⟨order, rfl, permuted⟩ := ordered
  refine ⟨order.map Prod.snd, ?_, permuted.map Prod.snd⟩
  rw [List.mapM_map]
  apply mapM_eq_ok_map
  intro entry member
  have read := readable entry.2 (List.mem_map_of_mem (permuted.mem_iff.mp member))
  simp [Writing.entry, read]

/-- Where what is written can be read, the written contents give the replies of the records. -/
theorem agrees
    (represents : Represents writing records held)
    {call : Call}
    {outcome expected : call.Outcome}
    (replies : held.Replies reading call outcome)
    (exact : records.Replies Reading.exact call expected)
    (readable : call.Readable reading writing expected) :
    call.Agrees outcome expected := by
  cases call with
  | addInstance id record | deleteInstance id | addBinding id bindingId record
  | deleteBinding id bindingId =>
      exact Eq.trans replies (Eq.symm exact)
  | getInstance id =>
      obtain ⟨record, recorded, rfl⟩ := exact
      obtain ⟨text, present, rfl⟩ := replies
      rw [represents.instances, recorded] at present
      cases present
      have read : reading.readInstance (writing.writeInstance record) = .ok record := readable
      rw [read]
      rfl
  | getBinding id bindingId =>
      obtain ⟨record, recorded, rfl⟩ := exact
      obtain ⟨text, present, rfl⟩ := replies
      rw [represents.bindings, recorded] at present
      cases present
      have read : reading.readBinding (writing.writeBinding record) = .ok record := readable
      rw [read]
      rfl
  | getAllBindings id =>
      obtain ⟨listed, distinct, complete, rfl⟩ := replies
      obtain ⟨others, othersDistinct, othersComplete, rfl⟩ := exact
      have same := represents.perm_of_listed distinct complete othersDistinct othersComplete
      rw [mapM_exact] at readable ⊢
      obtain ⟨found, read, permuted⟩ := mapM_of_perm same readable
      rw [read]
      exact permuted

/-- Bindings that are listed as they were written can be read, and are among those written. -/
theorem reread_of_mapM
    {listed : List (String × β)}
    {expected : List (String × ServiceBinding)}
    (same : listed.Perm (expected.map writing.entry))
    {found : List ServiceBinding}
    (read :
      (listed.mapM fun entry => (reading.readBinding entry.2).mapError Error.corrupt) = .ok found)
    (permuted : found.Perm (expected.map Prod.snd))
    {record : ServiceBinding}
    (member : record ∈ expected.map Prod.snd) :
    (∃ found, reading.readBinding (writing.writeBinding record) = .ok found) ∧
      ∃ source ∈ expected.map Prod.snd,
        reading.readBinding (writing.writeBinding source) = .ok record := by
  constructor
  · obtain ⟨entry, inExpected, rfl⟩ := List.mem_map.mp member
    have inListed := same.mem_iff.mpr (List.mem_map_of_mem inExpected)
    obtain ⟨found, here⟩ := ok_of_mapM read inListed
    exact ⟨found, mapError_eq_ok_iff.mp here⟩
  · obtain ⟨entry, inListed, here⟩ := mem_of_mapM read (permuted.mem_iff.mpr member)
    obtain ⟨source, inExpected, rfl⟩ := List.mem_map.mp (same.mem_iff.mp inListed)
    exact ⟨source.2, List.mem_map_of_mem inExpected, mapError_eq_ok_iff.mp here⟩

/-- Where the written contents give the replies of the records, what was written can be read. -/
theorem reread_of_agrees
    (represents : Represents writing records held)
    {call : Call}
    {outcome expected : call.Outcome}
    (replies : held.Replies reading call outcome)
    (exact : records.Replies Reading.exact call expected)
    (agrees : call.Agrees outcome expected) :
    call.Reread reading writing expected := by
  cases call with
  | addInstance id record | deleteInstance id | addBinding id bindingId record
  | deleteBinding id bindingId =>
      cases expected <;> trivial
  | getInstance id =>
      obtain ⟨record, recorded, rfl⟩ := exact
      obtain ⟨text, present, rfl⟩ := replies
      rw [represents.instances, recorded] at present
      cases present
      exact mapError_eq_ok_iff.mp agrees
  | getBinding id bindingId =>
      obtain ⟨record, recorded, rfl⟩ := exact
      obtain ⟨text, present, rfl⟩ := replies
      rw [represents.bindings, recorded] at present
      cases present
      exact mapError_eq_ok_iff.mp agrees
  | getAllBindings id =>
      obtain ⟨listed, distinct, complete, rfl⟩ := replies
      obtain ⟨others, othersDistinct, othersComplete, rfl⟩ := exact
      have same := represents.perm_of_listed distinct complete othersDistinct othersComplete
      rw [mapM_exact] at agrees ⊢
      cases read : listed.mapM
          fun entry => (reading.readBinding entry.2).mapError Error.corrupt with
      | error error =>
          rw [read] at agrees
          cases agrees
      | ok found =>
          rw [read] at agrees
          intro record member
          exact reread_of_mapM same read agrees member

end Represents

/--
A call finds the same in two stores that hold the same records, if what it finds is
read as it was written.  Where it finds the same, all of it is read of what is
written.
-/
theorem Serves.agrees
    {reading : Reading ι β}
    {writing : Writing ι β}
    {records : Contents ServiceInstance ServiceBinding}
    {held : Contents ι β}
    (represents : Represents writing records held)
    {call : Call}
    {outcome : call.Outcome}
    {after : Contents ι β}
    (serves : Serves reading writing held call outcome after)
    {expected : call.Outcome}
    {next : Contents ServiceInstance ServiceBinding}
    (exact : Serves Reading.exact Writing.exact records call expected next) :
    (call.Readable reading writing expected → call.Agrees outcome expected) ∧
      (call.Agrees outcome expected → call.Reread reading writing expected) ∧
        Represents writing next after := by
  cases refusal : records.refusal? call with
  | some error =>
      obtain ⟨rfl, rfl⟩ := exact.refused refusal
      rw [← represents.refusal?_eq] at refusal
      obtain ⟨rfl, rfl⟩ := serves.refused refusal
      refine ⟨fun _ => call.agrees_refl _, fun _ => ?_, represents⟩
      cases call <;> trivial
  | none =>
      obtain ⟨expected, rfl⟩ := exact.accepted refusal
      rw [← represents.refusal?_eq] at refusal
      obtain ⟨replies, rfl⟩ := serves.accepted refusal
      exact ⟨represents.agrees replies expected, represents.reread_of_agrees replies expected,
        represents.after call⟩

end GraphBroker.Store
