import GraphBroker.Proofs.Broker.Idempotence
import GraphBroker.Proofs.Broker.Presence
import GraphBroker.Proofs.Admin.World

namespace GraphBroker.Broker

open Dialogue Store Plan

/-!
# Removing an instance

An instance is removed by taking back the users of its bindings, as far as that works,
and then deleting its database.  The last call decides: the records of the instance and of
its bindings go if it succeeds, and all of them stay if it does not, so that the removal
can be tried again whatever has become of the users.
-/

section

variable {broker : Broker} {keeper : Keeper} {id : String} {record : ServiceInstance}
variable {plan : Plan} {site : Site}

/--
How a recorded instance is deprovisioned: its bindings are swept in the order of the store,
one call deletes its database, and the outcome of that call decides.
-/
theorem swept_of_deprovisioning
    (reliable : keeper.Reliable)
    {stores : List (Exchange storage)}
    {calls : List (Exchange administration)}
    {answer : Answer}
    {before after : keeper.State}
    (course : Deprovisioning broker id stores calls answer)
    (leads : Leads (P := storage) (Replies keeper) before stores after)
    (recorded : (keeper.records before).instance? id = some record)
    (usable : broker.planOf record = .ok (plan, site)) :
    ∃ bindings swept,
      (keeper.answer (.getAllBindings id) (keeper.answer (.getInstance id) before).2).1 =
          .ok bindings ∧
        Sweeping site.server bindings swept ∧
        ((∃ failure,
            calls = swept ++ [called site.server (.deleteDatabase site.database) (.error failure)] ∧
              answer = .error (.plan (.server failure)) ∧
              keeper.records after = keeper.records before) ∨
          (calls = swept ++ [called site.server (.deleteDatabase site.database) (.ok ())] ∧
            answer = .ok .deprovisioned ∧
            Allows (.deleteInstance id) (keeper.records before) (.ok ()) (keeper.records after))) := by
  have found := reliable.reads.finds_instance recorded
  -- Neither look-up changes a record.
  let looked := (keeper.answer (.getInstance id) before).2
  have unchanged : keeper.records looked = keeper.records before :=
    keeper.records_of_reads rfl before
  let listed := (keeper.answer (.getAllBindings id) looked).2
  have alsoUnchanged : keeper.records listed = keeper.records before :=
    (keeper.records_of_reads rfl looked).trans unchanged
  cases course with
  | lookUpFailed failed =>
      obtain ⟨missed, -⟩ := replied_first leads
      cases missed.trans found
  | gone absent =>
      obtain ⟨missed, -⟩ := replied_first leads
      cases missed.trans found
  | unusable unusable =>
      obtain ⟨same, -⟩ := replied_first leads
      cases same.trans found
      cases usable.symm.trans unusable
  | @notListed other _ _ error _ =>
      obtain ⟨-, later⟩ := replied_first leads
      obtain ⟨failed, -⟩ := replied_first later
      have present : ¬ (keeper.records looked).Refuses (.getAllBindings id) := by
        simp [unchanged, Memory.Refuses, recorded]
      obtain ⟨bindings, succeeded⟩ := reliable.accepts present
      cases failed.trans succeeded
  | @notRemoved other _ _ bindings swept _ _ located sweeping removing =>
      obtain ⟨same, later⟩ := replied_first leads
      cases same.trans found
      cases usable.symm.trans located
      obtain ⟨inOrder, ended⟩ := replied_first later
      cases removing with
      | failed =>
          refine ⟨bindings, swept, inOrder.symm, sweeping, Or.inl ⟨_, rfl, rfl, ?_⟩⟩
          obtain rfl : after = listed := ended
          exact alsoUnchanged
  | @notErased other _ _ bindings swept _ lost located sweeping removing =>
      obtain ⟨-, later⟩ := replied_first leads
      obtain ⟨-, last⟩ := replied_first later
      obtain ⟨failed, -⟩ := replied_first last
      have present : ¬ (keeper.records listed).Refuses (.deleteInstance id) := by
        simp [alsoUnchanged, Memory.Refuses, recorded]
      obtain ⟨_, succeeded⟩ := reliable.accepts present
      cases failed.trans succeeded
  | @deprovisioned other _ _ bindings swept _ located sweeping removing =>
      obtain ⟨same, later⟩ := replied_first leads
      cases same.trans found
      cases usable.symm.trans located
      obtain ⟨inOrder, last⟩ := replied_first later
      cases removing with
      | removed =>
          refine ⟨bindings, swept, inOrder.symm, sweeping, Or.inr ⟨rfl, rfl, ?_⟩⟩
          obtain ⟨erased, ended⟩ := replied_first last
          obtain rfl : after = (keeper.answer (.deleteInstance id) listed).2 := ended
          have allowed := keeper.keeps (.deleteInstance id) listed
          rwa [← erased, alsoUnchanged] at allowed

/-- What a store lists for a recorded instance are its bindings, in an order of its own. -/
theorem perm_of_listed
    (reliable : keeper.Reliable)
    {held : Held}
    {bindings : List ServiceBinding}
    {state : keeper.State}
    (present : (keeper.records state).instances.find? id = some held)
    (listed :
      (keeper.answer (.getAllBindings id) (keeper.answer (.getInstance id) state).2).1 =
        .ok bindings) :
    bindings.Perm held.bindings.values := by
  have agrees := reliable (.getAllBindings id) (keeper.answer (.getInstance id) state).2
  rw [listed, keeper.records_of_reads rfl state] at agrees
  simp only [Memory.answer, present] at agrees
  exact agrees

/-- The course of a task that deprovisions a recorded instance. -/
theorem swept_of_task
    {τ : Type}
    (reliable : keeper.Reliable)
    (server : (question : AdminQuestion) → τ → question.Outcome × τ)
    (draws : Draws)
    (state : keeper.State × τ)
    (recorded : (keeper.records state.1).instance? id = some record)
    (usable : broker.planOf record = .ok (plan, site)) :
    let event := broker.seen keeper server ⟨draws, .deprovision id⟩ state
    let next := (broker.carryOut keeper server ⟨draws, .deprovision id⟩ state).2.1
    ∃ bindings swept,
      (keeper.answer (.getAllBindings id) (keeper.answer (.getInstance id) state.1).2).1 =
          .ok bindings ∧
        Sweeping site.server bindings swept ∧
        ((∃ failure,
            event.calls =
                swept ++ [called site.server (.deleteDatabase site.database) (.error failure)] ∧
              event.answer = .error (.plan (.server failure)) ∧
              keeper.records next = keeper.records state.1) ∨
          (event.calls = swept ++ [called site.server (.deleteDatabase site.database) (.ok ())] ∧
            event.answer = .ok .deprovisioned ∧
            Allows (.deleteInstance id) (keeper.records state.1) (.ok ())
              (keeper.records next))) := by
  intro event next
  exact swept_of_deprovisioning reliable (proceeding_of_task ⟨draws, .deprovision id⟩ state)
    (leads_replies ⟨draws, .deprovision id⟩ state) recorded usable

/-- The only call of a removal that deletes a database is the last one. -/
theorem notMem_of_sweeping
    {server : Server}
    {bindings : List ServiceBinding}
    {swept : List (Exchange administration)}
    (sweeping : Sweeping server bindings swept)
    {other : Server}
    {database : String}
    {outcome : Except Remote.Failure Unit} :
    called other (.deleteDatabase database) outcome ∉ swept := by
  intro member
  obtain ⟨_, _, _, _, _, revokes | deletes⟩ := call_of_sweeping sweeping member
  · cases revokes
  · cases deletes

end

/--
Deprovisioning a recorded instance sweeps its bindings, in the order in which the store lists
them and whatever becomes of each, and then deletes its database.  It is answered with success
if and only if that last call succeeds: then the instance and its bindings are gone.
Otherwise the answer is a failure and every record is as before.  In that case the instance
can be deprovisioned later, with whatever servers and after any tasks that do not remove it:
once its database is deleted the answer is success, whatever becomes of the users.
-/
theorem deprovision_sweeps
    {τ : Type}
    (broker : Broker)
    {keeper : Keeper}
    (reliable : keeper.Reliable)
    (server : (question : AdminQuestion) → τ → question.Outcome × τ)
    (state : keeper.State × τ)
    (draws : Draws)
    {id : String}
    {held : Held}
    {plan : Plan}
    {site : Site}
    (present : (keeper.records state.1).instances.find? id = some held)
    (usable : broker.planOf held.record = .ok (plan, site)) :
    let removal : Task := ⟨draws, .deprovision id⟩
    let event := broker.seen keeper server removal state
    let next := (broker.carryOut keeper server removal state).2.1
    ∃ bindings swept, ∃ outcome : Except Remote.Failure Unit,
      (keeper.answer (.getAllBindings id) (keeper.answer (.getInstance id) state.1).2).1 =
          .ok bindings ∧
        bindings.Perm held.bindings.values ∧
        Sweeping site.server bindings swept ∧
        event.calls = swept ++ [called site.server (.deleteDatabase site.database) outcome] ∧
        (event.answer.status = 200 ↔ outcome = .ok ()) ∧
        (outcome = .ok () →
          (keeper.records next).instance? id = none ∧
            ∀ bindingId, (keeper.records next).binding? id bindingId = none) ∧
        (outcome ≠ .ok () →
          event.answer.status = 500 ∧ keeper.records next = keeper.records state.1 ∧
            ∀ {ρ : Type} (others : (question : AdminQuestion) → ρ → question.Outcome × ρ)
              (start : ρ) (between : List Task) (again : Draws),
              (∀ later ∈ broker.history keeper others between (next, start), ¬ later.Removes id) →
                let retried :=
                  broker.seen keeper others ⟨again, .deprovision id⟩
                    (broker.afterwards keeper others between (next, start))
                called site.server (.deleteDatabase site.database) (.ok ()) ∈ retried.calls →
                  retried.answer.status = 200) := by
  intro removal event next
  have recorded := Memory.instance?_of_held present
  obtain ⟨bindings, swept, listed, sweeping, ended⟩ :=
    swept_of_task reliable server draws state recorded usable
  have whole := perm_of_listed reliable present listed
  rcases ended with ⟨failure, calls, answered, unchanged⟩ | ⟨calls, answered, erased⟩
  · refine ⟨bindings, swept, .error failure, listed, whole, sweeping, calls, ?_, ?_, ?_⟩
    · rw [answered]
      simp [Answer.status, Error.status, Plan.Error.status]
    · intro impossible
      cases impossible
    · refine fun _ => ⟨?_, unchanged, ?_⟩
      · rw [answered]
        rfl
      · intro ρ others start between again kept retried deleted
        -- The record is the same when it comes to the second removal, and so is the site.
        have still : (keeper.records next).instance? id = some held.record := by
          rw [unchanged]
          exact recorded
        obtain ⟨_, sweptAgain, -, sweepingAgain, retry⟩ :=
          swept_of_task reliable others again
            (broker.afterwards keeper others between (next, start))
            (instance_kept_of_tasks between kept still) usable
        rcases retry with ⟨_, callsAgain, -, -⟩ | ⟨-, succeeded, -⟩
        · rw [callsAgain] at deleted
          rcases List.mem_append.mp deleted with inSweep | last
          · exact absurd inSweep (notMem_of_sweeping sweepingAgain)
          · cases List.mem_singleton.mp last
        · rw [succeeded]
          rfl
  · refine ⟨bindings, swept, .ok (), listed, whole, sweeping, calls, ?_, ?_, ?_⟩
    · rw [answered]
      exact iff_of_true rfl rfl
    · refine fun _ => ⟨?_, ?_⟩
      · rw [erased.instance?_of_ok]
        simp [Call.instanceAfter]
      · intro bindingId
        rw [erased.binding?_of_ok]
        simp [Call.bindingAfter]
    · intro impossible
      exact absurd rfl impossible

/-! ## A removal that is tried again -/

/-- Servers on which calls of some kinds fail. -/
def failingAmong
    (operations : List AdminOperation)
    (question : AdminQuestion)
    (script : Unit) :
    Option Remote.Failure × Unit :=
  if question.call.operation ∈ operations then
    (some (.defective (.forced question.call.operation)), script)
  else
    (none, script)

/-- An instance with two bindings, of which one cannot be read. -/
def crowdedInstance : Held where
  record := ⟨"i1", "shared", "org", "space", "service", (⟨"alpha"⟩ : DatabaseChoice).payload⟩
  bindings :=
    (Keyed.empty.insert "b1"
      ⟨"b1", (⟨"alpha", "http://server", "bob", "pw"⟩ : Credentials).payload⟩).insert "b2"
      ⟨"b2", .text "lost"⟩

/-- A store with such an instance. -/
def crowded : Memory where
  instances := Keyed.empty.insert "i1" crowdedInstance

/-- An instance whose database could not be deleted is removed when that can be done. -/
theorem deprovision_of_crowded :
    let removal : Task := ⟨plainDraws, .deprovision "i1"⟩
    let world : World × Unit := (fun _ => ⟨["bob"], [("alpha", "bob")]⟩, ())
    let failing := World.answer (failingAmong [.revokeAccess, .deleteDatabase])
    let healed := World.answer (failingAmong [.revokeAccess])
    let first := soleServer.carryOut Keeper.memory failing removal (crowded, world)
    first.1.status = 500 ∧ first.2.1 = crowded ∧
      (soleServer.seen Keeper.memory healed removal (first.2.1, world)).answer.status = 200 := by
  intro removal world failing healed first
  have calls :
      (soleServer.seen Keeper.memory healed removal (first.2.1, world)).calls =
        [called ⟨"http://server", ⟨"admin", "secret"⟩⟩ (.revokeAccess "alpha" "bob")
           (.error (.defective (.forced .revokeAccess))),
         called ⟨"http://server", ⟨"admin", "secret"⟩⟩ (.deleteDatabase "alpha") (.ok ())] := rfl
  have deleted :
      called ⟨"http://server", ⟨"admin", "secret"⟩⟩ (.deleteDatabase "alpha") (.ok ()) ∈
        (soleServer.seen Keeper.memory healed removal (first.2.1, world)).calls := by
    rw [calls]
    exact List.mem_cons_of_mem _ List.mem_cons_self
  have present : crowded.instances.find? "i1" = some crowdedInstance := rfl
  obtain ⟨bindings, swept, outcome, -, -, -, -, successful, -, failed⟩ :=
    deprovision_sweeps soleServer Keeper.reliable_memory failing (crowded, world) plainDraws
      present rfl
  have notRemoved : outcome ≠ .ok () := by
    intro removed
    have status : first.1.status = 200 := successful.mpr removed
    exact absurd status (by decide)
  obtain ⟨status, unchanged, retry⟩ := failed notRemoved
  exact ⟨status, unchanged, retry healed world [] plainDraws (by simp [history]) deleted⟩

end GraphBroker.Broker
