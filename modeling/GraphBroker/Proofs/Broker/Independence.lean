import GraphBroker.Admin.Rehearsal
import GraphBroker.Proofs.Broker.Caution
import GraphBroker.Proofs.Broker.History
import GraphBroker.Proofs.Store.Footprint
import Mathlib.Order.BooleanAlgebra.Set

namespace GraphBroker.Broker

open Dialogue Store Plan

/-!
# Operations that do not concern each other

The platform sends requests for different applications in any order.  An operation
looks at its own instance and the bindings it is about, and it changes nothing else;
what it calls and answers depends on no other entry of the store.  Two operations that
do not concern each other therefore do the same in either order, and leave the same
behind.
-/

namespace Operation

/-- The binding that an operation is about, if it is about a single one. -/
def bindingId? : Operation → Option String
  | .provision _ _ | .describe _ | .deprovision _ => none
  | .bind _ bindingId _ | .unbind _ bindingId => some bindingId

/-- The entries that an operation is about. -/
def concerns : Operation → Set Entry
  | .provision id _ | .describe id | .deprovision id => Entry.beneath id
  | .bind id bindingId _ | .unbind id bindingId => Entry.pair id bindingId

/-- The entries that an operation may change. -/
def changes : Operation → Set Entry
  | .provision id _ => {.ofInstance id}
  | .describe _ => ∅
  | .deprovision id => Entry.beneath id
  | .bind id bindingId _ | .unbind id bindingId => {.ofBinding id bindingId}

/-- Two operations are on different instances, or on different bindings. -/
def Independent (first second : Operation) : Prop :=
  first.instanceId ≠ second.instanceId ∨
    ∃ one other,
      first.bindingId? = some one ∧ second.bindingId? = some other ∧ one ≠ other

/-- A call on the store looks at what an operation is about, and changes what it may change. -/
def Confines (operation : Operation) (call : Call) : Prop :=
  call.sees ⊆ operation.concerns ∧ call.changes ⊆ operation.changes

/-- An operation concerns entries of its own instance alone. -/
theorem instanceId_of_concerns
    {operation : Operation}
    {entry : Entry}
    (concerned : entry ∈ operation.concerns) :
    entry.instanceId = operation.instanceId := by
  cases operation with
  | provision id request | describe id | deprovision id =>
      exact concerned
  | bind id bindingId request | unbind id bindingId =>
      rcases concerned with rfl | rfl
      · rfl
      · rfl

/-- What an operation may change is what it is about. -/
theorem changes_sub_concerns
    (operation : Operation) :
    operation.changes ⊆ operation.concerns := by
  cases operation with
  | provision id request =>
      rintro _ rfl
      rfl
  | describe id =>
      exact Set.empty_subset _
  | deprovision id =>
      exact subset_rfl
  | bind id bindingId request | unbind id bindingId =>
      exact Set.subset_insert _ _

theorem Independent.symm
    {first second : Operation}
    (independent : first.Independent second) :
    second.Independent first := by
  rcases independent with different | ⟨one, other, here, there, different⟩
  · exact Or.inl different.symm
  · exact Or.inr ⟨other, one, there, here, different.symm⟩

/-- Nothing that an operation may change concerns another one that is independent of it. -/
theorem Independent.spared
    {first second : Operation}
    (independent : first.Independent second) :
    second.concerns ⊆ first.changesᶜ := by
  intro entry concerned changed
  have same : first.instanceId = second.instanceId := by
    rw [← instanceId_of_concerns (changes_sub_concerns first changed)]
    exact instanceId_of_concerns concerned
  rcases independent with different | ⟨one, other, here, there, different⟩
  · exact different same
  · have changed : entry = .ofBinding first.instanceId one := by
      cases first <;> cases here <;> exact changed
    have concerned : entry ∈ Entry.pair second.instanceId other := by
      cases second <;> cases there <;> exact concerned
    rw [changed] at concerned
    rcases concerned with isInstance | isBinding
    · cases isInstance
    · exact different (Entry.ofBinding.inj isBinding).2

end Operation

/-! ## What an operation asks of the store -/

namespace Operation

/-- Every operation may look its instance up. -/
theorem confines_getInstance
    (operation : Operation) :
    operation.Confines (.getInstance operation.instanceId) := by
  refine ⟨?_, Set.empty_subset _⟩
  rintro _ rfl
  cases operation with
  | provision id request | describe id | deprovision id =>
      rfl
  | bind id bindingId request | unbind id bindingId =>
      exact Or.inl rfl

theorem confines_addInstance
    (id : String)
    (request : Api.ProvisionRequest)
    (record : ServiceInstance) :
    (provision id request).Confines (.addInstance id record) :=
  ⟨changes_sub_concerns (provision id request), subset_rfl⟩

theorem confines_getAllBindings
    (id : String) :
    (deprovision id).Confines (.getAllBindings id) :=
  ⟨subset_rfl, Set.empty_subset _⟩

theorem confines_deleteInstance
    (id : String) :
    (deprovision id).Confines (.deleteInstance id) :=
  ⟨(confines_getInstance (deprovision id)).1, subset_rfl⟩

/-- A look-up of the binding that an operation is about. -/
theorem confines_getBinding
    {operation : Operation}
    {bindingId : String}
    (single : operation.bindingId? = some bindingId) :
    operation.Confines (.getBinding operation.instanceId bindingId) := by
  refine ⟨?_, Set.empty_subset _⟩
  rintro _ rfl
  cases operation with
  | provision id request | describe id | deprovision id =>
      cases single
  | bind id other request | unbind id other =>
      cases single
      exact Or.inr rfl

theorem confines_addBinding
    (id bindingId : String)
    (request : Api.BindRequest)
    (record : ServiceBinding) :
    (Operation.bind id bindingId request).Confines (.addBinding id bindingId record) :=
  ⟨subset_rfl, subset_rfl⟩

theorem confines_deleteBinding
    (id bindingId : String) :
    (unbind id bindingId).Confines (.deleteBinding id bindingId) :=
  ⟨changes_sub_concerns (unbind id bindingId), subset_rfl⟩

end Operation

open Operation

/-- An operation asks the store about what it is about, and has it change nothing else. -/
theorem confined_of_proceeding
    {broker : Broker}
    {draws : Draws}
    {operation : Operation}
    {stores : List (Exchange storage)}
    {calls : List (Exchange administration)}
    {answer : Answer}
    (proceeding : Proceeding broker draws operation stores calls answer) :
    ∀ exchange ∈ stores, operation.Confines exchange.question := by
  have looks := operation.confines_getInstance
  cases operation with
  | provision id request =>
      have adds := confines_addInstance id request
      cases proceeding <;> simpa [instanceId, adds] using looks
  | describe id =>
      cases proceeding <;> simpa [instanceId] using looks
  | deprovision id =>
      have lists := confines_getAllBindings id
      have deletes := confines_deleteInstance id
      cases proceeding <;> simpa [instanceId, lists, deletes] using looks
  | bind id bindingId request =>
      have finds : (Operation.bind id bindingId request).Confines (.getBinding id bindingId) :=
        confines_getBinding rfl
      have adds := confines_addBinding id bindingId request
      cases proceeding <;> simpa [instanceId, finds, adds] using looks
  | unbind id bindingId =>
      have finds : (Operation.unbind id bindingId).Confines (.getBinding id bindingId) :=
        confines_getBinding rfl
      have deletes := confines_deleteBinding id bindingId
      cases proceeding <;> simpa [instanceId, finds, deletes] using looks

/-! ## An operation in two surroundings -/

/-- Which operations a rehearsal is told to fail, and what it is told to say of users. -/
def setting (rehearsal : Rehearsal) : List AdminOperation × Bool :=
  (rehearsal.failing, rehearsal.userExists)

/-- A call leaves a setting as it is. -/
def SameSetting
    (question : AdminQuestion)
    (before : List AdminOperation × Bool)
    (_outcome : question.Outcome)
    (after : List AdminOperation × Bool) :
    Prop :=
  after = before

/-- No call changes what a rehearsal was told. -/
theorem setting_answer
    (question : AdminQuestion)
    (rehearsal : Rehearsal) :
    SameSetting question (setting rehearsal) (Rehearsal.answer question rehearsal).1
      (setting (Rehearsal.answer question rehearsal).2) := by
  unfold Rehearsal.answer
  split
  · rfl
  · rfl

/-- What a rehearsal answers depends on what it was told, and not on the calls before. -/
theorem outcome_of_setting
    {first second : Rehearsal}
    (same : setting first = setting second)
    (question : AdminQuestion) :
    (Rehearsal.answer question first).1 = (Rehearsal.answer question second).1 := by
  obtain ⟨failing, userExists⟩ := Prod.ext_iff.mp same
  simp only [setting] at failing userExists
  unfold Rehearsal.answer
  rw [failing, userExists]
  split
  · rfl
  · rfl

section

variable {τ : Type} {broker : Broker} {keeper : Keeper}
variable {server : (question : AdminQuestion) → τ → question.Outcome × τ}

/-- The store calls of a task are confined to what its operation concerns. -/
theorem confined_of_task
    (task : Task)
    (state : keeper.State × τ) :
    ∀ exchange ∈ storeCalls (broker.conversation keeper server task state),
      task.operation.Confines exchange.question :=
  confined_of_proceeding (proceeding_of_task task state)

/-- Whatever the store and the servers do, a task changes no entry but those of its operation. -/
theorem agree_carryOut
    (task : Task)
    (state : keeper.State × τ) :
    Memory.AgreeOn task.operation.changesᶜ (keeper.records state.1)
      (keeper.records (broker.carryOut keeper server task state).2.1) := by
  let kept (records : Memory) : Prop :=
    Memory.AgreeOn task.operation.changesᶜ (keeper.records state.1) records
  have stepwise :
      ∀ exchange ∈ storeCalls (broker.conversation keeper server task state),
      ∀ {before after}, Allows exchange.question before exchange.reply after →
        kept before → kept after := by
    intro exchange member before after allowed agree
    have confined := (confined_of_task task state exchange member).2
    exact agree.trans (allowed.agree.mono (Set.compl_subset_compl.mpr confined))
  have start : kept (keeper.records state.1) := fun entry _ => Memory.sameAt_refl _ entry
  exact (leads_records keeper.keeps task state).preserves stepwise start

end

/-- A store in memory with a rehearsal in the place of every server. -/
abbrev Stage : Type := Keeper.memory.State × Rehearsal

/-- Two stages have the same on record in some places, and their rehearsals were told the same. -/
def Alike (entries : Set Entry) (first second : Stage) : Prop :=
  Memory.AgreeOn entries first.1 second.1 ∧ setting first.2 = setting second.2

section

variable (broker : Broker) (task : Task)

/-- A task leaves the setting of a rehearsal as it is. -/
theorem setting_carryOut
    (stage : Stage) :
    setting (broker.carryOut .memory Rehearsal.answer task stage).2.2 = setting stage.2 := by
  let told (current : List AdminOperation × Bool) : Prop := current = setting stage.2
  have stepwise :
      ∀ exchange ∈ (broker.seen .memory Rehearsal.answer task stage).calls,
      ∀ {before after}, SameSetting exchange.question before exchange.reply after →
        told before → told after := by
    intro exchange member before after same earlier
    exact Eq.trans same earlier
  have leads : Leads (P := administration) SameSetting (setting stage.2)
      (broker.seen .memory Rehearsal.answer task stage).calls
      (setting (broker.carryOut .memory Rehearsal.answer task stage).2.2) :=
    leads_servers setting_answer task stage
  exact leads.preserves stepwise rfl

/--
Where everything is on record alike that an operation is about, the operation does
and answers the same, and what was alike before is alike after it.
-/
theorem alike_carryOut
    {entries : Set Entry}
    {first second : Stage}
    (concerned : task.operation.concerns ⊆ entries)
    (alike : Alike entries first second) :
    broker.seen .memory Rehearsal.answer task second =
        broker.seen .memory Rehearsal.answer task first ∧
      Alike entries (broker.carryOut .memory Rehearsal.answer task first).2
        (broker.carryOut .memory Rehearsal.answer task second).2 := by
  have confined :
      ∀ exchange ∈ storeCalls (broker.conversation .memory Rehearsal.answer task first),
        task.operation.Confines exchange.question :=
    confined_of_task task first
  have step (exchange : Exchange surroundings)
      (member : exchange ∈ broker.conversation .memory Rehearsal.answer task first)
      {one other : Stage}
      (alike : Alike entries one other) :
      (respond Memory.answer Rehearsal.answer exchange.question one).1 =
          (respond Memory.answer Rehearsal.answer exchange.question other).1 ∧
        Alike entries (respond Memory.answer Rehearsal.answer exchange.question one).2
          (respond Memory.answer Rehearsal.answer exchange.question other).2 := by
    obtain ⟨agree, same⟩ := alike
    obtain ⟨question, reply⟩ := exchange
    cases question with
    | store call =>
        have looked := (confined ⟨call, reply⟩ (mem_storeCalls_iff.mpr member)).1.trans concerned
        exact ⟨Memory.outcome_of_agree (agree.mono looked), agree.answer looked, same⟩
    | server question =>
        refine ⟨outcome_of_setting same question, agree, ?_⟩
        exact (Eq.trans (setting_answer question one.2) same).trans
          (Eq.symm (setting_answer question other.2))
  obtain ⟨conversation, answer, after⟩ := run_alike step alike
  refine ⟨?_, after⟩
  have calls := congrArg serverCalls conversation
  exact congrArg₂ (Event.mk task.operation) calls answer

end

/-! ## Two operations in either order -/

/--
Two tasks do not notice each other: in either order each makes the calls and gives the
answer that it makes and gives without the other, what is recorded in the end is the
same, and neither touches what the other is about.
-/
structure Commute (broker : Broker) (first second : Task) (stage : Stage) : Prop where
  firstOrder :
    broker.history .memory Rehearsal.answer [first, second] stage =
      [broker.seen .memory Rehearsal.answer first stage,
       broker.seen .memory Rehearsal.answer second stage]
  secondOrder :
    broker.history .memory Rehearsal.answer [second, first] stage =
      [broker.seen .memory Rehearsal.answer second stage,
       broker.seen .memory Rehearsal.answer first stage]
  records :
    (broker.afterwards .memory Rehearsal.answer [first, second] stage).1 =
      (broker.afterwards .memory Rehearsal.answer [second, first] stage).1
  sparesSecond :
    Memory.AgreeOn second.operation.concerns stage.1
      (broker.carryOut .memory Rehearsal.answer first stage).2.1
  sparesFirst :
    Memory.AgreeOn first.operation.concerns stage.1
      (broker.carryOut .memory Rehearsal.answer second stage).2.1

section

variable (broker : Broker) (stage : Stage)

/-- A task leaves the stage as it was, but for the entries that its operation may change. -/
theorem alike_afterwards
    (task : Task) :
    Alike task.operation.changesᶜ stage (broker.carryOut .memory Rehearsal.answer task stage).2 :=
  ⟨agree_carryOut task stage, (setting_carryOut broker task stage).symm⟩

/-- After another that is independent of it, an operation does and answers what it would before. -/
theorem history_of_independent
    {first second : Task}
    (independent : first.operation.Independent second.operation) :
    broker.history .memory Rehearsal.answer [first, second] stage =
      [broker.seen .memory Rehearsal.answer first stage,
       broker.seen .memory Rehearsal.answer second stage] := by
  have before := alike_afterwards broker stage first
  have same := (alike_carryOut broker second independent.spared before).1
  simp only [history, same]

/-- Where one of two independent operations changes nothing, their order makes no difference. -/
theorem agree_of_independent
    {first second : Task}
    (independent : first.operation.Independent second.operation) :
    Memory.AgreeOn first.operation.changesᶜ
      (broker.afterwards .memory Rehearsal.answer [first, second] stage).1
      (broker.afterwards .memory Rehearsal.answer [second, first] stage).1 := by
  have before := alike_afterwards broker stage first
  have firstOrder := (alike_carryOut broker second independent.spared before).2.1
  let afterSecond := (broker.carryOut .memory Rehearsal.answer second stage).2
  have secondOrder := (alike_afterwards broker afterSecond first).1
  exact firstOrder.symm.trans secondOrder

/-- Two operations that are independent of each other may come in either order. -/
theorem independent_tasks_commute
    {first second : Task}
    (independent : first.operation.Independent second.operation) :
    broker.Commute first second stage := by
  have offFirst := agree_of_independent broker stage independent
  have offSecond := agree_of_independent broker stage independent.symm
  have records : Memory.AgreeOn Set.univ
      (broker.afterwards .memory Rehearsal.answer [first, second] stage).1
      (broker.afterwards .memory Rehearsal.answer [second, first] stage).1 := by
    intro entry _
    by_cases changed : entry ∈ first.operation.changes
    · have spared := independent.symm.spared (first.operation.changes_sub_concerns changed)
      exact (offSecond entry spared).symm
    · exact offFirst entry changed
  exact
    { firstOrder := history_of_independent broker stage independent
      secondOrder := history_of_independent broker stage independent.symm
      records := Memory.eq_of_agree records
      sparesSecond := (alike_afterwards broker stage first).1.mono independent.spared
      sparesFirst := (alike_afterwards broker stage second).1.mono independent.symm.spared }

/-- Credentials for two applications may be issued in either order. -/
theorem commute_binds_of_one_instance :
    let stage : Stage :=
      (soleServer.carryOut .memory Rehearsal.answer
        ⟨plainDraws, .provision "i1" ⟨"service", "shared", "org", "space", .null⟩⟩
        (Memory.empty, Rehearsal.start)).2
    let first : Task := ⟨plainDraws, .bind "i1" "b1" ⟨"service", "shared", none, .null⟩⟩
    let second : Task := ⟨plainDraws, .bind "i1" "b2" ⟨"service", "shared", none, .null⟩⟩
    (∃ payload,
        (soleServer.seen .memory Rehearsal.answer first stage).answer = .ok (.bound payload)) ∧
      first.operation.Independent second.operation ∧
      soleServer.Commute first second stage := by
  intro stage first second
  have independent : first.operation.Independent second.operation :=
    Or.inr ⟨"b1", "b2", rfl, rfl, by decide⟩
  exact ⟨⟨_, rfl⟩, independent, independent_tasks_commute soleServer stage independent⟩

end

end GraphBroker.Broker
