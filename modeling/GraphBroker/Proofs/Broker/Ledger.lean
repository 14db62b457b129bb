import GraphBroker.Admin.Rehearsal
import GraphBroker.Proofs.Broker.History

namespace GraphBroker.Broker

open Store Plan

/-!
# The ledger of databases

A database is created before its instance is recorded, and deleted before the
record is.  Either write may fail, and then the answer says so.  Apart from what
such answers report, the databases that were created for an instance and not
deleted are as many as its records: one, or none.
-/

namespace Event

/-- An attempt to provision an instance. -/
def provisions (id : String) (event : Event) : Bool :=
  match event.operation with
  | .provision other _ => other == id
  | _ => false

/-- An attempt to deprovision an instance. -/
def deprovisions (id : String) (event : Event) : Bool :=
  match event.operation with
  | .deprovision other => other == id
  | _ => false

/-- The answer says that the record of an instance could not be made. -/
def unrecorded (event : Event) : Bool :=
  match event.answer with
  | .error (.instanceNotRecorded _ _) => true
  | _ => false

/-- The answer says that the record of an instance could not be deleted. -/
def unerased (event : Event) : Bool :=
  match event.answer with
  | .error (.instanceNotErased _ _) => true
  | _ => false

end Event

/-! ## Entries -/

/-- The databases that were created while an instance was provisioned. -/
def databasesCreated (id : String) (history : List Event) : Nat :=
  (callsOf (history.filter (Event.provisions id))).countP (succeeds .createDatabase)

/-- The databases that were deleted while an instance was deprovisioned. -/
def databasesDeleted (id : String) (history : List Event) : Nat :=
  (callsOf (history.filter (Event.deprovisions id))).countP (succeeds .deleteDatabase)

/-- The answers that report a database without a record. -/
def recordsMissing (id : String) (history : List Event) : Nat :=
  (history.filter (Event.provisions id)).countP Event.unrecorded

/-- The answers that report a record without a database. -/
def recordsLeft (id : String) (history : List Event) : Nat :=
  (history.filter (Event.deprovisions id)).countP Event.unerased

/-- The records of an instance: one, or none. -/
def recordsOf (memory : Memory) (id : String) : Nat :=
  if (memory.instance? id).isSome then 1 else 0

section

variable (id : String) (past : List Event) (event : Event)

/-- The databases created for an instance, with one more event. -/
theorem databasesCreated_append :
    databasesCreated id (past ++ [event]) =
      databasesCreated id past +
        if event.provisions id then event.calls.countP (succeeds .createDatabase) else 0 := by
  cases here : event.provisions id with
  | true => simp [databasesCreated, callsOf, here]
  | false => simp [databasesCreated, here]

/-- The databases deleted for an instance, with one more event. -/
theorem databasesDeleted_append :
    databasesDeleted id (past ++ [event]) =
      databasesDeleted id past +
        if event.deprovisions id then event.calls.countP (succeeds .deleteDatabase) else 0 := by
  cases here : event.deprovisions id with
  | true => simp [databasesDeleted, callsOf, here]
  | false => simp [databasesDeleted, here]

/-- The records missing for an instance, with one more event. -/
theorem recordsMissing_append :
    recordsMissing id (past ++ [event]) =
      recordsMissing id past + if event.provisions id && event.unrecorded then 1 else 0 := by
  cases here : event.provisions id with
  | true => simp [recordsMissing, List.countP_cons, here]
  | false => simp [recordsMissing, here]

/-- The records left of an instance, with one more event. -/
theorem recordsLeft_append :
    recordsLeft id (past ++ [event]) =
      recordsLeft id past + if event.deprovisions id && event.unerased then 1 else 0 := by
  cases here : event.deprovisions id with
  | true => simp [recordsLeft, List.countP_cons, here]
  | false => simp [recordsLeft, here]

end

/-- A creation that fails has created no database. -/
theorem countP_creating_error
    {plan : Plan}
    {draws : Draws}
    {parameters : Json}
    {calls : List (Exchange administration)}
    {failure : Plan.Error}
    (creating : plan.Creating draws parameters calls (.error failure)) :
    calls.countP (succeeds .createDatabase) = 0 := by
  cases creating with
  | refused reason =>
      rfl
  | failed offered =>
      rfl

/-- A creation that succeeds has created one database. -/
theorem countP_creating_ok
    {plan : Plan}
    {draws : Draws}
    {parameters payload : Json}
    {calls : List (Exchange administration)}
    (creating : plan.Creating draws parameters calls (.ok payload)) :
    calls.countP (succeeds .createDatabase) = 1 := by
  cases creating with
  | created offered readable requested =>
      rfl

/-- A removal that fails has deleted no database. -/
theorem countP_removing_error
    {site : Site}
    {calls : List (Exchange administration)}
    {failure : Plan.Error}
    (removing : Removing site calls (.error failure)) :
    calls.countP (succeeds .deleteDatabase) = 0 := by
  cases removing with
  | failed =>
      rfl

/-- A removal that succeeds has deleted one database. -/
theorem countP_removing_ok
    {site : Site}
    {calls : List (Exchange administration)}
    (removing : Removing site calls (.ok ())) :
    calls.countP (succeeds .deleteDatabase) = 1 := by
  cases removing with
  | removed =>
      rfl

/-- A sweep deletes no database. -/
theorem countP_sweeping
    {server : Server}
    {bindings : List ServiceBinding}
    {swept : List (Exchange administration)}
    (sweeping : Sweeping server bindings swept) :
    swept.countP (succeeds .deleteDatabase) = 0 := by
  induction sweeping with
  | nil =>
      rfl
  | cons revoking sweeping inductionHypothesis =>
      rw [List.countP_append, inductionHypothesis]
      cases revoking with
      | unreadable unread =>
          rfl
      | notRevoked read =>
          rfl
      | notDeleted read =>
          rfl
      | revoked read =>
          rfl

/-- An instance that is added has one record more, and all others have what they had. -/
theorem recordsOf_of_added
    {before after : Memory}
    {other : String}
    {record : ServiceInstance}
    (added : Allows (.addInstance other record) before (.ok ()) after)
    (id : String) :
    recordsOf after id = recordsOf before id + if other = id then 1 else 0 := by
  unfold recordsOf
  rw [added.instance?_of_ok]
  by_cases same : other = id
  · subst same
    simp [Call.instanceAfter, added.absent_of_added_instance]
  · have elsewhere : id ≠ other := fun here => same here.symm
    simp [Call.instanceAfter, same, elsewhere]

/-- A recorded instance that is deleted has one record less, and all others have what they had. -/
theorem recordsOf_of_erased
    {before after : Memory}
    {other : String}
    {record : ServiceInstance}
    (recorded : before.instance? other = some record)
    (erased : Allows (.deleteInstance other) before (.ok ()) after)
    (id : String) :
    recordsOf before id = recordsOf after id + if other = id then 1 else 0 := by
  unfold recordsOf
  rw [erased.instance?_of_ok]
  by_cases same : other = id
  · subst same
    simp [Call.instanceAfter, recorded]
  · have elsewhere : id ≠ other := fun here => same here.symm
    simp [Call.instanceAfter, same, elsewhere]

/-- An answer that reports no failure to record leaves no difference in the ledger. -/
theorem unreported_of_quiet
    (event : Event)
    (quiet : event.answer.Quiet event.operation) :
    event.unrecorded = false ∧ event.unerased = false := by
  obtain ⟨operation, calls, answer⟩ := event
  cases answer with
  | ok success =>
      exact ⟨rfl, rfl⟩
  | error error =>
      cases error with
      | instanceNotRecorded id lost | instanceNotErased id lost =>
          exact quiet.elim
      | _ =>
          exact ⟨rfl, rfl⟩

/-- The entries for an instance balance in a history that ends with some records. -/
def Balanced (id : String) (history : List Event) (memory : Memory) : Prop :=
  databasesCreated id history + recordsLeft id history =
    recordsOf memory id + recordsMissing id history + databasesDeleted id history

/-- A turn that adds nothing to the entries and keeps the record keeps the balance. -/
theorem balanced_of_turn
    {broker : Broker}
    {draws : Draws}
    {before after : Memory}
    {past : List Event}
    {event : Event}
    {id : String}
    (turn : Turn broker draws before event.operation event.calls event.answer after)
    (balanced : Balanced id past before) :
    Balanced id (past ++ [event]) after := by
  unfold Balanced at balanced ⊢
  rw [databasesCreated_append, databasesDeleted_append, recordsMissing_append, recordsLeft_append]
  obtain ⟨operation, calls, answer⟩ := event
  cases turn with
  | idle quiet =>
      have silent := unreported_of_quiet ⟨operation, [], answer⟩ quiet
      simp [silent.1, silent.2, balanced]
  | @notCreated other request plan calls failure creating =>
      have none := countP_creating_error creating
      simp [Event.provisions, Event.deprovisions, Event.unrecorded, none, balanced]
  | @instanceNotRecorded other request plan calls payload lost creating =>
      have one := countP_creating_ok creating
      by_cases same : other = id
      · simp only [Event.provisions, Event.deprovisions, Event.unrecorded, same, one, BEq.rfl,
          Bool.and_self, Bool.false_and, Bool.false_eq_true, if_true, if_false, Nat.add_zero]
        omega
      · simp [Event.provisions, Event.deprovisions, same, balanced]
  | @provisioned other request plan calls payload after known creating added =>
      have one := countP_creating_ok creating
      have more := recordsOf_of_added added id
      by_cases same : other = id
      · simp only [Event.provisions, Event.deprovisions, Event.unrecorded, same, one, BEq.rfl,
          Bool.and_false, Bool.false_and, Bool.false_eq_true, if_true, if_false,
          Nat.add_zero] at more ⊢
        omega
      · simpa [Event.provisions, Event.deprovisions, same, more] using balanced
  | @notRemoved other record plan site bindings swept calls failure recorded usable listed sweeping
      removing =>
      have none := countP_sweeping sweeping
      have kept := countP_removing_error removing
      simp [Event.provisions, Event.deprovisions, Event.unerased, none, kept, balanced]
  | @instanceNotErased other record plan site bindings swept calls lost recorded usable listed
      sweeping removing =>
      have none := countP_sweeping sweeping
      have one := countP_removing_ok removing
      by_cases same : other = id
      · simp only [Event.provisions, Event.deprovisions, Event.unerased, same, none, one, BEq.rfl,
          List.append_eq, List.countP_append, Bool.and_self, Bool.false_and, Bool.false_eq_true,
          if_true, if_false, Nat.zero_add, Nat.add_zero]
        omega
      · simp [Event.provisions, Event.deprovisions, same, balanced]
  | @deprovisioned other record plan site bindings swept calls after recorded usable listed sweeping
      removing erased =>
      have none := countP_sweeping sweeping
      have one := countP_removing_ok removing
      have fewer := recordsOf_of_erased recorded erased id
      by_cases same : other = id
      · simp only [Event.provisions, Event.deprovisions, Event.unerased, same, none, one, BEq.rfl,
          List.append_eq, List.countP_append, Bool.and_false, Bool.false_and,
          Bool.false_eq_true, if_true, if_false, Nat.zero_add, Nat.add_zero] at fewer ⊢
        omega
      · simpa [Event.provisions, Event.deprovisions, same, fewer] using balanced
  | notIssued recorded usable issuing | bindingNotRecorded recorded usable issuing =>
      simpa [Event.provisions, Event.deprovisions] using balanced
  | bound recorded usable issuing added =>
      have kept := added.instance?_of_ok id
      simpa [Event.provisions, Event.deprovisions, recordsOf, kept, Call.instanceAfter]
        using balanced
  | notRevoked recorded usable held erased revoking
  | unbound recorded usable held erased revoking =>
      have kept := erased.instance?_of_ok id
      simpa [Event.provisions, Event.deprovisions, recordsOf, kept, Call.instanceAfter]
        using balanced

/--
The databases created for an instance and not deleted are as many as its records,
except for those that an answer reported to have no record and for the records
that an answer reported to have no database.
-/
theorem databases_created_sub_deleted
    {τ : Type}
    (broker : Broker)
    (keeper : Keeper)
    (server : (question : AdminQuestion) → τ → question.Outcome × τ)
    (others : τ)
    (tasks : List Task)
    (id : String) :
    let past := broker.history keeper server tasks (keeper.blank, others)
    let records := keeper.records (broker.afterwards keeper server tasks (keeper.blank, others)).1
    (databasesCreated id past : Int) - databasesDeleted id past =
      recordsOf records id + recordsMissing id past - recordsLeft id past := by
  intro past records
  have start : Balanced id [] Memory.empty := rfl
  have balanced : Balanced id past records :=
    records_induction balanced_of_turn start tasks others
  unfold Balanced at balanced
  omega

/-- No instance can be recorded. -/
def unwritable (call : Store.Call) (script : Unit) : Option Store.Error × Unit :=
  match call with
  | .addInstance id _ => (some (.invalidKey id), script)
  | _ => (none, script)

-- A database that was created before its record was lost is reported.
example :
    let willing (question : AdminQuestion) (others : Unit) : question.Outcome × Unit :=
      (.ok (question.call.successReply false), others)
    let past :=
      soleServer.history (Keeper.failing unwritable ()) willing
        [⟨plainDraws, .provision "i1"
          ⟨"service", "shared", "org", "space", .object [("db_name", .text "alpha")]⟩⟩]
        ((Memory.empty, ()), ())
    databasesCreated "i1" past = 1 ∧ recordsMissing "i1" past = 1 := by
  decide

end GraphBroker.Broker
