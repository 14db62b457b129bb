import GraphBroker.Proofs.Admin.World
import GraphBroker.Proofs.Broker.Caution
import GraphBroker.Proofs.Broker.History
import GraphBroker.Proofs.Plan.Payload
import Mathlib.Data.List.Forall2

namespace GraphBroker.Broker

open Dialogue Store Plan

/-!
# Tearing down by payloads

What an operation deletes on a server it names by what the payloads of records say.  A payload
that says no name keeps the operation from making the call, and has it fail; but a payload
that is `null` says empty names, and so does the payload of an instance that is silent on
its database.
-/

/-- An operation found the record of a binding with whose user it deals. -/
def Operation.Found (stores : List (Exchange storage)) (binding : ServiceBinding) :
    Operation → Prop
  | .deprovision id =>
      ∃ bindings : List ServiceBinding,
        asked (.getAllBindings id) (.ok bindings) ∈ stores ∧ binding ∈ bindings
  | .unbind id bindingId => asked (.getBinding id bindingId) (.ok binding) ∈ stores
  | .provision _ _ | .describe _ | .bind _ _ _ => False

/-- What a call deletes is named by the payload of a record that the operation found. -/
def Operation.Names (operation : Operation) (stores : List (Exchange storage)) : AdminCall → Prop
  | .deleteDatabase database =>
      ∃ record, asked (.getInstance operation.instanceId) (.ok record) ∈ stores ∧
        NamesDatabase record.payload database
  | .revokeAccess database username =>
      ∃ binding, operation.Found stores binding ∧ NamesUser binding.payload database username
  | .deleteUser username =>
      ∃ binding database, operation.Found stores binding ∧
        NamesUser binding.payload database username
  | .createDatabase _ | .userExists _ | .newUser _ _ | .grantAccess _ _ => True

/-- An instance that no plan can use can still be described, but every other operation on it fails. -/
def Operation.Declines (answer : Answer) : Operation → Prop
  | .describe _ => answer = .ok .described
  | .provision _ _ | .deprovision _ | .bind _ _ _ | .unbind _ _ => ∃ error, answer = .error error

/-- What comes of the clean-up of a binding: calls by the names in its payload, if there are any. -/
structure CleansUp
    (server : Server)
    (binding : ServiceBinding)
    (cleanUp : List (Exchange administration) × Except Plan.Error Unit) :
    Prop where
  yields : (Plan.unbind server binding).run.Yields cleanUp.1 cleanUp.2
  unnamed :
    (∀ database username, ¬ NamesUser binding.payload database username) →
    cleanUp.1 = [] ∧ ∃ error, cleanUp.2 = .error (.unreadableBinding binding.guid error)

/-- What an operation tears down goes by the payloads that the store returned. -/
structure ByPayloads
    (operation : Operation)
    (stores : List (Exchange storage))
    (calls : List (Exchange administration))
    (answer : Answer) :
    Prop where
  /-- Nothing is deleted but by a name that the payload of the record says. -/
  named : ∀ exchange ∈ calls, operation.Names stores exchange.question.call
  /-- An instance whose payload says no database is not torn down, nor is a binding of it. -/
  unnamedDatabase :
    ∀ record later, stores = asked (.getInstance operation.instanceId) (.ok record) :: later →
      (∀ database, ¬ NamesDatabase record.payload database) →
      calls = [] ∧ operation.Declines answer
  /-- A binding whose payload says no user cannot be taken back. -/
  unnamedUser :
    ∀ id bindingId, operation = .unbind id bindingId →
      ∀ record binding later,
        stores =
          asked (.getInstance id) (.ok record) :: asked (.getBinding id bindingId) (.ok binding)
            :: later →
        (∀ database username, ¬ NamesUser binding.payload database username) →
        calls = [] ∧ ∃ error, answer = .error error
  /-- The bindings of an instance are cleaned up one by one before anything else is deleted. -/
  cleanedUp :
    ∀ id, operation = .deprovision id →
      calls = [] ∨ ∃ server bindings cleanUps deletion,
        asked (.getAllBindings id) (.ok bindings) ∈ stores ∧
        List.Forall₂ (CleansUp server) bindings cleanUps ∧
        calls = (cleanUps.map Prod.fst).flatten ++ [deletion]

/-! ## One binding after the other -/

section

variable {server : Server} {binding : ServiceBinding} {calls : List (Exchange administration)}
variable {outcome : Except Plan.Error Unit}

/-- Every way in which a revocation may go is one that it takes. -/
theorem yields_of_revoking
    (revoking : Revoking server binding calls outcome) :
    (Plan.unbind server binding).run.Yields calls outcome := by
  cases revoking with
  | unreadable unread =>
      simp only [Plan.unbind, unread]
      exact .done _
  | notRevoked read =>
      simp only [Plan.unbind, read]
      exact .ask (.done _)
  | notDeleted read | revoked read =>
      simp only [Plan.unbind, read]
      exact .ask (.ask (.done _))

/-- Credentials that cannot be read are not taken back. -/
theorem unrevoked_of_unnamed
    (revoking : Revoking server binding calls outcome)
    (unnamed : ∀ database username, ¬ NamesUser binding.payload database username) :
    calls = [] ∧ ∃ error, outcome = .error (.unreadableBinding binding.guid error) := by
  cases revoking with
  | unreadable unread =>
      exact ⟨rfl, _, rfl⟩
  | notRevoked read | notDeleted read | revoked read =>
      exact absurd (namesUser_of_credentials read) (unnamed _ _)

/-- A sweep cleans up after each binding, in order. -/
theorem cleanUps_of_sweeping
    {bindings : List ServiceBinding}
    (sweeping : Sweeping server bindings calls) :
    ∃ cleanUps, List.Forall₂ (CleansUp server) bindings cleanUps ∧
      calls = (cleanUps.map Prod.fst).flatten := by
  induction sweeping with
  | nil =>
      exact ⟨[], .nil, rfl⟩
  | @cons binding rest first later outcome revoking sweeping inductionHypothesis =>
      obtain ⟨cleanUps, cleaned, rfl⟩ := inductionHypothesis
      have here : CleansUp server binding (first, outcome) :=
        ⟨yields_of_revoking revoking, unrevoked_of_unnamed revoking⟩
      exact ⟨(first, outcome) :: cleanUps, .cons here cleaned, rfl⟩

end

/-! ## One operation -/

section

variable {broker : Broker} {draws : Draws} {operation : Operation}
variable {stores : List (Exchange storage)} {calls : List (Exchange administration)}
variable {answer : Answer}

/-- A call that takes the credentials of a found binding away names what its payload says. -/
theorem names_of_credentials
    {binding : ServiceBinding}
    (found : operation.Found stores binding)
    {credentials : Credentials}
    (read : project Credentials.codec .blank binding.payload = .ok credentials)
    {call : AdminCall}
    (taken :
      call = .revokeAccess credentials.database credentials.username ∨
        call = .deleteUser credentials.username) :
    operation.Names stores call := by
  have user := namesUser_of_credentials read
  rcases taken with rfl | rfl
  · exact ⟨binding, found, user⟩
  · exact ⟨binding, credentials.database, found, user⟩

/-- The site of a recorded instance has the database that its payload names. -/
theorem namesDatabase_of_planOf
    {record : ServiceInstance}
    {plan : Plan}
    {site : Site}
    (usable : broker.planOf record = .ok (plan, site)) :
    NamesDatabase record.payload site.database :=
  namesDatabase_of_site? (planOf_eq_ok_iff.mp usable).2

/-- A sweep of bindings that were found names only what their payloads say. -/
theorem names_of_sweeping
    {server : Server}
    {bindings : List ServiceBinding}
    {swept : List (Exchange administration)}
    (sweeping : Sweeping server bindings swept)
    (found : ∀ binding ∈ bindings, operation.Found stores binding) :
    ∀ exchange ∈ swept, operation.Names stores exchange.question.call := by
  intro exchange member
  obtain ⟨binding, among, credentials, read, -, taken⟩ := call_of_sweeping sweeping member
  exact names_of_credentials (found binding among) read taken

/-- A removal names the database that the payload of the found record says. -/
theorem names_of_removing
    {site : Site}
    {record : ServiceInstance}
    {outcome : Except Plan.Error Unit}
    (removing : Removing site calls outcome)
    (found : asked (.getInstance operation.instanceId) (.ok record) ∈ stores)
    (database : NamesDatabase record.payload site.database) :
    ∀ exchange ∈ calls, operation.Names stores exchange.question.call := by
  intro exchange member
  cases removing with
  | failed | removed =>
      obtain rfl := List.mem_singleton.mp member
      exact ⟨record, found, database⟩

/-- Creating deletes nothing, so it names nothing that would have to be found. -/
theorem names_of_creating
    {plan : Plan}
    {parameters : Json}
    {outcome : Except Plan.Error Json}
    (creating : plan.Creating draws parameters calls outcome) :
    ∀ exchange ∈ calls, operation.Names stores exchange.question.call := by
  intro exchange member
  cases creating with
  | refused reason =>
      cases member
  | failed | created =>
      obtain rfl := List.mem_singleton.mp member
      trivial

/-- Issuing deletes nothing, so it names nothing that would have to be found. -/
theorem names_of_issuing
    {site : Site}
    {parameters : Json}
    {outcome : Except Plan.Error Json}
    (issuing : Issuing site draws parameters calls outcome) :
    ∀ exchange ∈ calls, operation.Names stores exchange.question.call := by
  intro exchange member
  rcases call_of_issuing issuing with rfl | ⟨credentials, -, calls⟩
  · cases member
  · rcases calls exchange member with same | same | same <;> rw [same] <;> trivial

/-- Whatever an operation deletes has a name in the payload of a record that it found. -/
theorem names_of_proceeding
    (course : Proceeding broker draws operation stores calls answer) :
    ∀ exchange ∈ calls, operation.Names stores exchange.question.call := by
  cases operation with
  | provision id request =>
      cases course with
      | lookUpFailed | unusable | same | different | unknownPlan =>
          exact List.forall_mem_nil _
      | notCreated absent known creating | notRecorded absent known creating
      | provisioned absent known creating =>
          exact names_of_creating creating
  | describe id =>
      cases course <;> exact List.forall_mem_nil _
  | deprovision id =>
      cases course with
      | lookUpFailed | gone | unusable | notListed =>
          exact List.forall_mem_nil _
      | notRemoved usable sweeping removing | notErased usable sweeping removing
      | deprovisioned usable sweeping removing =>
          intro exchange member
          rcases List.mem_append.mp member with swept | deleted
          · refine names_of_sweeping sweeping ?_ exchange swept
            intro binding among
            exact ⟨_, List.mem_cons_of_mem _ List.mem_cons_self, among⟩
          · have database := namesDatabase_of_planOf usable
            exact names_of_removing removing List.mem_cons_self database exchange deleted
  | bind id bindingId request =>
      cases course with
      | lookUpFailed | missing | unusable | bindingLookUpFailed | same | different =>
          exact List.forall_mem_nil _
      | notIssued usable absent issuing | notRecorded usable absent issuing
      | bound usable absent issuing =>
          exact names_of_issuing issuing
  | unbind id bindingId =>
      cases course with
      | lookUpFailed | gone | bindingLookUpFailed | bindingGone | unusable | notErased =>
          exact List.forall_mem_nil _
      | notRevoked usable revoking | unbound usable revoking =>
          intro exchange member
          obtain ⟨credentials, read, -, taken⟩ := call_of_revoking revoking member
          exact names_of_credentials (List.mem_cons_of_mem _ List.mem_cons_self) read taken

/-- An operation that found the record of its instance makes no call unless a plan can use it. -/
theorem usable_of_found_instance
    {record : ServiceInstance}
    {later : List (Exchange storage)}
    (course :
      Proceeding broker draws operation
        (asked (.getInstance operation.instanceId) (.ok record) :: later) calls answer) :
    (calls = [] ∧ operation.Declines answer) ∨
      ∃ plan site, broker.planOf record = .ok (plan, site) := by
  cases operation with
  | provision id request =>
      cases course with
      | unusable =>
          exact Or.inl ⟨rfl, _, rfl⟩
      | same usable | different usable =>
          exact Or.inr ⟨_, _, usable⟩
  | describe id =>
      cases course with
      | described =>
          exact Or.inl ⟨rfl, rfl⟩
  | deprovision id =>
      cases course with
      | unusable =>
          exact Or.inl ⟨rfl, _, rfl⟩
      | notListed usable | notRemoved usable | notErased usable | deprovisioned usable =>
          exact Or.inr ⟨_, _, usable⟩
  | bind id bindingId request =>
      cases course with
      | unusable =>
          exact Or.inl ⟨rfl, _, rfl⟩
      | bindingLookUpFailed usable | same usable | different usable | notIssued usable
      | notRecorded usable | bound usable =>
          exact Or.inr ⟨_, _, usable⟩
  | unbind id bindingId =>
      cases course with
      | bindingLookUpFailed | bindingGone | unusable =>
          exact Or.inl ⟨rfl, _, rfl⟩
      | notErased usable | notRevoked usable | unbound usable =>
          exact Or.inr ⟨_, _, usable⟩

/-- Credentials that name no user are not taken back, and the operation fails. -/
theorem unbinding_of_unnamed
    {id bindingId : String}
    {record : ServiceInstance}
    {binding : ServiceBinding}
    {later : List (Exchange storage)}
    (course :
      Unbinding broker id bindingId
        (asked (.getInstance id) (.ok record) :: asked (.getBinding id bindingId) (.ok binding)
          :: later)
        calls answer)
    (unnamed : ∀ database username, ¬ NamesUser binding.payload database username) :
    calls = [] ∧ ∃ error, answer = .error error := by
  cases course with
  | unusable | notErased =>
      exact ⟨rfl, _, rfl⟩
  | notRevoked usable revoking =>
      exact ⟨(unrevoked_of_unnamed revoking unnamed).1, _, rfl⟩
  | unbound usable revoking =>
      obtain ⟨-, _, impossible⟩ := unrevoked_of_unnamed revoking unnamed
      cases impossible

/--
Deprovisioning calls no server, or cleans up after each listed binding and deletes the database.
-/
theorem cleanUps_of_deprovisioning
    {id : String}
    (course : Deprovisioning broker id stores calls answer) :
    calls = [] ∨ ∃ server bindings cleanUps deletion,
      asked (.getAllBindings id) (.ok bindings) ∈ stores ∧
      List.Forall₂ (CleansUp server) bindings cleanUps ∧
      calls = (cleanUps.map Prod.fst).flatten ++ [deletion] := by
  cases course with
  | lookUpFailed | gone | unusable | notListed =>
      exact Or.inl rfl
  | @notRemoved _ _ site bindings _ _ _ usable sweeping removing
  | @notErased _ _ site bindings _ _ _ usable sweeping removing
  | @deprovisioned _ _ site bindings _ _ usable sweeping removing =>
      obtain ⟨cleanUps, cleaned, rfl⟩ := cleanUps_of_sweeping sweeping
      refine Or.inr ⟨site.server, bindings, cleanUps, ?_⟩
      cases removing
      exact ⟨_, List.mem_cons_of_mem _ List.mem_cons_self, cleaned, rfl⟩

end

/--
Whatever the store returns for records, whatever payloads are in them and however servers
answer, every operation tears down by the payloads of the records that it found.
-/
theorem teardown_by_payloads
    {σ τ : Type}
    (broker : Broker)
    (store : (call : Store.Call) → σ → call.Outcome × σ)
    (server : (question : AdminQuestion) → τ → question.Outcome × τ)
    (draws : Draws)
    (operation : Operation)
    (state : σ × τ) :
    let partner := respond store server
    let exchanges := (broker.perform draws operation).exchanges partner state
    ByPayloads operation (storeCalls exchanges) (serverCalls exchanges)
      ((broker.perform draws operation).run partner state).1 := by
  intro partner exchanges
  have course : Proceeding broker draws operation
      (storeCalls exchanges) (serverCalls exchanges)
      ((broker.perform draws operation).run partner state).1 :=
    proceeding_of_yields (yields_exchanges (P := surroundings) partner _ state)
  refine {
    named := names_of_proceeding course
    unnamedDatabase := ?_
    unnamedUser := ?_
    cleanedUp := ?_
  }
  · intro record later found unnamed
    rw [found] at course
    rcases usable_of_found_instance course with quiet | ⟨plan, site, usable⟩
    · exact quiet
    · exact absurd (namesDatabase_of_planOf usable) (unnamed _)
  · rintro id bindingId rfl record binding later found unnamed
    rw [found] at course
    exact unbinding_of_unnamed course unnamed
  · rintro id rfl
    exact cleanUps_of_deprovisioning course

/-- A store with an instance and a binding of it, both of which have no payload. -/
def unnamedRecords : Memory :=
  let instances :=
    (Memory.empty.answer (.addInstance "i1" ⟨"i1", "shared", "org", "space", "service", .null⟩)).2
  (instances.answer (.addBinding "i1" "b1" ⟨"b1", .null⟩)).2

/-- An instance is torn down although it names neither its database nor the user of its binding. -/
theorem deprovision_deletes_unnamed :
    let partner := respond Memory.answer (World.answer World.unfailing)
    let state : Memory × (World × Unit) := (unnamedRecords, (fun _ => ⟨[], []⟩, ()))
    let deprovisioning := soleServer.perform plainDraws (.deprovision "i1")
    (serverCalls (deprovisioning.exchanges (P := surroundings) partner state)).map
        (fun exchange => exchange.question.call) =
      [.revokeAccess "" "", .deleteUser "", .deleteDatabase ""] ∧
      (deprovisioning.run (P := surroundings) partner state).1 = .ok .deprovisioned := by
  intro partner state deprovisioning
  exact ⟨rfl, rfl⟩

end GraphBroker.Broker
