import GraphBroker.Proofs.Broker.Course
import GraphBroker.Proofs.Store.Vault

namespace GraphBroker.Broker

open Dialogue Store Plan

/-!
# What failures leave behind

A store may fail, or hold what it cannot read.  The broker asks it everything it
needs to know before it turns to a server, so that such a failure comes to nothing
but an answer.  A call on a server may fail after that, and then the records are
still as they were, with one exception: a binding is deleted before its user is.
-/

/-- A call that the broker makes before it turns to a server. -/
def guards : Call → Bool
  | .deleteBinding _ _ => true
  | call => call.reads

/-- The instance that an operation is about. -/
def Operation.instanceId : Operation → String
  | .provision id _ | .describe id | .deprovision id | .bind id _ _ | .unbind id _ => id

/-- An operation looks a binding up, by itself or among all of its instance. -/
def Operation.LooksUp (bindingId : String) : Operation → Prop
  | .provision _ _ | .describe _ => False
  | .deprovision _ => True
  | .bind _ other _ | .unbind _ other => other = bindingId

/-- What an operation that ended in an error leaves behind. -/
def Error.Leaves (operation : Operation) (before after : Contents ι β) : Error → Prop
  | .notRevoked _ =>
      ∃ id bindingId,
        operation = .unbind id bindingId ∧
          before.binding? id bindingId ≠ none ∧ after = before.without id bindingId
  | _ => after = before

/-- An operation goes about its failures with caution. -/
structure Cautious
    (reading : Reading ι β)
    (operation : Operation)
    (before : Contents ι β)
    (stores : List (Exchange storage))
    (calls : List (Exchange administration))
    (answer : Answer)
    (after : Contents ι β) :
    Prop where
  /-- If a look-up fails, or the deletion of a binding, no server is called. -/
  guarded :
    ∀ {call error},
      asked call (.error error) ∈ stores →
      guards call = true →
      error.isNotFound = false →
      answer = .error (.store error) ∧ calls = []
  /-- An error leaves every record as it was, but for a binding whose user could not be taken back. -/
  intact :
    ∀ {error},
      answer = .error error →
      error.Leaves operation before after
  /-- An instance that cannot be read is not taken for one that is not there. -/
  unreadableInstance :
    ∀ {held corrupt},
      before.instance? operation.instanceId = some held →
      reading.readInstance held = .error corrupt →
      ∃ error, error.isNotFound = false ∧
        answer = .error (.store error) ∧ calls = [] ∧ after = before
  /-- A binding that cannot be read is not taken for one that is not there. -/
  unreadableBinding :
    ∀ {bindingId held corrupt},
      operation.LooksUp bindingId →
      before.binding? operation.instanceId bindingId = some held →
      reading.readBinding held = .error corrupt →
      ∃ error, error ≠ .bindingGone bindingId ∧
        answer = .error error ∧ calls = [] ∧ after = before

section

variable {broker : Broker} {draws : Draws} {id bindingId : String}
variable {stores : List (Exchange storage)} {calls : List (Exchange administration)}
variable {answer : Answer}

/-- A call that failed comes after one that found something. -/
theorem later_of_found
    {call other : Call}
    {error : Store.Error}
    {reply : other.Reply}
    {rest : List (Exchange storage)}
    (member : asked call (.error error) ∈ asked other (.ok reply) :: rest) :
    asked call (.error error) ∈ rest := by
  rcases List.mem_cons.mp member with first | later
  · cases first
  · exact later

/-- A call that failed comes after one that found nothing. -/
theorem later_of_absent
    {call other : Call}
    {error unfound : Store.Error}
    {rest : List (Exchange storage)}
    (absent : unfound.isNotFound = true)
    (failed : error.isNotFound = false)
    (member : asked call (.error error) ∈ asked other (.error unfound) :: rest) :
    asked call (.error error) ∈ rest := by
  rcases List.mem_cons.mp member with first | later
  · cases first
    rw [absent] at failed
    cases failed
  · exact later

/--
When a guarding look-up of provisioning fails, its error is the answer and no server is called.
-/
theorem guarded_of_provisioning
    {request : Api.ProvisionRequest}
    (course : Provisioning broker draws id request stores calls answer)
    {call : Call}
    {error : Store.Error}
    (member : asked call (.error error) ∈ stores)
    (guarding : guards call = true)
    (failed : error.isNotFound = false) :
    answer = .error (.store error) ∧ calls = [] := by
  cases course with
  | lookUpFailed unfound =>
      cases List.mem_singleton.mp member
      exact ⟨rfl, rfl⟩
  | unusable unusable | same usable fitting | different usable unfitting =>
      cases later_of_found member
  | unknownPlan absent unknown | notCreated absent known creating =>
      cases later_of_absent absent failed member
  | notRecorded absent known creating | provisioned absent known creating =>
      have last := later_of_absent absent failed member
      cases List.mem_singleton.mp last <;> cases guarding

/-- When a look-up of describing fails, its error is the answer and no server is called. -/
theorem guarded_of_describing
    (course : Describing id stores calls answer)
    {call : Call}
    {error : Store.Error}
    (member : asked call (.error error) ∈ stores)
    (failed : error.isNotFound = false) :
    answer = .error (.store error) ∧ calls = [] := by
  cases course with
  | lookUpFailed unfound =>
      cases List.mem_singleton.mp member
      exact ⟨rfl, rfl⟩
  | absent absent =>
      cases later_of_absent absent failed member
  | described =>
      cases later_of_found member

/--
When a guarding look-up of deprovisioning fails, its error is the answer and no server is
called.
-/
theorem guarded_of_deprovisioning
    (course : Deprovisioning broker id stores calls answer)
    {call : Call}
    {error : Store.Error}
    (member : asked call (.error error) ∈ stores)
    (guarding : guards call = true)
    (failed : error.isNotFound = false) :
    answer = .error (.store error) ∧ calls = [] := by
  cases course with
  | lookUpFailed unfound =>
      cases List.mem_singleton.mp member
      exact ⟨rfl, rfl⟩
  | gone absent =>
      cases later_of_absent absent failed member
  | unusable unusable =>
      cases later_of_found member
  | notListed usable =>
      cases List.mem_singleton.mp (later_of_found member)
      exact ⟨rfl, rfl⟩
  | notRemoved usable sweeping removing =>
      cases later_of_found (later_of_found member)
  | notErased usable sweeping removing | deprovisioned usable sweeping removing =>
      have last := later_of_found (later_of_found member)
      cases List.mem_singleton.mp last <;> cases guarding

/-- When a guarding look-up of binding fails, its error is the answer and no server is called. -/
theorem guarded_of_binding
    {request : Api.BindRequest}
    (course : Binding broker draws id bindingId request stores calls answer)
    {call : Call}
    {error : Store.Error}
    (member : asked call (.error error) ∈ stores)
    (guarding : guards call = true)
    (failed : error.isNotFound = false) :
    answer = .error (.store error) ∧ calls = [] := by
  cases course with
  | lookUpFailed unfound =>
      cases List.mem_singleton.mp member
      exact ⟨rfl, rfl⟩
  | missing absent =>
      cases later_of_absent absent failed member
  | unusable unusable =>
      cases later_of_found member
  | bindingLookUpFailed usable unfound =>
      cases List.mem_singleton.mp (later_of_found member)
      exact ⟨rfl, rfl⟩
  | same usable fitting | different usable unfitting =>
      cases later_of_found (later_of_found member)
  | notIssued usable absent issuing =>
      cases later_of_absent absent failed (later_of_found member)
  | notRecorded usable absent issuing | bound usable absent issuing =>
      have last := later_of_absent absent failed (later_of_found member)
      cases List.mem_singleton.mp last <;> cases guarding

/-- When a look-up of unbinding fails, its error is the answer and no server is called. -/
theorem guarded_of_unbinding
    (course : Unbinding broker id bindingId stores calls answer)
    {call : Call}
    {error : Store.Error}
    (member : asked call (.error error) ∈ stores)
    (failed : error.isNotFound = false) :
    answer = .error (.store error) ∧ calls = [] := by
  cases course with
  | lookUpFailed unfound =>
      cases List.mem_singleton.mp member
      exact ⟨rfl, rfl⟩
  | gone absent =>
      cases later_of_absent absent failed member
  | bindingLookUpFailed unfound =>
      cases List.mem_singleton.mp (later_of_found member)
      exact ⟨rfl, rfl⟩
  | bindingGone absent =>
      cases later_of_absent absent failed (later_of_found member)
  | unusable unusable =>
      cases later_of_found (later_of_found member)
  | notErased usable =>
      cases List.mem_singleton.mp (later_of_found (later_of_found member))
      exact ⟨rfl, rfl⟩
  | notRevoked usable revoking | unbound usable revoking =>
      cases later_of_found (later_of_found (later_of_found member))

/-- If a look-up fails, or the deletion of a binding, that is the answer and no server is called. -/
theorem guarded_of_proceeding
    {operation : Operation}
    (course : Proceeding broker draws operation stores calls answer)
    {call : Call}
    {error : Store.Error}
    (member : asked call (.error error) ∈ stores)
    (guarding : guards call = true)
    (failed : error.isNotFound = false) :
    answer = .error (.store error) ∧ calls = [] := by
  cases operation with
  | provision id request =>
      exact guarded_of_provisioning course member guarding failed
  | describe id =>
      exact guarded_of_describing course member failed
  | deprovision id =>
      exact guarded_of_deprovisioning course member guarding failed
  | bind id bindingId request =>
      exact guarded_of_binding course member guarding failed
  | unbind id bindingId =>
      exact guarded_of_unbinding course member failed

end

/-! ## What is left of the records -/

/-- A call looks something up, or it fails. -/
inductive Harmless : Exchange storage → Prop where
  | reads {call : Call} {outcome : call.Outcome} (reads : call.reads = true) :
      Harmless (asked call outcome)
  | fails {call : Call} {error : Store.Error} :
      Harmless (asked call (.error error))

section

variable {broker : Broker} {draws : Draws} {operation : Operation} {id bindingId : String}
variable {stores : List (Exchange storage)} {calls : List (Exchange administration)}
variable {answer : Answer} {reading : Reading ι β} {before after : Contents ι β}

/-- Calls that look something up or fail leave everything as it is. -/
theorem unchanged_of_harmless
    (leads : Leads (P := storage) (Honest reading) before stores after)
    (harmless : ∀ exchange ∈ stores, Harmless exchange) :
    after = before := by
  let same (contents : Contents ι β) : Prop := contents = before
  have step (exchange : Exchange storage) (member : exchange ∈ stores)
      {earlier later : Contents ι β}
      (honest : Honest reading exchange.question earlier exchange.reply later)
      (unchanged : same earlier) :
      same later := by
    cases harmless exchange member with
    | reads reads =>
        exact (honest.unchanged_of_reads reads).trans unchanged
    | fails =>
        exact honest.unchanged_of_error.trans unchanged
  have kept : same after := leads.preserves step rfl
  exact kept

/-- A look-up before harmless calls is harmless too. -/
theorem harmless_cons
    {call : Call}
    {outcome : call.Outcome}
    {rest : List (Exchange storage)}
    (reads : call.reads = true)
    (harmless : ∀ exchange ∈ rest, Harmless exchange) :
    ∀ exchange ∈ asked call outcome :: rest, Harmless exchange :=
  List.forall_mem_cons.mpr ⟨.reads reads, harmless⟩

/-- An operation that fails has made no record and deleted none, unless a user is left of a binding. -/
theorem harmless_of_proceeding
    {error : Error}
    (course : Proceeding broker draws operation stores calls (.error error))
    (revoked : ∀ failure, error ≠ .notRevoked failure) :
    ∀ exchange ∈ stores, Harmless exchange := by
  have failed (call : Call) (error : Store.Error) :
      ∀ exchange ∈ [asked call (.error error)], Harmless exchange :=
    List.forall_mem_singleton.mpr .fails
  have looked {call : Call} {outcome : call.Outcome} (reads : call.reads = true) :
      ∀ exchange ∈ [asked call outcome], Harmless exchange :=
    List.forall_mem_singleton.mpr (.reads reads)
  cases operation with
  | provision id request =>
      cases course with
      | lookUpFailed | unusable | different | unknownPlan | notCreated =>
          exact looked rfl
      | notRecorded =>
          exact harmless_cons rfl (failed _ _)
  | describe id =>
      cases course with
      | lookUpFailed | absent =>
          exact looked rfl
  | deprovision id =>
      cases course with
      | lookUpFailed | gone | unusable =>
          exact looked rfl
      | notListed | notRemoved =>
          exact harmless_cons rfl (looked rfl)
      | notErased =>
          exact harmless_cons rfl (harmless_cons rfl (failed _ _))
  | bind id bindingId request =>
      cases course with
      | lookUpFailed | missing | unusable =>
          exact looked rfl
      | bindingLookUpFailed | different | notIssued =>
          exact harmless_cons rfl (looked rfl)
      | notRecorded =>
          exact harmless_cons rfl (harmless_cons rfl (failed _ _))
  | unbind id bindingId =>
      cases course with
      | lookUpFailed | gone =>
          exact looked rfl
      | bindingLookUpFailed | bindingGone | unusable =>
          exact harmless_cons rfl (looked rfl)
      | notErased =>
          exact harmless_cons rfl (harmless_cons rfl (failed _ _))
      | notRevoked =>
          exact absurd rfl (revoked _)

/-- A recorded instance cannot be used if its plan is not offered or cannot read its payload. -/
theorem cause_of_unusable
    {record : ServiceInstance}
    {error : Error}
    (unusable : broker.planOf record = .error error) :
    error = .planMissing record.planId record.guid ∨ ∃ failure, error = .plan failure := by
  unfold planOf at unusable
  split at unusable
  · cases unusable
    exact Or.inl rfl
  · split at unusable
    · cases unusable
    · cases unusable
      exact Or.inr ⟨_, rfl⟩

/-- A binding whose user could not be taken back is gone, and nothing else is. -/
theorem erased_of_notRevoked
    {failure : Plan.Error}
    (course : Proceeding broker draws operation stores calls (.error (.notRevoked failure)))
    (leads : Leads (P := storage) (Honest reading) before stores after) :
    ∃ id bindingId,
      operation = .unbind id bindingId ∧
        before.binding? id bindingId ≠ none ∧ after = before.without id bindingId := by
  cases operation with
  | describe id =>
      cases course
  | provision id request | deprovision id | bind id bindingId request =>
      cases course with
      | unusable unusable =>
          rcases cause_of_unusable unusable with impossible | ⟨_, impossible⟩ <;> cases impossible
  | unbind id bindingId =>
      cases course with
      | unusable unusable =>
          rcases cause_of_unusable unusable with impossible | ⟨_, impossible⟩ <;> cases impossible
      | notRevoked usable revoking =>
          obtain ⟨_, looked, _, searched, _, erased, rfl⟩ := leads
          obtain rfl := looked.unchanged_of_reads rfl
          obtain rfl := searched.unchanged_of_reads rfl
          exact ⟨id, bindingId, rfl, erased⟩

end

/-! ## What cannot be read -/

section

variable {broker : Broker} {draws : Draws} {operation : Operation} {bindingId : String}
variable {stores : List (Exchange storage)} {calls : List (Exchange administration)}
variable {answer : Answer} {reading : Reading ι β} {before after : Contents ι β}
variable {corrupt : CorruptRecord}

/-- The first call of every operation looks its instance up. -/
theorem instance_first
    (course : Proceeding broker draws operation stores calls answer) :
    ∃ outcome rest, stores = asked (.getInstance operation.instanceId) outcome :: rest := by
  cases operation <;> cases course <;> exact ⟨_, _, rfl⟩

/-- What cannot be read is not found, and not missed either. -/
theorem error_of_unreadable_record
    {call : Call}
    {outcome : call.Outcome}
    (honest : Honest reading call before outcome after)
    (unreadable : reading.Fails before call) :
    ∃ error, outcome = .error error ∧ error.isNotFound = false := by
  cases call with
  | getInstance id | getBinding id bindingId =>
      obtain ⟨held, corrupt, recorded, unread⟩ := unreadable
      cases outcome with
      | ok record =>
          obtain ⟨_, found, present, read⟩ := honest
          rw [recorded] at present
          cases present
          rw [unread] at read
          cases read
      | error error =>
          refine ⟨error, rfl, ?_⟩
          cases missed : error.isNotFound with
          | false =>
              rfl
          | true =>
              rw [honest.2 missed] at recorded
              cases recorded
  | _ =>
      exact unreadable.elim

/-- A record that cannot be read makes the second look-up fail, and not as if it were absent. -/
theorem error_of_unreadable_next
    {id : String}
    {record : ServiceInstance}
    {held : β}
    {outcome : (Call.getBinding id bindingId).Outcome}
    {rest : List (Exchange storage)}
    (leads :
      Leads (P := storage) (Honest reading) before
        (asked (.getInstance id) (.ok record) :: asked (.getBinding id bindingId) outcome :: rest)
        after)
    (recorded : before.binding? id bindingId = some held)
    (unreadable : reading.readBinding held = .error corrupt) :
    ∃ error, outcome = .error error ∧ error.isNotFound = false := by
  obtain ⟨_, looked, _, searched, _⟩ := leads
  obtain rfl := looked.unchanged_of_reads rfl
  exact error_of_unreadable_record searched ⟨held, corrupt, recorded, unreadable⟩

/-- An operation that looks an unreadable binding up fails there or before, and not as if it were gone. -/
theorem error_of_unreadable
    {held : β}
    (course : Proceeding broker draws operation stores calls answer)
    (leads : Leads (P := storage) (Honest reading) before stores after)
    (looking : operation.LooksUp bindingId)
    (recorded : before.binding? operation.instanceId bindingId = some held)
    (unreadable : reading.readBinding held = .error corrupt) :
    ∃ error, error ≠ .bindingGone bindingId ∧ (∀ failure, error ≠ .notRevoked failure) ∧
      answer = .error error ∧ calls = [] := by
  have other_cause {record : ServiceInstance} {error : Error}
      (unusable : broker.planOf record = .error error) :
      error ≠ .bindingGone bindingId ∧ ∀ failure, error ≠ .notRevoked failure := by
    rcases cause_of_unusable unusable with rfl | ⟨failure, rfl⟩ <;> simp
  cases operation with
  | provision id request | describe id =>
      exact looking.elim
  | deprovision id =>
      cases course with
      | lookUpFailed | gone | notListed =>
          exact ⟨_, by simp, by simp, rfl, rfl⟩
      | unusable unusable =>
          have cause := other_cause unusable
          exact ⟨_, cause.1, cause.2, rfl, rfl⟩
      | notRemoved | notErased | deprovisioned =>
          obtain ⟨_, looked, _, listed, _⟩ := leads
          obtain rfl := looked.unchanged_of_reads rfl
          obtain ⟨record, read⟩ := listed.2 bindingId held recorded
          rw [unreadable] at read
          cases read
  | bind id other request =>
      obtain rfl : other = bindingId := looking
      cases course with
      | lookUpFailed | missing | bindingLookUpFailed =>
          exact ⟨_, by simp, by simp, rfl, rfl⟩
      | unusable unusable =>
          have cause := other_cause unusable
          exact ⟨_, cause.1, cause.2, rfl, rfl⟩
      | same | different =>
          obtain ⟨_, impossible, _⟩ := error_of_unreadable_next leads recorded unreadable
          cases impossible
      | notIssued usable absent | notRecorded usable absent | bound usable absent =>
          obtain ⟨_, same, failed⟩ := error_of_unreadable_next leads recorded unreadable
          cases same
          rw [absent] at failed
          cases failed
  | unbind id other =>
      obtain rfl : other = bindingId := looking
      cases course with
      | lookUpFailed | gone | bindingLookUpFailed =>
          exact ⟨_, by simp, by simp, rfl, rfl⟩
      | bindingGone absent =>
          obtain ⟨_, same, failed⟩ := error_of_unreadable_next leads recorded unreadable
          cases same
          rw [absent] at failed
          cases failed
      | unusable | notErased | notRevoked | unbound =>
          obtain ⟨_, impossible, _⟩ := error_of_unreadable_next leads recorded unreadable
          cases impossible

end

/--
Whatever is in a store, readable or not, whichever of its calls fail and however
servers answer, every operation is cautious about failures.
-/
theorem cautious_of_failures
    {τ : Type}
    (broker : Broker)
    (vault : Vault)
    (server : (question : AdminQuestion) → τ → question.Outcome × τ)
    (draws : Draws)
    (operation : Operation)
    (state : vault.State × τ) :
    let partner := respond vault.answer server
    let exchanges := (broker.perform draws operation).exchanges partner state
    let result := (broker.perform draws operation).run partner state
    Cautious vault.reading operation (vault.contents state.1)
      (storeCalls exchanges) (serverCalls exchanges) result.1 (vault.contents result.2.1) := by
  intro partner exchanges result
  have course : Proceeding broker draws operation
      (storeCalls exchanges) (serverCalls exchanges) result.1 :=
    proceeding_of_yields (yields_exchanges (P := surroundings) partner _ state)
  have leads : Leads (P := storage) (Honest vault.reading) (vault.contents state.1)
      (storeCalls exchanges) (vault.contents result.2.1) :=
    leads_store vault.honest server (broker.perform draws operation) state
  have intact {error : Error} (failing : result.1 = .error error) :
      error.Leaves operation (vault.contents state.1) (vault.contents result.2.1) := by
    rw [failing] at course
    cases error with
    | notRevoked failure =>
        exact erased_of_notRevoked course leads
    | _ =>
        exact unchanged_of_harmless leads (harmless_of_proceeding course (by simp))
  refine {
    guarded := fun member guarding failed => guarded_of_proceeding course member guarding failed
    intact := intact
    unreadableInstance := ?_
    unreadableBinding := ?_
  }
  · intro held corrupt recorded unreadable
    obtain ⟨outcome, rest, first⟩ := instance_first course
    have looked := leads
    rw [first] at looked
    obtain ⟨_, honest, _⟩ := looked
    obtain ⟨error, rfl, failed⟩ : ∃ error, outcome = .error error ∧ error.isNotFound = false :=
      error_of_unreadable_record honest ⟨held, corrupt, recorded, unreadable⟩
    have member : asked (.getInstance operation.instanceId) (.error error) ∈ storeCalls exchanges := by
      rw [first]
      exact List.mem_cons_self ..
    obtain ⟨failing, uncalled⟩ := guarded_of_proceeding course member rfl failed
    exact ⟨error, failed, failing, uncalled, intact failing⟩
  · intro bindingId held corrupt looking recorded unreadable
    obtain ⟨error, present, revoked, failing, uncalled⟩ :=
      error_of_unreadable course leads looking recorded unreadable
    rw [failing] at course
    have unchanged := unchanged_of_harmless leads (harmless_of_proceeding course revoked)
    exact ⟨error, present, failing, uncalled, unchanged⟩

end GraphBroker.Broker
