import GraphBroker.Proofs.Broker.Course

namespace GraphBroker.Broker

open Store Plan

/-!
# What an operation does

A course lists every call on the store.  What matters to the records is less:
most courses leave them alone, and the others end in one call that adds or
deletes a record.  A turn says what an operation did to the servers and to the
records, together with what it had found on record before.
-/

/-- An operation may succeed in this way although nothing was left to do. -/
def Success.Idle : Operation → Success → Prop
  | .provision _ _, .alreadyProvisioned => True
  | .describe _, .described => True
  | .bind _ _ _, .alreadyBound _ => True
  | _, _ => False

/-- An answer to an operation by which nothing was done to a server or to a record. -/
def Answer.Quiet (operation : Operation) : Answer → Prop
  | .ok success => success.Idle operation
  | .error (.instanceNotRecorded _ _) | .error (.instanceNotErased _ _) => False
  | .error (.bindingNotRecorded _ _) | .error (.notRevoked _) => False
  | .error _ => True

/--
What an operation did: its calls on servers, its answer, and the records after
it.  The outcome of the one call that changes a record, if there is one, is what
the store allows.
-/
inductive Turn (broker : Broker) (draws : Draws) (before : Memory) :
    Operation → List (Exchange administration) → Answer → Memory → Prop where
  | idle {operation : Operation} {answer : Answer}
      (quiet : answer.Quiet operation) :
      Turn broker draws before operation [] answer before
  | notCreated {id : String} {request : Api.ProvisionRequest} {plan : Plan}
      {calls : List (Exchange administration)} {failure : Plan.Error}
      (creating : plan.Creating draws request.parameters calls (.error failure)) :
      Turn broker draws before (.provision id request) calls (.error (.plan failure)) before
  | instanceNotRecorded {id : String} {request : Api.ProvisionRequest} {plan : Plan}
      {calls : List (Exchange administration)} {payload : Json} {lost : Store.Error}
      (creating : plan.Creating draws request.parameters calls (.ok payload)) :
      Turn broker draws before (.provision id request) calls
        (.error (.instanceNotRecorded id lost)) before
  | provisioned {id : String} {request : Api.ProvisionRequest} {plan : Plan}
      {calls : List (Exchange administration)} {payload : Json} {after : Memory}
      (known : broker.plans.find? request.planId = some plan)
      (creating : plan.Creating draws request.parameters calls (.ok payload))
      (added : Allows (.addInstance id (recordFor id request payload)) before (.ok ()) after) :
      Turn broker draws before (.provision id request) calls (.ok .provisioned) after
  /-- The users of the bindings are taken back as far as that works; the records stay. -/
  | notRemoved {id : String} {record : ServiceInstance} {plan : Plan} {site : Site}
      {bindings : List ServiceBinding} {swept calls : List (Exchange administration)}
      {failure : Plan.Error}
      (recorded : before.instance? id = some record)
      (usable : broker.planOf record = .ok (plan, site))
      (listed : ∀ {binding},
        binding ∈ bindings ↔ ∃ bindingId, before.binding? id bindingId = some binding)
      (sweeping : Sweeping site.server bindings swept)
      (removing : Removing site calls (.error failure)) :
      Turn broker draws before (.deprovision id) (swept ++ calls) (.error (.plan failure)) before
  | instanceNotErased {id : String} {record : ServiceInstance} {plan : Plan} {site : Site}
      {bindings : List ServiceBinding} {swept calls : List (Exchange administration)}
      {lost : Store.Error}
      (recorded : before.instance? id = some record)
      (usable : broker.planOf record = .ok (plan, site))
      (listed : ∀ {binding},
        binding ∈ bindings ↔ ∃ bindingId, before.binding? id bindingId = some binding)
      (sweeping : Sweeping site.server bindings swept)
      (removing : Removing site calls (.ok ())) :
      Turn broker draws before (.deprovision id) (swept ++ calls)
        (.error (.instanceNotErased id lost)) before
  | deprovisioned {id : String} {record : ServiceInstance} {plan : Plan} {site : Site}
      {bindings : List ServiceBinding} {swept calls : List (Exchange administration)}
      {after : Memory}
      (recorded : before.instance? id = some record)
      (usable : broker.planOf record = .ok (plan, site))
      (listed : ∀ {binding},
        binding ∈ bindings ↔ ∃ bindingId, before.binding? id bindingId = some binding)
      (sweeping : Sweeping site.server bindings swept)
      (removing : Removing site calls (.ok ()))
      (erased : Allows (.deleteInstance id) before (.ok ()) after) :
      Turn broker draws before (.deprovision id) (swept ++ calls) (.ok .deprovisioned) after
  | notIssued {id bindingId : String} {request : Api.BindRequest} {record : ServiceInstance}
      {plan : Plan} {site : Site} {calls : List (Exchange administration)} {failure : Plan.Error}
      (recorded : before.instance? id = some record)
      (usable : broker.planOf record = .ok (plan, site))
      (issuing : Issuing site draws request.parameters calls (.error failure)) :
      Turn broker draws before (.bind id bindingId request) calls (.error (.plan failure)) before
  | bindingNotRecorded {id bindingId : String} {request : Api.BindRequest}
      {record : ServiceInstance} {plan : Plan} {site : Site}
      {calls : List (Exchange administration)} {payload : Json} {lost : Store.Error}
      (recorded : before.instance? id = some record)
      (usable : broker.planOf record = .ok (plan, site))
      (issuing : Issuing site draws request.parameters calls (.ok payload)) :
      Turn broker draws before (.bind id bindingId request) calls
        (.error (.bindingNotRecorded bindingId lost)) before
  | bound {id bindingId : String} {request : Api.BindRequest} {record : ServiceInstance}
      {plan : Plan} {site : Site} {calls : List (Exchange administration)} {payload : Json}
      {after : Memory}
      (recorded : before.instance? id = some record)
      (usable : broker.planOf record = .ok (plan, site))
      (issuing : Issuing site draws request.parameters calls (.ok payload))
      (added : Allows (.addBinding id bindingId ⟨bindingId, payload⟩) before (.ok ()) after) :
      Turn broker draws before (.bind id bindingId request) calls (.ok (.bound payload)) after
  /-- The record is gone, but not the user. -/
  | notRevoked {id bindingId : String} {record : ServiceInstance} {plan : Plan} {site : Site}
      {binding : ServiceBinding} {calls : List (Exchange administration)} {failure : Plan.Error}
      {after : Memory}
      (recorded : before.instance? id = some record)
      (usable : broker.planOf record = .ok (plan, site))
      (held : before.binding? id bindingId = some binding)
      (erased : Allows (.deleteBinding id bindingId) before (.ok ()) after)
      (revoking : Revoking site.server binding calls (.error failure)) :
      Turn broker draws before (.unbind id bindingId) calls (.error (.notRevoked failure)) after
  | unbound {id bindingId : String} {record : ServiceInstance} {plan : Plan} {site : Site}
      {binding : ServiceBinding} {calls : List (Exchange administration)} {after : Memory}
      (recorded : before.instance? id = some record)
      (usable : broker.planOf record = .ok (plan, site))
      (held : before.binding? id bindingId = some binding)
      (erased : Allows (.deleteBinding id bindingId) before (.ok ()) after)
      (revoking : Revoking site.server binding calls (.ok ())) :
      Turn broker draws before (.unbind id bindingId) calls (.ok .unbound) after

/-- A recorded instance whose plan or site cannot be found leaves everything alone. -/
theorem quiet_of_unusable
    {broker : Broker}
    {operation : Operation}
    {record : ServiceInstance}
    {error : Error}
    (unusable : broker.planOf record = .error error) :
    Answer.Quiet operation (.error error) := by
  unfold planOf at unusable
  split at unusable
  · cases unusable
    trivial
  · split at unusable
    · cases unusable
    · cases unusable
      trivial

section

variable {broker : Broker} {draws : Draws} {id bindingId : String}
variable {stores : List (Exchange storage)} {calls : List (Exchange administration)}
variable {answer : Answer} {before after : Memory}

/-- A call that looks something up is followed by the others with the same records. -/
theorem looked_first
    {call : Store.Call}
    {outcome : call.Outcome}
    (reads : call.reads = true)
    (leads : Leads (P := storage) Allows before (asked call outcome :: stores) after) :
    Allows call before outcome before ∧ Leads (P := storage) Allows before stores after :=
  leads_of_reads (fun allowed => allowed) reads leads

/-- Provisioning is one turn of the broker. -/
theorem turn_of_provisioning
    {request : Api.ProvisionRequest}
    (course : Provisioning broker draws id request stores calls answer)
    (leads : Leads (P := storage) Allows before stores after) :
    Turn broker draws before (.provision id request) calls answer after := by
  cases course with
  | lookUpFailed failed | same usable fitting | different usable unfitting
  | unknownPlan absent unknown =>
      obtain ⟨_, rfl⟩ := looked_first rfl leads
      exact .idle trivial
  | unusable unusable =>
      obtain ⟨_, rfl⟩ := looked_first rfl leads
      exact .idle (quiet_of_unusable unusable)
  | notCreated absent known creating =>
      obtain ⟨_, rfl⟩ := looked_first rfl leads
      exact .notCreated creating
  | notRecorded absent known creating =>
      obtain ⟨_, _, failed, rfl⟩ := looked_first rfl leads
      rw [failed.unchanged_of_error]
      exact .instanceNotRecorded creating
  | provisioned absent known creating =>
      obtain ⟨_, _, added, rfl⟩ := looked_first rfl leads
      exact .provisioned known creating added

/-- Describing is one turn of the broker. -/
theorem turn_of_describing
    (course : Describing id stores calls answer)
    (leads : Leads (P := storage) Allows before stores after) :
    Turn broker draws before (.describe id) calls answer after := by
  cases course with
  | lookUpFailed failed | absent absent | described =>
      obtain ⟨_, rfl⟩ := looked_first rfl leads
      exact .idle trivial

/-- Deprovisioning is one turn of the broker. -/
theorem turn_of_deprovisioning
    (course : Deprovisioning broker id stores calls answer)
    (leads : Leads (P := storage) Allows before stores after) :
    Turn broker draws before (.deprovision id) calls answer after := by
  cases course with
  | lookUpFailed failed | gone absent =>
      obtain ⟨_, rfl⟩ := looked_first rfl leads
      exact .idle trivial
  | unusable unusable =>
      obtain ⟨_, rfl⟩ := looked_first rfl leads
      exact .idle (quiet_of_unusable unusable)
  | notListed usable =>
      obtain ⟨_, next⟩ := looked_first rfl leads
      obtain ⟨_, rfl⟩ := looked_first rfl next
      exact .idle trivial
  | notRemoved usable sweeping removing =>
      obtain ⟨looked, next⟩ := looked_first rfl leads
      obtain ⟨listing, rfl⟩ := looked_first rfl next
      exact .notRemoved looked.found_instance usable listing.listed_bindings sweeping removing
  | notErased usable sweeping removing =>
      obtain ⟨looked, next⟩ := looked_first rfl leads
      obtain ⟨listing, _, failed, rfl⟩ := looked_first rfl next
      rw [failed.unchanged_of_error]
      exact .instanceNotErased looked.found_instance usable listing.listed_bindings sweeping
        removing
  | deprovisioned usable sweeping removing =>
      obtain ⟨looked, next⟩ := looked_first rfl leads
      obtain ⟨listing, _, erased, rfl⟩ := looked_first rfl next
      exact .deprovisioned looked.found_instance usable listing.listed_bindings sweeping removing
        erased

/-- Binding is one turn of the broker. -/
theorem turn_of_binding
    {request : Api.BindRequest}
    (course : Binding broker draws id bindingId request stores calls answer)
    (leads : Leads (P := storage) Allows before stores after) :
    Turn broker draws before (.bind id bindingId request) calls answer after := by
  cases course with
  | lookUpFailed failed | missing absent =>
      obtain ⟨_, rfl⟩ := looked_first rfl leads
      exact .idle trivial
  | unusable unusable =>
      obtain ⟨_, rfl⟩ := looked_first rfl leads
      exact .idle (quiet_of_unusable unusable)
  | bindingLookUpFailed usable failed | same usable fitting | different usable unfitting =>
      obtain ⟨_, next⟩ := looked_first rfl leads
      obtain ⟨_, rfl⟩ := looked_first rfl next
      exact .idle trivial
  | notIssued usable absent issuing =>
      obtain ⟨looked, next⟩ := looked_first rfl leads
      obtain ⟨_, rfl⟩ := looked_first rfl next
      exact .notIssued looked.found_instance usable issuing
  | notRecorded usable absent issuing =>
      obtain ⟨looked, next⟩ := looked_first rfl leads
      obtain ⟨_, _, failed, rfl⟩ := looked_first rfl next
      rw [failed.unchanged_of_error]
      exact .bindingNotRecorded looked.found_instance usable issuing
  | bound usable absent issuing =>
      obtain ⟨looked, next⟩ := looked_first rfl leads
      obtain ⟨_, _, added, rfl⟩ := looked_first rfl next
      exact .bound looked.found_instance usable issuing added

/-- Unbinding is one turn of the broker. -/
theorem turn_of_unbinding
    (course : Unbinding broker id bindingId stores calls answer)
    (leads : Leads (P := storage) Allows before stores after) :
    Turn broker draws before (.unbind id bindingId) calls answer after := by
  cases course with
  | lookUpFailed failed | gone absent =>
      obtain ⟨_, rfl⟩ := looked_first rfl leads
      exact .idle trivial
  | bindingLookUpFailed failed | bindingGone absent =>
      obtain ⟨_, next⟩ := looked_first rfl leads
      obtain ⟨_, rfl⟩ := looked_first rfl next
      exact .idle trivial
  | unusable unusable =>
      obtain ⟨_, next⟩ := looked_first rfl leads
      obtain ⟨_, rfl⟩ := looked_first rfl next
      exact .idle (quiet_of_unusable unusable)
  | notErased usable =>
      obtain ⟨_, next⟩ := looked_first rfl leads
      obtain ⟨_, _, failed, rfl⟩ := looked_first rfl next
      rw [failed.unchanged_of_error]
      exact .idle trivial
  | notRevoked usable revoking =>
      obtain ⟨looked, next⟩ := looked_first rfl leads
      obtain ⟨searched, _, erased, rfl⟩ := looked_first rfl next
      exact .notRevoked looked.found_instance usable searched.found_binding erased revoking
  | unbound usable revoking =>
      obtain ⟨looked, next⟩ := looked_first rfl leads
      obtain ⟨searched, _, erased, rfl⟩ := looked_first rfl next
      exact .unbound looked.found_instance usable searched.found_binding erased revoking

/-- With a store that keeps its promises, every course of an operation is a turn. -/
theorem turn_of_proceeding
    {operation : Operation}
    (course : Proceeding broker draws operation stores calls answer)
    (leads : Leads (P := storage) Allows before stores after) :
    Turn broker draws before operation calls answer after := by
  cases operation with
  | provision id request =>
      exact turn_of_provisioning course leads
  | describe id =>
      exact turn_of_describing course leads
  | deprovision id =>
      exact turn_of_deprovisioning course leads
  | bind id bindingId request =>
      exact turn_of_binding course leads
  | unbind id bindingId =>
      exact turn_of_unbinding course leads

end

end GraphBroker.Broker
