import GraphBroker.Proofs.Broker.History

namespace GraphBroker.Broker

open Store Plan

/-!
# What is true of every record

The broker never changes a record.  What is true of each record when it is made
stays true of all records, as long as it speaks of nothing but the record and,
for a binding, of the instance above it.
-/

/--
Every recorded instance has one property, and every recorded binding has
another together with the record of the instance above it.
-/
structure Each
    (ofInstance : String → ServiceInstance → Prop)
    (ofBinding : String → ServiceInstance → String → ServiceBinding → Prop)
    (memory : Memory) :
    Prop where
  instances :
    ∀ {id record},
      memory.instance? id = some record →
      ofInstance id record
  bindings :
    ∀ {id bindingId binding},
      memory.binding? id bindingId = some binding →
      ∃ record, memory.instance? id = some record ∧ ofBinding id record bindingId binding

namespace Each

variable {ofInstance weakerOfInstance : String → ServiceInstance → Prop}
variable {ofBinding weakerOfBinding : String → ServiceInstance → String → ServiceBinding → Prop}
variable {broker : Broker} {draws : Draws} {before after : Memory}

/-- Nothing is recorded in an empty memory. -/
theorem empty :
    Each ofInstance ofBinding Memory.empty where
  instances found := by
    simp at found
  bindings found := by
    simp at found

/-- What is weaker than a property of every record is one. -/
theorem weaken
    (instances : ∀ {id record}, ofInstance id record → weakerOfInstance id record)
    (bindings :
      ∀ {id record bindingId binding},
        ofBinding id record bindingId binding →
        weakerOfBinding id record bindingId binding)
    {memory : Memory}
    (each : Each ofInstance ofBinding memory) :
    Each weakerOfInstance weakerOfBinding memory where
  instances found := instances (each.instances found)
  bindings found := by
    obtain ⟨record, recorded, holds⟩ := each.bindings found
    exact ⟨record, recorded, bindings holds⟩

/-- What each record meets is kept by adding an instance that meets it. -/
theorem of_added_instance
    {id : String}
    {record : ServiceInstance}
    (added : Allows (.addInstance id record) before (.ok ()) after)
    (made : ofInstance id record)
    (each : Each ofInstance ofBinding before) :
    Each ofInstance ofBinding after where
  instances present := by
    rcases added.instance_of_added present with ⟨rfl, rfl⟩ | before
    · exact made
    · exact each.instances before
  bindings {other bindingId binding} present := by
    rw [added.binding?_of_ok] at present
    obtain ⟨parent, recorded, holds⟩ := each.bindings present
    refine ⟨parent, ?_, holds⟩
    have elsewhere : other ≠ id := by
      intro same
      rw [same, added.absent_of_added_instance] at recorded
      cases recorded
    rw [added.instance?_of_ok]
    simpa only [Call.instanceAfter, elsewhere, if_false] using recorded

/-- What each record meets is kept by deleting an instance with its bindings. -/
theorem of_erased_instance
    {id : String}
    (erased : Allows (.deleteInstance id) before (.ok ()) after)
    (each : Each ofInstance ofBinding before) :
    Each ofInstance ofBinding after where
  instances present := each.instances (erased.instance_of_erased present).2
  bindings present := by
    obtain ⟨elsewhere, held⟩ := erased.binding_of_erased_instance present
    obtain ⟨parent, recorded, holds⟩ := each.bindings held
    refine ⟨parent, ?_, holds⟩
    rw [erased.instance?_of_ok]
    simpa only [Call.instanceAfter, elsewhere, if_false] using recorded

/-- What each record meets is kept by adding a binding that meets it to a recorded instance. -/
theorem of_added_binding
    {id bindingId : String}
    {record : ServiceInstance}
    {binding : ServiceBinding}
    (added : Allows (.addBinding id bindingId binding) before (.ok ()) after)
    (recorded : before.instance? id = some record)
    (made : ofBinding id record bindingId binding)
    (each : Each ofInstance ofBinding before) :
    Each ofInstance ofBinding after where
  instances present := by
    rw [added.instance?_of_ok] at present
    exact each.instances present
  bindings present := by
    simp only [added.instance?_of_ok, Call.instanceAfter]
    rcases added.binding_of_added present with ⟨⟨rfl, rfl⟩, rfl⟩ | held
    · exact ⟨record, recorded, made⟩
    · exact each.bindings held

/-- What each record meets is kept by deleting a binding. -/
theorem of_erased_binding
    {id bindingId : String}
    (erased : Allows (.deleteBinding id bindingId) before (.ok ()) after)
    (each : Each ofInstance ofBinding before) :
    Each ofInstance ofBinding after where
  instances present := by
    rw [erased.instance?_of_ok] at present
    exact each.instances present
  bindings present := by
    simp only [erased.instance?_of_ok, Call.instanceAfter]
    exact each.bindings (erased.binding_of_erased present).2

/-- A turn keeps what is true of every record that it may make. -/
theorem of_turn
    {operation : Operation}
    {calls : List (Exchange administration)}
    {answer : Answer}
    (turn : Turn broker draws before operation calls answer after)
    (made :
      ∀ {id request plan payload},
        operation = .provision id request →
        broker.plans.find? request.planId = some plan →
        plan.Creating draws request.parameters calls (.ok payload) →
        ofInstance id (recordFor id request payload))
    (issued :
      ∀ {id bindingId request record plan site payload},
        operation = .bind id bindingId request →
        before.instance? id = some record →
        broker.planOf record = .ok (plan, site) →
        Issuing site draws request.parameters calls (.ok payload) →
        ofBinding id record bindingId ⟨bindingId, payload⟩)
    (each : Each ofInstance ofBinding before) :
    Each ofInstance ofBinding after := by
  cases turn with
  | idle | notCreated | instanceNotRecorded | notRemoved | instanceNotErased | notIssued
  | bindingNotRecorded =>
      exact each
  | provisioned known creating added =>
      exact each.of_added_instance added (made rfl known creating)
  | deprovisioned recorded usable listed sweeping removing erased =>
      exact each.of_erased_instance erased
  | bound recorded usable issuing added =>
      exact each.of_added_binding added recorded (issued rfl recorded usable issuing)
  | notRevoked recorded usable held erased revoking
  | unbound recorded usable held erased revoking =>
      exact each.of_erased_binding erased

end Each

/-! ## Records that the broker can use -/

/-- A recorded instance is under its own identifier, and its plan offers its site. -/
def UsableInstance (broker : Broker) (id : String) (record : ServiceInstance) : Prop :=
  record.guid = id ∧
    ∃ plan site, broker.planOf record = .ok (plan, site) ∧ plan.Offers site

/-- A recorded binding is under its own identifier, and its credentials fit the site above it. -/
def UsableBinding
    (broker : Broker)
    (_ : String)
    (record : ServiceInstance)
    (bindingId : String)
    (binding : ServiceBinding) :
    Prop :=
  binding.guid = bindingId ∧
    ∃ plan site credentials,
      broker.planOf record = .ok (plan, site) ∧
        binding.payload = credentials.payload ∧ site.Fits credentials

/-- The broker can use every record. -/
abbrev Usable (broker : Broker) (memory : Memory) : Prop :=
  Each (UsableInstance broker) (UsableBinding broker) memory

/-- The record of a new instance can be used. -/
theorem usableInstance_of_creating
    {broker : Broker}
    {draws : Draws}
    {id : String}
    {request : Api.ProvisionRequest}
    {plan : Plan}
    {calls : List (Exchange administration)}
    {payload : Json}
    (known : broker.plans.find? request.planId = some plan)
    (creating : plan.Creating draws request.parameters calls (.ok payload)) :
    UsableInstance broker id (recordFor id request payload) := by
  cases creating with
  | created offered readable requested =>
      exact ⟨rfl, plan, _, planOf_eq_ok_iff.mpr ⟨known, readable⟩, offered⟩

/-- The record of a new binding can be used. -/
theorem usableBinding_of_issuing
    {broker : Broker}
    {draws : Draws}
    {id bindingId : String}
    {record : ServiceInstance}
    {plan : Plan}
    {site : Site}
    {parameters payload : Json}
    {calls : List (Exchange administration)}
    (usable : broker.planOf record = .ok (plan, site))
    (issuing : Issuing site draws parameters calls (.ok payload)) :
    UsableBinding broker id record bindingId ⟨bindingId, payload⟩ := by
  cases issuing with
  | issued chosen =>
      exact ⟨rfl, plan, site, _, usable, rfl, chosen.fits⟩

/-- A turn keeps all records usable. -/
theorem usable_of_turn
    {broker : Broker}
    {draws : Draws}
    {before after : Memory}
    {operation : Operation}
    {calls : List (Exchange administration)}
    {answer : Answer}
    (turn : Turn broker draws before operation calls answer after)
    (usable : Usable broker before) :
    Usable broker after :=
  usable.of_turn turn
    (fun _ known creating => usableInstance_of_creating known creating)
    (fun _ _ located issuing => usableBinding_of_issuing located issuing)

end GraphBroker.Broker
