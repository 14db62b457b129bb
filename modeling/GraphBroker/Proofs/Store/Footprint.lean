import GraphBroker.Proofs.Store.Contract
import GraphBroker.Proofs.Store.Subjects
import Mathlib.Data.Set.Insert

namespace GraphBroker.Store

/-!
# What a call on a store touches

A call looks at a few entries of the store and changes fewer.  Its outcome depends on
those it looks at, and all others stay as they were.  Two stores in memory that agree
on what a call looks at answer it alike, and they agree afterwards wherever they
agreed before.
-/

/-! ## Entries on which two stores agree -/

namespace Entry

/-- The instance of an entry. -/
def instanceId : Entry → String
  | .ofInstance id | .ofBinding id _ => id

/-- An instance with everything bound to it. -/
def beneath (id : String) : Set Entry :=
  { entry | entry.instanceId = id }

/-- A binding and its instance. -/
def pair (id bindingId : String) : Set Entry :=
  {.ofInstance id, .ofBinding id bindingId}

end Entry

namespace Memory

/-- Two stores have the same on record for an entry. -/
def SameAt (first second : Memory) : Entry → Prop
  | .ofInstance id => first.instance? id = second.instance? id
  | .ofBinding id bindingId => first.binding? id bindingId = second.binding? id bindingId

/-- Two stores have the same on record for each of some entries. -/
def AgreeOn (entries : Set Entry) (first second : Memory) : Prop :=
  ∀ entry ∈ entries, first.SameAt second entry

/-- A memory is the same as itself at every entry. -/
theorem sameAt_refl
    (memory : Memory)
    (entry : Entry) :
    memory.SameAt memory entry := by
  cases entry with
  | ofInstance id => rfl
  | ofBinding id bindingId => rfl

theorem SameAt.symm
    {first second : Memory}
    {entry : Entry}
    (same : first.SameAt second entry) :
    second.SameAt first entry := by
  cases entry with
  | ofInstance id => exact Eq.symm same
  | ofBinding id bindingId => exact Eq.symm same

theorem SameAt.trans
    {first second third : Memory}
    {entry : Entry}
    (same : first.SameAt second entry)
    (next : second.SameAt third entry) :
    first.SameAt third entry := by
  cases entry with
  | ofInstance id => exact Eq.trans same next
  | ofBinding id bindingId => exact Eq.trans same next

/-- Instances under which the same bindings are recorded hold the same bindings. -/
theorem bindings_eq
    {first second : Memory}
    {id : String}
    {held other : Held}
    (here : first.instances.find? id = some held)
    (there : second.instances.find? id = some other)
    (same : ∀ bindingId, first.binding? id bindingId = second.binding? id bindingId) :
    held.bindings = other.bindings := by
  apply Keyed.eq_of_find?
  intro bindingId
  rw [← binding?_of_held here, ← binding?_of_held there]
  exact same bindingId

namespace AgreeOn

variable {entries : Set Entry} {first second third : Memory}

/-- Memories that agree on some entries agree on fewer. -/
theorem mono
    {fewer : Set Entry}
    (agree : AgreeOn entries first second)
    (among : fewer ⊆ entries) :
    AgreeOn fewer first second :=
  fun entry member => agree entry (among member)

theorem symm
    (agree : AgreeOn entries first second) :
    AgreeOn entries second first :=
  fun entry member => (agree entry member).symm

theorem trans
    (agree : AgreeOn entries first second)
    (next : AgreeOn entries second third) :
    AgreeOn entries first third :=
  fun entry member => (agree entry member).trans (next entry member)

/-- Stores that agree on an instance and everything bound to it hold the same there. -/
theorem held
    {id : String}
    (agree : AgreeOn (Entry.beneath id) first second) :
    first.instances.find? id = second.instances.find? id := by
  have instances : first.instance? id = second.instance? id := agree (.ofInstance id) rfl
  have bindings (bindingId : String) : first.binding? id bindingId = second.binding? id bindingId :=
    agree (.ofBinding id bindingId) rfl
  unfold instance? at instances
  cases here : first.instances.find? id with
  | none =>
      rw [here] at instances
      exact (Option.map_eq_none_iff.mp instances.symm).symm
  | some held =>
      rw [here] at instances
      obtain ⟨other, there, record⟩ := Option.map_eq_some_iff.mp instances.symm
      have same : held.bindings = other.bindings := bindings_eq here there bindings
      rw [there]
      cases held
      cases other
      cases record
      cases same
      rfl

end AgreeOn

/-- A store is what it has on record. -/
theorem eq_of_agree
    {first second : Memory}
    (agree : AgreeOn Set.univ first second) :
    first = second := by
  have instances : first.instances = second.instances := by
    apply Keyed.eq_of_find?
    intro id
    exact (agree.mono (Set.subset_univ (Entry.beneath id))).held
  cases first
  cases second
  cases instances
  rfl

end Memory

/-! ## The entries of a call -/

namespace Call

/-- The entries on which the outcome of a call depends. -/
def sees : Call → Set Entry
  | .addInstance id _ | .getInstance id | .deleteInstance id => {.ofInstance id}
  | .getAllBindings id => Entry.beneath id
  | .addBinding id bindingId _ => Entry.pair id bindingId
  | .getBinding id bindingId | .deleteBinding id bindingId => {.ofBinding id bindingId}

/-- The entries that a call changes, if it succeeds. -/
def changes : Call → Set Entry
  | .addInstance id _ => {.ofInstance id}
  | .deleteInstance id => Entry.beneath id
  | .addBinding id bindingId _ | .deleteBinding id bindingId => {.ofBinding id bindingId}
  | .getInstance _ | .getBinding _ _ | .getAllBindings _ => ∅

/-- What is recorded for an instance that a call does not change stays. -/
theorem instanceAfter_of_notMem
    {call : Call}
    {id : String}
    (spared : Entry.ofInstance id ∉ call.changes)
    (held : Option ServiceInstance) :
    call.instanceAfter id held = held := by
  cases call with
  | addInstance other record =>
      have different : id ≠ other := by
        rintro rfl
        exact spared rfl
      simp [instanceAfter, different]
  | deleteInstance other =>
      have different : id ≠ other := by
        rintro rfl
        exact spared rfl
      simp [instanceAfter, different]
  | getInstance _ | getBinding _ _ | getAllBindings _ | addBinding _ _ _ | deleteBinding _ _ =>
      rfl

/-- A call leaves the bindings that it does not change as they are. -/
theorem bindingAfter_of_notMem
    {call : Call}
    {id bindingId : String}
    (spared : Entry.ofBinding id bindingId ∉ call.changes)
    (held : Option ServiceBinding) :
    call.bindingAfter id bindingId held = held := by
  cases call with
  | deleteInstance other =>
      have different : id ≠ other := by
        rintro rfl
        exact spared rfl
      simp [bindingAfter, different]
  | addBinding other otherBinding record | deleteBinding other otherBinding =>
      have different : ¬ (id = other ∧ bindingId = otherBinding) := by
        rintro ⟨rfl, rfl⟩
        exact spared rfl
      simp [bindingAfter, different]
  | addInstance _ _ | getInstance _ | getBinding _ _ | getAllBindings _ =>
      rfl

end Call

namespace Memory

/-- A store in memory turns a call down for what it has on record where the call looks. -/
theorem refuses_iff_of_agree
    {call : Call}
    {first second : Memory}
    (agree : AgreeOn call.sees first second) :
    first.Refuses call ↔ second.Refuses call := by
  cases call with
  | addInstance id record | getInstance id | deleteInstance id =>
      have same : first.instance? id = second.instance? id := agree (.ofInstance id) rfl
      simp only [Refuses, same]
  | getAllBindings id =>
      have same : first.instance? id = second.instance? id := agree (.ofInstance id) rfl
      simp only [Refuses, same]
  | addBinding id bindingId record =>
      have parent : first.instance? id = second.instance? id :=
        agree (.ofInstance id) (Or.inl rfl)
      have same : first.binding? id bindingId = second.binding? id bindingId :=
        agree (.ofBinding id bindingId) (Or.inr rfl)
      simp only [Refuses, parent, same]
  | getBinding id bindingId | deleteBinding id bindingId =>
      have same : first.binding? id bindingId = second.binding? id bindingId :=
        agree (.ofBinding id bindingId) rfl
      simp only [Refuses, same]

/-! ### Outcomes -/

/-- Adding an instance is answered by what is kept of that instance. -/
theorem outcome_addInstance
    (memory : Memory)
    (id : String)
    (record : ServiceInstance) :
    (answer (.addInstance id record) memory).1 =
      match memory.instance? id with
      | none => .ok ()
      | some _ => .error (.duplicateInstance id) := by
  cases present : memory.instances.find? id with
  | none => simp [answer, instance?, present]
  | some held => simp [answer, instance?, present]

/-- Looking an instance up is answered by what is kept of it. -/
theorem outcome_getInstance
    (memory : Memory)
    (id : String) :
    (answer (.getInstance id) memory).1 =
      match memory.instance? id with
      | none => .error (.instanceNotFound id)
      | some record => .ok record := by
  cases present : memory.instances.find? id with
  | none => simp [answer, instance?, present]
  | some held => simp [answer, instance?, present]

/-- Deleting an instance is answered by what is kept of it. -/
theorem outcome_deleteInstance
    (memory : Memory)
    (id : String) :
    (answer (.deleteInstance id) memory).1 =
      match memory.instance? id with
      | none => .error (.instanceNotFound id)
      | some _ => .ok () := by
  cases present : memory.instances.find? id with
  | none => simp [answer, instance?, present]
  | some held => simp [answer, instance?, present]

/-- Adding a binding is answered by what is kept of the instance and of the binding. -/
theorem outcome_addBinding
    (memory : Memory)
    (id bindingId : String)
    (record : ServiceBinding) :
    (answer (.addBinding id bindingId record) memory).1 =
      match memory.instance? id, memory.binding? id bindingId with
      | none, _ => .error (.parentMissing id)
      | some _, some _ => .error (.duplicateBinding id bindingId)
      | some _, none => .ok () := by
  cases present : memory.instances.find? id with
  | none =>
      simp [answer, instance?, present]
  | some held =>
      cases taken : held.bindings.find? bindingId with
      | none => simp [answer, instance?, binding?, present, taken]
      | some other => simp [answer, instance?, binding?, present, taken]

/-- Looking a binding up is answered by what is kept of it. -/
theorem outcome_getBinding
    (memory : Memory)
    (id bindingId : String) :
    (answer (.getBinding id bindingId) memory).1 =
      match memory.binding? id bindingId with
      | none => .error (.bindingNotFound id bindingId)
      | some record => .ok record := by
  cases found : memory.binding? id bindingId with
  | none => simp [answer, found]
  | some record => simp [answer, found]

/-- Deleting a binding is answered by what is kept of it. -/
theorem outcome_deleteBinding
    (memory : Memory)
    (id bindingId : String) :
    (answer (.deleteBinding id bindingId) memory).1 =
      match memory.binding? id bindingId with
      | none => .error (.bindingNotFound id bindingId)
      | some _ => .ok () := by
  cases present : memory.instances.find? id with
  | none =>
      simp [answer, binding?, present]
  | some held =>
      cases found : held.bindings.find? bindingId with
      | none => simp [answer, binding?, present, found]
      | some record => simp [answer, binding?, present, found]

/-- The bindings of an instance are listed alike where the same bindings are recorded. -/
theorem outcome_getAllBindings
    {first second : Memory}
    {id : String}
    (parent : first.instance? id = none ↔ second.instance? id = none)
    (same : ∀ bindingId, first.binding? id bindingId = second.binding? id bindingId) :
    (answer (.getAllBindings id) first).1 = (answer (.getAllBindings id) second).1 := by
  unfold instance? at parent
  cases here : first.instances.find? id with
  | none =>
      have there := Option.map_eq_none_iff.mp (parent.mp (by rw [here]; rfl))
      simp only [answer, here, there]
  | some held =>
      cases there : second.instances.find? id with
      | none => simp [here, there] at parent
      | some other => simp only [answer, here, there, bindings_eq here there same]

/-- What comes of a call depends on what is on record where it looks. -/
theorem outcome_of_agree
    {call : Call}
    {first second : Memory}
    (agree : AgreeOn call.sees first second) :
    (answer call first).1 = (answer call second).1 := by
  cases call with
  | addInstance id record =>
      have same : first.instance? id = second.instance? id := agree (.ofInstance id) rfl
      rw [outcome_addInstance, outcome_addInstance, same]
  | getInstance id =>
      have same : first.instance? id = second.instance? id := agree (.ofInstance id) rfl
      rw [outcome_getInstance, outcome_getInstance, same]
  | deleteInstance id =>
      have same : first.instance? id = second.instance? id := agree (.ofInstance id) rfl
      rw [outcome_deleteInstance, outcome_deleteInstance, same]
  | getAllBindings id =>
      have same : first.instance? id = second.instance? id := agree (.ofInstance id) rfl
      apply outcome_getAllBindings
      · rw [same]
      · exact fun bindingId => agree (.ofBinding id bindingId) rfl
  | addBinding id bindingId record =>
      have parent : first.instance? id = second.instance? id :=
        agree (.ofInstance id) (Or.inl rfl)
      have same : first.binding? id bindingId = second.binding? id bindingId :=
        agree (.ofBinding id bindingId) (Or.inr rfl)
      rw [outcome_addBinding, outcome_addBinding, parent, same]
  | getBinding id bindingId =>
      have same : first.binding? id bindingId = second.binding? id bindingId :=
        agree (.ofBinding id bindingId) rfl
      rw [outcome_getBinding, outcome_getBinding, same]
  | deleteBinding id bindingId =>
      have same : first.binding? id bindingId = second.binding? id bindingId :=
        agree (.ofBinding id bindingId) rfl
      rw [outcome_deleteBinding, outcome_deleteBinding, same]

/-- A call leaves every entry alone that it does not change. -/
theorem agree_answer
    (call : Call)
    (memory : Memory) :
    AgreeOn call.changesᶜ memory (answer call memory).2 := by
  by_cases refused : memory.Refuses call
  · obtain ⟨error, failed⟩ := answer_eq_error_iff.mpr refused
    rw [answer_unchanged_of_error failed]
    exact fun entry _ => memory.sameAt_refl entry
  · rintro (id | ⟨id, bindingId⟩) spared
    · have after := instance?_answer refused id
      rw [Call.instanceAfter_of_notMem spared] at after
      exact after.symm
    · have after := binding?_answer refused id bindingId
      rw [Call.bindingAfter_of_notMem spared] at after
      exact after.symm

/-- Stores that agree where a call looks agree after it wherever they agreed before. -/
theorem AgreeOn.answer
    {call : Call}
    {entries : Set Entry}
    {first second : Memory}
    (agree : AgreeOn entries first second)
    (looked : call.sees ⊆ entries) :
    AgreeOn entries (answer call first).2 (answer call second).2 := by
  have refuses := refuses_iff_of_agree (agree.mono looked)
  by_cases refused : first.Refuses call
  · obtain ⟨_, failed⟩ := answer_eq_error_iff.mpr refused
    obtain ⟨_, other⟩ := answer_eq_error_iff.mpr (refuses.mp refused)
    rw [answer_unchanged_of_error failed, answer_unchanged_of_error other]
    exact agree
  · have accepted := refused ∘ refuses.mpr
    rintro (id | ⟨id, bindingId⟩) member
    · have same : first.instance? id = second.instance? id := agree _ member
      simp only [SameAt, instance?_answer refused, instance?_answer accepted, same]
    · have same : first.binding? id bindingId = second.binding? id bindingId := agree _ member
      simp only [SameAt, binding?_answer refused, binding?_answer accepted, same]

end Memory

/-- A store that may fail leaves every entry alone that a call does not change. -/
theorem Allows.agree
    {call : Call}
    {outcome : call.Outcome}
    {before after : Memory}
    (allowed : Allows call before outcome after) :
    Memory.AgreeOn call.changesᶜ before after := by
  cases allowed with
  | answers agrees =>
      exact Memory.agree_answer call before
  | fails error =>
      exact fun entry _ => before.sameAt_refl entry

end GraphBroker.Store
