import GraphBroker.Keyed
import GraphBroker.Store.Basic

namespace GraphBroker.Store

/-!
# A store in memory

Instances are sorted by their identifiers, and so are the bindings beneath each.
-/

/-- An instance and the bindings beneath it. -/
structure Held where
  record : ServiceInstance
  bindings : Keyed ServiceBinding

/-- The records of a store in memory. -/
structure Memory where
  instances : Keyed Held

namespace Memory

/-- The store without records. -/
def empty : Memory :=
  ⟨Keyed.empty⟩

/-- A binding of an instance. -/
def binding? (memory : Memory) (id bindingId : String) : Option ServiceBinding := do
  let held ← memory.instances.find? id
  held.bindings.find? bindingId

/-- Answer a call. -/
def answer : (call : Call) → Memory → call.Outcome × Memory
  | .addInstance id record, memory =>
      match memory.instances.find? id with
      | some _ => (.error (.duplicateInstance id), memory)
      | none => (.ok (), ⟨memory.instances.insert id ⟨record, .empty⟩⟩)
  | .getInstance id, memory =>
      match memory.instances.find? id with
      | some held => (.ok held.record, memory)
      | none => (.error (.instanceNotFound id), memory)
  | .deleteInstance id, memory =>
      match memory.instances.find? id with
      | some _ => (.ok (), ⟨memory.instances.erase id⟩)
      | none => (.error (.instanceNotFound id), memory)
  | .addBinding id bindingId record, memory =>
      match memory.instances.find? id with
      | none => (.error (.parentMissing id), memory)
      | some held =>
          match held.bindings.find? bindingId with
          | some _ => (.error (.duplicateBinding id bindingId), memory)
          | none =>
              let held := { held with bindings := held.bindings.insert bindingId record }
              (.ok (), ⟨memory.instances.insert id held⟩)
  | .getBinding id bindingId, memory =>
      match memory.binding? id bindingId with
      | some record => (.ok record, memory)
      | none => (.error (.bindingNotFound id bindingId), memory)
  | .getAllBindings id, memory =>
      match memory.instances.find? id with
      | some held => (.ok held.bindings.values, memory)
      | none => (.error (.parentMissing id), memory)
  | .deleteBinding id bindingId, memory =>
      match memory.instances.find? id with
      | none => (.error (.bindingNotFound id bindingId), memory)
      | some held =>
          match held.bindings.find? bindingId with
          | none => (.error (.bindingNotFound id bindingId), memory)
          | some _ =>
              let held := { held with bindings := held.bindings.erase bindingId }
              (.ok (), ⟨memory.instances.insert id held⟩)

end Memory

end GraphBroker.Store
