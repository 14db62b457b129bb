import GraphBroker.Store.Graph
import GraphBroker.Store.Memory
import GraphBroker.Store.Relational

namespace GraphBroker.Store

/-!
# The stores that a broker can be given

A broker keeps its records in memory, in tables, or in a graph database; only
the last of these needs a conversation to answer a call.
-/

/-- A store of one of the three kinds. -/
inductive Backend where
  | memory (records : Memory)
  | relational (tables : Relational)
  | graph (graph : Graph)

namespace Backend

/-- Answer a call. -/
def answer (call : Call) : Backend → Dialogue Remote.wire (call.Outcome × Backend)
  | .memory records =>
      let (outcome, records) := Memory.answer call records
      .done (outcome, .memory records)
  | .relational tables =>
      let (outcome, tables) := Relational.answer call tables
      .done (outcome, .relational tables)
  | .graph held => (held.answer call).andThen fun outcome => .done (outcome, .graph held)

end Backend

end GraphBroker.Store
