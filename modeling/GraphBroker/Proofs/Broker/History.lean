import GraphBroker.Proofs.Broker.Turn

namespace GraphBroker.Broker

open Dialogue Store Plan

/-!
# Histories

A broker is given one task after the other.  It keeps its records in a store
that may fail, and it turns to servers of which nothing is known but how they
answer.  A history tells of each task which calls on servers it took and what
the answer was; the records are what the store has after the last of them.
-/

/-- Something to do for the broker, and what is drawn for it. -/
structure Task where
  draws : Draws
  operation : Operation

/-- What was seen of an operation: its calls on servers and its answer. -/
structure Event where
  operation : Operation
  calls : List (Exchange administration)
  answer : Answer

/-- A call of a kind that succeeded. -/
def succeeds (operation : AdminOperation) (exchange : Exchange administration) : Bool :=
  exchange.question.call.operation == operation &&
    match (exchange.reply : exchange.question.Outcome) with
    | .ok _ => true
    | .error _ => false

section

variable {τ : Type}
variable (broker : Broker) (keeper : Keeper)
variable (server : (question : AdminQuestion) → τ → question.Outcome × τ)

/-- What the broker and its surroundings say to each other over a task. -/
def conversation (task : Task) (state : keeper.State × τ) : List (Exchange surroundings) :=
  (broker.perform task.draws task.operation).exchanges (respond keeper.answer server) state

/-- What comes of a task: the answer, and the state after it. -/
def carryOut (task : Task) (state : keeper.State × τ) : Answer × (keeper.State × τ) :=
  (broker.perform task.draws task.operation).run (respond keeper.answer server) state

/-- What is seen of a task. -/
def seen (task : Task) (state : keeper.State × τ) : Event where
  operation := task.operation
  calls := serverCalls (broker.conversation keeper server task state)
  answer := (broker.carryOut keeper server task state).1

/-- What is seen while tasks are carried out. -/
def history : List Task → keeper.State × τ → List Event
  | [], _ => []
  | task :: rest, state =>
      broker.seen keeper server task state ::
        history rest (broker.carryOut keeper server task state).2

/-- The state once tasks are carried out. -/
def afterwards : List Task → keeper.State × τ → keeper.State × τ
  | [], state => state
  | task :: rest, state => afterwards rest (broker.carryOut keeper server task state).2

/-- The calls on servers in a history. -/
def callsOf (history : List Event) : List (Exchange administration) :=
  history.flatMap Event.calls

end

section

variable {τ σ : Type}
variable {broker : Broker} {keeper : Keeper}
variable {server : (question : AdminQuestion) → τ → question.Outcome × τ}

/-- A task proceeds as its operation may. -/
theorem proceeding_of_task
    (task : Task)
    (state : keeper.State × τ) :
    Proceeding broker task.draws task.operation
      (storeCalls (broker.conversation keeper server task state))
      (broker.seen keeper server task state).calls
      (broker.seen keeper server task state).answer :=
  proceeding_of_yields (yields_exchanges _ _ state)

/-- What a task does to the store follows the law of the store. -/
theorem leads_records
    {law : (call : Store.Call) → σ → call.Outcome → σ → Prop}
    {view : keeper.State → σ}
    (lawful :
      ∀ call state,
        law call (view state) (keeper.answer call state).1 (view (keeper.answer call state).2))
    (task : Task)
    (state : keeper.State × τ) :
    Leads (P := storage) law (view state.1)
      (storeCalls (broker.conversation keeper server task state))
      (view (broker.carryOut keeper server task state).2.1) :=
  leads_store lawful server (broker.perform task.draws task.operation) state

/-- What every server call keeps to leads from the servers before a task to those after it. -/
theorem leads_servers
    {law : (question : AdminQuestion) → σ → question.Outcome → σ → Prop}
    {view : τ → σ}
    (lawful :
      ∀ question state,
        law question (view state) (server question state).1 (view (server question state).2))
    (task : Task)
    (state : keeper.State × τ) :
    Leads (P := administration) law (view state.2)
      (broker.seen keeper server task state).calls
      (view (broker.carryOut keeper server task state).2.2) := by
  let viewed (state : keeper.State × τ) : σ := view state.2
  have within (question : Question) (state : keeper.State × τ) :
      serverSide law question (viewed state)
        (respond keeper.answer server question state).1
        (viewed (respond keeper.answer server question state).2) := by
    cases question with
    | store call =>
        rfl
    | server question =>
        exact lawful question state.2
  have leads := leads_exchanges within (broker.perform task.draws task.operation) state
  exact leads_serverCalls leads

/-- A task takes a turn with the records of the store. -/
theorem turn_of_task
    (task : Task)
    (state : keeper.State × τ) :
    Turn broker task.draws (keeper.records state.1) task.operation
      (broker.seen keeper server task state).calls
      (broker.seen keeper server task state).answer
      (keeper.records (broker.carryOut keeper server task state).2.1) :=
  turn_of_proceeding (proceeding_of_task task state) (leads_records keeper.keeps task state)

/-- What every task preserves, a history preserves. -/
theorem history_induction
    {motive : List Event → keeper.State × τ → Prop}
    (step :
      ∀ past task state,
        motive past state →
        motive (past ++ [broker.seen keeper server task state])
          (broker.carryOut keeper server task state).2)
    (tasks : List Task)
    {past : List Event}
    {state : keeper.State × τ}
    (start : motive past state) :
    motive (past ++ broker.history keeper server tasks state)
      (broker.afterwards keeper server tasks state) := by
  induction tasks generalizing past state with
  | nil =>
      simpa [history, afterwards] using start
  | cons task rest inductionHypothesis =>
      have later := inductionHypothesis (step past task state start)
      simpa [history, afterwards] using later

/-- What every turn preserves holds of the records after every history. -/
theorem records_induction
    {motive : List Event → Memory → Prop}
    (step :
      ∀ {past draws before event after},
        Turn broker draws before event.operation event.calls event.answer after →
        motive past before →
        motive (past ++ [event]) after)
    (start : motive [] Memory.empty)
    (tasks : List Task)
    (others : τ) :
    motive (broker.history keeper server tasks (keeper.blank, others))
      (keeper.records (broker.afterwards keeper server tasks (keeper.blank, others)).1) := by
  let holds (past : List Event) (state : keeper.State × τ) : Prop :=
    motive past (keeper.records state.1)
  have begun : holds [] (keeper.blank, others) := by
    simpa [holds, keeper.records_blank] using start
  have preserved (past : List Event) (task : Task) (state : keeper.State × τ)
      (held : holds past state) :
      holds (past ++ [broker.seen keeper server task state])
        (broker.carryOut keeper server task state).2 :=
    step (turn_of_task task state) held
  have kept := history_induction preserved tasks begun
  simpa [holds] using kept

end

/-! ## A small broker -/

/-- A broker with one plan, which has one server for all databases. -/
def soleServer : Broker where
  id := "broker"
  plans := Keyed.empty.insert "shared" ⟨"shared", .shared ⟨"http://server", ⟨"admin", "secret"⟩⟩⟩
  login := ⟨"platform", "secret"⟩

/-- Draws that are all the first letter. -/
def plainDraws : Draws :=
  ⟨⟨Vector.replicate 16 0⟩, ⟨Vector.replicate 8 0⟩, ⟨Vector.replicate 24 0⟩⟩

end GraphBroker.Broker
