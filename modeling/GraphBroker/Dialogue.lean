namespace GraphBroker

/-!
# Dialogues

A dialogue is a computation that asks questions and goes on with the answers.
What answers them is left open, so that one account of the broker serves a live
server, a rehearsal, and every proof about either.
-/

/-- A kind of conversation: what may be asked, and what answers each question. -/
structure Protocol where
  Question : Type
  Reply : Question → Type

/-- A computation that asks questions of one kind and ends in a value. -/
inductive Dialogue (P : Protocol) (α : Type) : Type where
  | done (value : α)
  | ask (question : P.Question) (next : P.Reply question → Dialogue P α)

namespace Dialogue

/-- Ask one question and give its answer. -/
def question {P : Protocol} (question : P.Question) : Dialogue P (P.Reply question) :=
  .ask question .done

/-- Go on after a dialogue with what it ended in. -/
def andThen {P : Protocol} (dialogue : Dialogue P α) (next : α → Dialogue P β) : Dialogue P β :=
  match dialogue with
  | .done value => next value
  | .ask question continuation => .ask question fun reply => (continuation reply).andThen next

instance {P : Protocol} : Monad (Dialogue P) where
  pure := .done
  bind := andThen

/-- Hold a dialogue with a partner that answers from its state. -/
def run {P : Protocol} {σ : Type}
    (respond : (question : P.Question) → σ → P.Reply question × σ) :
    Dialogue P α → σ → α × σ
  | .done value, state => (value, state)
  | .ask question next, state =>
      let (reply, state) := respond question state
      (next reply).run respond state

/-- Hold a dialogue with a partner that answers with effects. -/
def runIn {P : Protocol} {m : Type → Type} [Monad m]
    (respond : (question : P.Question) → m (P.Reply question)) :
    Dialogue P α → m α
  | .done value => pure value
  | .ask question next => do
      let reply ← respond question
      (next reply).runIn respond

/-- Put every question to a dialogue of another kind. -/
def relay {P Q : Protocol}
    (respond : (question : P.Question) → Dialogue Q (P.Reply question)) :
    Dialogue P α → Dialogue Q α
  | .done value => .done value
  | .ask question next => (respond question).andThen fun reply => (next reply).relay respond

/-- A finished dialogue ends in its value, whoever the partner is. -/
@[simp]
theorem run_done {P : Protocol} {σ : Type}
    (respond : (question : P.Question) → σ → P.Reply question × σ)
    (value : α)
    (state : σ) :
    (Dialogue.done value : Dialogue P α).run respond state = (value, state) :=
  rfl

/-- Two dialogues in sequence are held one after the other. -/
theorem run_andThen {P : Protocol} {σ : Type}
    (respond : (question : P.Question) → σ → P.Reply question × σ)
    (dialogue : Dialogue P α)
    (next : α → Dialogue P β)
    (state : σ) :
    (dialogue.andThen next).run respond state =
      (next (dialogue.run respond state).1).run respond (dialogue.run respond state).2 := by
  induction dialogue generalizing state with
  | done value => rfl
  | ask question continuation inductionHypothesis =>
      simp only [andThen, run]
      exact inductionHypothesis _ _

end Dialogue

end GraphBroker
