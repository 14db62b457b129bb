import GraphBroker.Dialogue
import GraphBroker.Proofs.Fallible

namespace GraphBroker

/-!
# Two dialogues side by side

What a dialogue keeps to itself is seen by holding it twice.  Two dialogues run in
parallel if they ask matching questions and, given matching replies, go on in
parallel.  Two partners whose replies to matching questions match then hear the two
dialogues end alike, and cannot be told apart by either of them.
-/

/-- Questions that are put side by side, and the replies to them that match. -/
structure Coupling (P : Protocol) where
  Pair : Type
  first : Pair → P.Question
  second : Pair → P.Question
  Meet : (pair : Pair) → P.Reply (first pair) → P.Reply (second pair) → Prop

/-- Two partners that are alike give replies that match, and stay alike. -/
def Coupling.Kept {P : Protocol} {σ τ : Type}
    (coupling : Coupling P)
    (alike : σ → τ → Prop)
    (respond : (question : P.Question) → σ → P.Reply question × σ)
    (answer : (question : P.Question) → τ → P.Reply question × τ) :
    Prop :=
  ∀ pair {state other}, alike state other →
    coupling.Meet pair (respond (coupling.first pair) state).1
        (answer (coupling.second pair) other).1 ∧
      alike (respond (coupling.first pair) state).2 (answer (coupling.second pair) other).2

namespace Dialogue

variable {P : Protocol}

/-- Two dialogues ask matching questions as long as the replies match, and end alike. -/
inductive Parallel (coupling : Coupling P) (alike : α → β → Prop) :
    Dialogue P α → Dialogue P β → Prop where
  | done {value : α} {other : β}
      (same : alike value other) :
      Parallel coupling alike (.done value) (.done other)
  | ask (pair : coupling.Pair)
      {next : P.Reply (coupling.first pair) → Dialogue P α}
      {other : P.Reply (coupling.second pair) → Dialogue P β}
      (onward :
        ∀ {reply answer}, coupling.Meet pair reply answer →
          Parallel coupling alike (next reply) (other answer)) :
      Parallel coupling alike
        (.ask (coupling.first pair) next) (.ask (coupling.second pair) other)

namespace Parallel

variable {coupling : Coupling P} {alike : α → β → Prop}

/-- Parallel dialogues with partners that are alike end alike, and leave the partners alike. -/
theorem run {σ τ : Type}
    {near : σ → τ → Prop}
    {respond : (question : P.Question) → σ → P.Reply question × σ}
    {answer : (question : P.Question) → τ → P.Reply question × τ}
    (kept : coupling.Kept near respond answer)
    {dialogue : Dialogue P α}
    {another : Dialogue P β}
    (parallel : Parallel coupling alike dialogue another)
    {state : σ}
    {other : τ}
    (start : near state other) :
    alike (dialogue.run respond state).1 (another.run answer other).1 ∧
      near (dialogue.run respond state).2 (another.run answer other).2 := by
  induction parallel generalizing state other with
  | done same =>
      exact ⟨same, start⟩
  | ask pair onward inductionHypothesis =>
      obtain ⟨meet, later⟩ := kept pair start
      exact inductionHypothesis meet later

/-- Dialogues that run in parallel go on in parallel. -/
theorem andThen
    {further : γ → δ → Prop}
    {dialogue : Dialogue P α}
    {another : Dialogue P β}
    {next : α → Dialogue P γ}
    {other : β → Dialogue P δ}
    (parallel : Parallel coupling alike dialogue another)
    (onward :
      ∀ {value result}, alike value result →
        Parallel coupling further (next value) (other result)) :
    Parallel coupling further (dialogue.andThen next) (another.andThen other) := by
  induction parallel with
  | done same =>
      exact onward same
  | ask pair later inductionHypothesis =>
      exact .ask pair inductionHypothesis

/-- Steps that may fail and run in parallel go on in parallel. -/
theorem bind
    {further : γ → δ → Prop}
    {steps : ExceptT ε (Dialogue P) α}
    {another : ExceptT ε (Dialogue P) β}
    {next : α → ExceptT ε (Dialogue P) γ}
    {other : β → ExceptT ε (Dialogue P) δ}
    (parallel : Parallel coupling (Matches alike) steps.run another.run)
    (onward :
      ∀ {value result}, alike value result →
        Parallel coupling (Matches further) (next value).run (other result).run) :
    Parallel coupling (Matches further) (steps >>= next).run (another >>= other).run := by
  refine andThen parallel ?_
  intro value result same
  cases same with
  | ok same => exact onward same
  | error error => exact .done (.error error)

end Parallel

end Dialogue

end GraphBroker
