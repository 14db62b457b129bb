import GraphBroker.Dialogue

namespace GraphBroker

/-!
# Conversations

A dialogue does not know how it will be answered.  This module separates the
two sides: `Dialogue.Yields` says through which exchanges a dialogue can go with
any partner at all, and `Leads` says how exchanges change the state of a partner
that keeps a law.  Holding a dialogue with a partner satisfies both, so that
what a dialogue asks is worked out once, and what it does to each kind of partner
is read off its exchanges.
-/

/-- A question and the reply to it. -/
structure Exchange (P : Protocol) where
  question : P.Question
  reply : P.Reply question

/--
Exchanges lead from one state to another if each of them takes a state to the
next as a law permits.
-/
def Leads {P : Protocol} {σ : Type}
    (law : (question : P.Question) → σ → P.Reply question → σ → Prop) :
    σ → List (Exchange P) → σ → Prop
  | before, [], after => after = before
  | before, exchange :: rest, after =>
      ∃ middle, law exchange.question before exchange.reply middle ∧ Leads law middle rest after

namespace Leads

variable {P : Protocol} {σ : Type}
variable {law : (question : P.Question) → σ → P.Reply question → σ → Prop}

/-- What every exchange preserves, exchanges in sequence preserve. -/
theorem preserves
    {property : σ → Prop}
    {exchanges : List (Exchange P)}
    (step :
      ∀ exchange ∈ exchanges, ∀ {before after},
        law exchange.question before exchange.reply after →
        property before →
        property after)
    {before after : σ}
    (leads : Leads law before exchanges after)
    (holds : property before) :
    property after := by
  induction exchanges generalizing before with
  | nil =>
      rw [leads]
      exact holds
  | cons exchange rest inductionHypothesis =>
      obtain ⟨middle, permitted, later⟩ := leads
      refine inductionHypothesis ?_ later (step exchange (by simp) permitted holds)
      intro next member
      exact step next (by simp [member])

/-- What a law permits of some exchanges, a law that permits more of them permits as well. -/
theorem weaken
    {weaker : (question : P.Question) → σ → P.Reply question → σ → Prop}
    {exchanges : List (Exchange P)}
    (permits :
      ∀ exchange ∈ exchanges, ∀ {before after},
        law exchange.question before exchange.reply after →
        weaker exchange.question before exchange.reply after)
    {before after : σ}
    (leads : Leads law before exchanges after) :
    Leads weaker before exchanges after := by
  induction exchanges generalizing before with
  | nil =>
      exact leads
  | cons exchange rest inductionHypothesis =>
      obtain ⟨middle, permitted, later⟩ := leads
      refine ⟨middle, permits exchange (by simp) permitted, inductionHypothesis ?_ later⟩
      intro next member
      exact permits next (by simp [member])

end Leads

namespace Dialogue

variable {P : Protocol} {σ : Type}

/-- The exchanges of a dialogue with a partner, oldest first. -/
def exchanges
    (respond : (question : P.Question) → σ → P.Reply question × σ) :
    Dialogue P α → σ → List (Exchange P)
  | .done _, _ => []
  | .ask question next, state =>
      let (reply, state) := respond question state
      ⟨question, reply⟩ :: (next reply).exchanges respond state

/-- Two dialogues in sequence go through the exchanges of one and then, where it ends, of the other. -/
theorem exchanges_andThen
    (respond : (question : P.Question) → σ → P.Reply question × σ)
    (dialogue : Dialogue P α)
    (next : α → Dialogue P β)
    (state : σ) :
    (dialogue.andThen next).exchanges respond state =
      dialogue.exchanges respond state ++
        (next (dialogue.run respond state).1).exchanges respond (dialogue.run respond state).2 := by
  induction dialogue generalizing state with
  | done value =>
      rfl
  | ask question continuation inductionHypothesis =>
      simp only [andThen, exchanges, run, List.cons_append]
      rw [inductionHypothesis]

/-- A dialogue can go through exchanges and end in a value. -/
inductive Yields : Dialogue P α → List (Exchange P) → α → Prop where
  | done (value : α) :
      Yields (.done value) [] value
  | ask
      {question : P.Question}
      {next : P.Reply question → Dialogue P α}
      {reply : P.Reply question}
      {rest : List (Exchange P)}
      {value : α} :
      Yields (next reply) rest value →
      Yields (.ask question next) (⟨question, reply⟩ :: rest) value

/-- What a dialogue goes through with a partner is one of its ways. -/
theorem yields_exchanges
    (respond : (question : P.Question) → σ → P.Reply question × σ)
    (dialogue : Dialogue P α)
    (state : σ) :
    dialogue.Yields (dialogue.exchanges respond state) (dialogue.run respond state).1 := by
  induction dialogue generalizing state with
  | done value =>
      exact .done value
  | ask question next inductionHypothesis =>
      exact .ask (inductionHypothesis _ _)

/-- With a partner that keeps a law, a dialogue leads from its state to the one after. -/
theorem leads_exchanges
    {ν : Type}
    {respond : (question : P.Question) → σ → P.Reply question × σ}
    {view : σ → ν}
    {law : (question : P.Question) → ν → P.Reply question → ν → Prop}
    (lawful :
      ∀ question state,
        law question (view state) (respond question state).1 (view (respond question state).2))
    (dialogue : Dialogue P α)
    (state : σ) :
    Leads law (view state) (dialogue.exchanges respond state)
      (view (dialogue.run respond state).2) := by
  induction dialogue generalizing state with
  | done value =>
      rfl
  | ask question next inductionHypothesis =>
      exact ⟨_, lawful question state, inductionHypothesis _ _⟩

/-- Partners who reply alike to whatever a dialogue asks hold the same conversation with it. -/
theorem run_alike
    {τ : Type}
    {alike : σ → τ → Prop}
    {respond : (question : P.Question) → σ → P.Reply question × σ}
    {reply : (question : P.Question) → τ → P.Reply question × τ}
    {dialogue : Dialogue P α}
    {state : σ}
    {other : τ}
    (step :
      ∀ exchange ∈ dialogue.exchanges respond state, ∀ {state other},
        alike state other →
        (respond exchange.question state).1 = (reply exchange.question other).1 ∧
          alike (respond exchange.question state).2 (reply exchange.question other).2)
    (start : alike state other) :
    dialogue.exchanges reply other = dialogue.exchanges respond state ∧
      (dialogue.run reply other).1 = (dialogue.run respond state).1 ∧
      alike (dialogue.run respond state).2 (dialogue.run reply other).2 := by
  induction dialogue generalizing state other with
  | done value =>
      exact ⟨rfl, rfl, start⟩
  | ask question next inductionHypothesis =>
      obtain ⟨same, onward⟩ := step _ List.mem_cons_self start
      have later := inductionHypothesis (respond question state).1
        (fun exchange member => step exchange (List.mem_cons_of_mem _ member)) onward
      simp only [exchanges, run, ← same]
      exact ⟨by rw [later.1], later.2.1, later.2.2⟩

@[simp]
theorem yields_done_iff
    {value result : α}
    {exchanges : List (Exchange P)} :
    (Dialogue.done value : Dialogue P α).Yields exchanges result ↔
      exchanges = [] ∧ result = value := by
  constructor
  · intro yields
    cases yields
    exact ⟨rfl, rfl⟩
  · rintro ⟨rfl, rfl⟩
    exact .done _

theorem yields_ask_iff
    {question : P.Question}
    {next : P.Reply question → Dialogue P α}
    {exchanges : List (Exchange P)}
    {result : α} :
    (Dialogue.ask question next).Yields exchanges result ↔
      ∃ reply rest, exchanges = ⟨question, reply⟩ :: rest ∧ (next reply).Yields rest result := by
  constructor
  · intro yields
    cases yields with
    | ask later =>
        exact ⟨_, _, rfl, later⟩
  · rintro ⟨reply, rest, rfl, later⟩
    exact .ask later

/-- Two dialogues in sequence go through the exchanges of one and then of the other. -/
theorem yields_andThen_iff
    {dialogue : Dialogue P α}
    {next : α → Dialogue P β}
    {exchanges : List (Exchange P)}
    {result : β} :
    (dialogue.andThen next).Yields exchanges result ↔
      ∃ value first second,
        exchanges = first ++ second ∧
          dialogue.Yields first value ∧ (next value).Yields second result := by
  induction dialogue generalizing exchanges with
  | done value =>
      constructor
      · intro yields
        exact ⟨value, [], exchanges, rfl, .done value, yields⟩
      · rintro ⟨middle, first, second, rfl, finished, yields⟩
        obtain ⟨rfl, rfl⟩ := yields_done_iff.mp finished
        exact yields
  | ask question continuation inductionHypothesis =>
      simp only [andThen, yields_ask_iff, inductionHypothesis]
      constructor
      · rintro ⟨reply, rest, rfl, value, first, second, rfl, earlier, later⟩
        exact ⟨value, ⟨question, reply⟩ :: first, second, rfl, ⟨reply, first, rfl, earlier⟩, later⟩
      · rintro ⟨value, asked, second, rfl, ⟨reply, first, rfl, earlier⟩, later⟩
        exact ⟨reply, first ++ second, rfl, value, first, second, rfl, earlier, later⟩

theorem yields_question_iff
    {question : P.Question}
    {exchanges : List (Exchange P)}
    {reply : P.Reply question} :
    (Dialogue.question question).Yields exchanges reply ↔ exchanges = [⟨question, reply⟩] := by
  simp only [Dialogue.question, yields_ask_iff, yields_done_iff]
  constructor
  · rintro ⟨given, rest, rfl, rfl, rfl⟩
    rfl
  · rintro rfl
    exact ⟨reply, [], rfl, rfl, rfl⟩

/-- Steps that may fail end with the first failure, or else go on with a value. -/
theorem yields_bind
    {first : ExceptT ε (Dialogue P) α}
    {next : α → ExceptT ε (Dialogue P) β}
    {exchanges : List (Exchange P)}
    {result : Except ε β}
    (yields : (first >>= next).run.Yields exchanges result) :
    (∃ error, first.run.Yields exchanges (.error error) ∧ result = .error error) ∨
      ∃ value earlier later,
        exchanges = earlier ++ later ∧
          first.run.Yields earlier (.ok value) ∧ (next value).run.Yields later result := by
  obtain ⟨outcome, earlier, later, rfl, before, after⟩ := yields_andThen_iff.mp yields
  cases outcome with
  | ok value =>
      exact Or.inr ⟨value, earlier, later, rfl, before, after⟩
  | error error =>
      obtain ⟨rfl, rfl⟩ := yields_done_iff.mp after
      rw [List.append_nil]
      exact Or.inl ⟨error, before, rfl⟩

/-- A result that needs no question ends the steps if it is an error. -/
theorem yields_given_bind
    {given : Except ε α}
    {next : α → ExceptT ε (Dialogue P) β}
    {exchanges : List (Exchange P)}
    {result : Except ε β}
    (yields : ((ExceptT.mk (.done given) : ExceptT ε (Dialogue P) α) >>= next).run.Yields
      exchanges result) :
    (∃ error, given = .error error ∧ exchanges = [] ∧ result = .error error) ∨
      ∃ value, given = .ok value ∧ (next value).run.Yields exchanges result := by
  rcases yields_bind yields with ⟨error, failing, rfl⟩ | ⟨value, earlier, later, rfl, first, rest⟩
  · obtain ⟨rfl, same⟩ := yields_done_iff.mp failing
    exact Or.inl ⟨error, same.symm, rfl, rfl⟩
  · obtain ⟨rfl, same⟩ := yields_done_iff.mp first
    exact Or.inr ⟨value, same.symm, rest⟩

/-- Steps that begin with a dialogue go on with what becomes of its outcome. -/
theorem yields_andThen_bind
    {dialogue : Dialogue P γ}
    {settle : γ → Dialogue P (Except ε α)}
    {next : α → ExceptT ε (Dialogue P) β}
    {exchanges : List (Exchange P)}
    {result : Except ε β}
    (yields : (ExceptT.mk (dialogue.andThen settle) >>= next).run.Yields exchanges result) :
    ∃ outcome earlier later,
      exchanges = earlier ++ later ∧
        dialogue.Yields earlier outcome ∧
        (ExceptT.mk (settle outcome) >>= next).run.Yields later result := by
  obtain ⟨settled, first, last, rfl, before, after⟩ := yields_andThen_iff.mp yields
  obtain ⟨outcome, earlier, later, rfl, held, settling⟩ := yields_andThen_iff.mp before
  refine ⟨outcome, earlier, later ++ last, List.append_assoc _ _ _, held, ?_⟩
  exact yields_andThen_iff.mpr ⟨settled, later, last, rfl, settling, after⟩

/-- Steps with a handler succeed as they would without it, or fail and go on with it. -/
theorem yields_tryCatch
    {first : ExceptT ε (Dialogue P) α}
    {handle : ε → ExceptT ε (Dialogue P) α}
    {exchanges : List (Exchange P)}
    {result : Except ε α}
    (yields : (tryCatch first handle).run.Yields exchanges result) :
    (∃ value, first.run.Yields exchanges (.ok value) ∧ result = .ok value) ∨
      ∃ error earlier later,
        exchanges = earlier ++ later ∧
          first.run.Yields earlier (.error error) ∧ (handle error).run.Yields later result := by
  obtain ⟨outcome, earlier, later, rfl, before, after⟩ := yields_andThen_iff.mp yields
  cases outcome with
  | ok value =>
      obtain ⟨rfl, rfl⟩ := yields_done_iff.mp after
      rw [List.append_nil]
      exact Or.inl ⟨value, before, rfl⟩
  | error error =>
      exact Or.inr ⟨error, earlier, later, rfl, before, after⟩

/-- Steps that succeed go on with their value, where they left the partner. -/
theorem run_bind_of_ok
    {respond : (question : P.Question) → σ → P.Reply question × σ}
    {first : ExceptT ε (Dialogue P) α}
    {next : α → ExceptT ε (Dialogue P) β}
    {value : α}
    {before middle : σ}
    (succeeds : first.run.run respond before = (.ok value, middle)) :
    (first >>= next).run.run respond before = (next value).run.run respond middle := by
  refine (run_andThen respond first.run _ before).trans ?_
  rw [succeeds]
  rfl

/-- Steps that fail end with their error. -/
theorem run_bind_of_error
    {respond : (question : P.Question) → σ → P.Reply question × σ}
    {first : ExceptT ε (Dialogue P) α}
    {next : α → ExceptT ε (Dialogue P) β}
    {error : ε}
    {before after : σ}
    (fails : first.run.run respond before = (.error error, after)) :
    (first >>= next).run.run respond before = (.error error, after) := by
  refine (run_andThen respond first.run _ before).trans ?_
  rw [fails]
  rfl

/-- Steps that succeed need no help. -/
theorem run_tryCatch_of_ok
    {respond : (question : P.Question) → σ → P.Reply question × σ}
    {first : ExceptT ε (Dialogue P) α}
    {handle : ε → ExceptT ε (Dialogue P) α}
    {value : α}
    {before after : σ}
    (succeeds : first.run.run respond before = (.ok value, after)) :
    (tryCatch first handle).run.run respond before = (.ok value, after) := by
  refine (run_andThen respond first.run _ before).trans ?_
  rw [succeeds]
  rfl

/-! ## What is asked at all -/

/-- Whatever is answered, all that is asked is of one kind. -/
inductive AsksOnly (property : P.Question → Prop) : Dialogue P α → Prop where
  | done (value : α) :
      AsksOnly property (.done value)
  | ask {question : P.Question} {next : P.Reply question → Dialogue P α}
      (holds : property question)
      (later : ∀ reply, AsksOnly property (next reply)) :
      AsksOnly property (.ask question next)

namespace AsksOnly

variable {property : P.Question → Prop}

/-- A dialogue asks only such questions along every run. -/
theorem exchanges
    {dialogue : Dialogue P α}
    (asksOnly : dialogue.AsksOnly property)
    (respond : (question : P.Question) → σ → P.Reply question × σ)
    (state : σ) :
    ∀ exchange ∈ dialogue.exchanges respond state, property exchange.question := by
  induction asksOnly generalizing state with
  | done value =>
      exact List.forall_mem_nil _
  | ask holds later inductionHypothesis =>
      exact List.forall_mem_cons.mpr ⟨holds, inductionHypothesis _ _⟩

/-- What a dialogue and its continuation ask only, both ask only. -/
theorem andThen
    {dialogue : Dialogue P α}
    {next : α → Dialogue P β}
    (first : dialogue.AsksOnly property)
    (later : ∀ value, (next value).AsksOnly property) :
    (dialogue.andThen next).AsksOnly property := by
  induction first with
  | done value =>
      exact later value
  | ask holds _ inductionHypothesis =>
      exact .ask holds inductionHypothesis

/-- What two steps ask only, they ask only one after the other. -/
theorem bind
    {first : ExceptT ε (Dialogue P) α}
    {next : α → ExceptT ε (Dialogue P) β}
    (before : first.run.AsksOnly property)
    (after : ∀ value, (next value).run.AsksOnly property) :
    (first >>= next).run.AsksOnly property := by
  refine before.andThen fun outcome => ?_
  cases outcome with
  | ok value =>
      exact after value
  | error error =>
      exact .done _

/-- Only what comes after a given result asks anything. -/
theorem given_bind
    {given : Except ε α}
    {next : α → ExceptT ε (Dialogue P) β}
    (goesOn : ∀ value, given = .ok value → (next value).run.AsksOnly property) :
    ((ExceptT.mk (.done given) : ExceptT ε (Dialogue P) α) >>= next).run.AsksOnly property := by
  cases given with
  | ok value =>
      exact goesOn value rfl
  | error error =>
      exact .done _

/-- What a step and its handler ask only, they ask only together. -/
theorem tryCatch
    {first : ExceptT ε (Dialogue P) α}
    {handle : ε → ExceptT ε (Dialogue P) α}
    (before : first.run.AsksOnly property)
    (after : ∀ error, (handle error).run.AsksOnly property) :
    (tryCatch first handle).run.AsksOnly property := by
  refine before.andThen fun outcome => ?_
  cases outcome with
  | ok value =>
      exact .done _
  | error error =>
      exact after error

end AsksOnly

/-! ## Questions put to another dialogue -/

section

variable {Q : Protocol} {put : (question : P.Question) → Dialogue Q (P.Reply question)}

/-- Exchanges of another kind that come of putting each of some questions on. -/
inductive Relayed (put : (question : P.Question) → Dialogue Q (P.Reply question)) :
    List (Exchange P) → List (Exchange Q) → Prop where
  | nil :
      Relayed put [] []
  | cons {exchange : Exchange P} {rest : List (Exchange P)} {first later : List (Exchange Q)}
      (answered : (put exchange.question).Yields first exchange.reply)
      (relayed : Relayed put rest later) :
      Relayed put (exchange :: rest) (first ++ later)

/-- A dialogue whose questions are put on goes as it goes with whatever they come to. -/
theorem yields_relay
    {dialogue : Dialogue P α}
    {exchanges : List (Exchange Q)}
    {value : α}
    (yields : (dialogue.relay put).Yields exchanges value) :
    ∃ asked, dialogue.Yields asked value ∧ Relayed put asked exchanges := by
  induction dialogue generalizing exchanges with
  | done given =>
      obtain ⟨rfl, rfl⟩ := yields_done_iff.mp yields
      exact ⟨[], .done _, .nil⟩
  | ask question next inductionHypothesis =>
      obtain ⟨reply, first, later, rfl, answered, going⟩ := yields_andThen_iff.mp yields
      obtain ⟨asked, goes, relayed⟩ := inductionHypothesis reply going
      exact ⟨⟨question, reply⟩ :: asked, .ask goes, .cons answered relayed⟩

namespace Relayed

variable {questions : List (Exchange P)} {exchanges : List (Exchange Q)}

/-- Every exchange comes of one of the questions. -/
theorem source
    (relayed : Relayed put questions exchanges)
    {exchange : Exchange Q}
    (member : exchange ∈ exchanges) :
    ∃ asked ∈ questions, ∃ part,
      (put asked.question).Yields part asked.reply ∧ exchange ∈ part := by
  induction relayed with
  | nil =>
      cases member
  | @cons asked rest first later answered _ inductionHypothesis =>
      rcases List.mem_append.mp member with here | there
      · exact ⟨asked, List.mem_cons_self, first, answered, here⟩
      · obtain ⟨other, among, part, yields, within⟩ := inductionHypothesis there
        exact ⟨other, List.mem_cons_of_mem _ among, part, yields, within⟩

/-- Every question has been answered by what it was put to. -/
theorem answer
    (relayed : Relayed put questions exchanges)
    {asked : Exchange P}
    (member : asked ∈ questions) :
    ∃ part, (put asked.question).Yields part asked.reply := by
  induction relayed with
  | nil =>
      cases member
  | cons answered _ inductionHypothesis =>
      rcases List.mem_cons.mp member with rfl | later
      · exact ⟨_, answered⟩
      · exact inductionHypothesis later

end Relayed

end

end Dialogue

end GraphBroker
