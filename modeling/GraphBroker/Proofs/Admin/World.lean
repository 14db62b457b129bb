import GraphBroker.Admin.Rehearsal
import GraphBroker.Proofs.Conversation

namespace GraphBroker

/-!
# Servers that keep their users

A server, which is known by its address, has users and lets some of them into
databases.  A call that succeeds does what its name says and a call that fails
does nothing; which calls fail is left to a script.
-/

/-- The users of a server, and the databases into which they are let. -/
structure Holdings where
  users : List String
  /-- Databases, each with a user who is let in. -/
  access : List (String × String)

/-- The servers at all addresses. -/
abbrev World : Type := String → Holdings

/-- What a call that succeeds does to the users of a server. -/
def AdminCall.effect : AdminCall → Holdings → Holdings
  | .newUser username _, holdings => { holdings with users := username :: holdings.users }
  | .deleteUser username, holdings =>
      { holdings with users := holdings.users.filter (· != username) }
  | .grantAccess database username, holdings =>
      { holdings with access := (database, username) :: holdings.access }
  | .revokeAccess database username, holdings =>
      { holdings with access := holdings.access.filter (· != (database, username)) }
  | .createDatabase _, holdings | .deleteDatabase _, holdings | .userExists _, holdings => holdings

/-- The user that a call asks for is there. -/
def AdminCall.userKnown : AdminCall → Holdings → Bool
  | .userExists username, holdings => decide (username ∈ holdings.users)
  | _, _ => false

namespace World

/-- The servers after a call that succeeds. -/
def after (world : World) (question : AdminQuestion) : World := fun url =>
  if url = question.server.url then question.call.effect (world url) else world url

/-- What a call that succeeds is answered. -/
def reply (world : World) (question : AdminQuestion) : question.call.Reply :=
  question.call.successReply (question.call.userKnown (world question.server.url))

/-- A call fails and changes nothing, or succeeds and does what its name says. -/
inductive Obeys (question : AdminQuestion) (before : World) : question.Outcome → World → Prop where
  | fails (failure : Remote.Failure) :
      Obeys question before (.error failure) before
  | succeeds :
      Obeys question before (.ok (before.reply question)) (before.after question)

/-- Answer a call, where a script says which calls fail. -/
def answer {φ : Type}
    (fault : AdminQuestion → φ → Option Remote.Failure × φ)
    (question : AdminQuestion) :
    World × φ → question.Outcome × (World × φ)
  | (world, script) =>
      match fault question script with
      | (some failure, script) => (.error failure, (world, script))
      | (none, script) => (.ok (world.reply question), (world.after question, script))

/-- The script of servers on which no call fails. -/
def unfailing (_ : AdminQuestion) (script : Unit) : Option Remote.Failure × Unit :=
  (none, script)

/-- Whatever the script, every call is answered as it should be. -/
theorem obeys_answer {φ : Type}
    (fault : AdminQuestion → φ → Option Remote.Failure × φ)
    (question : AdminQuestion)
    (state : World × φ) :
    Obeys question state.1 (answer fault question state).1 (answer fault question state).2.1 := by
  obtain ⟨world, script⟩ := state
  unfold answer
  cases fails : fault question script with
  | mk failure script =>
      cases failure with
      | some failure =>
          simp only [fails]
          exact .fails failure
      | none =>
          simp only [fails]
          exact .succeeds

/-- A call that succeeds is answered as things stand, and does what its name says. -/
theorem Obeys.of_ok
    {question : AdminQuestion}
    {reply : question.call.Reply}
    {before after : World}
    (obeys : Obeys question before (.ok reply) after) :
    reply = before.reply question ∧ after = before.after question := by
  generalize same : (Except.ok reply : question.Outcome) = outcome at obeys
  cases obeys with
  | fails failure =>
      cases same
  | succeeds =>
      cases same
      exact ⟨rfl, rfl⟩

/-! ## Who is spared -/

/-- A user of a server stays there, and stays let into its databases. -/
structure Spares (before after : World) (url username : String) : Prop where
  user : username ∈ (before url).users → username ∈ (after url).users
  access :
    ∀ {database},
      (database, username) ∈ (before url).access →
      (database, username) ∈ (after url).access

/-- A call takes a user away, or its access to a database. -/
def TakesFrom (username : String) : AdminCall → Prop
  | .deleteUser other => other = username
  | .revokeAccess _ other => other = username
  | _ => False

/-- A call takes something from a user of a server, and succeeds. -/
def Harms (url username : String) (call : Exchange administration) : Prop :=
  call.question.server.url = url ∧ TakesFrom username call.question.call ∧
    ∃ reply, (call.reply : call.question.Outcome) = .ok reply

theorem Spares.refl
    (world : World)
    (url username : String) :
    Spares world world url username :=
  ⟨id, id⟩

theorem Spares.trans
    {before middle after : World}
    {url username : String}
    (first : Spares before middle url username)
    (second : Spares middle after url username) :
    Spares before after url username :=
  ⟨fun there => second.user (first.user there), fun letIn => second.access (first.access letIn)⟩

theorem Obeys.spares
    {question : AdminQuestion}
    {outcome : question.Outcome}
    {before after : World}
    {url username : String}
    (obeys : Obeys question before outcome after)
    (harmless : ¬ Harms url username ⟨question, outcome⟩) :
    Spares before after url username := by
  obtain ⟨server, call⟩ := question
  cases obeys with
  | fails failure =>
      exact Spares.refl before url username
  | succeeds =>
      by_cases here : url = server.url
      · have untouched : ¬ TakesFrom username call :=
          fun takes => harmless ⟨here.symm, takes, _, rfl⟩
        cases call with
        | createDatabase database | deleteDatabase database | userExists other =>
            constructor <;> simp [World.after, AdminCall.effect]
        | newUser other password | grantAccess database other =>
            constructor <;> simp +contextual [World.after, AdminCall.effect, here]
        | deleteUser other =>
            have different : username ≠ other := fun same => untouched same.symm
            constructor <;> simp [World.after, AdminCall.effect, here, different]
        | revokeAccess database other =>
            have different : username ≠ other := fun same => untouched same.symm
            constructor <;> simp [World.after, AdminCall.effect, here, different]
      · constructor <;> simp [World.after, here]

/-- Calls none of which harms a user spare it. -/
theorem spares_of_leads
    {calls : List (Exchange administration)}
    {before after : World}
    {url username : String}
    (leads : Leads (P := administration) Obeys before calls after)
    (harmless : ∀ call ∈ calls, ¬ Harms url username call) :
    Spares before after url username := by
  induction calls generalizing before with
  | nil =>
      rw [leads]
      exact Spares.refl before url username
  | cons call rest inductionHypothesis =>
      obtain ⟨middle, obeys, later⟩ := leads
      have first := Obeys.spares obeys (harmless call (by simp))
      have others : ∀ other ∈ rest, ¬ Harms url username other :=
        fun other member => harmless other (by simp [member])
      exact first.trans (inductionHypothesis later others)

/-- A call that does not let a user in keeps it out of a database. -/
theorem Obeys.keepsOut
    {question : AdminQuestion}
    {outcome : question.Outcome}
    {before after : World}
    {url database username : String}
    (obeys : Obeys question before outcome after)
    (ungranted : question.call ≠ .grantAccess database username)
    (keptOut : (database, username) ∉ (before url).access) :
    (database, username) ∉ (after url).access := by
  obtain ⟨server, call⟩ := question
  cases obeys with
  | fails failure =>
      exact keptOut
  | succeeds =>
      by_cases here : url = server.url
      · subst here
        cases call with
        | grantAccess other user =>
            have different : ¬ (database = other ∧ username = user) := by
              rintro ⟨rfl, rfl⟩
              exact ungranted rfl
            simp [World.after, AdminCall.effect, keptOut, different]
        | revokeAccess other user =>
            simp [World.after, AdminCall.effect, keptOut]
        | _ =>
            simpa [World.after, AdminCall.effect] using keptOut
      · simpa [World.after, here] using keptOut

/-- A user whose access was taken away and never given again is kept out. -/
theorem keptOut_of_leads
    {calls : List (Exchange administration)}
    {before after : World}
    {server : Server}
    {database username : String}
    (leads : Leads (P := administration) Obeys before calls after)
    (ungranted : ∀ call ∈ calls, call.question.call ≠ .grantAccess database username)
    (revoked :
      (⟨⟨server, .revokeAccess database username⟩, .ok ()⟩ : Exchange administration) ∈ calls) :
    (database, username) ∉ (after server.url).access := by
  induction calls generalizing before with
  | nil =>
      cases revoked
  | cons call rest inductionHypothesis =>
      obtain ⟨middle, obeys, later⟩ := leads
      have others : ∀ other ∈ rest, other.question.call ≠ .grantAccess database username :=
        fun other member => ungranted other (by simp [member])
      rcases List.mem_cons.mp revoked with rfl | last
      · let out (world : World) : Prop := (database, username) ∉ (world server.url).access
        have start : out middle := by
          cases obeys with
          | succeeds =>
              simp [out, World.after, AdminCall.effect]
        have step (other : Exchange administration) (member : other ∈ rest) {before after : World}
            (obeys : Obeys other.question before other.reply after) (keptOut : out before) :
            out after :=
          obeys.keepsOut (others other member) keptOut
        exact later.preserves step start
      · exact inductionHypothesis later others last

end World

end GraphBroker
