import GraphBroker.Proofs.Remote.Exchange
import GraphBroker.Proofs.Remote.Host
import Mathlib.Data.List.Forall2

namespace GraphBroker.Remote

open Dialogue Text

/-!
# Transactions over the wire

Data are added in a transaction of their own: it is begun, the data are added, and it is
committed.  Whatever the server answers, or if it does not answer, a transaction that was
begun is either committed or is to be rolled back, and never both.  What went wrong first
is the result.
-/

/-- A step of a transaction, which has a name once it is begun. -/
inductive Step where
  | begin
  | add (transaction : String)
  | commit (transaction : String)
  | rollback (transaction : String)

/-- Data to add to a database, and the server beneath whose address it is. -/
structure Addition where
  base : Url
  login : Login
  database : String
  contentType : String
  payload : String

/-- A step that was tried, and what it came to. -/
structure Attempt where
  step : Step
  outcome : Except Failure String

namespace Addition

/-- The request of a step. -/
def request (addition : Addition) : Step → Request
  | .begin =>
      .toUrl .post (addition.base.extend [addition.database, "transaction", "begin"])
        addition.login "text/plain" .empty
  | .add transaction =>
      .toUrl .post (addition.base.extend [addition.database, transaction, "add"])
        addition.login "text/plain" (.typed addition.contentType addition.payload)
  | .commit transaction =>
      .toUrl .post (addition.base.extend [addition.database, "transaction", "commit", transaction])
        addition.login "*/*" .empty
  | .rollback transaction =>
      .toUrl .post
        (addition.base.extend [addition.database, "transaction", "rollback", transaction])
        addition.login "*/*" .empty

/--
What is sent for a step: its request, once, unless that cannot be made.  The step succeeds
if and only if it is answered with status 200.
-/
def Sends (addition : Addition) (attempt : Attempt) (sent : List (Exchange wire)) : Prop :=
  (addition.request attempt.step).Settles 200 sent attempt.outcome

end Addition

/--
The steps that are tried in order to add data, in their order, and the result.  The
transaction is named by what the server says when it is begun, without the blanks around it.
-/
inductive Course : List Attempt → Except Failure Unit → Prop where
  | notBegun {failure : Failure} :
      Course [⟨.begin, .error failure⟩] (.error failure)
  | notAdded {name : String} {failure : Failure} {ending : Except Failure String} :
      Course
        [⟨.begin, .ok name⟩, ⟨.add (trim name), .error failure⟩, ⟨.rollback (trim name), ending⟩]
        (.error failure)
  | notCommitted {name added : String} {failure : Failure} {ending : Except Failure String} :
      Course
        [⟨.begin, .ok name⟩, ⟨.add (trim name), .ok added⟩, ⟨.commit (trim name), .error failure⟩,
         ⟨.rollback (trim name), ending⟩]
        (.error failure)
  | committed {name added ending : String} :
      Course
        [⟨.begin, .ok name⟩, ⟨.add (trim name), .ok added⟩, ⟨.commit (trim name), .ok ending⟩]
        (.ok ())

namespace Course

variable {attempts : List Attempt} {result : Except Failure Unit}

/-- A transaction that was begun is committed, or it is tried to roll it back. -/
theorem closes
    (course : Course attempts result)
    {name : String}
    (begun : ⟨.begin, .ok name⟩ ∈ attempts) :
    (∃ ending, ⟨.commit (trim name), .ok ending⟩ ∈ attempts) ∨
      ∃ outcome, ⟨.rollback (trim name), outcome⟩ ∈ attempts := by
  cases course with
  | notBegun =>
      simp at begun
  | notAdded | notCommitted =>
      right
      simp_all
  | committed =>
      left
      simp_all

/-- No transaction that is committed is rolled back. -/
theorem closes_once
    (course : Course attempts result)
    {committed rolledBack ending : String}
    (commits : ⟨.commit committed, .ok ending⟩ ∈ attempts)
    (outcome : Except Failure String) :
    ⟨.rollback rolledBack, outcome⟩ ∉ attempts := by
  cases course <;> simp_all

end Course

namespace Client

section

variable {client : Client} {base : Url} {database contentType payload transaction : String}
variable {exchanges : List (Exchange wire)}
variable (read : Url.parse? client.base = some base) (http : base.isHttp = true)

include read http

/-- What is sent to close a transaction. -/
theorem settles_of_closeTransaction
    {step : String}
    {outcome : Except Failure Unit}
    (yields : (client.closeTransaction database step transaction).run.Yields exchanges outcome) :
    ∃ ending : Except Failure String,
      outcome = ending.map (fun _ => ()) ∧
        (Request.toUrl .post (base.extend [database, "transaction", step, transaction])
          client.login "*/*" .empty).Settles 200 exchanges ending := by
  have reached := target_eq_ok read http [database, "transaction", step, transaction]
  rcases yields_bind yields with ⟨failure, sending, rfl⟩ | ⟨answer, first, last, rfl, sending, ended⟩
  · exact ⟨.error failure, rfl, settles_of_send reached rfl sending⟩
  · obtain ⟨rfl, rfl⟩ := yields_done_iff.mp ended
    rw [List.append_nil]
    exact ⟨.ok answer, rfl, settles_of_send reached rfl sending⟩

/-- What is sent to add data and to commit the transaction, which is tried once they are added. -/
theorem sends_of_addAndCommit
    {outcome : Except Failure Unit}
    (yields :
      (client.addAndCommit database transaction contentType payload).run.Yields exchanges outcome) :
    let addition : Addition := ⟨base, client.login, database, contentType, payload⟩
    (∃ failure, outcome = .error failure ∧
        addition.Sends ⟨.add transaction, .error failure⟩ exchanges) ∨
      ∃ added ending first last,
        exchanges = first ++ last ∧ outcome = ending.map (fun _ => ()) ∧
          addition.Sends ⟨.add transaction, .ok added⟩ first ∧
          addition.Sends ⟨.commit transaction, ending⟩ last := by
  have reached := target_eq_ok read http [database, transaction, "add"]
  rcases yields_bind yields with ⟨failure, adding, rfl⟩ | ⟨added, first, last, rfl, adding, closing⟩
  · exact Or.inl ⟨failure, rfl, settles_of_sendData reached adding⟩
  · obtain ⟨ending, same, commits⟩ := settles_of_closeTransaction read http closing
    exact Or.inr ⟨added, ending, first, last, rfl, same, settles_of_sendData reached adding, commits⟩

/-- What is sent after a failure, which remains the result whatever becomes of the rollback. -/
theorem sends_of_rollback
    {failure : Failure}
    {result : Except Failure Unit}
    (yields :
      (tryCatch (client.closeTransaction database "rollback" transaction) (fun _ => pure ()) >>=
        fun _ => (throw failure : Session Unit)).run.Yields exchanges result) :
    result = .error failure ∧ ∃ ending,
      (⟨base, client.login, database, contentType, payload⟩ : Addition).Sends
        ⟨.rollback transaction, ending⟩ exchanges := by
  rcases yields_bind yields with ⟨other, handled, rfl⟩ | ⟨_, first, last, rfl, handled, ended⟩
  · -- The handler itself cannot fail.
    rcases yields_tryCatch handled with ⟨_, _, impossible⟩ | ⟨_, earlier, later, rfl, _, done⟩
    · cases impossible
    · obtain ⟨_, impossible⟩ := yields_done_iff.mp done
      cases impossible
  · obtain ⟨rfl, rfl⟩ := yields_done_iff.mp ended
    rw [List.append_nil]
    refine ⟨rfl, ?_⟩
    rcases yields_tryCatch handled with ⟨_, closing, -⟩ | ⟨_, earlier, later, rfl, closing, done⟩
    · obtain ⟨ending, -, settles⟩ := settles_of_closeTransaction read http closing
      exact ⟨ending, settles⟩
    · obtain ⟨ending, -, settles⟩ := settles_of_closeTransaction read http closing
      obtain ⟨rfl, -⟩ := yields_done_iff.mp done
      rw [List.append_nil]
      exact ⟨ending, settles⟩

/-- Every way in which data can be added tries the steps of one course. -/
theorem course_of_yields
    {result : Except Failure Unit}
    (yields : (client.addData database contentType payload).run.Yields exchanges result) :
    ∃ attempts sent,
      Course attempts result ∧
        List.Forall₂ (Addition.Sends ⟨base, client.login, database, contentType, payload⟩)
          attempts sent ∧
        exchanges = sent.flatten := by
  have reached := target_eq_ok read http [database, "transaction", "begin"]
  rcases yields_bind yields with ⟨failure, beginning, rfl⟩ | ⟨name, first, last, rfl, beginning, going⟩
  · have begins := settles_of_send reached rfl beginning
    exact ⟨_, [exchanges], .notBegun, .cons begins .nil, by simp⟩
  · have begins := settles_of_send reached rfl beginning
    rcases yields_tryCatch going with ⟨_, adding, rfl⟩ | ⟨failure, earlier, later, rfl, adding, rest⟩
    · rcases sends_of_addAndCommit read http adding with
        ⟨_, impossible, _⟩ | ⟨added, ending, second, third, rfl, same, adds, commits⟩
      · cases impossible
      · cases ending with
        | error _ =>
            cases same
        | ok ending =>
            exact ⟨_, [first, second, third], .committed,
              .cons begins (.cons adds (.cons commits .nil)), by simp⟩
    · obtain ⟨rfl, ending, rollsBack⟩ := sends_of_rollback read http rest
      rcases sends_of_addAndCommit read http adding with
        ⟨_, same, adds⟩ | ⟨added, ending, second, third, rfl, same, adds, commits⟩
      · cases same
        exact ⟨_, [first, earlier, later], .notAdded,
          .cons begins (.cons adds (.cons rollsBack .nil)), by simp⟩
      · cases ending with
        | ok _ =>
            cases same
        | error failure =>
            cases same
            exact ⟨_, [first, second, third, later], .notCommitted,
              .cons begins (.cons adds (.cons commits (.cons rollsBack .nil))), by simp⟩

end

/--
Adding data closes the transaction that it opens, and tells what became of it.  Beneath
every server that takes requests, whoever answers them and in whatever way, the steps of
one course are tried; each of them sends its request once, unless it cannot be made.  A
transaction that was begun is committed or it is tried to roll it back, and never both.
-/
theorem addData_closes_transaction
    {client : Client}
    {base : Url}
    (read : Url.parse? client.base = some base)
    (http : base.isHttp = true)
    (database contentType payload : String)
    {σ : Type}
    (respond : Request → σ → Option Response × σ)
    (state : σ) :
    let adding := (client.addData database contentType payload).run
    ∃ attempts sent,
      Course attempts (adding.run (P := wire) respond state).1 ∧
        List.Forall₂ (Addition.Sends ⟨base, client.login, database, contentType, payload⟩)
          attempts sent ∧
        adding.exchanges (P := wire) respond state = sent.flatten ∧
        (∀ name, ⟨.begin, .ok name⟩ ∈ attempts →
          (∃ ending, ⟨.commit (trim name), .ok ending⟩ ∈ attempts) ∨
            ∃ outcome, ⟨.rollback (trim name), outcome⟩ ∈ attempts) ∧
        ∀ committed rolledBack ending outcome, ⟨.commit committed, .ok ending⟩ ∈ attempts →
          ⟨.rollback rolledBack, outcome⟩ ∉ attempts := by
  obtain ⟨attempts, sent, course, sends, same⟩ :=
    course_of_yields read http (yields_exchanges respond _ state)
  refine ⟨attempts, sent, course, sends, same, ?_, ?_⟩
  · intro name begun
    exact course.closes begun
  · intro committed rolledBack ending outcome commits
    exact course.closes_once commits outcome

/-! ## Transactions with scripted peers -/

/-- The URLs to which requests are sent when data of some type are added. -/
def addressesToAdd (client : Client) (contentType : String) (peer : Peer) : List String :=
  ((client.addData "db" contentType "x").run.exchanges (P := wire) Peer.answer peer).map
    fun exchange => Url.render (Request.url exchange.question)

/-- A transaction whose data get no answer is rolled back, although that is refused. -/
theorem addData_rolls_back_dropped :
    let peer : Peer := .scripted [some ⟨200, Utf8.encode " t\n"⟩, none, some ⟨500, []⟩]
    let adding := (onNetwork.addData "db" "text/turtle" "x").run
    onNetwork.addressesToAdd "text/turtle" peer =
        ["http://sd:5820/db/transaction/begin", "http://sd:5820/db/t/add",
         "http://sd:5820/db/transaction/rollback/t"] ∧
      ∃ base attempts sent,
        Url.parse? onNetwork.base = some base ∧
        Course attempts (adding.run (P := wire) Peer.answer peer).1 ∧
        List.Forall₂ (Addition.Sends ⟨base, onNetwork.login, "db", "text/turtle", "x"⟩)
          attempts sent ∧
        adding.exchanges (P := wire) Peer.answer peer = sent.flatten := by
  intro peer adding
  refine ⟨by decide +kernel, ?_⟩
  have read : Url.parse? onNetwork.base =
      some ⟨"http", some ⟨"", none, "sd", some 5820⟩, false, [""], none, none⟩ := rfl
  obtain ⟨attempts, sent, course, sends, same, -⟩ :=
    addData_closes_transaction read rfl "db" "text/turtle" "x" Peer.answer peer
  exact ⟨_, attempts, sent, read, course, sends, same⟩

/--
Some requests cannot be made, although the server would accept whatever is sent.  There is no
request to a host with a brace in its name, and none for data of a type with a line break.
-/
theorem addData_unsent_when_unwritable :
    let peer : Peer := .scripted [some ⟨200, Utf8.encode "t"⟩, some ⟨200, []⟩, some ⟨200, []⟩]
    let braced : Client := .ofServer ⟨"http://a\x7bb", ⟨"admin", "admin"⟩⟩
    ((Url.parse? braced.base).map Url.isHttp = some true ∧
        braced.addressesToAdd "text/turtle" peer = []) ∧
      ((Url.parse? onNetwork.base).map Url.isHttp = some true ∧
        onNetwork.addressesToAdd "text\nturtle" peer =
          ["http://sd:5820/db/transaction/begin", "http://sd:5820/db/transaction/rollback/t"]) := by
  decide +kernel

end Client

end GraphBroker.Remote
