import GraphBroker.Proofs.Conversation
import GraphBroker.Proofs.Fallible
import GraphBroker.Proofs.Remote.Exchange
import GraphBroker.Proofs.Store.Contract
import GraphBroker.Proofs.Store.Subjects

namespace GraphBroker.Store

open Dialogue Remote Text

/-!
# What a store in a graph makes sure of

Whoever is at the other end of the wire may answer anything, or nothing.  A call sends
nothing while one of its identifiers is no key.  It then looks up each entry that it
depends on, and goes on only when the answer can be read and shows what the call needs.
An answer that cannot be read is never taken for one that shows nothing.
-/

/-- A key is made of ASCII letters, digits, hyphens and underscores, and is not empty. -/
def IsKey (key : String) : Prop :=
  key ≠ "" ∧ ∀ c ∈ key.toList,
    ('A' ≤ c ∧ c ≤ 'Z') ∨ ('a' ≤ c ∧ c ≤ 'z') ∨ ('0' ≤ c ∧ c ≤ '9') ∨ c = '-' ∨ c = '_'

/-- An entry that a call depends on, whether it has to be there, and the error if it is otherwise. -/
structure Guard where
  entry : Entry
  present : Bool
  refusal : Error

namespace Call

/-- The identifiers of a call. -/
def keys : Call → List String
  | .addInstance id _ | .getInstance id | .deleteInstance id | .getAllBindings id => [id]
  | .addBinding id bindingId _ | .getBinding id bindingId | .deleteBinding id bindingId =>
      [id, bindingId]

/-- The entries that a call looks up before it does anything else, in their order. -/
def guards : Call → List Guard
  | .addInstance id _ => [⟨.ofInstance id, false, .duplicateInstance id⟩]
  | .getInstance id | .deleteInstance id => [⟨.ofInstance id, true, .instanceNotFound id⟩]
  | .addBinding id bindingId _ =>
      [⟨.ofInstance id, true, .parentMissing id⟩,
       ⟨.ofBinding id bindingId, false, .duplicateBinding id bindingId⟩]
  | .getBinding id bindingId | .deleteBinding id bindingId =>
      [⟨.ofBinding id bindingId, true, .bindingNotFound id bindingId⟩]
  | .getAllBindings id => [⟨.ofInstance id, true, .parentMissing id⟩]

end Call

namespace Graph

/-- The request asks the server of a graph for what a query finds. -/
def Asks (graph : Graph) (query : Query) (request : Request) : Prop :=
  ∃ url, graph.client.target [graph.database, "query"] = .ok url ∧
    request =
      .toUrl .get (url.addQuery (Form.render [⟨"query", query.render⟩])) graph.client.login
        "application/sparql-results+json" .empty

/-- A reply shows the values that a query finds: it succeeds, and its body is a result with them. -/
def Shows (query : Query) (reply : Option Response) (values : List String) : Prop :=
  ∃ response, reply = some response ∧ response.status = 200 ∧
    readColumn query.wanted (Utf8.decodeLossy response.body) = .ok values

/-- How a query goes: what it sends and gets back, and the values that it finds or why it finds none. -/
inductive LooksUp (graph : Graph) (query : Query) :
    List (Exchange wire) → Except Failure (List String) → Prop where
  | found {exchange : Exchange wire} {values : List String}
      (asks : graph.Asks query exchange.question)
      (shows : Shows query exchange.reply values) :
      LooksUp graph query [exchange] (.ok values)
  /-- There is no reply, or it shows nothing. -/
  | unreadable {exchange : Exchange wire} {failure : Failure}
      (asks : graph.Asks query exchange.question)
      (unshown : ∀ values, ¬ Shows query exchange.reply values) :
      LooksUp graph query [exchange] (.error failure)
  /-- Nothing that asks for it can be sent. -/
  | unsent {failure : Failure}
      (blocked : ∀ request, graph.Asks query request → Session.obstacle? request.url ≠ none) :
      LooksUp graph query [] (.error failure)

/-- An entry is looked up, and is shown to be as a call needs it. -/
def Meets (graph : Graph) (guard : Guard) (exchange : Exchange wire) : Prop :=
  ∃ values, graph.LooksUp guard.entry.query [exchange] (.ok values) ∧
    (values ≠ [] ↔ guard.present = true)

/-- A look-up at which a call stops, with the error that it ends in. -/
inductive Stops (graph : Graph) (guard : Guard) : List (Exchange wire) → Error → Prop where
  /-- The entry is shown to be otherwise than the call needs it. -/
  | refused {exchanges : List (Exchange wire)} {values : List String}
      (looksUp : graph.LooksUp guard.entry.query exchanges (.ok values))
      (otherwise : ¬ (values ≠ [] ↔ guard.present = true)) :
      Stops graph guard exchanges guard.refusal
  | failed {exchanges : List (Exchange wire)} {failure : Failure}
      (looksUp : graph.LooksUp guard.entry.query exchanges (.error failure)) :
      Stops graph guard exchanges (.remote failure)

/--
The exchanges of a call that makes sure of what it depends on, and how it ends.  Once
every look-up is met, a call that reads sends nothing but GET, and a call that changes
a record does not succeed without a POST.
-/
inductive Guarded (graph : Graph) (call : Call) : List (Exchange wire) → call.Outcome → Prop where
  | invalid {earlier later : List String} {key : String}
      (keys : call.keys = earlier ++ key :: later)
      (valid : ∀ other ∈ earlier, IsKey other)
      (invalid : ¬ IsKey key) :
      Guarded graph call [] (.error (.invalidKey key))
  | stopped {earlier later : List Guard} {guard : Guard} {looks last : List (Exchange wire)}
      {error : Error}
      (valid : ∀ key ∈ call.keys, IsKey key)
      (guards : call.guards = earlier ++ guard :: later)
      (met : List.Forall₂ graph.Meets earlier looks)
      (stops : graph.Stops guard last error) :
      Guarded graph call (looks ++ last) (.error error)
  | passed {looks rest : List (Exchange wire)} {outcome : call.Outcome}
      (valid : ∀ key ∈ call.keys, IsKey key)
      (met : List.Forall₂ graph.Meets call.guards looks)
      (reading : call.reads = true → ∀ exchange ∈ rest, exchange.question.method = .get)
      (writing : call.reads = false → ∀ reply, outcome = .ok reply →
        ∃ exchange ∈ rest, exchange.question.method = .post) :
      Guarded graph call (looks ++ rest) outcome

end Graph

/-! ## Keys -/

theorem isSafeKey_iff
    {key : String} :
    Graph.isSafeKey key = true ↔ IsKey key := by
  simp [Graph.isSafeKey, IsKey, isKeyChar_iff]

namespace Graph

section

variable {graph : Graph} {exchanges : List (Exchange wire)}

/-- An identifier that is no key ends a call before anything is asked. -/
theorem yields_requireSafe_bind
    {key : String}
    {next : Unit → Steps α}
    {outcome : Except Error α}
    (yields : (requireSafe key >>= next).run.Yields exchanges outcome) :
    (¬ IsKey key ∧ exchanges = [] ∧ outcome = .error (.invalidKey key)) ∨
      (IsKey key ∧ (next ()).run.Yields exchanges outcome) := by
  rw [← isSafeKey_iff]
  unfold requireSafe at yields
  split at yields
  · next safe =>
      exact Or.inr ⟨safe, yields⟩
  · next notSafe =>
      obtain ⟨rfl, rfl⟩ := yields_done_iff.mp yields
      exact Or.inl ⟨notSafe, rfl, rfl⟩

/-! ## Look-ups -/

/-- A request is sent unless its address forbids it, and only the expected status makes a result. -/
theorem yields_exchange
    {request : Request}
    {expected : Http.Status}
    {outcome : Except Failure String}
    (yields : (Session.exchange request expected).run.Yields exchanges outcome) :
    (Session.obstacle? request.url ≠ none ∧ exchanges = [] ∧ ∃ failure, outcome = .error failure) ∨
      ∃ reply : Option Response, exchanges = [⟨request, reply⟩] ∧
        ((∃ response, reply = some response ∧ response.status = expected ∧
            outcome = .ok (Utf8.decodeLossy response.body)) ∨
          ((∀ response, reply = some response → response.status ≠ expected) ∧
            ∃ failure, outcome = .error failure)) := by
  rcases Request.outcome_of_exchange yields with ⟨reason, blocked, rfl, rfl⟩ | ⟨-, reply, rfl, rfl⟩
  · exact Or.inl ⟨by simp [blocked], rfl, _, rfl⟩
  · refine Or.inr ⟨reply, rfl, ?_⟩
    cases settled : request.settled expected reply with
    | ok body =>
        obtain ⟨response, replied, required, rfl⟩ := Request.settled_eq_ok_iff.mp settled
        exact Or.inl ⟨response, replied, required, rfl⟩
    | error failure =>
        refine Or.inr ⟨fun response replied required => ?_, failure, rfl⟩
        have succeeded : request.settled expected reply = .ok (Utf8.decodeLossy response.body) :=
          Request.settled_eq_ok_iff.mpr ⟨response, replied, required, rfl⟩
        rw [settled] at succeeded
        cases succeeded

/-- A query takes one request, unless there is nothing to send. -/
theorem yields_query
    {query : Query}
    {outcome : Except Failure String}
    (yields : (graph.client.query graph.database query.render).run.Yields exchanges outcome) :
    ((∀ request, graph.Asks query request → Session.obstacle? request.url ≠ none) ∧
        exchanges = [] ∧ ∃ failure, outcome = .error failure) ∨
      ∃ exchange : Exchange wire, exchanges = [exchange] ∧ graph.Asks query exchange.question ∧
        ((∃ response : Response, exchange.reply = some response ∧ response.status = 200 ∧
            outcome = .ok (Utf8.decodeLossy response.body)) ∨
          ((∀ response : Response, exchange.reply = some response → response.status ≠ 200) ∧
            ∃ failure, outcome = .error failure)) := by
  rcases yields_given_bind yields with ⟨failure, unreached, rfl, rfl⟩ | ⟨url, reached, asking⟩
  · refine Or.inl ⟨?_, rfl, failure, rfl⟩
    rintro request ⟨url, reached, -⟩
    rw [unreached] at reached
    cases reached
  · rcases yields_exchange asking with ⟨blocked, rfl, failed⟩ | ⟨reply, rfl, answered⟩
    · refine Or.inl ⟨?_, rfl, failed⟩
      rintro request ⟨other, same, rfl⟩
      rw [reached] at same
      cases same
      exact blocked
    · exact Or.inr ⟨_, rfl, ⟨url, reached, rfl⟩, answered⟩

theorem yields_onServer
    {session : Session α}
    {outcome : Except Error α}
    (yields : (onServer session).run.Yields exchanges outcome) :
    ∃ result, session.run.Yields exchanges result ∧ outcome = result.mapError .remote := by
  obtain ⟨result, first, last, rfl, held, settled⟩ := yields_andThen_iff.mp yields
  obtain ⟨rfl, rfl⟩ := yields_done_iff.mp settled
  rw [List.append_nil]
  exact ⟨result, held, by cases result <;> rfl⟩

/-- A selection looks its query up, and what goes wrong there is remote. -/
theorem looksUp_of_yields
    {query : Query}
    {outcome : Except Error (List String)}
    (yields : (graph.select query).run.Yields exchanges outcome) :
    ∃ result, graph.LooksUp query exchanges result ∧ outcome = result.mapError .remote := by
  obtain ⟨result, session, settled⟩ := yields_onServer yields
  refine ⟨result, ?_, settled⟩
  rcases yields_bind session with ⟨failure, asking, rfl⟩ | ⟨body, earlier, later, rfl, asking, reading⟩
  · rcases yields_query asking with ⟨blocked, rfl, -⟩ | ⟨exchange, rfl, asks, answered⟩
    · exact .unsent blocked
    · refine .unreadable asks ?_
      rintro values ⟨response, replied, succeeded, -⟩
      rcases answered with ⟨_, _, _, impossible⟩ | ⟨failed, -⟩
      · cases impossible
      · exact failed response replied succeeded
  · obtain ⟨rfl, rfl⟩ := yields_done_iff.mp reading
    rw [List.append_nil]
    rcases yields_query asking with ⟨_, _, _, impossible⟩ | ⟨exchange, rfl, asks, answered⟩
    · cases impossible
    · rcases answered with ⟨response, replied, succeeded, same⟩ | ⟨_, _, impossible⟩
      · cases same
        cases read : readColumn query.wanted (Utf8.decodeLossy response.body) with
        | ok values =>
            exact .found asks ⟨response, replied, succeeded, read⟩
        | error failure =>
            refine .unreadable asks ?_
            rintro values ⟨other, repliedOther, -, shown⟩
            rw [replied] at repliedOther
            cases repliedOther
            rw [read] at shown
            cases shown
      · cases impossible

/-- A look-up that finds values has sent one request. -/
theorem LooksUp.single
    {query : Query}
    {values : List String}
    (looksUp : graph.LooksUp query exchanges (.ok values)) :
    ∃ exchange, exchanges = [exchange] := by
  cases looksUp
  exact ⟨_, rfl⟩

/-- The first value that a query finds, if its look-up does not fail. -/
theorem yields_first_bind
    {query : Query}
    {next : Option String → Steps α}
    {outcome : Except Error α}
    (yields :
      ((do
        let found ← graph.select query
        return found.head?) >>= next).run.Yields exchanges outcome) :
    (∃ failure, graph.LooksUp query exchanges (.error failure) ∧
        outcome = .error (.remote failure)) ∨
      ∃ exchange values rest, exchanges = exchange :: rest ∧
        graph.LooksUp query [exchange] (.ok values) ∧
        (next values.head?).run.Yields rest outcome := by
  rcases yields_bind yields with ⟨error, looking, rfl⟩ | ⟨found, first, rest, rfl, looking, going⟩
  · rcases yields_bind looking with ⟨error, selecting, same⟩ | ⟨_, _, _, _, _, impossible⟩
    · cases same
      obtain ⟨result, looksUp, failed⟩ := looksUp_of_yields selecting
      obtain ⟨failure, rfl, rfl⟩ := mapError_eq_error_iff.mp failed.symm
      exact Or.inl ⟨failure, looksUp, rfl⟩
    · obtain ⟨-, impossible⟩ := yields_done_iff.mp impossible
      cases impossible
  · rcases yields_bind looking with ⟨_, _, impossible⟩ | ⟨values, first, last, rfl, selecting, ending⟩
    · cases impossible
    · obtain ⟨rfl, same⟩ := yields_done_iff.mp ending
      cases same
      obtain ⟨result, looksUp, succeeded⟩ := looksUp_of_yields selecting
      obtain rfl := mapError_eq_ok_iff.mp succeeded.symm
      obtain ⟨exchange, rfl⟩ := looksUp.single
      exact Or.inr ⟨exchange, values, rest, rfl, looksUp, going⟩

/-- What follows the look-up of an entry goes on only with an entry that is as it has to be. -/
theorem yields_guard
    (guard : Guard)
    {next : Option String → Steps α}
    {outcome : Except Error α}
    (refuses : ∀ found, found.isSome ≠ guard.present → next found = throw guard.refusal)
    (yields :
      ((do
        let found ← graph.select guard.entry.query
        return found.head?) >>= next).run.Yields exchanges outcome) :
    (∃ error, graph.Stops guard exchanges error ∧ outcome = .error error) ∨
      ∃ exchange found rest, exchanges = exchange :: rest ∧ graph.Meets guard exchange ∧
        found.isSome = guard.present ∧ (next found).run.Yields rest outcome := by
  rcases yields_first_bind yields with
    ⟨failure, looksUp, rfl⟩ | ⟨exchange, values, rest, rfl, looksUp, going⟩
  · exact Or.inl ⟨_, .failed looksUp, rfl⟩
  · have shown : values.head?.isSome = true ↔ values ≠ [] := by cases values <;> simp
    by_cases needed : values.head?.isSome = guard.present
    · refine Or.inr ⟨exchange, values.head?, rest, rfl, ⟨values, looksUp, ?_⟩, needed, going⟩
      rw [← shown, needed]
    · rw [refuses _ needed] at going
      obtain ⟨rfl, rfl⟩ := yields_done_iff.mp going
      refine Or.inl ⟨_, .refused looksUp ?_, rfl⟩
      rw [← shown, Bool.coe_iff_coe]
      exact needed

theorem method_of_asks
    {query : Query}
    {request : Request}
    (asks : graph.Asks query request) :
    request.method = .get := by
  obtain ⟨url, -, rfl⟩ := asks
  rfl

/-- Whatever comes of a look-up, it sends nothing but GET. -/
theorem method_of_looksUp
    {query : Query}
    {result : Except Failure (List String)}
    (looksUp : graph.LooksUp query exchanges result)
    {exchange : Exchange wire}
    (member : exchange ∈ exchanges) :
    exchange.question.method = .get := by
  cases looksUp with
  | found asks | unreadable asks =>
      obtain rfl := List.mem_singleton.mp member
      exact method_of_asks asks
  | unsent =>
      cases member

/-! ## Changes -/

/-- A request that is answered as expected has been sent. -/
theorem sent_of_yields
    {client : Client}
    {method : Method}
    {names : List String}
    {accept reply : String}
    {body : Body}
    {expected : Http.Status}
    (yields : (client.send method names accept body expected).run.Yields exchanges (.ok reply)) :
    ∃ exchange ∈ exchanges, exchange.question.method = method := by
  rcases yields_given_bind yields with ⟨_, _, _, impossible⟩ | ⟨url, reached, sending⟩
  · cases impossible
  · rcases yields_exchange sending with ⟨_, _, _, impossible⟩ | ⟨answer, rfl, _⟩
    · cases impossible
    · exact ⟨_, List.mem_cons_self, rfl⟩

/-- Steps that begin with a request do not succeed unless it has been sent. -/
theorem sent_of_yields_bind
    {client : Client}
    {method : Method}
    {names : List String}
    {accept : String}
    {body : Body}
    {expected : Http.Status}
    {next : String → Session α}
    {value : α}
    (yields :
      (onServer (client.send method names accept body expected >>= next)).run.Yields exchanges
        (.ok value)) :
    ∃ exchange ∈ exchanges, exchange.question.method = method := by
  obtain ⟨result, session, succeeded⟩ := yields_onServer yields
  obtain rfl := mapError_eq_ok_iff.mp succeeded.symm
  rcases yields_bind session with ⟨_, _, impossible⟩ | ⟨reply, earlier, later, rfl, sending, -⟩
  · cases impossible
  · obtain ⟨exchange, member, same⟩ := sent_of_yields sending
    exact ⟨exchange, List.mem_append_left _ member, same⟩

/-! ## Calls -/

section

variable {call : Call} {outcome : call.Outcome}

/-- A call goes on past one of its identifiers only if that is a key. -/
theorem guarded_of_key
    (earlier : List String)
    {key : String}
    {later : List String}
    {next : Unit → Steps call.Reply}
    (keys : call.keys = earlier ++ key :: later)
    (valid : ∀ other ∈ earlier, IsKey other)
    (yields : (requireSafe key >>= next).run.Yields exchanges outcome)
    (going : IsKey key → (next ()).run.Yields exchanges outcome → graph.Guarded call exchanges outcome) :
    graph.Guarded call exchanges outcome := by
  rcases yields_requireSafe_bind yields with ⟨invalid, rfl, rfl⟩ | ⟨isKey, continued⟩
  · exact .invalid keys valid invalid
  · exact going isKey continued

/-- A call with one identifier goes on only if it is a key. -/
theorem guarded_of_single
    {key : String}
    {next : Unit → Steps call.Reply}
    (keys : call.keys = [key])
    (yields : (requireSafe key >>= next).run.Yields exchanges outcome)
    (going :
      (∀ other ∈ call.keys, IsKey other) →
      (next ()).run.Yields exchanges outcome →
      graph.Guarded call exchanges outcome) :
    graph.Guarded call exchanges outcome := by
  refine guarded_of_key [] keys (by simp) yields fun isKey continued => going ?_ continued
  rw [keys]
  simpa using isKey

/-- A call with two identifiers goes on only if both are keys. -/
theorem guarded_of_pair
    {first second : String}
    {next : Unit → Steps call.Reply}
    (keys : call.keys = [first, second])
    (yields :
      (requireSafe first >>= fun _ => requireSafe second >>= next).run.Yields exchanges outcome)
    (going :
      (∀ other ∈ call.keys, IsKey other) →
      (next ()).run.Yields exchanges outcome →
      graph.Guarded call exchanges outcome) :
    graph.Guarded call exchanges outcome := by
  refine guarded_of_key [] keys (by simp) yields fun isKey continued => ?_
  refine guarded_of_key [first] keys (by simpa using isKey) continued fun isOther further => ?_
  refine going ?_ further
  rw [keys]
  simpa using ⟨isKey, isOther⟩

/-- A call with a single look-up goes on past it only if the entry is as it has to be. -/
theorem guarded_of_guard
    {guard : Guard}
    {next : Option String → Steps call.Reply}
    (valid : ∀ key ∈ call.keys, IsKey key)
    (guards : call.guards = [guard])
    (refuses : ∀ found, found.isSome ≠ guard.present → next found = throw guard.refusal)
    (reading :
      call.reads = true →
      ∀ found rest, found.isSome = guard.present → (next found).run.Yields rest outcome →
        ∀ exchange ∈ rest, exchange.question.method = .get)
    (writing :
      call.reads = false →
      ∀ found rest reply, found.isSome = guard.present → (next found).run.Yields rest (.ok reply) →
        ∃ exchange ∈ rest, exchange.question.method = .post)
    (yields :
      ((do
        let found ← graph.select guard.entry.query
        return found.head?) >>= next).run.Yields exchanges outcome) :
    graph.Guarded call exchanges outcome := by
  rcases yields_guard guard refuses yields with
    ⟨error, stops, rfl⟩ | ⟨exchange, found, rest, rfl, meets, needed, going⟩
  · exact .stopped valid (show _ = [] ++ guard :: [] from guards) .nil stops
  · have met : List.Forall₂ graph.Meets call.guards [exchange] := by
      rw [guards]
      exact .cons meets .nil
    refine .passed valid met (fun reads => reading reads found rest needed going) ?_
    rintro writes reply rfl
    exact writing writes found rest reply needed going

end

/-- Whatever the other end of the wire answers, a call makes sure of what it depends on. -/
theorem guarded_of_yields
    {call : Call}
    {outcome : call.Outcome}
    (yields : (graph.answer call).Yields exchanges outcome) :
    graph.Guarded call exchanges outcome := by
  cases call with
  | addInstance id record =>
      refine guarded_of_single rfl yields fun valid looking => ?_
      refine guarded_of_guard valid rfl (by rintro (_ | _) <;> simp) (by simp [Call.reads]) ?_ looking
      rintro - (_ | data) rest reply absent going
      · exact sent_of_yields_bind going
      · cases absent
  | getInstance id =>
      refine guarded_of_single rfl yields fun valid looking => ?_
      refine guarded_of_guard valid rfl (by rintro (_ | _) <;> simp) ?_ (by simp [Call.reads]) looking
      rintro - (_ | data) rest present going
      · cases present
      · obtain ⟨rfl, -⟩ := yields_done_iff.mp going
        simp
  | deleteInstance id =>
      refine guarded_of_single rfl yields fun valid looking => ?_
      refine guarded_of_guard valid rfl (by rintro (_ | _) <;> simp) (by simp [Call.reads]) ?_ looking
      rintro - (_ | data) rest reply present going
      · cases present
      · exact sent_of_yields_bind going
  | addBinding id bindingId record =>
      refine guarded_of_pair rfl yields fun valid looking => ?_
      rcases yields_guard ⟨.ofInstance id, true, .parentMissing id⟩
        (by rintro (_ | _) <;> simp) looking with
        ⟨error, stops, rfl⟩ | ⟨parent, _ | data, rest, rfl, meets, present, going⟩
      · exact .stopped valid (show _ = [] ++ _ from rfl) .nil stops
      · cases present
      · rcases yields_guard ⟨.ofBinding id bindingId, false, .duplicateBinding id bindingId⟩
          (by rintro (_ | _) <;> simp) going with
          ⟨error, stops, rfl⟩ | ⟨own, _ | data, rest, rfl, meetsOwn, absent, adding⟩
        · exact .stopped valid (show _ = [_] ++ _ from rfl) (.cons meets .nil) stops
        · refine .passed valid (.cons meets (.cons meetsOwn .nil)) (by simp [Call.reads]) ?_
          rintro - reply rfl
          exact sent_of_yields_bind adding
        · cases absent
  | getBinding id bindingId =>
      refine guarded_of_pair rfl yields fun valid looking => ?_
      refine guarded_of_guard valid rfl (by rintro (_ | _) <;> simp) ?_ (by simp [Call.reads]) looking
      rintro - (_ | data) rest present going
      · cases present
      · obtain ⟨rfl, -⟩ := yields_done_iff.mp going
        simp
  | getAllBindings id =>
      refine guarded_of_single rfl yields fun valid looking => ?_
      refine guarded_of_guard valid rfl (by rintro (_ | _) <;> simp) ?_ (by simp [Call.reads]) looking
      rintro - (_ | data) rest present going
      · cases present
      · intro exchange member
        rcases yields_bind going with ⟨_, listing, -⟩ | ⟨_, first, last, rfl, listing, reading⟩
        · obtain ⟨_, looksUp, -⟩ := looksUp_of_yields listing
          exact method_of_looksUp looksUp member
        · obtain ⟨rfl, -⟩ := yields_done_iff.mp reading
          rw [List.append_nil] at member
          obtain ⟨_, looksUp, -⟩ := looksUp_of_yields listing
          exact method_of_looksUp looksUp member
  | deleteBinding id bindingId =>
      refine guarded_of_pair rfl yields fun valid looking => ?_
      refine guarded_of_guard valid rfl (by rintro (_ | _) <;> simp) (by simp [Call.reads]) ?_ looking
      rintro - (_ | data) rest reply present going
      · cases present
      · exact sent_of_yields_bind going

end

namespace Guarded

variable {graph : Graph} {call : Call} {exchanges : List (Exchange wire)}
variable {outcome : call.Outcome}

/-- A call with an identifier that is no key is refused for it, and nothing is sent. -/
theorem of_invalid
    (guarded : graph.Guarded call exchanges outcome)
    (invalid : ∃ key ∈ call.keys, ¬ IsKey key) :
    exchanges = [] ∧ ∃ key, outcome = .error (.invalidKey key) := by
  obtain ⟨key, member, notKey⟩ := invalid
  cases guarded with
  | invalid => exact ⟨rfl, _, rfl⟩
  | stopped valid | passed valid => exact absurd (valid key member) notKey

/-- A look-up that a call waits for is a GET. -/
theorem method_of_met
    {guards : List Guard}
    {looks : List (Exchange wire)}
    (met : List.Forall₂ graph.Meets guards looks)
    {exchange : Exchange wire}
    (member : exchange ∈ looks) :
    exchange.question.method = .get := by
  induction met with
  | nil => cases member
  | cons meets _ inductionHypothesis =>
      rcases List.mem_cons.mp member with rfl | later
      · obtain ⟨_, looksUp, -⟩ := meets
        exact method_of_looksUp looksUp List.mem_cons_self
      · exact inductionHypothesis later

/-- A call that reads sends nothing but GET. -/
theorem method_of_reads
    (guarded : graph.Guarded call exchanges outcome)
    (reads : call.reads = true)
    {exchange : Exchange wire}
    (member : exchange ∈ exchanges) :
    exchange.question.method = .get := by
  cases guarded with
  | invalid =>
      cases member
  | stopped valid guards met stops =>
      rcases List.mem_append.mp member with early | last
      · exact method_of_met met early
      · cases stops with
        | refused looksUp | failed looksUp =>
            exact method_of_looksUp looksUp last
  | passed valid met reading =>
      rcases List.mem_append.mp member with early | later
      · exact method_of_met met early
      · exact reading reads exchange later

end Guarded

end Graph

end GraphBroker.Store
