import GraphBroker.Proofs.Remote.Host
import GraphBroker.Proofs.Store.GraphGuards
import GraphBroker.Proofs.Store.GraphServer
import GraphBroker.Proofs.Store.Marks

namespace GraphBroker.Store

open Dialogue Remote Text

/-!
# The texts that a store in a graph generates

Everything that such a store says to its server is a document, a query or an update, into
which it splices identifiers and stored texts.  The characters that give these texts their
structure come from the store alone: what is spliced into a text has none of them, so that
the text has the same structure with whatever identifiers and records.
-/

/-! ## Statements -/

/-- What a store generates a text for. -/
inductive Statement where
  /-- The document that adds an entry with its stored text. -/
  | add (entry : Entry) (data : String)
  /-- The query for the stored text of an entry. -/
  | find (entry : Entry)
  /-- The query for the stored texts of all bindings of an instance. -/
  | list (id : String)
  /-- The update that deletes an entry. -/
  | delete (entry : Entry)
  deriving DecidableEq

/-- The update that deletes an entry. -/
def Entry.deletion : Entry → Update
  | .ofInstance id => Graph.instanceDeletion id
  | .ofBinding id bindingId => Graph.bindingDeletion id bindingId

/-- The identifiers of an entry. -/
def Entry.ids : Entry → List String
  | .ofInstance id => [id]
  | .ofBinding id bindingId => [id, bindingId]

/-- An entry of the same kind, without identifiers. -/
def Entry.blank : Entry → Entry
  | .ofInstance _ => .ofInstance ""
  | .ofBinding _ _ => .ofBinding "" ""

namespace Statement

/-- The text for a statement. -/
def text : Statement → String
  | .add entry data => (entry.block data).turtle
  | .find entry => entry.query.render
  | .list id => (Graph.allBindingsQuery id).render
  | .delete entry => entry.deletion.render

/-- What is spliced into the text. -/
def splices : Statement → List String
  | .add entry data => data :: entry.ids
  | .find entry | .delete entry => entry.ids
  | .list id => [id]

/-- The statement of the same kind into whose text nothing is spliced. -/
def blank : Statement → Statement
  | .add entry _ => .add entry.blank ""
  | .find entry => .find entry.blank
  | .list _ => .list ""
  | .delete entry => .delete entry.blank

/-- The identifiers need no escape, and the data are a stored text. -/
def Safe : Statement → Prop
  | .add entry data => entry.Safe ∧ ∃ bytes, data = Base64.encode bytes
  | .find entry | .delete entry => entry.Safe
  | .list id => Graph.isSafeKey id = true

variable {statement : Statement}

/-- Nothing that is put into a safe statement has a mark in it. -/
theorem marks_splices
    (safe : statement.Safe) :
    ∀ splice ∈ statement.splices, marks splice = [] := by
  have ids {entry : Entry} (safe : entry.Safe) : ∀ splice ∈ entry.ids, marks splice = [] := by
    cases entry with
    | ofInstance id =>
        simpa [Entry.ids] using marks_key safe
    | ofBinding id bindingId =>
        simpa [Entry.ids] using ⟨marks_key safe.1, marks_key safe.2⟩
  cases statement with
  | add entry data =>
      obtain ⟨safe, bytes, rfl⟩ := safe
      exact List.forall_mem_cons.mpr ⟨marks_encode bytes, ids safe⟩
  | find entry | delete entry =>
      exact ids safe
  | list id =>
      simpa [splices] using marks_key safe

end Statement

/-! ## Taking out what is spliced in -/

section

variable {entry : Entry} {data : String}

/-- The node of a safe entry has the marks of the blank one. -/
theorem Entry.alike_node
    (safe : entry.Safe) :
    entry.node.Alike entry.blank.node := by
  cases entry with
  | ofInstance id =>
      refine Node.alike_resource ?_
      rw [marks_append, marks_append, marks_key safe]
      rfl
  | ofBinding id bindingId =>
      refine Node.alike_resource ?_
      simp only [marks_append, marks_key safe.1, marks_key safe.2]
      rfl

/-- The block of a safe entry has the marks of the blank one. -/
theorem Entry.alike_block
    (safe : entry.Safe)
    (plain : marks data = []) :
    (entry.block data).Alike (entry.blank.block "") := by
  have text {value : String} (plain : marks value = []) : (Node.text value).Alike (.text "") :=
    Node.alike_text plain
  cases entry with
  | ofInstance id =>
      refine ⟨alike_node safe, .cons ⟨.refl _, text (marks_key safe)⟩ ?_⟩
      exact .cons ⟨.refl _, .refl _⟩ (.cons ⟨.refl _, text plain⟩ .nil)
  | ofBinding id bindingId =>
      have parent : (ofInstance id).Safe := safe.1
      refine ⟨alike_node safe, .cons ⟨.refl _, text (marks_key safe.2)⟩ ?_⟩
      refine .cons ⟨.refl _, .refl _⟩ ?_
      exact .cons ⟨.refl _, alike_node parent⟩ (.cons ⟨.refl _, text plain⟩ .nil)

/-- The query for a safe entry has the marks of the blank one. -/
theorem Entry.alike_query
    (safe : entry.Safe) :
    entry.query.block.Alike entry.blank.query.block := by
  cases entry with
  | ofInstance id =>
      exact ⟨alike_node safe, .cons ⟨.refl _, .refl _⟩ (.cons ⟨.refl _, .refl _⟩ .nil)⟩
  | ofBinding id bindingId =>
      have parent : (ofInstance id).Safe := safe.1
      refine ⟨alike_node safe, .cons ⟨.refl _, .refl _⟩ ?_⟩
      exact .cons ⟨.refl _, alike_node parent⟩ (.cons ⟨.refl _, .refl _⟩ .nil)

/-- The deletion of a safe entry has the marks of the blank one, block by block. -/
theorem Entry.alike_deletion
    (safe : entry.Safe) :
    List.Forall₂ Block.Alike entry.deletion.blocks entry.blank.deletion.blocks := by
  cases entry with
  | ofInstance id =>
      refine .cons ⟨.refl _, .cons ⟨.refl _, alike_node safe⟩ ?_⟩ ?_
      · exact .cons ⟨.refl _, .refl _⟩ .nil
      · exact .cons ⟨alike_node safe, .cons ⟨.refl _, .refl _⟩ .nil⟩ .nil
  | ofBinding id bindingId =>
      exact .cons ⟨alike_node safe, .cons ⟨.refl _, .refl _⟩ .nil⟩ .nil

/-- The query for all bindings has the marks of the blank one. -/
theorem alike_allBindingsQuery
    {id : String}
    (safe : Graph.isSafeKey id = true) :
    (Graph.allBindingsQuery id).block.Alike (Graph.allBindingsQuery "").block := by
  have parent : (Entry.ofInstance id).Safe := safe
  refine ⟨.refl _, .cons ⟨.refl _, .refl _⟩ ?_⟩
  exact .cons ⟨.refl _, Entry.alike_node parent⟩ (.cons ⟨.refl _, .refl _⟩ .nil)

/-- What is spliced into a text can be taken out of it without any change of its structure. -/
theorem Statement.marks_text
    {statement : Statement}
    (safe : statement.Safe) :
    marks statement.text = marks statement.blank.text := by
  cases statement with
  | add entry data =>
      obtain ⟨safe, bytes, rfl⟩ := safe
      exact (Entry.alike_block safe (marks_encode bytes)).marks_turtle
  | find entry =>
      have wanted : entry.query.wanted = entry.blank.query.wanted := by cases entry <;> rfl
      exact Query.marks_render wanted (Entry.alike_query safe)
  | list id =>
      exact Query.marks_render rfl (alike_allBindingsQuery safe)
  | delete entry =>
      have words : entry.deletion.blocks.any Block.hasWord =
          entry.blank.deletion.blocks.any Block.hasWord := by
        cases entry <;> rfl
      exact Update.marks_render words (Entry.alike_deletion safe)

end

/-! ## Subjects -/

/-- No two entries are written as one subject. -/
theorem Entry.render_inj
    {first second : Entry}
    (firstSafe : first.Safe) :
    first.node.render = second.node.render ↔ first = second := by
  have resource (entry : Entry) : entry.node = .resource entry.path := by
    cases entry <;> rfl
  rw [← subject_inj firstSafe, subject, subject, vocabulary_inj, resource, resource]
  unfold Node.render
  rw [String.append_left_inj, String.append_right_inj]

/-! ## What is sent -/

namespace Call

/-- The statements for which a call generates texts, in their order. -/
def statements : Call → List Statement
  | .addInstance id record =>
      [.find (.ofInstance id),
       .add (.ofInstance id) (storedText ServiceInstance.codec record)]
  | .getInstance id => [.find (.ofInstance id)]
  | .deleteInstance id => [.find (.ofInstance id), .delete (.ofInstance id)]
  | .addBinding id bindingId record =>
      [.find (.ofInstance id), .find (.ofBinding id bindingId),
       .add (.ofBinding id bindingId) (storedText ServiceBinding.codec record)]
  | .getBinding id bindingId => [.find (.ofBinding id bindingId)]
  | .getAllBindings id => [.find (.ofInstance id), .list id]
  | .deleteBinding id bindingId =>
      [.find (.ofBinding id bindingId), .delete (.ofBinding id bindingId)]

/-- A call with safe identifiers makes safe statements only. -/
theorem safe_statements
    {call : Call}
    (keys : ∀ key ∈ call.keys, Graph.isSafeKey key = true) :
    ∀ statement ∈ call.statements, statement.Safe := by
  have stored {α : Type} (codec : Json.Codec α) (record : α) :
      ∃ bytes, storedText codec record = Base64.encode bytes :=
    ⟨_, rfl⟩
  cases call with
  | addInstance | getInstance | deleteInstance | getAllBindings =>
      simpa [Call.keys, statements, Statement.Safe, Entry.Safe, stored] using keys
  | addBinding | getBinding | deleteBinding =>
      simpa [Call.keys, statements, Statement.Safe, Entry.Safe, stored, and_assoc] using keys

end Call

namespace Graph

/-- A request of a store that says one of some texts, or that only opens or closes a transaction. -/
inductive Says (graph : Graph) (texts : List String) : Request → Prop where
  /-- A query is in the address. -/
  | query {url : Url} {text : String}
      (among : text ∈ texts)
      (reached : graph.client.target [graph.database, "query"] = .ok url) :
      Says graph texts
        (.toUrl .get (url.addQuery (Form.render [⟨"query", text⟩])) graph.client.login
          "application/sparql-results+json" .empty)
  /-- An update is the body. -/
  | update {url : Url} {text : String}
      (among : text ∈ texts)
      (reached : graph.client.target [graph.database, "update"] = .ok url) :
      Says graph texts
        (.toUrl .post url graph.client.login Client.anyType (.form [⟨"query", text⟩]))
  /-- A document is the body. -/
  | document {url : Url} {transaction text : String}
      (among : text ∈ texts)
      (reached : graph.client.target [graph.database, transaction, "add"] = .ok url) :
      Says graph texts
        (.toUrl .post url graph.client.login "text/plain" (.typed "text/turtle" text))
  | transaction {url : Url} {names : List String} {accept : String}
      (reached : graph.client.target (graph.database :: "transaction" :: names) = .ok url) :
      Says graph texts (.toUrl .post url graph.client.login accept .empty)

section

variable {graph : Graph} {texts : List String}

/-! ## Requests of the client -/

/-- Asking one of some texts says nothing but them. -/
theorem says_query
    {text : String}
    (among : text ∈ texts) :
    (graph.client.query graph.database text).run.AsksOnly (graph.Says texts) :=
  .given_bind fun _ reached => Request.asksOnly_exchange (.query among reached)

/-- Updating by one of some texts says nothing but them. -/
theorem says_update
    {text : String}
    (among : text ∈ texts) :
    (graph.client.update graph.database text).run.AsksOnly (graph.Says texts) :=
  (Client.asksOnly_send fun _ reached => .update among reached).bind fun _ => .done _

/-- Closing a transaction says none of the graph's texts. -/
theorem says_closeTransaction
    (step transaction : String) :
    (graph.client.closeTransaction graph.database step transaction).run.AsksOnly
      (graph.Says texts) :=
  (Client.asksOnly_send fun _ reached => .transaction reached).bind fun _ => .done _

/-- Adding one of some texts and committing says nothing but them. -/
theorem says_addAndCommit
    {text : String}
    (among : text ∈ texts)
    (transaction : String) :
    (graph.client.addAndCommit graph.database transaction "text/turtle" text).run.AsksOnly
      (graph.Says texts) := by
  refine AsksOnly.bind ?_ fun _ => says_closeTransaction "commit" transaction
  unfold Client.sendData
  rw [if_pos (by decide)]
  exact Client.asksOnly_send fun _ reached => .document among reached

/-- Adding one of some texts in a transaction says nothing but them. -/
theorem says_addData
    {text : String}
    (among : text ∈ texts) :
    (graph.client.addData graph.database "text/turtle" text).run.AsksOnly (graph.Says texts) := by
  refine (Client.asksOnly_send fun _ reached => .transaction reached).bind fun body => ?_
  refine (says_addAndCommit among (trim body)).tryCatch fun failure => ?_
  refine AsksOnly.bind ?_ fun _ => .done _
  exact (says_closeTransaction "rollback" (trim body)).tryCatch fun _ => .done _

/-! ## Steps of a call -/

/-- A step says what its session says. -/
theorem says_onServer
    {session : Session α}
    (asks : session.run.AsksOnly (graph.Says texts)) :
    (onServer session).run.AsksOnly (graph.Says texts) :=
  asks.andThen fun _ => .done _

/-- Requiring a safe identifier says nothing. -/
theorem says_requireSafe_bind
    {key : String}
    {next : Unit → Steps α}
    (later : (next ()).run.AsksOnly (graph.Says texts)) :
    (requireSafe key >>= next).run.AsksOnly (graph.Says texts) := by
  refine AsksOnly.bind ?_ fun _ => later
  unfold requireSafe
  split <;> exact .done _

/-- Selecting by one of some texts says nothing but them. -/
theorem says_select
    {query : Query}
    (among : query.render ∈ texts) :
    (graph.select query).run.AsksOnly (graph.Says texts) :=
  says_onServer ((says_query among).bind fun _ => .done _)

end

section

variable {graph : Graph} {call : Call}

/-- A look-up for an entry, and then whatever its result calls for. -/
theorem says_find_bind
    (entry : Entry)
    (among : .find entry ∈ call.statements)
    {next : Option String → Steps α}
    (later :
      ∀ found, (next found).run.AsksOnly (graph.Says (call.statements.map Statement.text))) :
    ((do
      let found ← graph.select entry.query
      return found.head?) >>= next).run.AsksOnly
        (graph.Says (call.statements.map Statement.text)) := by
  have text : (Statement.find entry).text ∈ call.statements.map Statement.text :=
    List.mem_map_of_mem among
  exact AsksOnly.bind ((says_select text).bind fun _ => .done _) later

/-- Adding an entry says a statement of the call. -/
theorem says_add
    (entry : Entry)
    {data : String}
    (among : .add entry data ∈ call.statements) :
    (graph.add (entry.block data)).run.AsksOnly
      (graph.Says (call.statements.map Statement.text)) :=
  says_onServer (says_addData (List.mem_map_of_mem among))

/-- Deleting an entry says a statement of the call. -/
theorem says_delete
    (entry : Entry)
    (among : .delete entry ∈ call.statements) :
    (graph.delete entry.deletion).run.AsksOnly
      (graph.Says (call.statements.map Statement.text)) :=
  says_onServer (says_update (List.mem_map_of_mem among))

end

/-- A call says nothing but its own texts. -/
theorem says_answer
    (graph : Graph)
    (call : Call) :
    (graph.answer call).AsksOnly (graph.Says (call.statements.map Statement.text)) := by
  cases call with
  | addInstance id record =>
      refine says_requireSafe_bind ?_
      refine says_find_bind (.ofInstance id) (by simp [Call.statements]) fun found => ?_
      cases found with
      | none =>
          exact says_add (.ofInstance id) (by simp [Call.statements])
      | some data =>
          exact .done _
  | getInstance id =>
      refine says_requireSafe_bind ?_
      refine says_find_bind (.ofInstance id) (by simp [Call.statements]) fun found => ?_
      cases found <;> exact .done _
  | deleteInstance id =>
      refine says_requireSafe_bind ?_
      refine says_find_bind (.ofInstance id) (by simp [Call.statements]) fun found => ?_
      cases found with
      | none =>
          exact .done _
      | some data =>
          exact says_delete (.ofInstance id) (by simp [Call.statements])
  | addBinding id bindingId record =>
      refine says_requireSafe_bind (says_requireSafe_bind ?_)
      refine says_find_bind (.ofInstance id) (by simp [Call.statements]) fun parent => ?_
      cases parent with
      | none =>
          exact .done _
      | some data =>
          refine says_find_bind (.ofBinding id bindingId) (by simp [Call.statements]) fun found => ?_
          cases found with
          | none =>
              exact says_add (.ofBinding id bindingId) (by simp [Call.statements])
          | some data =>
              exact .done _
  | getBinding id bindingId =>
      refine says_requireSafe_bind (says_requireSafe_bind ?_)
      refine says_find_bind (.ofBinding id bindingId) (by simp [Call.statements]) fun found => ?_
      cases found <;> exact .done _
  | getAllBindings id =>
      refine says_requireSafe_bind ?_
      refine says_find_bind (.ofInstance id) (by simp [Call.statements]) fun parent => ?_
      cases parent with
      | none =>
          exact .done _
      | some data =>
          have among : (Statement.list id).text ∈
              (Call.getAllBindings id).statements.map Statement.text := by
            simp [Call.statements]
          exact (says_select among).bind fun _ => .done _
  | deleteBinding id bindingId =>
      refine says_requireSafe_bind (says_requireSafe_bind ?_)
      refine says_find_bind (.ofBinding id bindingId) (by simp [Call.statements]) fun found => ?_
      cases found with
      | none =>
          exact .done _
      | some data =>
          exact says_delete (.ofBinding id bindingId) (by simp [Call.statements])

end Graph

/-- A call with keys sends something, if its look-ups can be sent. -/
theorem Graph.Guarded.sent_ne_nil
    {graph : Graph}
    {call : Call}
    {exchanges : List (Exchange wire)}
    {outcome : call.Outcome}
    (guarded : graph.Guarded call exchanges outcome)
    (keys : ∀ key ∈ call.keys, IsKey key)
    (canAsk : ∀ guard ∈ call.guards, graph.CanAsk guard.entry.query.render) :
    exchanges ≠ [] := by
  intro nothing
  cases guarded with
  | invalid listed valid invalid =>
      exact invalid (keys _ (by simp [listed]))
  | stopped valid listed met stops =>
      obtain ⟨-, rfl⟩ := List.append_eq_nil_iff.mp nothing
      have last := listed ▸ List.mem_append_right _ List.mem_cons_self
      obtain ⟨url, reached, -, free⟩ := canAsk _ last
      cases stops with
      | refused looksUp =>
          obtain ⟨exchange, single⟩ := looksUp.single
          cases single
      | failed looksUp =>
          cases looksUp with
          | unsent blocked =>
              exact blocked _ ⟨url, reached, rfl⟩ free
  | passed valid met =>
      obtain ⟨rfl, -⟩ := List.append_eq_nil_iff.mp nothing
      have unguarded : call.guards = [] := List.forall₂_nil_right_iff.mp met
      cases call <;> cases unguarded

/-- What is spliced into the text of a statement has no part in the structure of the text. -/
structure Statement.Inert (statement : Statement) : Prop where
  plain : ∀ splice ∈ statement.splices, marks splice = []
  /-- The text has the same structure without it. -/
  removable : marks statement.text = marks statement.blank.text
  /-- The text has the same structure with anything else that is safe in its place. -/
  exchangeable :
    ∀ other : Statement, other.Safe → other.blank = statement.blank →
      marks other.text = marks statement.text

/-- What is put into a safe statement leaves all its marks where they are. -/
theorem Statement.inert_of_safe
    {statement : Statement}
    (safe : statement.Safe) :
    statement.Inert where
  plain := marks_splices safe
  removable := marks_text safe
  exchangeable other otherSafe same := by
    rw [marks_text otherSafe, same, marks_text safe]

/-- A call that sends anything at all has identifiers that need no escape. -/
theorem Call.safe_statements_of_sent
    {graph : Graph}
    {call : Call}
    {exchanges : List (Exchange wire)}
    {outcome : call.Outcome}
    (yields : (graph.answer call).Yields exchanges outcome)
    (sent : exchanges ≠ []) :
    ∀ statement ∈ call.statements, statement.Safe := by
  refine Call.safe_statements fun key member => ?_
  by_cases isKey : IsKey key
  · exact isSafeKey_iff.mpr isKey
  · exact absurd ((Graph.guarded_of_yields yields).of_invalid ⟨key, member, isKey⟩).1 sent

/--
What a store splices into its texts is inert, and its subjects never collide.  Different
instances and bindings are written as different subjects.  Identifiers that need no escape
and stored texts add no character of structure to a document, a query or an update, so that
all texts for statements of one kind have the same structure.  And whatever the server
answers, a call says nothing but such texts.
-/
theorem splices_are_inert :
    (∀ first second : Entry, first.Safe → second.Safe →
      (first.node.render = second.node.render ↔ first = second)) ∧
    (∀ statement : Statement, statement.Safe → statement.Inert) ∧
    ∀ (graph : Graph) (call : Call) {σ : Type}
      (respond : Request → σ → Option Response × σ) (state : σ),
      let sent := (graph.answer call).exchanges (P := wire) respond state
      (∀ exchange ∈ sent, graph.Says (call.statements.map Statement.text) exchange.question) ∧
        (sent ≠ [] → ∀ statement ∈ call.statements, statement.Safe) := by
  refine ⟨fun first second safe _ => Entry.render_inj safe, fun _ => Statement.inert_of_safe, ?_⟩
  intro graph call σ respond state sent
  exact
    ⟨(Graph.says_answer graph call).exchanges respond state,
      Call.safe_statements_of_sent (yields_exchanges respond (graph.answer call) state)⟩

/--
Two bindings whose identifiers would run together without the slash have subjects of their own,
and the removal of one is requested in its own texts, even if nobody answers.
-/
theorem splices_are_inert_between_neighbours :
    let first : Entry := .ofBinding "a_b" "c"
    let second : Entry := .ofBinding "a" "b_c"
    let graph : Graph := ⟨Client.onNetwork, "metadata"⟩
    let sent := (graph.answer (.deleteBinding "a_b" "c")).exchanges (P := wire) Peer.answer
      .unreachable
    first.node.render ≠ second.node.render ∧
      marks (Statement.delete first).text = marks (Statement.delete second).text ∧
      sent ≠ [] ∧
      ∀ exchange ∈ sent,
        graph.Says ([.find first, .delete first].map Statement.text) exchange.question := by
  intro first second graph sent
  obtain ⟨distinct, inert, sends⟩ := splices_are_inert
  have firstSafe : first.Safe := by decide
  have secondSafe : second.Safe := by decide
  have yields := yields_exchanges (P := wire) Peer.answer
    (graph.answer (.deleteBinding "a_b" "c")) .unreachable
  have keys : ∀ key ∈ (Call.deleteBinding "a_b" "c").keys, IsKey key := by
    simp only [Call.keys, List.forall_mem_cons, ← isSafeKey_iff]
    decide
  have read : Url.parse? Client.onNetwork.base =
      some ⟨"http", some ⟨"", none, "sd", some 5820⟩, false, [""], none, none⟩ := rfl
  have reached := Client.target_eq_ok read rfl [graph.database, "query"]
  have canAsk : ∀ guard ∈ (Call.deleteBinding "a_b" "c").guards,
      graph.CanAsk guard.entry.query.render :=
    List.forall_mem_singleton.mpr
      (Graph.canAsk_of_short reached rfl (by decide +kernel) (by decide +kernel))
  refine ⟨?_, ?_, ?_, ?_⟩
  · intro same
    exact absurd ((distinct first second firstSafe secondSafe).mp same) (by decide)
  · exact (inert (.delete second) secondSafe).exchangeable (.delete first) firstSafe rfl
  · exact (Graph.guarded_of_yields yields).sent_ne_nil keys canAsk
  · exact (sends graph (.deleteBinding "a_b" "c") Peer.answer .unreachable).1

end GraphBroker.Store
