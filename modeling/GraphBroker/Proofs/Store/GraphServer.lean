import GraphBroker.Proofs.Conversation
import GraphBroker.Proofs.Rdf.Rendering
import GraphBroker.Proofs.Store.Results
import GraphBroker.Proofs.Text.Form

namespace GraphBroker.Store

open Json Rdf Remote Text

/-!
# A server that keeps triples

What a store in a graph may rely on.  The server keeps the triples of a database.  It
opens a transaction, adds the triples of a document when the transaction is committed,
finds what a query asks for, and deletes what an update says.  It answers with success
whatever it understands, and shows what it finds in a JSON document.  Seen through the
store, a block is then added, found or deleted at once.
-/

/-- What a server holds of a database. -/
structure Dataset where
  triples : Set Triple
  /-- The transaction that is open, and what it will add. -/
  opened : Option (String × Set Triple)

/-- What a server can be told to do with a database. -/
inductive Instruction where
  | begin
  | add (transaction : String) (document : String)
  | commit (transaction : String)
  | query (asked : String)
  | update (said : String)

namespace Graph

/-- The request is for what is named beneath the database. -/
def Names (graph : Graph) (names : List String) (request : Request) : Prop :=
  ∃ url, graph.client.target (graph.database :: names) = .ok url ∧ request.url = url.withoutLogin

/-- The request gives an instruction. -/
def Instructs (graph : Graph) (request : Request) : Instruction → Prop
  | .begin => request.method = .post ∧ graph.Names ["transaction", "begin"] request
  | .add transaction document =>
      request.method = .post ∧ graph.Names [transaction, "add"] request ∧
        request.body = .typed "text/turtle" document
  | .commit transaction =>
      request.method = .post ∧ graph.Names ["transaction", "commit", transaction] request
  | .query asked =>
      request.method = .get ∧
        ∃ url fields, graph.client.target [graph.database, "query"] = .ok url ∧
          request.url = { url with query := some fields }.withoutLogin ∧
          Form.parse fields.toList = [⟨"query", asked⟩]
  | .update said =>
      request.method = .post ∧ graph.Names ["update"] request ∧
        request.body = .form [⟨"query", said⟩]

/-- A request can be sent to what is named beneath the database. -/
def Reaches (graph : Graph) (names : List String) : Prop :=
  ∃ url, graph.client.target (graph.database :: names) = .ok url ∧
    Session.obstacle? url.withoutLogin = none

/-- The text of a query can be sent. -/
def CanAsk (graph : Graph) (asked : String) : Prop :=
  ∃ url, graph.client.target [graph.database, "query"] = .ok url ∧ url.query = none ∧
    Session.obstacle? (url.addQuery (Form.render [⟨"query", asked⟩])).withoutLogin = none

end Graph

/-! ## Requests that can be sent -/

theorem path_withoutLogin
    (url : Url) :
    url.withoutLogin.path = url.path := by
  rw [Url.withoutLogin]
  split <;> rfl

theorem query_withoutLogin
    (url : Url) :
    url.withoutLogin.query = url.query := by
  rw [Url.withoutLogin]
  split <;> rfl

theorem withoutLogin_withQuery
    (url : Url)
    (fields : String) :
    { url with query := some fields }.withoutLogin =
      { url.withoutLogin with query := some fields } := by
  have same : { url with query := some fields }.login? = url.login? := rfl
  cases presented : url.login?.isSome <;> simp [Url.withoutLogin, same, presented]

theorem utf8ByteSize_withQuery
    {url : Url}
    (plain : url.query = none)
    (fields : String) :
    { url with query := some fields }.render.utf8ByteSize =
      url.render.utf8ByteSize + fields.utf8ByteSize + 1 := by
  have mark : "?".utf8ByteSize = 1 := rfl
  have nothing : "".utf8ByteSize = 0 := rfl
  simp only [Url.render, Url.target, Url.pathText, Url.place, Url.host, Url.port?, plain,
    Option.map_some, Option.map_none, Option.getD_some, Option.getD_none,
    String.utf8ByteSize_append, mark, nothing]
  omega

/-- What can be sent to a URL can be sent with some fields, as long as all of it is short enough. -/
theorem obstacle?_withQuery
    {url : Url}
    (plain : url.query = none)
    (free : Session.obstacle? url = none)
    {fields : String}
    (short : url.render.utf8ByteSize + fields.utf8ByteSize + 1 ≤ Session.urlLimit) :
    Session.obstacle? { url with query := some fields } = none := by
  rw [Session.obstacle?] at free
  split at free
  · cases free
  · next http =>
      split at free
      · cases free
      · next writable =>
          -- Neither the scheme nor the host is touched.
          refine (if_neg http).trans (if_neg ?_)
          rintro (tooLong | unwritable)
          · rw [utf8ByteSize_withQuery plain] at tooLong
            omega
          · exact writable (Or.inr unwritable)

/-- A query can be sent unless it is very long. -/
theorem Graph.canAsk_of_short
    {graph : Graph}
    {url : Url}
    (reached : graph.client.target [graph.database, "query"] = .ok url)
    (plain : url.query = none)
    (free : Session.obstacle? url.withoutLogin = none)
    {asked : String}
    (short : url.withoutLogin.render.utf8ByteSize + 3 * asked.utf8ByteSize + 17 ≤ Session.urlLimit) :
    graph.CanAsk asked := by
  have asking : url.addQuery (Form.render [⟨"query", asked⟩]) =
      { url with query := some (Form.render [⟨"query", asked⟩]) } := by
    rw [Url.addQuery, plain]
  refine ⟨url, reached, plain, ?_⟩
  rw [asking, withoutLogin_withQuery]
  refine obstacle?_withQuery ((query_withoutLogin url).trans plain) free ?_
  have fields := Form.utf8ByteSize_render_le ⟨"query", asked⟩
  have name : "query".utf8ByteSize = 5 := rfl
  simp only [name] at fields
  omega

/-- The text of a term in a result. -/
def termText : Term → String
  | .resource name => name
  | .literal value _ => value

/-- The server knows what to do. -/
def Dataset.Understands (dataset : Dataset) : Instruction → Prop
  | .begin => dataset.opened = none
  | .add transaction document =>
      (document? document).isSome ∧ ∃ staged, dataset.opened = some (transaction, staged)
  | .commit transaction => ∃ staged, dataset.opened = some (transaction, staged)
  | .query asked => (query? asked).isSome
  | .update said => (update? said).isSome

/-- An instruction is carried out on a dataset, and answered with a text. -/
inductive CarriesOut (graph : Graph) : Instruction → Dataset → String → Dataset → Prop where
  /-- A transaction is opened, and its name is told. -/
  | begin {dataset : Dataset} {reply : String} :
      graph.Reaches [trim reply, "add"] →
      graph.Reaches ["transaction", "commit", trim reply] →
      CarriesOut graph .begin dataset reply { dataset with opened := some (trim reply, ∅) }
  | add
      {dataset : Dataset}
      {transaction document reply : String}
      {staged : Set Triple}
      {triples : List Triple} :
      dataset.opened = some (transaction, staged) →
      document? document = some triples →
      CarriesOut graph (.add transaction document) dataset reply
        { dataset with opened := some (transaction, staged ∪ {triple | triple ∈ triples}) }
  | commit {dataset : Dataset} {transaction reply : String} {staged : Set Triple} :
      dataset.opened = some (transaction, staged) →
      CarriesOut graph (.commit transaction) dataset reply ⟨dataset.triples ∪ staged, none⟩
  /-- What a query finds is shown by a JSON text, one row for each solution. -/
  | query
      {dataset : Dataset}
      {asked wanted reply : String}
      {patterns : List Pattern}
      {found : List (Option Term)}
      {document : Document}
      {rows : List (List (String × String))} :
      query? asked = some (wanted, patterns) →
      Finds dataset.triples patterns wanted found →
      Source.ofText reply = ⟨document, true⟩ →
      ShowsRows document rows →
      (rows.map fun columns => columns.lookup wanted) = found.map (Option.map termText) →
      CarriesOut graph (.query asked) dataset reply dataset
  | update
      {dataset : Dataset}
      {said reply : String}
      {deletions : List (List Pattern)} :
      update? said = some deletions →
      CarriesOut graph (.update said) dataset reply
        { dataset with triples := deletions.foldl without dataset.triples }

/-- A server keeps the triples of a graph's database as the standards say. -/
def Graph.KeptBy
    (graph : Graph)
    (respond : Request → σ → Option Response × σ)
    (view : σ → Dataset) :
    Prop :=
  ∀ {request instruction} state,
    graph.Instructs request instruction →
    (view state).Understands instruction →
    ∃ reply next,
      respond request state = (some ⟨200, Utf8.encode reply⟩, next) ∧
        CarriesOut graph instruction (view state) reply (view next)

/-! ## Conversations with the server -/

section

variable {respond : Request → σ → Option Response × σ} {view : σ → Dataset} {graph : Graph}
variable {before after : σ}

/-- An answer with the expected status is the result of an exchange. -/
theorem run_exchange
    {request : Request}
    {reply : String}
    (free : Session.obstacle? request.url = none)
    (answered : respond request before = (some ⟨200, Utf8.encode reply⟩, after)) :
    (Session.exchange request 200).run.run (P := wire) respond before = (.ok reply, after) := by
  simp only [Session.exchange, free]
  simp only [ExceptT.run_mk, Dialogue.run, answered, if_true, Utf8.decodeLossy_encode]

/-- A request that reaches its target and is answered well comes to the text of the reply. -/
theorem run_send
    {method : Method}
    {names : List String}
    {accept reply : String}
    {body : Body}
    {url : Url}
    (reached : graph.client.target names = .ok url)
    (free : Session.obstacle? url.withoutLogin = none)
    (answered :
      respond (Request.toUrl method url graph.client.login accept body) before =
        (some ⟨200, Utf8.encode reply⟩, after)) :
    (graph.client.send method names accept body 200).run.run (P := wire) respond before =
      (.ok reply, after) := by
  have given : (Session.ofExcept (graph.client.target names)).run.run (P := wire) respond before =
      (.ok url, before) := by
    rw [reached]
    rfl
  rw [Client.send, Dialogue.run_bind_of_ok given]
  exact run_exchange free answered

/-- What a request instructs the server to do is done. -/
theorem run_send_of_instructs
    (kept : graph.KeptBy respond view)
    {names : List String}
    (reaches : graph.Reaches names)
    (method : Method)
    (accept : String)
    (body : Body)
    (instruction : Instruction)
    (instructs :
      ∀ request : Request,
        request.method = method → graph.Names names request → request.body = body →
        graph.Instructs request instruction)
    (understands : (view before).Understands instruction) :
    ∃ reply after,
      (graph.client.send method (graph.database :: names) accept body 200).run.run
          (P := wire) respond before =
        (.ok reply, after) ∧
      CarriesOut graph instruction (view before) reply (view after) := by
  obtain ⟨url, reached, free⟩ := reaches
  have instructed := instructs (Request.toUrl method url graph.client.login accept body) rfl
    ⟨url, reached, rfl⟩ rfl
  obtain ⟨reply, after, answered, carried⟩ := kept before instructed understands
  exact ⟨reply, after, run_send reached free answered, carried⟩

/-- Beginning a transaction opens it under the identifier that is replied. -/
theorem run_begin
    (kept : graph.KeptBy respond view)
    (reaches : graph.Reaches ["transaction", "begin"])
    (idle : (view before).opened = none) :
    ∃ reply after,
      (graph.client.send .post [graph.database, "transaction", "begin"] "text/plain" .empty
          200).run.run (P := wire) respond before =
        (.ok reply, after) ∧
      graph.Reaches [trim reply, "add"] ∧ graph.Reaches ["transaction", "commit", trim reply] ∧
      view after = ⟨(view before).triples, some (trim reply, ∅)⟩ := by
  obtain ⟨reply, after, runs, carried⟩ :=
    run_send_of_instructs kept reaches .post "text/plain" .empty .begin
      (fun _ method names _ => ⟨method, names⟩) idle
  generalize same : view after = next at carried
  cases carried with
  | begin reachesAdd reachesCommit =>
      exact ⟨reply, after, runs, reachesAdd, reachesCommit, same⟩

/-- Adding data to an open transaction stages its triples. -/
theorem run_add
    (kept : graph.KeptBy respond view)
    {transaction document : String}
    (reaches : graph.Reaches [transaction, "add"])
    {staged : Set Triple}
    (opened : (view before).opened = some (transaction, staged))
    {triples : List Triple}
    (readable : document? document = some triples) :
    ∃ reply after,
      (graph.client.sendData [graph.database, transaction, "add"] "text/turtle"
          document).run.run (P := wire) respond before =
        (.ok reply, after) ∧
      view after =
        ⟨(view before).triples, some (transaction, staged ∪ {triple | triple ∈ triples})⟩ := by
  have writable : "text/turtle".toList.all Session.isFieldChar = true := by decide
  rw [Client.sendData, if_pos writable]
  obtain ⟨reply, after, runs, carried⟩ :=
    run_send_of_instructs kept reaches .post "text/plain" (.typed "text/turtle" document)
      (.add transaction document) (fun _ method names body => ⟨method, names, body⟩)
      ⟨by simp [readable], staged, opened⟩
  generalize same : view after = next at carried
  cases carried with
  | add held read =>
      cases opened.symm.trans held
      cases readable.symm.trans read
      exact ⟨reply, after, runs, same⟩

/-- Committing a transaction keeps what was staged in it. -/
theorem run_commit
    (kept : graph.KeptBy respond view)
    {transaction : String}
    (reaches : graph.Reaches ["transaction", "commit", transaction])
    {staged : Set Triple}
    (opened : (view before).opened = some (transaction, staged)) :
    ∃ after,
      (graph.client.closeTransaction graph.database "commit" transaction).run.run (P := wire)
          respond before =
        (.ok (), after) ∧
      view after = ⟨(view before).triples ∪ staged, none⟩ := by
  obtain ⟨reply, after, runs, carried⟩ :=
    run_send_of_instructs kept reaches .post Client.anyType .empty (.commit transaction)
      (fun _ method names _ => ⟨method, names⟩) ⟨staged, opened⟩
  generalize same : view after = next at carried
  cases carried with
  | commit held =>
      cases opened.symm.trans held
      exact ⟨after, Dialogue.run_bind_of_ok runs, same⟩

/-- The triples of a document are added in a transaction of their own. -/
theorem run_addData
    (kept : graph.KeptBy respond view)
    (reaches : graph.Reaches ["transaction", "begin"])
    (idle : (view before).opened = none)
    {document : String}
    {triples : List Triple}
    (readable : document? document = some triples) :
    ∃ after,
      (graph.client.addData graph.database "text/turtle" document).run.run (P := wire) respond
          before =
        (.ok (), after) ∧
      view after = ⟨(view before).triples ∪ {triple | triple ∈ triples}, none⟩ := by
  obtain ⟨reply, begun, beginning, reachesAdd, reachesCommit, first⟩ :=
    run_begin kept reaches idle
  obtain ⟨_, filled, adding, second⟩ :=
    run_add kept reachesAdd (congrArg Dataset.opened first) readable
  obtain ⟨after, committing, third⟩ :=
    run_commit kept reachesCommit (congrArg Dataset.opened second)
  have together : (graph.client.addAndCommit graph.database (trim reply) "text/turtle"
      document).run.run (P := wire) respond begun = (.ok (), after) :=
    (Dialogue.run_bind_of_ok adding).trans committing
  refine ⟨after, ?_, ?_⟩
  · exact (Dialogue.run_bind_of_ok beginning).trans (Dialogue.run_tryCatch_of_ok together)
  · rw [third, second, first, Set.empty_union]

/-- An update is carried out. -/
theorem run_update
    (kept : graph.KeptBy respond view)
    (before : σ)
    (reaches : graph.Reaches ["update"])
    {said : String}
    {deletions : List (List Pattern)}
    (readable : update? said = some deletions) :
    ∃ after,
      (graph.client.update graph.database said).run.run (P := wire) respond before =
        (.ok (), after) ∧
      view after = ⟨deletions.foldl without (view before).triples, (view before).opened⟩ := by
  obtain ⟨reply, after, runs, carried⟩ :=
    run_send_of_instructs kept reaches .post Client.anyType (.form [⟨"query", said⟩]) (.update said)
      (fun _ method names body => ⟨method, names, body⟩) (by simp [Dataset.Understands, readable])
  generalize same : view after = next at carried
  cases carried with
  | update read =>
      cases readable.symm.trans read
      exact ⟨after, Dialogue.run_bind_of_ok runs, same⟩

/-- The answer to the request for a query is what comes of the query. -/
theorem run_asking
    {asked reply : String}
    {url : Url}
    (reached : graph.client.target [graph.database, "query"] = .ok url)
    (free : Session.obstacle? (url.addQuery (Form.render [⟨"query", asked⟩])).withoutLogin = none)
    (answered :
      respond
          (Request.toUrl .get (url.addQuery (Form.render [⟨"query", asked⟩])) graph.client.login
            "application/sparql-results+json" .empty)
          before =
        (some ⟨200, Utf8.encode reply⟩, after)) :
    (graph.client.query graph.database asked).run.run (P := wire) respond before =
      (.ok reply, after) := by
  have given : (Session.ofExcept (graph.client.target [graph.database, "query"])).run.run
      (P := wire) respond before = (.ok url, before) := by
    rw [reached]
    rfl
  rw [Client.query, Dialogue.run_bind_of_ok given]
  exact run_exchange free answered

/-- A query is answered with what it finds. -/
theorem run_query
    (kept : graph.KeptBy respond view)
    (before : σ)
    {asked wanted : String}
    (canAsk : graph.CanAsk asked)
    {patterns : List Pattern}
    (readable : query? asked = some (wanted, patterns)) :
    ∃ reply after found document rows,
      (graph.client.query graph.database asked).run.run (P := wire) respond before =
        (.ok reply, after) ∧
      view after = view before ∧
      Finds (view before).triples patterns wanted found ∧
      Source.ofText reply = ⟨document, true⟩ ∧
      ShowsRows document rows ∧
      (rows.map fun columns => columns.lookup wanted) = found.map (Option.map termText) := by
  obtain ⟨url, reached, plain, free⟩ := canAsk
  have asking : url.addQuery (Form.render [⟨"query", asked⟩]) =
      { url with query := some (Form.render [⟨"query", asked⟩]) } := by
    rw [Url.addQuery, plain]
  have instructs : graph.Instructs
      (Request.toUrl .get (url.addQuery (Form.render [⟨"query", asked⟩])) graph.client.login
        "application/sparql-results+json" .empty)
      (.query asked) :=
    ⟨rfl, url, Form.render [⟨"query", asked⟩], reached, by rw [asking]; rfl, Form.parse_render _⟩
  obtain ⟨reply, after, answered, carried⟩ :=
    kept before instructs (by simp [Dataset.Understands, readable])
  generalize same : view after = next at carried
  cases carried with
  | query read finds source shows rows =>
      cases readable.symm.trans read
      exact ⟨reply, after, _, _, _, run_asking reached free answered, same, finds, source, shows,
        rows⟩

end

end GraphBroker.Store
