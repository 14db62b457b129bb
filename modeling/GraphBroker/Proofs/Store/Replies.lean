import GraphBroker.Proofs.Record.Fidelity
import GraphBroker.Proofs.Store.GraphInterchange

namespace GraphBroker.Store

open Json Remote Text

/-!
# What comes of a reply

The reply to a query decides what a look-up in a graph comes to, by its column of stored
texts alone.  A look-up of all records takes one from each row, in their order, and fails
as a whole where one of them cannot be had; a look-up of one record takes that of the first
row, and finds nothing only where there is no row.
-/

/-! ## The column of stored texts -/

/-- A document shows the rows of a result, which it need not list if there are none. -/
inductive ShowsResult (document : Document) : List (List (String × String)) → Prop where
  | listed {rows : List (List (String × String))} :
      ShowsRows document rows →
      ShowsResult document rows
  | unlisted {members : List (Option String × Document)} :
      Document.Has "results" (.table members true) document →
      (∀ member ∈ members, Document.IsOther "bindings" member) →
      ShowsResult document []

/-- The cell of each row in the column of stored texts, which may be lacking. -/
def dataColumn (rows : List (List (String × String))) : List (Option String) :=
  rows.map fun row => row.lookup Graph.dataVariable

/-- The cell of each row that is read in the column of stored texts. -/
def QueryResult.dataColumn (result : QueryResult) : List (Option String) :=
  result.results.rows.map fun row => (row.lookup Graph.dataVariable).map ResultTerm.value

/-- Rows alike in their columns have the same column of stored texts. -/
theorem QueryResult.dataColumn_of_hasColumns
    {read : List (List (String × ResultTerm))}
    {rows : List (List (String × String))}
    (has : List.Forall₂ HasColumns read rows) :
    QueryResult.dataColumn ⟨⟨read⟩⟩ = Store.dataColumn rows := by
  induction has with
  | nil =>
      rfl
  | @cons row columns _ _ here _ inductionHypothesis =>
      have value : (row.lookup Graph.dataVariable).map ResultTerm.value =
          columns.lookup Graph.dataVariable := by
        rw [here, Option.map_map]
        exact Option.map_id'
      exact congrArg₂ List.cons value inductionHypothesis

/-- The column that a document shows is read of it. -/
theorem QueryResult.read_of_showsResult
    {document : Document}
    {rows : List (List (String × String))}
    (shows : ShowsResult document rows) :
    ∃ result, codec.read document = .ok result ∧ result.dataColumn = Store.dataColumn rows := by
  cases shows with
  | listed shows =>
      obtain ⟨⟨⟨read⟩⟩, whole, has⟩ := read_of_shows shows
      exact ⟨_, whole, dataColumn_of_hasColumns has⟩
  | @unlisted members inDocument others =>
      have results : ResultRows.codec.read (.table members true) = .ok ⟨[]⟩ := by
        have absent : (Shape.cons (.defaulted "bindings" (.list ResultRows.rowCodec) []) .nil).read
            "struct SparqlResults" (.table members true) = .ok ([], ()) :=
          Shape.read_absent others rfl
        simp only [ResultRows.codec, Codec.record, absent]
        rfl
      have whole : codec.read document = .ok ⟨⟨[]⟩⟩ := by
        have single : (Shape.cons (.required "results" ResultRows.codec) .nil).read
            "struct SparqlReply" document = .ok (⟨[]⟩, ()) :=
          Shape.read_single inDocument results
        simp only [codec, Codec.record, single]
        rfl
      exact ⟨_, whole, rfl⟩

/-! ## Cells -/

/-- A cell carries the stored text of a record, with blanks around it. -/
def CarriesRecord (codec : Codec α) (cell : Option String) (record : α) : Prop :=
  ∃ lead trail, IsBlank lead ∧ IsBlank trail ∧
    cell = some (lead ++ storedText codec record ++ trail)

/-- A record is read of a cell. -/
def ReadOf (codec : Codec α) (cell : Option String) (record : α) : Prop :=
  ∃ data, cell = some data ∧ readStored codec data = .ok record

section

variable {codec : Codec α} {payload : α → Json} {cells : List (Option String)}

/-- A storable record is read back from a cell that carries it exactly when its payload is plain. -/
theorem readOf_iff_plain
    (carries : CarriesPayload codec payload)
    {cell : Option String}
    {record : α}
    (carried : CarriesRecord codec cell record)
    (storable : (payload record).IsStorable) :
    ReadOf codec cell record ↔ (payload record).Throughout IsPlain := by
  obtain ⟨lead, trail, blankLead, blankTrail, rfl⟩ := carried
  simp only [ReadOf, Option.some.injEq, exists_eq_left']
  rw [readStored_around blankLead blankTrail, carries.readable storable,
    Reader.value_ofJson_iff storable.sorted]

/--
Storable records are read back from the cells that carry them exactly when all their payloads
are plain.
-/
theorem forall₂_readOf_iff_plain
    (carries : CarriesPayload codec payload)
    {records : List α}
    (carried : List.Forall₂ (CarriesRecord codec) cells records)
    (storable : ∀ record ∈ records, (payload record).IsStorable) :
    List.Forall₂ (ReadOf codec) cells records ↔
      ∀ record ∈ records, (payload record).Throughout IsPlain := by
  induction carried with
  | nil =>
      simp
  | cons here _ inductionHypothesis =>
      obtain ⟨storableHere, storableLater⟩ := List.forall_mem_cons.mp storable
      rw [List.forall₂_cons, List.forall_mem_cons, readOf_iff_plain carries here storableHere,
        inductionHypothesis storableLater]

/-- Records are read of cells if none is lacking and the texts in them are read. -/
theorem forall₂_readOf_iff
    {records : List α} :
    List.Forall₂ (ReadOf codec) cells records ↔
      ∃ values, cells = values.map some ∧
        List.Forall₂ (fun data record => readStored codec data = .ok record) values records := by
  constructor
  · intro read
    induction read with
    | nil =>
        exact ⟨[], rfl, .nil⟩
    | cons here _ inductionHypothesis =>
        obtain ⟨data, rfl, readHere⟩ := here
        obtain ⟨values, rfl, later⟩ := inductionHypothesis
        exact ⟨data :: values, rfl, .cons readHere later⟩
  · rintro ⟨values, rfl, read⟩
    rw [List.forall₂_map_left_iff]
    exact read.imp fun data _ readHere => ⟨data, rfl, readHere⟩

/-- A cell that carries a record is not empty. -/
theorem present_of_carried
    {records : List α}
    (carried : List.Forall₂ (CarriesRecord codec) cells records) :
    none ∉ cells := by
  induction carried with
  | nil =>
      exact List.not_mem_nil
  | cons here _ inductionHypothesis =>
      obtain ⟨lead, trail, -, -, rfl⟩ := here
      simpa using inductionHypothesis

/-- Cells that are all there are a list of texts. -/
theorem eq_map_some
    (present : none ∉ cells) :
    ∃ values : List String, cells = values.map some := by
  induction cells with
  | nil =>
      exact ⟨[], rfl⟩
  | cons cell rest inductionHypothesis =>
      obtain ⟨here, later⟩ := not_or.mp (mt List.mem_cons.mpr present)
      obtain ⟨data, rfl⟩ := Option.ne_none_iff_exists'.mp (Ne.symm here)
      obtain ⟨values, rfl⟩ := inductionHypothesis later
      exact ⟨data :: values, rfl⟩

end

namespace Graph

/-- The text of a cell, which must not be lacking. -/
def requireData : Option String → Except Failure String
  | some data => .ok data
  | none => .error (.defective (.missingColumn dataVariable))

/-- The column of stored texts fails at the first row that lacks it. -/
theorem column_eq
    (result : QueryResult) :
    column dataVariable result = result.dataColumn.mapM requireData := by
  rw [column, QueryResult.dataColumn, List.mapM_map]
  congr 1
  funext row
  rw [Function.comp_apply]
  cases row.lookup dataVariable <;> rfl

@[simp]
theorem mapM_requireData
    (values : List String) :
    (values.map some).mapM requireData = .ok values := by
  rw [List.mapM_map]
  exact (mapM_eq_ok_map fun _ _ => rfl).trans (congrArg Except.ok (List.map_id values))

/-- One row without a stored text makes the whole column unreadable. -/
theorem mapM_requireData_of_lacking
    {cells : List (Option String)}
    (lacking : none ∈ cells) :
    cells.mapM requireData = .error (.defective (.missingColumn dataVariable)) := by
  cases outcome : cells.mapM requireData with
  | ok values =>
      obtain ⟨value, impossible⟩ := ok_of_mapM outcome lacking
      cases impossible
  | error failure =>
      obtain ⟨cell, -, fails⟩ := error_of_mapM outcome
      cases cell with
      | some data => cases fails
      | none => rw [Except.error.inj fails]

/-- Go on with the texts of all cells. -/
def withCells
    (next : List String → Except Error β)
    (cells : List (Option String)) :
    Except Error β :=
  (cells.mapM requireData).mapError .remote >>= next

/-- One row without a stored text makes a look-up fail, whatever is read of the others. -/
theorem withCells_of_lacking
    {next : List String → Except Error β}
    {cells : List (Option String)}
    (lacking : none ∈ cells) :
    withCells next cells = .error (.remote (.defective (.missingColumn dataVariable))) := by
  rw [withCells, mapM_requireData_of_lacking lacking]
  rfl

/-- Where no cell is lacking, what is read next decides. -/
theorem withCells_map_some
    {next : List String → Except Error β}
    {values : List String} :
    withCells next (values.map some) = next values := by
  rw [withCells, mapM_requireData]
  rfl

/-- Read the record in the first of some texts. -/
def readFirst (codec : Codec α) (missing : Error) : List String → Except Error α
  | [] => .error missing
  | data :: _ => read codec data

end Graph

/-! ## What comes of the column -/

/-- What comes of a look-up of all records. -/
structure ReadsAll
    (codec : Codec α)
    (payload : α → Json)
    (cells : List (Option String))
    (outcome : Except Error (List α)) :
    Prop where
  /-- Where a row lacks its stored text, the reply is to blame. -/
  lacking :
    none ∈ cells →
    outcome = .error (.remote (.defective (.missingColumn Graph.dataVariable)))
  /-- Otherwise, where a stored text is corrupt, it fails with the reason of one that is. -/
  corrupt :
    none ∉ cells →
    (∃ data reason, some data ∈ cells ∧ readStored codec data = .error reason) →
    ∃ data reason, some data ∈ cells ∧ readStored codec data = .error reason ∧
      outcome = .error (.corrupt reason)
  /-- It succeeds with the record of each row, in their order, and with nothing else. -/
  complete : ∀ records, outcome = .ok records ↔ List.Forall₂ (ReadOf codec) cells records
  /-- Storable records come back exactly if their payloads are plain. -/
  restored :
    ∀ records,
      List.Forall₂ (CarriesRecord codec) cells records →
      (∀ record ∈ records, (payload record).IsStorable) →
      (outcome = .ok records ↔ ∀ record ∈ records, (payload record).Throughout IsPlain)

/-- What comes of a look-up of one record. -/
structure ReadsFirst
    (codec : Codec α)
    (payload : α → Json)
    (missing : Error)
    (cells : List (Option String))
    (outcome : Except Error α) :
    Prop where
  /-- Nothing is found exactly if there is no row. -/
  missing : outcome = .error missing ↔ cells = []
  /-- Where a row lacks its stored text, the reply is to blame. -/
  lacking :
    none ∈ cells →
    outcome = .error (.remote (.defective (.missingColumn Graph.dataVariable)))
  /-- Otherwise, where the first stored text is corrupt, it fails with the reason. -/
  corrupt :
    none ∉ cells →
    ∀ data reason, cells.head? = some (some data) → readStored codec data = .error reason →
      outcome = .error (.corrupt reason)
  /-- It succeeds with the record of the first row. -/
  complete :
    ∀ record,
      outcome = .ok record ↔ none ∉ cells ∧ ∃ cell, cells.head? = some cell ∧ ReadOf codec cell record
  /-- A storable record comes back exactly if its payload is plain. -/
  restored :
    ∀ record others,
      List.Forall₂ (CarriesRecord codec) cells (record :: others) →
      (payload record).IsStorable →
      (outcome = .ok record ↔ (payload record).Throughout IsPlain)

section

variable {codec : Codec α} {payload : α → Json} {cells : List (Option String)}

/-- The graph reads a text as the record that is stored in it. -/
theorem Graph.read_eq_ok_iff
    {data : String}
    {record : α} :
    Graph.read codec data = .ok record ↔ readStored codec data = .ok record :=
  mapError_eq_ok_iff

/-- The graph calls corrupt just what no record is stored in. -/
theorem Graph.read_eq_error_iff
    {data : String}
    {error : Error} :
    Graph.read codec data = .error error ↔
      ∃ reason, readStored codec data = .error reason ∧ error = .corrupt reason :=
  mapError_eq_error_iff

/-- All bindings are listed exactly when each cell is read as its record, in order. -/
theorem withCells_mapM_eq_ok_iff
    {records : List α} :
    Graph.withCells (List.mapM (Graph.read codec)) cells = .ok records ↔
      List.Forall₂ (ReadOf codec) cells records := by
  rw [forall₂_readOf_iff]
  constructor
  · intro succeeds
    by_cases lacking : none ∈ cells
    · rw [Graph.withCells_of_lacking lacking] at succeeds
      cases succeeds
    · obtain ⟨values, rfl⟩ := eq_map_some lacking
      rw [Graph.withCells_map_some] at succeeds
      exact ⟨values, rfl, (mapM_eq_ok_iff.mp succeeds).imp fun _ _ => Graph.read_eq_ok_iff.mp⟩
  · rintro ⟨values, rfl, read⟩
    rw [Graph.withCells_map_some]
    exact mapM_eq_ok_iff.mpr (read.imp fun _ _ => Graph.read_eq_ok_iff.mpr)

/-- All records are looked up in the column as a whole. -/
theorem readsAll_withCells
    (carries : CarriesPayload codec payload)
    (cells : List (Option String)) :
    ReadsAll codec payload cells (Graph.withCells (List.mapM (Graph.read codec)) cells) where
  lacking := Graph.withCells_of_lacking
  corrupt := by
    rintro present ⟨data, reason, inside, unread⟩
    obtain ⟨values, rfl⟩ := eq_map_some present
    rw [Graph.withCells_map_some]
    cases outcome : values.mapM (Graph.read codec) with
    | ok records =>
        obtain ⟨value, inValues, same⟩ := List.mem_map.mp inside
        cases same
        obtain ⟨record, read⟩ := ok_of_mapM outcome inValues
        rw [Graph.read_eq_ok_iff, unread] at read
        cases read
    | error failure =>
        obtain ⟨value, inValues, fails⟩ := error_of_mapM outcome
        obtain ⟨found, corrupt, rfl⟩ := Graph.read_eq_error_iff.mp fails
        exact ⟨value, found, List.mem_map_of_mem inValues, corrupt, rfl⟩
  complete _ := withCells_mapM_eq_ok_iff
  restored _ carried storable :=
    withCells_mapM_eq_ok_iff.trans (forall₂_readOf_iff_plain carries carried storable)

/-- A record is found exactly when no cell is lacking and the first is read as the record. -/
theorem withCells_readFirst_eq_ok_iff
    {missing : Error}
    {record : α} :
    Graph.withCells (Graph.readFirst codec missing) cells = .ok record ↔
      none ∉ cells ∧ ∃ cell, cells.head? = some cell ∧ ReadOf codec cell record := by
  by_cases lacking : none ∈ cells
  · simp [Graph.withCells_of_lacking lacking, lacking]
  · obtain ⟨values, rfl⟩ := eq_map_some lacking
    rw [Graph.withCells_map_some]
    cases values with
    | nil =>
        simp [Graph.readFirst]
    | cons data rest =>
        simp [Graph.readFirst, ReadOf, Graph.read_eq_ok_iff]

/-- One record is looked up in the first cell of the column. -/
theorem readsFirst_withCells
    (carries : CarriesPayload codec payload)
    {missing : Error}
    (own : missing.isNotFound = true)
    (cells : List (Option String)) :
    ReadsFirst codec payload missing cells
      (Graph.withCells (Graph.readFirst codec missing) cells) where
  missing := by
    by_cases lacking : none ∈ cells
    · rw [Graph.withCells_of_lacking lacking]
      constructor
      · intro same
        cases same
        cases own
      · rintro rfl
        cases lacking
    · obtain ⟨values, rfl⟩ := eq_map_some lacking
      rw [Graph.withCells_map_some, List.map_eq_nil_iff]
      cases values with
      | nil =>
          exact ⟨fun _ => rfl, fun _ => rfl⟩
      | cons data rest =>
          rw [Graph.readFirst, Graph.read_eq_error_iff]
          refine ⟨?_, nofun⟩
          rintro ⟨reason, -, rfl⟩
          cases own
  lacking := Graph.withCells_of_lacking
  corrupt := by
    intro present data reason first unread
    obtain ⟨values, rfl⟩ := eq_map_some present
    rw [Graph.withCells_map_some]
    cases values with
    | nil =>
        cases first
    | cons value rest =>
        cases first
        exact Graph.read_eq_error_iff.mpr ⟨reason, unread, rfl⟩
  complete _ := withCells_readFirst_eq_ok_iff
  restored record others carried storable := by
    have present := present_of_carried carried
    rw [withCells_readFirst_eq_ok_iff]
    cases carried with
    | @cons cell _ rest _ here _ =>
        rw [← readOf_iff_plain carries here storable]
        simp [present]

end

/-! ## What comes of a reply -/

/-- A query is answered with a text. -/
def Graph.Answers
    (graph : Graph)
    (respond : Request → σ → Option Response × σ)
    (query : Query)
    (before : σ)
    (body : String)
    (after : σ) :
    Prop :=
  (graph.client.query graph.database query.render).run.run (P := wire) respond before =
    (.ok body, after)

/-- What comes of a reply is decided by its column of stored texts. -/
structure DecidedByColumn
    (body : String)
    (Decides : List (Option String) → Except Error β → Prop)
    (outcome : Except Error β) :
    Prop where
  /-- A text that is no result is blamed as a whole. -/
  unread :
    ∀ error, QueryResult.codec.read.jsonText body = .error error →
      outcome = .error (.remote (.malformed error))
  /-- Otherwise the cells that are read decide. -/
  read :
    ∀ result, QueryResult.codec.read.jsonText body = .ok result →
      Decides result.dataColumn outcome
  /-- They are the cells of the rows that the document shows. -/
  shown :
    ∀ document rows, Source.ofText body = ⟨document, true⟩ → ShowsResult document rows →
      Decides (dataColumn rows) outcome

/-- What comes of a reply is decided by its column of stored texts, if it has one. -/
theorem decidedByColumn_of_readColumn
    {Decides : List (Option String) → Except Error β → Prop}
    {next : List String → Except Error β}
    (decides : ∀ cells, Decides cells (Graph.withCells next cells))
    (body : String) :
    DecidedByColumn body Decides
      ((Graph.readColumn Graph.dataVariable body).mapError .remote >>= next) := by
  have read result (whole : QueryResult.codec.read.jsonText body = .ok result) :
      Decides result.dataColumn
        ((Graph.readColumn Graph.dataVariable body).mapError .remote >>= next) := by
    simp only [Graph.readColumn, whole, Graph.column_eq]
    exact decides result.dataColumn
  constructor
  · intro error unread
    simp only [Graph.readColumn, unread]
    rfl
  · exact read
  · intro document rows source shows
    obtain ⟨result, found, same⟩ := QueryResult.read_of_showsResult shows
    rw [← same]
    apply read
    simp only [Reader.jsonText, Reader.source, source, found, if_true]

namespace Graph

section

variable {respond : Request → σ → Option Response × σ} {graph : Graph} {before after : σ}
variable {body : String}

/-- A query that is answered comes to the column of its answer. -/
theorem run_select_of_answers
    {query : Query}
    (wanted : query.wanted = dataVariable)
    (answers : graph.Answers respond query before body after) :
    (graph.select query).run.run (P := wire) respond before =
      ((readColumn dataVariable body).mapError .remote, after) := by
  cases outcome : readColumn dataVariable body with
  | ok values =>
      refine run_onServer ((Dialogue.run_bind_of_ok answers).trans ?_)
      rw [wanted, outcome]
      rfl
  | error failure =>
      refine run_onServer_of_error ((Dialogue.run_bind_of_ok answers).trans ?_)
      rw [wanted, outcome]
      rfl

/-- A look-up that is answered comes to the first text of the column of its answer. -/
theorem run_head_of_answers
    {query : Query}
    (wanted : query.wanted = dataVariable)
    (answers : graph.Answers respond query before body after) :
    (do
        let found ← graph.select query
        return found.head? : Steps (Option String)).run.run (P := wire) respond before =
      (((readColumn dataVariable body).mapError .remote).map List.head?, after) := by
  have selecting := run_select_of_answers wanted answers
  cases outcome : readColumn dataVariable body with
  | ok values =>
      rw [outcome] at selecting
      exact Dialogue.run_bind_of_ok selecting
  | error failure =>
      rw [outcome] at selecting
      exact Dialogue.run_bind_of_error selecting

/-- A result that is known asks nothing. -/
theorem run_ofExcept
    (result : Except Error α) :
    (ofExcept result).run.run (P := wire) respond before = (result, before) :=
  rfl

/-- A record is read of the first text that a look-up finds. -/
theorem run_readFirst
    {look : Steps (Option String)}
    {texts : Except Error (List String)}
    (looking : look.run.run (P := wire) respond before = (texts.map List.head?, after))
    (codec : Codec α)
    (missing : Error) :
    (do
        match ← look with
        | some data => ofExcept (read codec data)
        | none => throw missing : Steps α).run.run (P := wire) respond before =
      (texts >>= readFirst codec missing, after) := by
  cases texts with
  | ok values =>
      refine (Dialogue.run_bind_of_ok looking).trans ?_
      cases values with
      | nil =>
          rfl
      | cons data rest =>
          -- The text itself is not to be looked into.
          simp only [bind, Except.bind, readFirst]
          exact run_ofExcept (read codec data)
  | error error =>
      exact Dialogue.run_bind_of_error looking

/-- Looking an instance up comes to the first record of the column answered. -/
theorem answer_getInstance
    {id : String}
    (safe : isSafeKey id = true)
    (answers : graph.Answers respond (instanceQuery id) before body after) :
    (graph.answer (.getInstance id)).run (P := wire) respond before =
      ((readColumn dataVariable body).mapError .remote >>=
        readFirst ServiceInstance.codec (.instanceNotFound id), after) :=
  (Dialogue.run_bind_of_ok (run_requireSafe safe)).trans
    (run_readFirst (run_head_of_answers rfl answers) ServiceInstance.codec (.instanceNotFound id))

/-- Looking a binding up comes to the first record of the column answered. -/
theorem answer_getBinding
    {id bindingId : String}
    (safe : isSafeKey id = true)
    (safeBinding : isSafeKey bindingId = true)
    (answers : graph.Answers respond (bindingQuery id bindingId) before body after) :
    (graph.answer (.getBinding id bindingId)).run (P := wire) respond before =
      ((readColumn dataVariable body).mapError .remote >>=
        readFirst ServiceBinding.codec (.bindingNotFound id bindingId), after) :=
  (Dialogue.run_bind_of_ok (run_requireSafe safe)).trans
    ((Dialogue.run_bind_of_ok (run_requireSafe safeBinding)).trans
      (run_readFirst (run_head_of_answers rfl answers) ServiceBinding.codec
        (.bindingNotFound id bindingId)))

/-- Listing bindings comes to all records of the column answered, once the instance is found. -/
theorem answer_getAllBindings
    {id held : String}
    {start : σ}
    (safe : isSafeKey id = true)
    (found : (graph.instanceData? id).run.run (P := wire) respond start = (.ok (some held), before))
    (answers : graph.Answers respond (allBindingsQuery id) before body after) :
    (graph.answer (.getAllBindings id)).run (P := wire) respond start =
      ((readColumn dataVariable body).mapError .remote >>=
        List.mapM (read ServiceBinding.codec), after) := by
  have looking : (graph.answer (.getAllBindings id)).run (P := wire) respond start = _ :=
    (Dialogue.run_bind_of_ok (run_requireSafe safe)).trans (Dialogue.run_bind_of_ok found)
  have selecting := run_select_of_answers rfl answers
  refine looking.trans ?_
  cases outcome : readColumn dataVariable body with
  | ok values =>
      rw [outcome] at selecting
      exact Dialogue.run_bind_of_ok selecting
  | error failure =>
      rw [outcome] at selecting
      exact Dialogue.run_bind_of_error selecting

end

end Graph

/--
What comes of the replies to the queries of a store in a graph.  Where an instance is found,
the look-up of its bindings is decided by the column of stored texts as a whole.  The look-up
of one binding, and that of an instance, is decided by the first cell of the column.
-/
theorem replies_read_back
    (graph : Graph)
    (respond : Request → σ → Option Response × σ)
    (start : σ) :
    (∀ id held middle body after,
        Graph.isSafeKey id = true →
        (graph.instanceData? id).run.run (P := wire) respond start = (.ok (some held), middle) →
        graph.Answers respond (Graph.allBindingsQuery id) middle body after →
        DecidedByColumn body (ReadsAll ServiceBinding.codec ServiceBinding.payload)
          ((graph.answer (.getAllBindings id)).run (P := wire) respond start).1) ∧
      (∀ id bindingId body after,
        Graph.isSafeKey id = true → Graph.isSafeKey bindingId = true →
        graph.Answers respond (Graph.bindingQuery id bindingId) start body after →
        DecidedByColumn body
          (ReadsFirst ServiceBinding.codec ServiceBinding.payload (.bindingNotFound id bindingId))
          ((graph.answer (.getBinding id bindingId)).run (P := wire) respond start).1) ∧
      (∀ id body after,
        Graph.isSafeKey id = true →
        graph.Answers respond (Graph.instanceQuery id) start body after →
        DecidedByColumn body
          (ReadsFirst ServiceInstance.codec ServiceInstance.payload (.instanceNotFound id))
          ((graph.answer (.getInstance id)).run (P := wire) respond start).1) := by
  refine ⟨?_, ?_, ?_⟩
  · intro id held middle body after safe found answers
    rw [Graph.answer_getAllBindings safe found answers]
    exact decidedByColumn_of_readColumn (readsAll_withCells ServiceBinding.carriesPayload) body
  · intro id bindingId body after safe safeBinding answers
    rw [Graph.answer_getBinding safe safeBinding answers]
    exact decidedByColumn_of_readColumn
      (readsFirst_withCells ServiceBinding.carriesPayload rfl) body
  · intro id body after safe answers
    rw [Graph.answer_getInstance safe answers]
    exact decidedByColumn_of_readColumn
      (readsFirst_withCells ServiceInstance.carriesPayload rfl) body

/-! ## Replies in a rehearsal -/

/-- A reply that shows stored texts. -/
def showTexts (texts : List String) : Document :=
  showRows Graph.dataVariable (texts.map fun data => some (stored data))

/-- The replies of a peer that shows stored texts, one after the other. -/
def showing (replies : List (List String)) : Peer :=
  .scripted (replies.map fun texts => some ⟨200, Utf8.encode (showTexts texts).print⟩)

/-- The sample reply is a well-formed document. -/
theorem source_showTexts
    (texts : List String) :
    Source.ofText (showTexts texts).print = ⟨showTexts texts, true⟩ :=
  source_showRows _ _

/-- The sample reply shows a row for each text. -/
theorem showsRows_showTexts
    (texts : List String) :
    ShowsRows (showTexts texts) (texts.map fun data => [(Graph.dataVariable, data)]) := by
  have shows := showsRows_showRows Graph.dataVariable (texts.map fun data => some (stored data))
  rw [List.map_map] at shows
  exact shows

/-- The sample reply is read as the texts that it shows. -/
theorem readColumn_showTexts
    (texts : List String) :
    Graph.readColumn Graph.dataVariable (showTexts texts).print = .ok texts := by
  refine Graph.readColumn_of_shows (source_showTexts texts) (showsRows_showTexts texts) ?_
  rw [List.map_map]
  rfl

/-- The sample graph accepts the identifiers of the sample look-ups. -/
theorem permits_lookUps :
    ∀ call ∈ [Call.getAllBindings "i1", .getBinding "i1" "b1", .getInstance "i1"],
      Graph.sample.Permits call :=
  permits_sample (by decide) (by simp [Call.payload?]) (by decide)

/-- The sample peer answers each query with the next of its replies. -/
theorem answers_showing
    {call : Call}
    (permitted : Graph.sample.Permits call)
    {query : Query}
    (asked : query ∈ call.queries)
    (texts : List String)
    (later : List (List String)) :
    Graph.sample.Answers Peer.answer query (showing (texts :: later)) (showTexts texts).print
      (showing later) := by
  obtain ⟨url, reached, -, free⟩ := permitted.sendable query asked
  exact run_asking reached free rfl

/-- The sample peer's first reply holds the record of the sample instance. -/
theorem finds_showing
    (data : String)
    (later : List (List String)) :
    (Graph.sample.instanceData? "i1").run.run (P := wire) Peer.answer (showing ([data] :: later)) =
      (.ok (some data), showing later) := by
  have permitted := permits_lookUps (.getInstance "i1") (by simp)
  have answers := answers_showing permitted (List.mem_singleton_self _) [data] later
  refine (Graph.run_head_of_answers rfl answers).trans ?_
  rw [readColumn_showTexts]
  rfl

/-- The sample peer answers the query for all bindings. -/
theorem answers_allBindings
    (texts : List String) :
    Graph.sample.Answers Peer.answer (Graph.allBindingsQuery "i1") (showing [texts])
      (showTexts texts).print (showing []) :=
  answers_showing (permits_lookUps (.getAllBindings "i1") (by simp)) (by simp [Call.queries])
    texts []

/-- Two bindings are read back in their order, and the first of them as one. -/
theorem replies_read_back_two :
    let bob : ServiceBinding := ⟨"b1", .text "bob"⟩
    let eve : ServiceBinding := ⟨"b2", .text "eve"⟩
    let texts := [storedText ServiceBinding.codec bob,
      " " ++ storedText ServiceBinding.codec eve ++ "\n"]
    ((Graph.sample.answer (.getAllBindings "i1")).run (P := wire) Peer.answer
        (showing [["found"], texts])).1 =
        .ok [bob, eve] ∧
      ((Graph.sample.answer (.getBinding "i1" "b1")).run (P := wire) Peer.answer
        (showing [texts])).1 =
        .ok bob ∧
      ((Graph.sample.answer (.getInstance "i1")).run (P := wire) Peer.answer (showing [[]])).1 =
        .error (.instanceNotFound "i1") := by
  intro bob eve texts
  have carried : List.Forall₂ (CarriesRecord ServiceBinding.codec) (texts.map some) [bob, eve] :=
    .cons ⟨"", "", by decide, by decide, by simp⟩
      (.cons ⟨" ", "\n", by decide, by decide, rfl⟩ .nil)
  have storable : ∀ record ∈ [bob, eve], record.payload.IsStorable := by
    simp [bob, eve, storable_text]
  have plain : ∀ record ∈ [bob, eve], record.payload.Throughout IsPlain := by
    simpa [bob, eve] using ⟨.of_undivided trivial rfl, .of_undivided trivial rfl⟩
  refine ⟨?_, ?_, ?_⟩
  · have decided := (replies_read_back Graph.sample Peer.answer (showing [["found"], texts])).1
      "i1" _ _ _ _ (by decide) (finds_showing "found" [texts]) (answers_allBindings texts)
    have all := decided.shown _ _ (source_showTexts texts) (.listed (showsRows_showTexts texts))
    exact (all.restored _ carried storable).mpr plain
  · have decided := (replies_read_back Graph.sample Peer.answer (showing [texts])).2.1
      "i1" "b1" _ _ (by decide) (by decide) (answers_showing
        (permits_lookUps (.getBinding "i1" "b1") (by simp)) (List.mem_singleton_self _) texts [])
    have first := decided.shown _ _ (source_showTexts texts) (.listed (showsRows_showTexts texts))
    exact (first.restored _ _ carried (storable bob (by simp))).mpr (plain bob (by simp))
  · have decided := (replies_read_back Graph.sample Peer.answer (showing [[]])).2.2
      "i1" _ _ (by decide) (answers_showing
        (permits_lookUps (.getInstance "i1") (by simp)) (List.mem_singleton_self _) [] [])
    have first := decided.shown _ _ (source_showTexts []) (.listed (showsRows_showTexts []))
    exact first.missing.mpr rfl

/-- A binding does not come back of the row that carries it. -/
theorem embedding_not_read_back :
    let record : ServiceBinding := ⟨"b1", embeddingPayload⟩
    let texts := [storedText ServiceBinding.codec record]
    record.payload.IsStorable ∧
      Source.ofText (showTexts texts).print = ⟨showTexts texts, true⟩ ∧
      ShowsRows (showTexts texts) [[(Graph.dataVariable, storedText ServiceBinding.codec record)]] ∧
      ((Graph.sample.answer (.getAllBindings "i1")).run (P := wire) Peer.answer
        (showing [["found"], texts])).1 ≠
        .ok [record] := by
  intro record texts
  refine ⟨storable_embeddingPayload, source_showTexts texts, showsRows_showTexts texts, ?_⟩
  rw [Graph.answer_getAllBindings (by decide) (finds_showing "found" [texts])
    (answers_allBindings texts)]
  have carried : List.Forall₂ (CarriesRecord ServiceBinding.codec) (texts.map some) [record] :=
    .cons ⟨"", "", by decide, by decide, by simp⟩ .nil
  have storable : ∀ other ∈ [record], other.payload.IsStorable := by
    simpa using storable_embeddingPayload
  have all := (decidedByColumn_of_readColumn (readsAll_withCells ServiceBinding.carriesPayload)
    (showTexts texts).print).shown _ _ (source_showTexts texts) (.listed (showsRows_showTexts texts))
  intro same
  have plain := (all.restored [record] carried storable).mp same
  exact not_plain_embeddingPayload (plain record (List.mem_singleton_self _))

end GraphBroker.Store
