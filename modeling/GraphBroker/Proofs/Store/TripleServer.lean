import GraphBroker.Proofs.Json.Values
import GraphBroker.Proofs.Rdf.Matching
import GraphBroker.Proofs.Store.GraphServer

namespace GraphBroker.Store

open Json Rdf Remote Text

/-!
# A server in memory

A server that keeps the triples of one database in a list.  It tells by the path of a
request what to do, has one transaction at a time, and solves queries by matching.  It
keeps the triples as a store in a graph relies on.
-/

/-- A server with the triples of one database. -/
structure TripleServer where
  triples : List Triple
  /-- What the open transaction will add. -/
  staged : Option (List Triple)

/-! ## Results -/

/-- A term in a result. -/
def showTerm (term : Term) : Document :=
  let kind :=
    match term with
    | .resource _ => "uri"
    | .literal _ _ => "literal"
  .ofMembers [("type", .text kind), ("value", .text (termText term))]

/-- The row of one solution. -/
def showRow (wanted : String) (found : Option Term) : Document :=
  .ofMembers (found.toList.map fun term => (wanted, showTerm term))

/-- The document of what a query finds. -/
def showRows (wanted : String) (found : List (Option Term)) : Document :=
  .ofMembers
    [("head", .ofMembers [("vars", .ofItems [.text wanted])]),
      ("results", .ofMembers [("bindings", .ofItems (found.map (showRow wanted)))])]

theorem legible_showRows
    (wanted : String)
    (found : List (Option Term)) :
    (showRows wanted found).Legible := by
  have term (term : Term) : (showTerm term).Legible :=
    Document.legible_ofMembers (by simp [Document.Legible.text])
  have row (value : Option Term) : (showRow wanted value).Legible :=
    Document.legible_ofMembers (by cases value <;> simp [term])
  have vars : (Document.ofItems [.text wanted]).Legible :=
    Document.legible_ofItems (by simp [Document.Legible.text])
  have rows : (Document.ofItems (found.map (showRow wanted))).Legible :=
    Document.legible_ofItems (by simp [row])
  have head : (Document.ofMembers [("vars", .ofItems [.text wanted])]).Legible :=
    Document.legible_ofMembers (by simpa using vars)
  have results :
      (Document.ofMembers [("bindings", .ofItems (found.map (showRow wanted)))]).Legible :=
    Document.legible_ofMembers (by simpa using rows)
  exact Document.legible_ofMembers (by simpa using ⟨head, results⟩)

theorem nesting_showRows
    (wanted : String)
    (found : List (Option Term)) :
    (showRows wanted found).nesting ≤ 5 := by
  have rows : Document.itemsNesting (found.map (showRow wanted)) ≤ 2 := by
    apply Document.itemsNesting_le
    intro row member
    obtain ⟨value, _, rfl⟩ := List.mem_map.mp member
    cases value <;>
      simp [showRow, showTerm, Document.ofMembers, Document.nesting, Document.membersNesting]
  simp only [showRows, Document.ofMembers, Document.ofItems, List.map_cons, List.map_nil,
    Document.nesting, Document.membersNesting, Document.itemsNesting]
  omega

/-- The document is read as it is shown. -/
theorem source_showRows
    (wanted : String)
    (found : List (Option Term)) :
    Source.ofText (showRows wanted found).print = ⟨showRows wanted found, true⟩ := by
  have shallow : (showRows wanted found).nesting ≤ depthLimit := by
    have nesting := nesting_showRows wanted found
    have limit : 5 ≤ depthLimit := by decide
    omega
  exact (legible_showRows wanted found).ofText_print shallow

theorem has_only
    (name : String)
    (value : Document) :
    Document.Has name value (.ofMembers [(name, value)]) := by
  have none : ∀ member ∈ ([] : List (Option String × Document)), Document.IsOther name member := by
    simp
  exact .intro none none

theorem has_second
    {name other : String}
    (different : other ≠ name)
    {skipped : Document}
    (whole : skipped.whole = true)
    (value : Document) :
    Document.Has name value (.ofMembers [(other, skipped), (name, value)]) := by
  have first : ∀ member ∈ [(some other, skipped)], Document.IsOther name member := by
    simpa [Document.IsOther] using ⟨different, whole⟩
  have none : ∀ member ∈ ([] : List (Option String × Document)), Document.IsOther name member := by
    simp
  exact .intro first none

theorem showsColumn_showTerm
    (wanted : String)
    (term : Term) :
    ShowsColumn (some wanted, showTerm term) (wanted, termText term) :=
  ⟨rfl, has_second (by decide) rfl _⟩

theorem showsRow_showRow
    (wanted : String)
    (value : Option Term) :
    ShowsRow (showRow wanted value) (value.toList.map fun term => (wanted, termText term)) := by
  refine ⟨by cases value <;> simp, _, rfl, ?_⟩
  cases value with
  | none => exact .nil
  | some term => exact .cons (showsColumn_showTerm wanted term) .nil

/-- The document shows what is found. -/
theorem showsRows_showRows
    (wanted : String)
    (found : List (Option Term)) :
    ShowsRows (showRows wanted found)
      (found.map fun value => value.toList.map fun term => (wanted, termText term)) := by
  refine ⟨_, _, _, has_second (by decide) rfl _, has_only _ _, rfl, ?_⟩
  rw [List.forall₂_map_left_iff, List.forall₂_map_right_iff, List.forall₂_same]
  exact fun value _ => showsRow_showRow wanted value

namespace TripleServer

/-! ## Instructions -/

/-- The only name of a transaction. -/
def transaction : String := "t"

/-- What the server holds. -/
def dataset (server : TripleServer) : Dataset where
  triples := {triple | triple ∈ server.triples}
  opened := server.staged.map fun staged => (transaction, {triple | triple ∈ staged})

/-- Carry out an instruction, and answer with a text. -/
def carryOut (server : TripleServer) : Instruction → String × TripleServer
  | .begin => (transaction, { server with staged := some [] })
  | .add _ document =>
      let added := (document? document).getD []
      ("", { server with staged := server.staged.map (· ++ added) })
  | .commit _ => ("", ⟨server.triples ++ server.staged.getD [], none⟩)
  | .query asked =>
      match query? asked with
      | some (wanted, patterns) =>
          let found := (solutions server.triples patterns).map fun assignment => assignment wanted
          ((showRows wanted found).print, server)
      | none => ("", server)
  | .update said =>
      let deletions := (update? said).getD []
      ("", { server with triples := deletions.foldl deleted server.triples })

theorem setOf_foldl_deleted
    (triples : List Triple)
    (deletions : List (List Pattern)) :
    {triple | triple ∈ deletions.foldl deleted triples} =
      deletions.foldl without {triple | triple ∈ triples} := by
  induction deletions generalizing triples with
  | nil =>
      rfl
  | cons patterns rest inductionHypothesis =>
      rw [List.foldl_cons, List.foldl_cons, inductionHypothesis, setOf_deleted]

theorem setOf_append
    (first second : List Triple) :
    {triple | triple ∈ first ++ second} =
      {triple | triple ∈ first} ∪ {triple | triple ∈ second} := by
  ext triple
  simp

/-- Whatever the server understands is carried out. -/
theorem carriesOut_carryOut
    {graph : Graph}
    (reachesAdd : graph.Reaches [transaction, "add"])
    (reachesCommit : graph.Reaches ["transaction", "commit", transaction])
    {server : TripleServer}
    {instruction : Instruction}
    (understands : server.dataset.Understands instruction) :
    CarriesOut graph instruction server.dataset (server.carryOut instruction).1
      (server.carryOut instruction).2.dataset := by
  cases instruction with
  | begin =>
      have trimmed : trim transaction = transaction := by decide
      have begun : CarriesOut graph .begin server.dataset transaction
          { server.dataset with opened := some (trim transaction, ∅) } :=
        .begin (by rw [trimmed]; exact reachesAdd) (by rw [trimmed]; exact reachesCommit)
      simpa [carryOut, dataset, trimmed] using begun
  | add asked document =>
      obtain ⟨readable, staged, opened⟩ := understands
      obtain ⟨triples, read⟩ := Option.isSome_iff_exists.mp readable
      obtain ⟨before, held, same⟩ := Option.map_eq_some_iff.mp opened
      cases same
      have added : CarriesOut graph (.add transaction document) server.dataset "" _ :=
        .add opened read
      rw [← setOf_append] at added
      simpa [carryOut, dataset, held, read] using added
  | commit asked =>
      obtain ⟨staged, opened⟩ := understands
      obtain ⟨before, held, same⟩ := Option.map_eq_some_iff.mp opened
      cases same
      have committed : CarriesOut graph (.commit transaction) server.dataset "" _ := .commit opened
      rw [dataset, ← setOf_append] at committed
      simpa [carryOut, dataset, held] using committed
  | query asked =>
      obtain ⟨⟨wanted, patterns⟩, read⟩ := Option.isSome_iff_exists.mp understands
      simp only [carryOut, read]
      refine .query read (finds_solutions server.triples patterns wanted) (source_showRows _ _)
        (showsRows_showRows _ _) ?_
      rw [List.map_map]
      refine List.map_congr_left fun value _ => ?_
      cases value <;> simp
  | update said =>
      obtain ⟨deletions, read⟩ := Option.isSome_iff_exists.mp understands
      have updated : CarriesOut graph (.update said) server.dataset "" _ := .update read
      simpa [carryOut, dataset, read, setOf_foldl_deleted] using updated

/-! ## Requests -/

/-- What a request says, which its path and its body tell. -/
def instruction? (request : Request) : Option Instruction :=
  match request.method, request.url.path, request.body with
  | .post, [_, "transaction", "begin"], _ => some .begin
  | .post, [_, name, "add"], .typed _ document => some (.add name document)
  | .post, [_, "transaction", "commit", name], _ => some (.commit name)
  | .post, [_, "update"], .form [field] => some (.update field.value)
  | .get, [_, "query"], _ =>
      match request.url.query.map fun fields => Form.parse fields.toList with
      | some [field] => some (.query field.value)
      | _ => none
  | _, _, _ => none

/-- Answer a request. -/
def respond (request : Request) (server : TripleServer) : Option Response × TripleServer :=
  match instruction? request with
  | some instruction =>
      let (reply, next) := server.carryOut instruction
      (some ⟨200, Utf8.encode reply⟩, next)
  | none => (some ⟨404, []⟩, server)

end TripleServer

/-- The store of a broker on such a server. -/
def Graph.sample : Graph where
  client := ⟨"http://sd:5820", ⟨"admin", "secret"⟩⟩
  database := databaseName "broker-1"

namespace Graph

/-- The URL of what is named beneath the database. -/
def sampleUrl (names : List String) : Url where
  scheme := "http"
  authority := some ⟨"", none, "sd", some 5820⟩
  guarded := false
  path := sample.database :: names
  query := none
  fragment := none

/-- What the store asks for, with the transaction that the server opens. -/
def sampleNames : List (List String) :=
  [["transaction", "begin"], [TripleServer.transaction, "add"],
    ["transaction", "commit", TripleServer.transaction], ["query"], ["update"]]

theorem target_sample
    {names : List String}
    (asked : names ∈ sampleNames) :
    sample.client.target (sample.database :: names) = .ok (sampleUrl names) := by
  simp only [sampleNames, List.mem_cons, List.not_mem_nil, or_false] at asked
  rcases asked with rfl | rfl | rfl | rfl | rfl <;> rfl

theorem path_of_names
    {names : List String}
    (asked : names ∈ sampleNames)
    {request : Request}
    (named : sample.Names names request) :
    request.url.path = sample.database :: names := by
  obtain ⟨url, reached, same⟩ := named
  obtain rfl := Except.ok.inj ((target_sample asked).symm.trans reached)
  rw [same, path_withoutLogin]
  rfl

theorem reaches_sample
    {names : List String}
    (asked : names ∈ sampleNames) :
    sample.Reaches names := by
  refine ⟨sampleUrl names, target_sample asked, ?_⟩
  simp only [sampleNames, List.mem_cons, List.not_mem_nil, or_false] at asked
  rcases asked with rfl | rfl | rfl | rfl | rfl <;> decide +kernel

end Graph

namespace TripleServer

/-- The server knows what a request instructs it to do. -/
theorem instruction?_of_instructs
    {server : TripleServer}
    {request : Request}
    {instruction : Instruction}
    (instructs : Graph.sample.Instructs request instruction)
    (understands : server.dataset.Understands instruction) :
    instruction? request = some instruction := by
  cases instruction with
  | begin =>
      obtain ⟨method, names⟩ := instructs
      have path := Graph.path_of_names (by simp [Graph.sampleNames]) names
      simp [instruction?, method, path]
  | add name document =>
      obtain ⟨_, staged, opened⟩ := understands
      obtain ⟨_, _, same⟩ := Option.map_eq_some_iff.mp opened
      cases same
      obtain ⟨method, names, body⟩ := instructs
      have path := Graph.path_of_names (by simp [Graph.sampleNames]) names
      simp [instruction?, method, path, body, transaction]
  | commit name =>
      obtain ⟨staged, opened⟩ := understands
      obtain ⟨_, _, same⟩ := Option.map_eq_some_iff.mp opened
      cases same
      obtain ⟨method, names⟩ := instructs
      have path := Graph.path_of_names (by simp [Graph.sampleNames]) names
      simp [instruction?, method, path]
  | query asked =>
      obtain ⟨method, url, fields, reached, same, parsed⟩ := instructs
      obtain rfl := Except.ok.inj
        ((Graph.target_sample (by simp [Graph.sampleNames])).symm.trans reached)
      have path : request.url.path = [Graph.sample.database, "query"] := by
        rw [same, path_withoutLogin]
        rfl
      have query : request.url.query = some fields := by
        rw [same, query_withoutLogin]
      simp [instruction?, method, path, query, parsed]
  | update said =>
      obtain ⟨method, names, body⟩ := instructs
      have path := Graph.path_of_names (by simp [Graph.sampleNames]) names
      simp [instruction?, method, path, body]

/-- The server keeps the triples of the store's database. -/
theorem keeps : Graph.sample.KeptBy respond dataset := by
  intro request instruction server instructs understands
  have known := instruction?_of_instructs instructs understands
  refine ⟨(server.carryOut instruction).1, (server.carryOut instruction).2, ?_, ?_⟩
  · simp only [respond, known]
  · exact carriesOut_carryOut (Graph.reaches_sample (by simp [Graph.sampleNames]))
      (Graph.reaches_sample (by simp [Graph.sampleNames])) understands

end TripleServer

end GraphBroker.Store
