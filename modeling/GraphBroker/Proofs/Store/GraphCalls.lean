import GraphBroker.Proofs.Store.GraphContents
import GraphBroker.Proofs.Store.GraphServer
import GraphBroker.Proofs.Store.Relational

namespace GraphBroker.Store

open Json Rdf Remote

/-!
# Calls on a store in a graph

A call on a store in a graph is held with a server that keeps the triples.  While the
triples are those of what the store holds, each look-up tells what is held under an
identifier, and each addition or deletion changes what is held as the call says.  So
every call is served on the stored texts, as a relational store serves it.
-/

/-- No identifier of the call needs an escape. -/
def Call.Safe : Call → Prop
  | .addInstance id _ | .getInstance id | .deleteInstance id | .getAllBindings id =>
      (Entry.ofInstance id).Safe
  | .addBinding id bindingId _ | .getBinding id bindingId | .deleteBinding id bindingId =>
      (Entry.ofBinding id bindingId).Safe

instance : DecidablePred Call.Safe
  | .addInstance id _ | .getInstance id | .deleteInstance id | .getAllBindings id =>
      inferInstanceAs (Decidable (Entry.ofInstance id).Safe)
  | .addBinding id bindingId _ | .getBinding id bindingId | .deleteBinding id bindingId =>
      inferInstanceAs (Decidable (Entry.ofBinding id bindingId).Safe)

/-- The queries that a call may ask. -/
def Call.queries : Call → List Query
  | .addInstance id _ | .getInstance id | .deleteInstance id => [(Entry.ofInstance id).query]
  | .getAllBindings id => [(Entry.ofInstance id).query, Graph.allBindingsQuery id]
  | .addBinding id bindingId _ =>
      [(Entry.ofInstance id).query, (Entry.ofBinding id bindingId).query]
  | .getBinding id bindingId | .deleteBinding id bindingId =>
      [(Entry.ofBinding id bindingId).query]

/-- The size of the identifiers of a call. -/
def Call.idSize : Call → Nat
  | .addInstance id _ | .getInstance id | .deleteInstance id | .getAllBindings id =>
      id.utf8ByteSize
  | .addBinding id bindingId _ | .getBinding id bindingId | .deleteBinding id bindingId =>
      id.utf8ByteSize + bindingId.utf8ByteSize

/-- The query for an instance is little longer than its identifier. -/
theorem Entry.utf8ByteSize_query_ofInstance
    (id : String) :
    (ofInstance id).query.render.utf8ByteSize ≤ id.utf8ByteSize + 300 := by
  have without : (ofInstance "").query.render.utf8ByteSize ≤ 300 := by decide +kernel
  have nothing : "".utf8ByteSize = 0 := rfl
  simp only [query, Graph.instanceQuery, Query.render, Block.render, Node.render,
    Graph.instanceNode, List.map_cons, List.map_nil, String.intercalate_cons_cons,
    String.intercalate_singleton, String.utf8ByteSize_append, nothing] at without ⊢
  omega

/-- The query for a binding is little longer than the identifiers in it. -/
theorem Entry.utf8ByteSize_query_ofBinding
    (id bindingId : String) :
    (ofBinding id bindingId).query.render.utf8ByteSize ≤
      2 * id.utf8ByteSize + bindingId.utf8ByteSize + 300 := by
  have without : (ofBinding "" "").query.render.utf8ByteSize ≤ 300 := by decide +kernel
  have nothing : "".utf8ByteSize = 0 := rfl
  simp only [query, Graph.bindingQuery, Query.render, Block.render, Node.render,
    Graph.instanceNode, Graph.bindingNode, List.map_cons, List.map_nil,
    String.intercalate_cons_cons, String.intercalate_singleton, String.utf8ByteSize_append,
    nothing] at without ⊢
  omega

/-- The query for all bindings is little longer than the identifier of the instance. -/
theorem Graph.utf8ByteSize_allBindingsQuery
    (id : String) :
    (allBindingsQuery id).render.utf8ByteSize ≤ id.utf8ByteSize + 300 := by
  have without : (allBindingsQuery "").render.utf8ByteSize ≤ 300 := by decide +kernel
  have nothing : "".utf8ByteSize = 0 := rfl
  simp only [allBindingsQuery, Query.render, Block.render, Node.render, Graph.instanceNode,
    List.map_cons, List.map_nil, String.intercalate_cons_cons, String.intercalate_singleton,
    String.utf8ByteSize_append, nothing] at without ⊢
  omega

/-- No query of a call is much longer than its identifiers. -/
theorem Call.utf8ByteSize_render_le
    {call : Call}
    {query : Query}
    (asked : query ∈ call.queries) :
    query.render.utf8ByteSize ≤ 2 * call.idSize + 300 := by
  cases call with
  | addInstance id _ | getInstance id | deleteInstance id =>
      obtain rfl := List.mem_singleton.mp asked
      have size := Entry.utf8ByteSize_query_ofInstance id
      simp only [idSize]
      omega
  | getAllBindings id =>
      have parent := Entry.utf8ByteSize_query_ofInstance id
      have all := Graph.utf8ByteSize_allBindingsQuery id
      simp only [queries, List.mem_cons, List.not_mem_nil, or_false] at asked
      simp only [idSize]
      rcases asked with rfl | rfl <;> omega
  | addBinding id bindingId _ =>
      have parent := Entry.utf8ByteSize_query_ofInstance id
      have size := Entry.utf8ByteSize_query_ofBinding id bindingId
      simp only [queries, List.mem_cons, List.not_mem_nil, or_false] at asked
      simp only [idSize]
      rcases asked with rfl | rfl <;> omega
  | getBinding id bindingId | deleteBinding id bindingId =>
      obtain rfl := List.mem_singleton.mp asked
      have size := Entry.utf8ByteSize_query_ofBinding id bindingId
      simp only [idSize]
      omega

/-- A database has the triples of what is held, and no transaction is open. -/
structure Holds (contents : Contents String String) (dataset : Dataset) : Prop where
  encodes : Encodes contents dataset.triples
  idle : dataset.opened = none

/-! ## Entries that come and go -/

namespace Contents

variable {contents : Contents String String}

/-- Adding an instance changes what is kept of that instance alone. -/
theorem data?_withInstance
    (id data : String)
    (entry : Entry) :
    (contents.withInstance id data).data? entry =
      if entry = .ofInstance id then some data else contents.data? entry := by
  cases entry <;> simp [data?, withInstance]

/-- Adding a binding changes what is kept of that binding alone. -/
theorem data?_withBinding
    (id bindingId data : String)
    (entry : Entry) :
    (contents.withBinding id bindingId data).data? entry =
      if entry = .ofBinding id bindingId then some data else contents.data? entry := by
  cases entry <;> simp [data?, withBinding]

/-- Deleting a binding changes what is kept of that binding alone. -/
theorem data?_without
    (id bindingId : String)
    (entry : Entry) :
    (contents.without id bindingId).data? entry =
      if entry = .ofBinding id bindingId then none else contents.data? entry := by
  cases entry <;> simp [data?, without]

end Contents

namespace Entry

/-- The identifier of the instance of an entry. -/
def owner : Entry → String
  | .ofInstance id => id
  | .ofBinding id _ => id

end Entry

/-- Deleting an instance changes what is kept of it and its bindings alone. -/
theorem Contents.data?_withoutInstance
    {contents : Contents String String}
    (id : String)
    (entry : Entry) :
    (contents.withoutInstance id).data? entry =
      if entry.owner = id then none else contents.data? entry := by
  cases entry <;> rfl

namespace Encodes

variable {contents : Contents String String} {graph : Set Triple}

/-- Without everything of its subject, a binding is not held. -/
theorem bindingDeletion
    (encodes : Encodes contents graph)
    {id bindingId : String}
    (safe : (Entry.ofBinding id bindingId).Safe) :
    Encodes (contents.without id bindingId)
      (without graph [everythingOf (.given (Entry.ofBinding id bindingId).subject)]) := by
  refine encodes.remove (· = .ofBinding id bindingId) ?_ (Contents.data?_without id bindingId)
  intro triple
  rw [mem_without_everythingOf]
  refine and_congr_right fun _ => ?_
  constructor
  · rintro different entry _ rfl
    exact different
  · intro kept
    exact kept _ safe rfl

/-- Without everything of what is bound to it and of its subject, an instance is not held. -/
theorem instanceDeletion
    (encodes : Encodes contents graph)
    {id : String}
    (safe : (Entry.ofInstance id).Safe) :
    Encodes (contents.withoutInstance id)
      ([[⟨.var "binding", .given (vocabulary "boundto"), .given (Entry.ofInstance id).subject⟩,
            everythingOf (.var "binding")],
          [everythingOf (.given (Entry.ofInstance id).subject)]].foldl without graph) := by
  refine encodes.remove (·.owner = id) ?_ (Contents.data?_withoutInstance id)
  intro triple
  simp only [List.foldl_cons, List.foldl_nil]
  rw [mem_without_everythingOf, mem_without_linked, encodes.boundto_iff safe, and_assoc]
  refine and_congr_right fun member => ?_
  obtain ⟨entry, data, held, among⟩ := encodes.mem_iff.mp member
  have subject := Entry.subject_of_mem_triples among
  constructor
  · rintro ⟨notBound, notItself⟩ other otherSafe rfl same
    rw [same] at subject
    obtain rfl := (Entry.subject_inj otherSafe).mp subject
    cases other with
    | ofInstance id => exact notItself same
    | ofBinding id bindingId => exact notBound ⟨bindingId, data, held, same⟩
  · intro kept
    refine ⟨?_, kept _ safe rfl⟩
    rintro ⟨bindingId, text, binding, same⟩
    have heldBinding : contents.data? (.ofBinding id bindingId) = some text := binding
    exact kept _ (encodes.safe heldBinding) rfl same

end Encodes

/-! ## Steps of a call -/

namespace Graph

section

variable {respond : Request → σ → Option Response × σ} {view : σ → Dataset} {graph : Graph}
variable {before after : σ} {contents next : Contents String String}

/-- A session that succeeds is a step that succeeds. -/
theorem run_onServer
    {session : Session α}
    {value : α}
    (succeeds : session.run.run (P := wire) respond before = (.ok value, after)) :
    (onServer session).run.run (P := wire) respond before = (.ok value, after) := by
  refine (Dialogue.run_andThen respond session.run _ before).trans ?_
  rw [succeeds]
  rfl

/-- A session that fails is a step that fails with a remote error. -/
theorem run_onServer_of_error
    {session : Session α}
    {failure : Failure}
    (fails : session.run.run (P := wire) respond before = (.error failure, after)) :
    (onServer session).run.run (P := wire) respond before = (.error (.remote failure), after) := by
  refine (Dialogue.run_andThen respond session.run _ before).trans ?_
  rw [fails]
  rfl

/-- A safe identifier is accepted without asking anything. -/
theorem run_requireSafe
    {key : String}
    (safe : isSafeKey key = true) :
    (requireSafe key).run.run (P := wire) respond before = (.ok (), before) := by
  rw [requireSafe, if_pos safe]
  rfl

/-- What a query finds is read of the answer. -/
theorem run_select
    (kept : graph.KeptBy respond view)
    (before : σ)
    {query : Query}
    (canAsk : graph.CanAsk query.render)
    {patterns : List Pattern}
    (readable : query? query.render = some (query.wanted, patterns))
    (mentioned : ∃ pattern ∈ patterns, pattern.Mentions query.wanted) :
    ∃ (terms : List Term) (after : σ),
      (graph.select query).run.run (P := wire) respond before = (.ok (terms.map termText), after) ∧
      view after = view before ∧
      Finds (view before).triples patterns query.wanted (terms.map some) := by
  obtain ⟨reply, after, found, document, rows, asking, same, finds, source, shows, columns⟩ :=
    run_query kept before canAsk readable
  obtain ⟨terms, rfl⟩ := finds.bound mentioned
  have texts : (rows.map fun row => row.lookup query.wanted) = (terms.map termText).map some := by
    rw [columns, List.map_map, List.map_map]
    rfl
  refine ⟨terms, after, run_onServer ?_, same, finds⟩
  rw [Dialogue.run_bind_of_ok asking, readColumn_of_shows source shows texts]
  rfl

/-- The query for an entry finds its stored text, if it is held. -/
theorem run_select_entry
    (kept : graph.KeptBy respond view)
    (holds : Holds contents (view before))
    {entry : Entry}
    (safe : entry.Safe)
    (canAsk : graph.CanAsk entry.query.render) :
    ∃ after,
      (graph.select entry.query).run.run (P := wire) respond before =
        (.ok (contents.data? entry).toList, after) ∧
      Holds contents (view after) := by
  have wanted : entry.query.wanted = "data" := by
    cases entry <;> rfl
  obtain ⟨terms, after, selecting, same, finds⟩ := run_select kept before canAsk
    (by rw [wanted, Entry.query?_render safe]) (Entry.mentions_patterns.mpr wanted)
  rw [wanted] at finds
  have found := holds.encodes.found_of_finds safe finds
  have texts : terms.map termText = (contents.data? entry).toList := by
    cases held : contents.data? entry <;> simp_all [stored, termText]
  exact ⟨after, texts ▸ selecting, same ▸ holds⟩

/-- The text of an instance is found as it is kept. -/
theorem run_instanceData?
    (kept : graph.KeptBy respond view)
    (holds : Holds contents (view before))
    {id : String}
    (safe : (Entry.ofInstance id).Safe)
    (canAsk : graph.CanAsk (Entry.ofInstance id).query.render) :
    ∃ after,
      (graph.instanceData? id).run.run (P := wire) respond before =
        (.ok (contents.instance? id), after) ∧
      Holds contents (view after) := by
  obtain ⟨after, selecting, holdsAfter⟩ := run_select_entry kept holds safe canAsk
  refine ⟨after, (Dialogue.run_bind_of_ok selecting).trans ?_, holdsAfter⟩
  rw [Contents.data?]
  cases contents.instance? id <;> rfl

/-- The text of a binding is found as it is kept. -/
theorem run_bindingData?
    (kept : graph.KeptBy respond view)
    (holds : Holds contents (view before))
    {id bindingId : String}
    (safe : (Entry.ofBinding id bindingId).Safe)
    (canAsk : graph.CanAsk (Entry.ofBinding id bindingId).query.render) :
    ∃ after,
      (graph.bindingData? id bindingId).run.run (P := wire) respond before =
        (.ok (contents.binding? id bindingId), after) ∧
      Holds contents (view after) := by
  obtain ⟨after, selecting, holdsAfter⟩ := run_select_entry kept holds safe canAsk
  refine ⟨after, (Dialogue.run_bind_of_ok selecting).trans ?_, holdsAfter⟩
  rw [Contents.data?]
  cases contents.binding? id bindingId <;> rfl

/-- The query for all bindings of an instance finds the stored text of each of them once. -/
theorem run_select_bindings
    (kept : graph.KeptBy respond view)
    (holds : Holds contents (view before))
    {id : String}
    (safe : (Entry.ofInstance id).Safe)
    (canAsk : graph.CanAsk (allBindingsQuery id).render) :
    ∃ (listed : List (String × String)) (after : σ),
      (graph.select (allBindingsQuery id)).run.run (P := wire) respond before =
        (.ok (listed.map Prod.snd), after) ∧
      (listed.map Prod.fst).Nodup ∧
      (∀ bindingId data,
        (bindingId, data) ∈ listed ↔ contents.binding? id bindingId = some data) ∧
      Holds contents (view after) := by
  obtain ⟨terms, after, selecting, same, finds⟩ := run_select kept before canAsk
    (query?_allBindingsQuery safe) (Encodes.mentions_bindingsPatterns.mpr (Or.inr rfl))
  obtain ⟨listed, distinct, complete, found⟩ := holds.encodes.listed_of_finds safe finds
  have texts : terms.map termText = listed.map Prod.snd := by
    have values := congrArg (List.map (Option.map termText)) found
    rw [List.map_map, List.map_map] at values
    apply List.map_injective_iff.mpr (Option.some_injective String)
    rw [List.map_map, List.map_map]
    exact values
  exact ⟨listed, after, texts ▸ selecting, distinct, complete, same ▸ holds⟩

/-- An entry that was not held is held once its block is added. -/
theorem run_add_entry
    (kept : graph.KeptBy respond view)
    (reaches : graph.Reaches ["transaction", "begin"])
    (holds : Holds contents (view before))
    {entry : Entry}
    (safe : entry.Safe)
    (absent : contents.data? entry = none)
    {data : String}
    (plain : IsPlainText data)
    (held : ∀ other, next.data? other = if other = entry then some data else contents.data? other) :
    ∃ after,
      (graph.add (entry.block data)).run.run (P := wire) respond before = (.ok (), after) ∧
      Holds next (view after) := by
  obtain ⟨after, adding, same⟩ :=
    run_addData kept reaches holds.idle (Entry.document?_turtle safe plain)
  refine ⟨after, run_onServer adding, ?_⟩
  rw [same]
  exact ⟨holds.encodes.insert safe absent held, rfl⟩

/-- What is held once an update is carried out. -/
theorem run_delete
    (kept : graph.KeptBy respond view)
    (reaches : graph.Reaches ["update"])
    (holds : Holds contents (view before))
    {update : Update}
    {deletions : List (List Pattern)}
    (readable : update? update.render = some deletions)
    (encodes : Encodes next (deletions.foldl Rdf.without (view before).triples)) :
    ∃ after,
      (graph.delete update).run.run (P := wire) respond before = (.ok (), after) ∧
      Holds next (view after) := by
  obtain ⟨after, deleting, same⟩ := run_update kept before reaches readable
  refine ⟨after, run_onServer deleting, ?_⟩
  rw [same]
  exact ⟨encodes, holds.idle⟩

/-! ## Calls -/

variable (respond view graph) in
/-- A call is served on what a server holds. -/
def ServesCall (contents : Contents String String) (call : Call) (before : σ) : Prop :=
  ∃ outcome after next,
    (graph.answer call).run (P := wire) respond before = (outcome, after) ∧
      Serves .stored .stored contents call outcome next ∧ Holds next (view after)

/-- The graph adds an instance as its contents say. -/
theorem serves_addInstance
    (kept : graph.KeptBy respond view)
    (reaches : graph.Reaches ["transaction", "begin"])
    (holds : Holds contents (view before))
    {id : String}
    {record : ServiceInstance}
    (safe : (Entry.ofInstance id).Safe)
    (canAsk : graph.CanAsk (Entry.ofInstance id).query.render) :
    graph.ServesCall respond view contents (.addInstance id record) before := by
  obtain ⟨looked, lookingUp, holdsThen⟩ := run_instanceData? kept holds safe canAsk
  have start : (graph.answer (.addInstance id record)).run (P := wire) respond before = _ :=
    (Dialogue.run_bind_of_ok (run_requireSafe safe)).trans (Dialogue.run_bind_of_ok lookingUp)
  cases present : contents.instance? id with
  | some data =>
      have refusal : contents.refusal? (.addInstance id record) = some (.duplicateInstance id) := by
        simp [Contents.refusal?, present]
      rw [present] at start
      exact ⟨_, looked, contents, start, .of_refusal refusal, holdsThen⟩
  | none =>
      have accepted : contents.refusal? (.addInstance id record) = none := by
        simp [Contents.refusal?, present]
      obtain ⟨after, adding, holdsAfter⟩ := run_add_entry kept reaches holdsThen safe present
        (plainText_storedText ServiceInstance.codec record) (Contents.data?_withInstance id _)
      rw [present] at start
      exact ⟨_, after, _, start.trans adding, .of_reply accepted rfl, holdsAfter⟩

/-- The graph finds an instance as its contents say. -/
theorem serves_getInstance
    (kept : graph.KeptBy respond view)
    (holds : Holds contents (view before))
    {id : String}
    (safe : (Entry.ofInstance id).Safe)
    (canAsk : graph.CanAsk (Entry.ofInstance id).query.render) :
    graph.ServesCall respond view contents (.getInstance id) before := by
  obtain ⟨looked, lookingUp, holdsThen⟩ := run_instanceData? kept holds safe canAsk
  have start : (graph.answer (.getInstance id)).run (P := wire) respond before = _ :=
    (Dialogue.run_bind_of_ok (run_requireSafe safe)).trans (Dialogue.run_bind_of_ok lookingUp)
  cases present : contents.instance? id with
  | none =>
      have refusal : contents.refusal? (.getInstance id) = some (.instanceNotFound id) := by
        simp [Contents.refusal?, present]
      rw [present] at start
      exact ⟨_, looked, contents, start, .of_refusal refusal, holdsThen⟩
  | some data =>
      have accepted : contents.refusal? (.getInstance id) = none := by
        simp [Contents.refusal?, present]
      rw [present] at start
      exact ⟨read ServiceInstance.codec data, looked, contents, start,
        .of_reply accepted ⟨data, present, by simp only [read, Reading.stored]; rfl⟩, holdsThen⟩

/-- The graph deletes an instance as its contents say. -/
theorem serves_deleteInstance
    (kept : graph.KeptBy respond view)
    (reaches : graph.Reaches ["update"])
    (holds : Holds contents (view before))
    {id : String}
    (safe : (Entry.ofInstance id).Safe)
    (canAsk : graph.CanAsk (Entry.ofInstance id).query.render) :
    graph.ServesCall respond view contents (.deleteInstance id) before := by
  obtain ⟨looked, lookingUp, holdsThen⟩ := run_instanceData? kept holds safe canAsk
  have start : (graph.answer (.deleteInstance id)).run (P := wire) respond before = _ :=
    (Dialogue.run_bind_of_ok (run_requireSafe safe)).trans (Dialogue.run_bind_of_ok lookingUp)
  cases present : contents.instance? id with
  | none =>
      have refusal : contents.refusal? (.deleteInstance id) = some (.instanceNotFound id) := by
        simp [Contents.refusal?, present]
      rw [present] at start
      exact ⟨_, looked, contents, start, .of_refusal refusal, holdsThen⟩
  | some data =>
      have accepted : contents.refusal? (.deleteInstance id) = none := by
        simp [Contents.refusal?, present]
      obtain ⟨after, deleting, holdsAfter⟩ := run_delete kept reaches holdsThen
        (update?_instanceDeletion safe) (holdsThen.encodes.instanceDeletion safe)
      rw [present] at start
      exact ⟨_, after, _, start.trans deleting, .of_reply accepted rfl, holdsAfter⟩

/-- The graph adds a binding as its contents say. -/
theorem serves_addBinding
    (kept : graph.KeptBy respond view)
    (reaches : graph.Reaches ["transaction", "begin"])
    (holds : Holds contents (view before))
    {id bindingId : String}
    {record : ServiceBinding}
    (safe : (Entry.ofBinding id bindingId).Safe)
    (canAskParent : graph.CanAsk (Entry.ofInstance id).query.render)
    (canAsk : graph.CanAsk (Entry.ofBinding id bindingId).query.render) :
    graph.ServesCall respond view contents (.addBinding id bindingId record) before := by
  obtain ⟨looked, lookingUp, holdsThen⟩ := run_instanceData? kept holds safe.1 canAskParent
  have start : (graph.answer (.addBinding id bindingId record)).run (P := wire) respond before = _ :=
    (Dialogue.run_bind_of_ok (run_requireSafe safe.1)).trans
      ((Dialogue.run_bind_of_ok (run_requireSafe safe.2)).trans
        (Dialogue.run_bind_of_ok lookingUp))
  cases parent : contents.instance? id with
  | none =>
      have refusal : contents.refusal? (.addBinding id bindingId record) =
          some (.parentMissing id) := by
        simp [Contents.refusal?, parent]
      rw [parent] at start
      exact ⟨_, looked, contents, start, .of_refusal refusal, holdsThen⟩
  | some parentData =>
      obtain ⟨again, lookingAgain, holdsAgain⟩ := run_bindingData? kept holdsThen safe canAsk
      rw [parent] at start
      replace start := start.trans (Dialogue.run_bind_of_ok lookingAgain)
      cases present : contents.binding? id bindingId with
      | some data =>
          have refusal : contents.refusal? (.addBinding id bindingId record) =
              some (.duplicateBinding id bindingId) := by
            simp [Contents.refusal?, parent, present]
          rw [present] at start
          exact ⟨_, again, contents, start, .of_refusal refusal, holdsAgain⟩
      | none =>
          have accepted : contents.refusal? (.addBinding id bindingId record) = none := by
            simp [Contents.refusal?, parent, present]
          obtain ⟨after, adding, holdsAfter⟩ := run_add_entry kept reaches holdsAgain safe present
            (plainText_storedText ServiceBinding.codec record)
            (Contents.data?_withBinding id bindingId _)
          rw [present] at start
          exact ⟨_, after, _, start.trans adding, .of_reply accepted rfl, holdsAfter⟩

/-- The graph finds a binding as its contents say. -/
theorem serves_getBinding
    (kept : graph.KeptBy respond view)
    (holds : Holds contents (view before))
    {id bindingId : String}
    (safe : (Entry.ofBinding id bindingId).Safe)
    (canAsk : graph.CanAsk (Entry.ofBinding id bindingId).query.render) :
    graph.ServesCall respond view contents (.getBinding id bindingId) before := by
  obtain ⟨looked, lookingUp, holdsThen⟩ := run_bindingData? kept holds safe canAsk
  have start : (graph.answer (.getBinding id bindingId)).run (P := wire) respond before = _ :=
    (Dialogue.run_bind_of_ok (run_requireSafe safe.1)).trans
      ((Dialogue.run_bind_of_ok (run_requireSafe safe.2)).trans
        (Dialogue.run_bind_of_ok lookingUp))
  cases present : contents.binding? id bindingId with
  | none =>
      have refusal : contents.refusal? (.getBinding id bindingId) =
          some (.bindingNotFound id bindingId) := by
        simp [Contents.refusal?, present]
      rw [present] at start
      exact ⟨_, looked, contents, start, .of_refusal refusal, holdsThen⟩
  | some data =>
      have accepted : contents.refusal? (.getBinding id bindingId) = none := by
        simp [Contents.refusal?, present]
      rw [present] at start
      exact ⟨read ServiceBinding.codec data, looked, contents, start,
        .of_reply accepted ⟨data, present, by simp only [read, Reading.stored]; rfl⟩, holdsThen⟩

/-- The graph lists bindings as its contents say. -/
theorem serves_getAllBindings
    (kept : graph.KeptBy respond view)
    (holds : Holds contents (view before))
    {id : String}
    (safe : (Entry.ofInstance id).Safe)
    (canAsk : graph.CanAsk (Entry.ofInstance id).query.render)
    (canAskAll : graph.CanAsk (allBindingsQuery id).render) :
    graph.ServesCall respond view contents (.getAllBindings id) before := by
  obtain ⟨looked, lookingUp, holdsThen⟩ := run_instanceData? kept holds safe canAsk
  have start : (graph.answer (.getAllBindings id)).run (P := wire) respond before = _ :=
    (Dialogue.run_bind_of_ok (run_requireSafe safe)).trans (Dialogue.run_bind_of_ok lookingUp)
  cases present : contents.instance? id with
  | none =>
      have refusal : contents.refusal? (.getAllBindings id) = some (.parentMissing id) := by
        simp [Contents.refusal?, present]
      rw [present] at start
      exact ⟨_, looked, contents, start, .of_refusal refusal, holdsThen⟩
  | some data =>
      have accepted : contents.refusal? (.getAllBindings id) = none := by
        simp [Contents.refusal?, present]
      obtain ⟨listed, after, listing, distinct, complete, holdsAfter⟩ :=
        run_select_bindings kept holdsThen safe canAskAll
      rw [present] at start
      replace start := start.trans (Dialogue.run_bind_of_ok listing)
      refine ⟨(listed.map Prod.snd).mapM (read ServiceBinding.codec), after, contents, start,
        .of_reply accepted ⟨listed, distinct, complete, ?_⟩, holdsAfter⟩
      simp only [List.mapM_map, Function.comp_def, Reading.stored]
      rfl

/-- The graph deletes a binding as its contents say. -/
theorem serves_deleteBinding
    (kept : graph.KeptBy respond view)
    (reaches : graph.Reaches ["update"])
    (holds : Holds contents (view before))
    {id bindingId : String}
    (safe : (Entry.ofBinding id bindingId).Safe)
    (canAsk : graph.CanAsk (Entry.ofBinding id bindingId).query.render) :
    graph.ServesCall respond view contents (.deleteBinding id bindingId) before := by
  obtain ⟨looked, lookingUp, holdsThen⟩ := run_bindingData? kept holds safe canAsk
  have start : (graph.answer (.deleteBinding id bindingId)).run (P := wire) respond before = _ :=
    (Dialogue.run_bind_of_ok (run_requireSafe safe.1)).trans
      ((Dialogue.run_bind_of_ok (run_requireSafe safe.2)).trans
        (Dialogue.run_bind_of_ok lookingUp))
  cases present : contents.binding? id bindingId with
  | none =>
      have refusal : contents.refusal? (.deleteBinding id bindingId) =
          some (.bindingNotFound id bindingId) := by
        simp [Contents.refusal?, present]
      rw [present] at start
      exact ⟨_, looked, contents, start, .of_refusal refusal, holdsThen⟩
  | some data =>
      have accepted : contents.refusal? (.deleteBinding id bindingId) = none := by
        simp [Contents.refusal?, present]
      obtain ⟨after, deleting, holdsAfter⟩ := run_delete kept reaches holdsThen
        (update?_bindingDeletion safe) (holdsThen.encodes.bindingDeletion safe)
      rw [present] at start
      exact ⟨_, after, _, start.trans deleting, .of_reply accepted rfl, holdsAfter⟩

/-- A store in a graph serves every call on what the server holds. -/
theorem serves_answer
    (kept : graph.KeptBy respond view)
    (reachesBegin : graph.Reaches ["transaction", "begin"])
    (reachesUpdate : graph.Reaches ["update"])
    (holds : Holds contents (view before))
    {call : Call}
    (safe : call.Safe)
    (canAsk : ∀ query ∈ call.queries, graph.CanAsk query.render) :
    graph.ServesCall respond view contents call before := by
  cases call with
  | addInstance id record =>
      exact serves_addInstance kept reachesBegin holds safe (canAsk _ (by simp [Call.queries]))
  | getInstance id =>
      exact serves_getInstance kept holds safe (canAsk _ (by simp [Call.queries]))
  | deleteInstance id =>
      exact serves_deleteInstance kept reachesUpdate holds safe (canAsk _ (by simp [Call.queries]))
  | addBinding id bindingId record =>
      exact serves_addBinding kept reachesBegin holds safe (canAsk _ (by simp [Call.queries]))
        (canAsk _ (by simp [Call.queries]))
  | getBinding id bindingId =>
      exact serves_getBinding kept holds safe (canAsk _ (by simp [Call.queries]))
  | getAllBindings id =>
      exact serves_getAllBindings kept holds safe (canAsk _ (by simp [Call.queries]))
        (canAsk _ (by simp [Call.queries]))
  | deleteBinding id bindingId =>
      exact serves_deleteBinding kept reachesUpdate holds safe (canAsk _ (by simp [Call.queries]))

end

end Graph

end GraphBroker.Store
