import GraphBroker.Proofs.Store.GraphCalls
import GraphBroker.Proofs.Store.Interchange
import GraphBroker.Proofs.Store.TripleServer

namespace GraphBroker.Store

open Json Remote

/-!
# A store in a graph in the place of a store in memory

A store in a graph and a store in memory go through the same calls.  With a server
that keeps the triples, both answer alike all the way, as far as requests can be sent.
The exception is that of all stored texts: a payload that has an object whose first key
stands for a JSON text is kept, but is never read back.
-/

/-- A call that can be made on a store in a graph. -/
structure Graph.Permits (graph : Graph) (call : Call) : Prop where
  safe : call.Safe
  storable : ∀ payload ∈ call.payload?, payload.IsStorable
  /-- No query is too long to be sent. -/
  sendable : ∀ query ∈ call.queries, graph.CanAsk query.render

/-- A call is permitted unless its identifiers are very long. -/
theorem Graph.permits_of_short
    {graph : Graph}
    {url : Url}
    (reached : graph.client.target [graph.database, "query"] = .ok url)
    (plain : url.query = none)
    (free : Session.obstacle? url.withoutLogin = none)
    {call : Call}
    (safe : call.Safe)
    (storable : ∀ payload ∈ call.payload?, payload.IsStorable)
    (short : url.withoutLogin.render.utf8ByteSize + 6 * call.idSize + 917 ≤ Session.urlLimit) :
    graph.Permits call where
  safe := safe
  storable := storable
  sendable query asked := by
    have size := Call.utf8ByteSize_render_le asked
    exact canAsk_of_short reached plain free (by omega)

/-- Requests for changes can be sent to the server. -/
structure Graph.IsOnline (graph : Graph) : Prop where
  begin : graph.Reaches ["transaction", "begin"]
  update : graph.Reaches ["update"]

/-- Every call of a script has two outcomes that are alike. -/
def Graph.KeepsUp
    (graph : Graph)
    (respond : Request → σ → Option Response × σ)
    (Alike : (call : Call) → call.Outcome → call.Outcome → Prop) :
    List Call → Memory → σ → Prop
  | [], _, _ => True
  | call :: rest, memory, state =>
      let answered := (graph.answer call).run (P := wire) respond state
      Alike call answered.1 (memory.answer call).1 ∧
        graph.KeepsUp respond Alike rest (memory.answer call).2 answered.2

/-- A database has the triples of the records in memory, and all of them are storable. -/
def Mirrors (memory : Memory) (dataset : Dataset) : Prop :=
  ∃ contents,
    Represents .stored memory.contents contents ∧ Holds contents dataset ∧
      memory.contents.Carries IsStorable

theorem mirrors_empty : Mirrors .empty ⟨∅, none⟩ := by
  refine ⟨⟨fun _ => none, fun _ _ => none⟩, ⟨fun _ => rfl, fun _ _ => rfl⟩, ⟨.empty, rfl⟩, ?_⟩
  exact
    { instances := fun recorded => nomatch recorded
      bindings := fun recorded => nomatch recorded }

namespace Mirrors

variable {respond : Request → σ → Option Response × σ} {view : σ → Dataset} {graph : Graph}
variable {memory : Memory} {state : σ}

/-- A call is answered alike, and the database still mirrors the records. -/
theorem answer
    (mirrors : Mirrors memory (view state))
    (kept : graph.KeptBy respond view)
    (online : graph.IsOnline)
    {call : Call}
    (permitted : graph.Permits call) :
    call.AgreesIffPlain ((graph.answer call).run (P := wire) respond state).1
        (memory.answer call).1 ∧
      Mirrors (memory.answer call).2 (view ((graph.answer call).run (P := wire) respond state).2) := by
  obtain ⟨contents, represents, holds, carries⟩ := mirrors
  obtain ⟨outcome, after, next, answered, serves, holdsNext⟩ :=
    Graph.serves_answer kept online.begin online.update holds permitted.safe permitted.sendable
  have exact := Memory.serves_answer call memory
  obtain ⟨agrees, reread, representsNext⟩ := serves.agrees represents exact
  obtain ⟨carriesNext, carried⟩ := exact.carries carries permitted.storable
  rw [answered]
  refine ⟨⟨?_, ?_⟩, next, representsNext, holdsNext, carriesNext⟩
  · intro alike
    exact plain_of_reread carried (reread alike)
  · intro plain
    exact agrees (readable_of_plain carried plain)

/-- While a database mirrors the records, the store in the graph keeps up with the one in memory. -/
theorem keepsUp
    (mirrors : Mirrors memory (view state))
    (kept : graph.KeptBy respond view)
    (online : graph.IsOnline)
    (script : List Call)
    (permitted : ∀ call ∈ script, graph.Permits call) :
    graph.KeepsUp respond Call.AgreesIffPlain script memory state := by
  induction script generalizing memory state with
  | nil =>
      trivial
  | cons call rest inductionHypothesis =>
      obtain ⟨here, later⟩ := List.forall_mem_cons.mp permitted
      obtain ⟨agrees, next⟩ := mirrors.answer kept online here
      exact ⟨agrees, inductionHypothesis next later⟩

end Mirrors

/-! ## A store on a server in memory -/

theorem online_sample : Graph.sample.IsOnline where
  begin := Graph.reaches_sample (by simp [Graph.sampleNames])
  update := Graph.reaches_sample (by simp [Graph.sampleNames])

theorem dataset_empty : TripleServer.dataset ⟨[], none⟩ = ⟨∅, none⟩ := by
  simp [TripleServer.dataset]

theorem permits_sample
    {script : List Call}
    (safe : ∀ call ∈ script, call.Safe)
    (storable : ∀ call ∈ script, ∀ payload ∈ call.payload?, payload.IsStorable)
    (short : ∀ call ∈ script, call.idSize ≤ 10000) :
    ∀ call ∈ script, Graph.sample.Permits call := by
  have size : (Graph.sampleUrl ["query"]).withoutLogin.render.utf8ByteSize ≤ 100 := by
    decide +kernel
  have limit : Session.urlLimit = 65534 := rfl
  intro call member
  have shortCall := short call member
  exact Graph.permits_of_short (Graph.target_sample (by simp [Graph.sampleNames])) rfl
    (by decide +kernel) (safe call member) (storable call member) (by omega)

/-- An instance goes with its binding and comes again, and another keeps its own. -/
def sampleScript : List Call :=
  [.addInstance "i1" (instanceOf embeddingPayload),
    .addBinding "i1" "b" ⟨"b", .text "bob"⟩,
    .addInstance "i-2" (instanceOf (.text "alpha")),
    .addBinding "i-2" "b" ⟨"b", .text "eve"⟩,
    .deleteInstance "i1",
    .addInstance "i1" (instanceOf (.text "beta")),
    .getBinding "i1" "b",
    .getAllBindings "i-2",
    .deleteBinding "i-2" "b",
    .getInstance "i1"]

theorem permits_sampleScript : ∀ call ∈ sampleScript, Graph.sample.Permits call := by
  have storable : ∀ call ∈ sampleScript, ∀ payload ∈ call.payload?, payload.IsStorable := by
    simp [sampleScript, Call.payload?, instanceOf, storable_embeddingPayload, storable_text]
  exact permits_sample (by decide) storable (by decide)

/--
From an empty database on, a store in a graph can stand in for a store in memory and the
other way round, except where a payload is asked for that has an object that stands for
a JSON text: there the two never agree.
-/
theorem keepsUp_from_empty
    {respond : Request → σ → Option Response × σ}
    {view : σ → Dataset}
    {graph : Graph}
    (kept : graph.KeptBy respond view)
    (online : graph.IsOnline)
    {state : σ}
    (fresh : view state = ⟨∅, none⟩)
    (script : List Call)
    (permitted : ∀ call ∈ script, graph.Permits call) :
    graph.KeepsUp respond Call.AgreesIffPlain script .empty state := by
  have mirrors : Mirrors .empty (view state) := fresh ▸ mirrors_empty
  exact mirrors.keepsUp kept online script permitted

theorem keepsUp_sampleScript :
    Graph.sample.KeptBy TripleServer.respond TripleServer.dataset ∧ Graph.sample.IsOnline ∧
      TripleServer.dataset ⟨[], none⟩ = ⟨∅, none⟩ ∧
      (∀ call ∈ sampleScript, Graph.sample.Permits call) ∧
      Graph.sample.KeepsUp TripleServer.respond Call.AgreesIffPlain sampleScript .empty ⟨[], none⟩ :=
  ⟨TripleServer.keeps, online_sample, dataset_empty, permits_sampleScript,
    keepsUp_from_empty TripleServer.keeps online_sample dataset_empty sampleScript
      permits_sampleScript⟩

/-! ## The exception -/

/-- An instance with an embedding payload is kept and looked up. -/
def embeddingCalls : List Call :=
  [.addInstance "i1" (instanceOf embeddingPayload), .getInstance "i1"]

theorem permits_embeddingCalls : ∀ call ∈ embeddingCalls, Graph.sample.Permits call := by
  have storable : ∀ call ∈ embeddingCalls, ∀ payload ∈ call.payload?, payload.IsStorable := by
    simp [embeddingCalls, Call.payload?, instanceOf, storable_embeddingPayload]
  exact permits_sample (by decide) storable (by decide)

theorem not_plain_embeddingPayload : ¬ embeddingPayload.Throughout IsPlain := by
  rintro ⟨here, _⟩
  exact here rfl

/-- Where the payload that is read is not plain, the store does not keep up. -/
theorem not_keepsUp_embeddingCalls :
    Graph.sample.KeptBy TripleServer.respond TripleServer.dataset ∧ Graph.sample.IsOnline ∧
      TripleServer.dataset ⟨[], none⟩ = ⟨∅, none⟩ ∧
      (∀ call ∈ embeddingCalls, Graph.sample.Permits call) ∧
      ¬ Graph.sample.KeepsUp TripleServer.respond Call.Agrees embeddingCalls .empty ⟨[], none⟩ := by
  refine ⟨TripleServer.keeps, online_sample, dataset_empty, permits_embeddingCalls, ?_⟩
  rintro ⟨_, agrees, _⟩
  have mirrors : Mirrors .empty (TripleServer.dataset ⟨[], none⟩) := dataset_empty ▸ mirrors_empty
  obtain ⟨_, agreesIffPlain, _⟩ :=
    mirrors.keepsUp TripleServer.keeps online_sample embeddingCalls permits_embeddingCalls
  refine not_plain_embeddingPayload (agreesIffPlain.mp agrees embeddingPayload ?_)
  rw [Memory.answer_added]
  exact List.mem_singleton_self _

end GraphBroker.Store
