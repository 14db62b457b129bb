import GraphBroker.Proofs.Store.Contents
import GraphBroker.Proofs.Store.Subjects
import Mathlib.Data.Set.List

namespace GraphBroker.Store

open Rdf

/-!
# Contents in a graph

A graph encodes what a store holds: it has the triples of every entry that is held,
and no others.  A query for an entry then finds its stored text, and additions and
deletions of triples are additions and deletions of entries.
-/

/-- The stored text of an entry. -/
def Contents.data? (contents : Contents String String) : Entry → Option String
  | .ofInstance id => contents.instance? id
  | .ofBinding id bindingId => contents.binding? id bindingId

/-- A graph has the triples of what is held. -/
structure Encodes (contents : Contents String String) (graph : Set Triple) : Prop where
  safe : ∀ {entry data}, contents.data? entry = some data → entry.Safe
  mem_iff :
    ∀ {triple},
      triple ∈ graph ↔ ∃ entry data, contents.data? entry = some data ∧ triple ∈ entry.triples data

namespace Entry

variable {entry : Entry} {data : String} {object : Term}

/-- The word that tells instances from bindings. -/
def kind : Entry → Term
  | .ofInstance _ => vocabulary "instance"
  | .ofBinding _ _ => vocabulary "binding"

theorem mem_triples_datais :
    ⟨entry.subject, vocabulary "datais", object⟩ ∈ entry.triples data ↔ object = stored data := by
  cases entry <;> simp [triples, vocabulary_inj]

theorem mem_triples_isa :
    ⟨entry.subject, vocabulary "isa", object⟩ ∈ entry.triples data ↔ object = entry.kind := by
  cases entry <;> simp [triples, vocabulary_inj, kind]

theorem mem_triples_boundto :
    ⟨entry.subject, vocabulary "boundto", object⟩ ∈ entry.triples data ↔
      ∃ id bindingId, entry = .ofBinding id bindingId ∧ object = (ofInstance id).subject := by
  cases entry <;> simp [triples, vocabulary_inj]

/-- The patterns of an entry ask for its text alone. -/
theorem mentions_patterns
    {name : String} :
    (∃ pattern ∈ entry.patterns, pattern.Mentions name) ↔ name = "data" := by
  cases entry <;> simp [patterns, Pattern.Mentions, eq_comm]

end Entry

namespace Encodes

variable {contents : Contents String String} {graph : Set Triple} {entry : Entry}

/-- The triples of a subject are those of its entry. -/
theorem mem_subject_iff
    (encodes : Encodes contents graph)
    (safe : entry.Safe)
    {predicate object : Term} :
    ⟨entry.subject, predicate, object⟩ ∈ graph ↔
      ∃ data, contents.data? entry = some data ∧
        ⟨entry.subject, predicate, object⟩ ∈ entry.triples data := by
  rw [encodes.mem_iff]
  constructor
  · rintro ⟨other, data, held, member⟩
    have same : entry = other :=
      (Entry.subject_inj safe).mp (Entry.subject_of_mem_triples member)
    subst same
    exact ⟨data, held, member⟩
  · rintro ⟨data, held, member⟩
    exact ⟨entry, data, held, member⟩

/-! ## Queries -/

/-- The variable for stored texts has a stored text, and no other variable has a term. -/
def foundData (data : String) : Assignment :=
  fun name => if name = "data" then some (stored data) else none

/-- The stored text of an entry is the only solution of its query. -/
theorem solves_patterns_iff
    (encodes : Encodes contents graph)
    (safe : entry.Safe)
    (assignment : Assignment) :
    Solves graph entry.patterns assignment ↔
      (contents.data? entry).map foundData = some assignment := by
  constructor
  · intro solves
    have asked : ⟨.given entry.subject, .given (vocabulary "datais"), .var "data"⟩ ∈ entry.patterns := by
      cases entry <;> simp [Entry.patterns]
    obtain ⟨⟨_, _, object⟩, member, becomes⟩ := solves.holds _ asked
    obtain rfl : entry.subject = _ := Option.some.inj becomes.subject
    obtain rfl : vocabulary "datais" = _ := Option.some.inj becomes.predicate
    obtain ⟨data, held, among⟩ := (encodes.mem_subject_iff safe).mp member
    obtain rfl := Entry.mem_triples_datais.mp among
    have here : assignment "data" = some (stored data) := becomes.object
    rw [held, Option.map_some, Option.some.injEq]
    funext name
    by_cases isData : name = "data"
    · rw [foundData, if_pos isData, isData, here]
    · have unassigned := (solves.assigns name).not.mpr (Entry.mentions_patterns.not.mpr isData)
      rw [foundData, if_neg isData]
      exact (Option.not_isSome_iff_eq_none.mp unassigned).symm
  · intro same
    obtain ⟨data, held, rfl⟩ := Option.map_eq_some_iff.mp same
    have has {predicate object : Term} (member : ⟨entry.subject, predicate, object⟩ ∈ entry.triples data) :
        ⟨entry.subject, predicate, object⟩ ∈ graph :=
      (encodes.mem_subject_iff safe).mpr ⟨data, held, member⟩
    constructor
    · intro name
      rw [Entry.mentions_patterns, foundData]
      split <;> simp [*]
    · have text := has (Entry.mem_triples_datais.mpr rfl)
      have kind := has (Entry.mem_triples_isa.mpr rfl)
      cases entry with
      | ofInstance id =>
          simp only [Entry.patterns, List.forall_mem_cons]
          exact ⟨⟨_, kind, rfl, rfl, rfl⟩, ⟨_, text, rfl, rfl, rfl⟩, by simp⟩
      | ofBinding id bindingId =>
          have parent := has (Entry.mem_triples_boundto.mpr ⟨id, bindingId, rfl, rfl⟩)
          simp only [Entry.patterns, List.forall_mem_cons]
          exact ⟨⟨_, kind, rfl, rfl, rfl⟩, ⟨_, parent, rfl, rfl, rfl⟩, ⟨_, text, rfl, rfl, rfl⟩, by simp⟩

/-- A query for an entry finds its stored text, if it is held. -/
theorem found_of_finds
    (encodes : Encodes contents graph)
    (safe : entry.Safe)
    {found : List (Option Term)}
    (finds : Finds graph entry.patterns "data" found) :
    found = (contents.data? entry).toList.map fun data => some (stored data) := by
  rw [finds.of_unique (encodes.solves_patterns_iff safe)]
  cases contents.data? entry <;> rfl

/-- A subject is bound to an instance if it is that of a binding held beneath it. -/
theorem boundto_iff
    (encodes : Encodes contents graph)
    {id : String}
    (safe : (Entry.ofInstance id).Safe)
    {subject : Term} :
    ⟨subject, vocabulary "boundto", (Entry.ofInstance id).subject⟩ ∈ graph ↔
      ∃ bindingId data, contents.binding? id bindingId = some data ∧
        subject = (Entry.ofBinding id bindingId).subject := by
  rw [encodes.mem_iff]
  constructor
  · rintro ⟨entry, data, held, member⟩
    obtain rfl : subject = entry.subject := Entry.subject_of_mem_triples member
    obtain ⟨other, bindingId, rfl, same⟩ := Entry.mem_triples_boundto.mp member
    obtain rfl := Entry.ofInstance.inj ((Entry.subject_inj safe).mp same)
    exact ⟨bindingId, data, held, rfl⟩
  · rintro ⟨bindingId, data, held, rfl⟩
    exact ⟨.ofBinding id bindingId, data, held,
      Entry.mem_triples_boundto.mpr ⟨id, bindingId, rfl, rfl⟩⟩

/-- The subject of a binding and its stored text, for the variables that stand for them. -/
def foundBinding (id bindingId data : String) : Assignment :=
  fun name => if name = "binding" then some (Entry.ofBinding id bindingId).subject
    else foundData data name

/-- The patterns for all bindings ask for the bindings and their texts. -/
theorem mentions_bindingsPatterns
    {id name : String} :
    (∃ pattern ∈ bindingsPatterns id, pattern.Mentions name) ↔ name = "binding" ∨ name = "data" := by
  simp [bindingsPatterns, Pattern.Mentions, eq_comm]

/-- The bindings held beneath an instance are the solutions of the query for all of them. -/
theorem solves_bindingsPatterns_iff
    (encodes : Encodes contents graph)
    {id : String}
    (safe : (Entry.ofInstance id).Safe)
    (assignment : Assignment) :
    Solves graph (bindingsPatterns id) assignment ↔
      ∃ bindingId data, contents.binding? id bindingId = some data ∧
        assignment = foundBinding id bindingId data := by
  constructor
  · intro solves
    obtain ⟨⟨subject, _, _⟩, linked, parent⟩ := solves.holds
      ⟨.var "binding", .given (vocabulary "boundto"), .given (Entry.ofInstance id).subject⟩
      (by simp [bindingsPatterns])
    obtain ⟨⟨_, _, object⟩, told, text⟩ := solves.holds
      ⟨.var "binding", .given (vocabulary "datais"), .var "data"⟩ (by simp [bindingsPatterns])
    obtain rfl : vocabulary "boundto" = _ := Option.some.inj parent.predicate
    obtain rfl : (Entry.ofInstance id).subject = _ := Option.some.inj parent.object
    obtain rfl : vocabulary "datais" = _ := Option.some.inj text.predicate
    obtain rfl : subject = _ := Option.some.inj (parent.subject.symm.trans text.subject)
    obtain ⟨bindingId, data, held, rfl⟩ := (encodes.boundto_iff safe).mp linked
    have heldEntry : contents.data? (.ofBinding id bindingId) = some data := held
    obtain ⟨same, heldSame, among⟩ := (encodes.mem_subject_iff (encodes.safe heldEntry)).mp told
    obtain rfl : data = same := Option.some.inj (heldEntry.symm.trans heldSame)
    obtain rfl := Entry.mem_triples_datais.mp among
    have binding : assignment "binding" = some (Entry.ofBinding id bindingId).subject :=
      parent.subject
    have textFound : assignment "data" = some (stored data) := text.object
    refine ⟨bindingId, data, held, ?_⟩
    funext name
    by_cases isBinding : name = "binding"
    · rw [foundBinding, if_pos isBinding, isBinding, binding]
    · by_cases isData : name = "data"
      · rw [foundBinding, if_neg isBinding, foundData, if_pos isData, isData, textFound]
      · have unassigned := (solves.assigns name).not.mpr
          (mentions_bindingsPatterns.not.mpr (by simp [isBinding, isData]))
        rw [foundBinding, if_neg isBinding, foundData, if_neg isData]
        exact Option.not_isSome_iff_eq_none.mp unassigned
  · rintro ⟨bindingId, data, held, rfl⟩
    have heldEntry : contents.data? (.ofBinding id bindingId) = some data := held
    have has {predicate object : Term}
        (member : ⟨(Entry.ofBinding id bindingId).subject, predicate, object⟩ ∈
          (Entry.ofBinding id bindingId).triples data) :
        ⟨(Entry.ofBinding id bindingId).subject, predicate, object⟩ ∈ graph :=
      encodes.mem_iff.mpr ⟨_, data, heldEntry, member⟩
    constructor
    · intro name
      rw [mentions_bindingsPatterns, foundBinding, foundData]
      split <;> [simp [*]; split <;> simp [*]]
    · have kind := has (Entry.mem_triples_isa.mpr rfl)
      have parent := has (Entry.mem_triples_boundto.mpr ⟨id, bindingId, rfl, rfl⟩)
      have text := has (Entry.mem_triples_datais.mpr rfl)
      simp only [bindingsPatterns, List.forall_mem_cons]
      exact ⟨⟨_, kind, rfl, rfl, rfl⟩, ⟨_, parent, rfl, rfl, rfl⟩, ⟨_, text, rfl, rfl, rfl⟩, by simp⟩

/-- The query for all bindings of an instance finds the stored text of each of them once. -/
theorem listed_of_finds
    (encodes : Encodes contents graph)
    {id : String}
    (safe : (Entry.ofInstance id).Safe)
    {found : List (Option Term)}
    (finds : Finds graph (bindingsPatterns id) "data" found) :
    ∃ listed : List (String × String),
      (listed.map Prod.fst).Nodup ∧
        (∀ bindingId data,
          (bindingId, data) ∈ listed ↔ contents.binding? id bindingId = some data) ∧
        found = listed.map fun entry => some (stored entry.2) := by
  obtain ⟨solutions, distinct, complete, rfl⟩ := finds
  have solves := encodes.solves_bindingsPatterns_iff safe
  let solution (held : {entry : String × String // contents.binding? id entry.1 = some entry.2}) :=
    foundBinding id held.1.1 held.1.2
  -- Every solution comes from a binding that is held.
  obtain ⟨bindings, rfl⟩ :
      ∃ bindings : List {entry : String × String // contents.binding? id entry.1 = some entry.2},
        bindings.map solution = solutions := by
    have range : solutions ∈ {list | ∀ assignment ∈ list, assignment ∈ Set.range solution} := by
      intro assignment member
      obtain ⟨bindingId, data, held, rfl⟩ := (solves assignment).mp ((complete assignment).mp member)
      exact ⟨⟨(bindingId, data), held⟩, rfl⟩
    rw [← Set.range_list_map] at range
    exact range
  have keyed : Function.Injective
      fun held : {entry : String × String // contents.binding? id entry.1 = some entry.2} =>
        held.1.1 := by
    rintro ⟨⟨first, data⟩, held⟩ ⟨⟨second, other⟩, heldOther⟩ same
    obtain rfl : first = second := same
    obtain rfl : data = other := Option.some.inj (held.symm.trans heldOther)
    rfl
  refine ⟨bindings.map Subtype.val, ?_, ?_, ?_⟩
  · rw [List.map_map]
    exact (distinct.of_map solution).map keyed
  · intro bindingId data
    rw [List.mem_map]
    constructor
    · rintro ⟨⟨entry, held⟩, _, rfl⟩
      exact held
    · intro held
      have member := (complete _).mpr ((solves _).mpr ⟨bindingId, data, held, rfl⟩)
      obtain ⟨⟨⟨other, otherData⟩, heldOther⟩, inBindings, same⟩ := List.mem_map.mp member
      have heldEntry : contents.data? (.ofBinding id other) = some otherData := heldOther
      have subjects : some (Entry.ofBinding id other).subject =
          some (Entry.ofBinding id bindingId).subject := congrFun same "binding"
      obtain rfl : other = bindingId :=
        (Entry.ofBinding.inj ((Entry.subject_inj (encodes.safe heldEntry)).mp
          (Option.some.inj subjects))).2
      obtain rfl : otherData = data := Option.some.inj (heldOther.symm.trans held)
      exact ⟨_, inBindings, rfl⟩
  · rw [List.map_map, List.map_map]
    rfl

/-! ## Additions and deletions -/

theorem empty : Encodes ⟨fun _ => none, fun _ _ => none⟩ ∅ where
  safe := by
    intro entry data held
    cases entry <;> cases held
  mem_iff := by
    intro triple
    constructor
    · rintro ⟨⟩
    · rintro ⟨entry, data, held, _⟩
      cases entry <;> cases held

/-- With the triples of an entry that was not held, the entry is held. -/
theorem insert
    (encodes : Encodes contents graph)
    (safe : entry.Safe)
    (absent : contents.data? entry = none)
    {data : String}
    {next : Contents String String}
    (held : ∀ other, next.data? other = if other = entry then some data else contents.data? other) :
    Encodes next (graph ∪ {triple | triple ∈ entry.triples data}) where
  safe := by
    intro other text present
    rw [held] at present
    split at present
    · next same => exact same ▸ safe
    · exact encodes.safe present
  mem_iff := by
    intro triple
    rw [Set.mem_union, encodes.mem_iff]
    constructor
    · rintro (⟨other, text, present, member⟩ | member)
      · have different : other ≠ entry := by
          rintro rfl
          rw [absent] at present
          cases present
        exact ⟨other, text, by rw [held, if_neg different, present], member⟩
      · exact ⟨entry, data, by rw [held, if_pos rfl], member⟩
    · rintro ⟨other, text, present, member⟩
      rw [held] at present
      split at present
      · next same =>
          cases present
          subst same
          exact Or.inr member
      · exact Or.inl ⟨other, text, present, member⟩

/-- Without the triples of some subjects, their entries are not held. -/
theorem remove
    (encodes : Encodes contents graph)
    (gone : Entry → Prop)
    [DecidablePred gone]
    {rest : Set Triple}
    (left :
      ∀ {triple},
        triple ∈ rest ↔
          triple ∈ graph ∧ ∀ entry, entry.Safe → gone entry → triple.subject ≠ entry.subject)
    {next : Contents String String}
    (held : ∀ entry, next.data? entry = if gone entry then none else contents.data? entry) :
    Encodes next rest where
  safe := by
    intro entry data present
    rw [held] at present
    split at present
    · cases present
    · exact encodes.safe present
  mem_iff := by
    intro triple
    rw [left, encodes.mem_iff]
    constructor
    · rintro ⟨⟨entry, data, present, member⟩, kept⟩
      have stays : ¬ gone entry := fun goes =>
        kept entry (encodes.safe present) goes (Entry.subject_of_mem_triples member)
      exact ⟨entry, data, by rw [held, if_neg stays, present], member⟩
    · rintro ⟨entry, data, present, member⟩
      rw [held] at present
      split at present
      · cases present
      · next stays =>
          refine ⟨⟨entry, data, present, member⟩, ?_⟩
          intro other safe goes same
          rw [Entry.subject_of_mem_triples member] at same
          exact stays ((Entry.subject_inj (encodes.safe present)).mp same ▸ goes)

end Encodes

/-- Terms for what stands for a property and its value. -/
def propertyOf (triple : Triple) : Assignment :=
  fun name =>
    if name = "p" then some triple.predicate
    else if name = "o" then some triple.object
    else none

/-- A deletion of everything of a subject leaves the triples of all others. -/
theorem mem_without_everythingOf
    {graph : Set Triple}
    {subject : Term}
    {triple : Triple} :
    triple ∈ without graph [everythingOf (.given subject)] ↔
      triple ∈ graph ∧ triple.subject ≠ subject := by
  refine and_congr_right fun member => not_congr ?_
  constructor
  · rintro ⟨assignment, _, pattern, asked, becomes⟩
    obtain rfl := List.mem_singleton.mp asked
    exact (Option.some.inj becomes.subject).symm
  · rintro rfl
    have becomes : (everythingOf (.given triple.subject)).Becomes (propertyOf triple) triple :=
      ⟨rfl, rfl, rfl⟩
    refine ⟨propertyOf triple, ⟨?_, ?_⟩, _, List.mem_singleton_self _, becomes⟩
    · intro name
      by_cases isPredicate : name = "p" <;> by_cases isObject : name = "o" <;>
        simp [propertyOf, everythingOf, Pattern.Mentions, isPredicate, isObject, eq_comm]
    · simpa using ⟨triple, member, becomes⟩

/-- A deletion of everything of the subjects with a property leaves the triples of all others. -/
theorem mem_without_linked
    {graph : Set Triple}
    {predicate object : Term}
    {triple : Triple} :
    triple ∈ without graph
        [⟨.var "binding", .given predicate, .given object⟩, everythingOf (.var "binding")] ↔
      triple ∈ graph ∧ ⟨triple.subject, predicate, object⟩ ∉ graph := by
  refine and_congr_right fun member => not_congr ?_
  constructor
  · rintro ⟨assignment, solves, pattern, asked, becomes⟩
    obtain ⟨⟨subject, _, _⟩, linked, link⟩ := solves.holds _ List.mem_cons_self
    obtain rfl : predicate = _ := Option.some.inj link.predicate
    obtain rfl : object = _ := Option.some.inj link.object
    have named : assignment "binding" = some subject := link.subject
    have same : assignment "binding" = some triple.subject := by
      simp only [List.mem_cons, List.not_mem_nil, or_false] at asked
      rcases asked with rfl | rfl <;> exact becomes.subject
    exact Option.some.inj (named.symm.trans same) ▸ linked
  · intro linked
    let assignment : Assignment := fun name =>
      if name = "binding" then some triple.subject else propertyOf triple name
    have becomes : (everythingOf (.var "binding")).Becomes assignment triple := ⟨rfl, rfl, rfl⟩
    refine ⟨assignment, ⟨?_, ?_⟩, _, by simp, becomes⟩
    · intro name
      by_cases isBinding : name = "binding" <;> by_cases isPredicate : name = "p" <;>
        by_cases isObject : name = "o" <;>
        simp [assignment, propertyOf, everythingOf, Pattern.Mentions, isBinding, isPredicate,
          isObject, eq_comm]
    · simp only [List.forall_mem_cons]
      exact ⟨⟨_, linked, rfl, rfl, rfl⟩, ⟨triple, member, becomes⟩, by simp⟩

end GraphBroker.Store
