import GraphBroker.Proofs.Rdf.Pattern
import Mathlib.Data.List.Dedup
import Mathlib.Data.List.Nodup
import Mathlib.Logic.Function.Basic

namespace GraphBroker.Rdf

/-!
# Matching

In a graph that is given by a list of triples, patterns are solved by matching one after
the other with each of the triples.  Variables get their terms on the way, and a term
once given stays.  This finds every solution, and each of them once.
-/

/-- An assignment gives at least the terms of another. -/
def Extends (later earlier : Assignment) : Prop :=
  ∀ name term, earlier name = some term → later name = some term

/-- What extends an assignment with one more name extends it and agrees at the name. -/
theorem Extends.update_iff
    {final assignment : Assignment}
    {name : String}
    {term : Term}
    (fresh : assignment name = none) :
    Extends final (Function.update assignment name (some term)) ↔
      Extends final assignment ∧ final name = some term := by
  constructor
  · intro extend
    refine ⟨?_, extend name term (Function.update_self ..)⟩
    intro other given present
    have different : other ≠ name := by
      rintro rfl
      rw [fresh] at present
      cases present
    exact extend other given (by rw [Function.update_of_ne different, present])
  · rintro ⟨extend, here⟩ other given present
    by_cases same : other = name
    · subst same
      rw [Function.update_self] at present
      exact here.trans present
    · rw [Function.update_of_ne same] at present
      exact extend other given present

/-! ## One pattern and one triple -/

/-- The assignment after a term is put into a slot, if it can be there. -/
def Slot.match? (slot : Slot) (term : Term) (assignment : Assignment) : Option Assignment :=
  match slot with
  | .given own => if own = term then some assignment else none
  | .var name =>
      match assignment name with
      | some own => if own = term then some assignment else none
      | none => some (Function.update assignment name (some term))

/-- What a match leads to is what gives the slot its term. -/
theorem Slot.match?_iff
    {slot : Slot}
    {term : Term}
    {assignment final : Assignment} :
    (∃ next, slot.match? term assignment = some next ∧ Extends final next) ↔
      Extends final assignment ∧ slot.under final = some term := by
  cases slot with
  | given own =>
      by_cases same : own = term <;> simp [match?, under, same]
  | var name =>
      cases present : assignment name with
      | none =>
          simp [match?, under, present, Extends.update_iff present]
      | some own =>
          have kept (extend : Extends final assignment) : final name = some own :=
            extend name own present
          by_cases same : own = term
          · subst same
            simpa [match?, under, present] using kept
          · have different (extend : Extends final assignment) : final name ≠ some term := by
              rw [kept extend]
              simpa using same
            simpa [match?, under, present, same] using different

theorem Slot.isSome_of_match?
    {slot : Slot}
    {term : Term}
    {assignment next : Assignment}
    (matched : slot.match? term assignment = some next)
    (name : String) :
    (next name).isSome ↔ (assignment name).isSome ∨ slot = .var name := by
  cases slot with
  | given own =>
      simp only [match?] at matched
      split at matched <;> cases matched
      simp
  | var own =>
      simp only [match?] at matched
      cases present : assignment own with
      | none =>
          rw [present] at matched
          cases matched
          rw [Slot.var.injEq]
          by_cases same : name = own
          · subst same
            simp
          · simp [Function.update_of_ne same, Ne.symm same]
      | some term =>
          rw [present] at matched
          simp only at matched
          split at matched <;> cases matched
          constructor
          · exact Or.inl
          · rintro (given | same)
            · exact given
            · cases same
              simp [present]

/-- The assignment after a pattern is matched with a triple. -/
def Pattern.match? (pattern : Pattern) (triple : Triple) (assignment : Assignment) :
    Option Assignment := do
  let assignment ← pattern.subject.match? triple.subject assignment
  let assignment ← pattern.predicate.match? triple.predicate assignment
  pattern.object.match? triple.object assignment

/-- What a match leads to is what makes the pattern the triple. -/
theorem Pattern.match?_iff
    {pattern : Pattern}
    {triple : Triple}
    {assignment final : Assignment} :
    (∃ next, pattern.match? triple assignment = some next ∧ Extends final next) ↔
      Extends final assignment ∧ pattern.Becomes final triple := by
  constructor
  · rintro ⟨next, matched, extend⟩
    simp only [match?, Option.bind_eq_bind, Option.bind_eq_some_iff] at matched
    obtain ⟨first, subject, second, predicate, object⟩ := matched
    obtain ⟨extendSecond, objectIs⟩ := Slot.match?_iff.mp ⟨next, object, extend⟩
    obtain ⟨extendFirst, predicateIs⟩ := Slot.match?_iff.mp ⟨second, predicate, extendSecond⟩
    obtain ⟨extendStart, subjectIs⟩ := Slot.match?_iff.mp ⟨first, subject, extendFirst⟩
    exact ⟨extendStart, subjectIs, predicateIs, objectIs⟩
  · rintro ⟨extend, subjectIs, predicateIs, objectIs⟩
    obtain ⟨first, subject, extendFirst⟩ := Slot.match?_iff.mpr ⟨extend, subjectIs⟩
    obtain ⟨second, predicate, extendSecond⟩ := Slot.match?_iff.mpr ⟨extendFirst, predicateIs⟩
    obtain ⟨next, object, extendNext⟩ := Slot.match?_iff.mpr ⟨extendSecond, objectIs⟩
    exact ⟨next, by simp [match?, subject, predicate, object], extendNext⟩

theorem Pattern.isSome_of_match?
    {pattern : Pattern}
    {triple : Triple}
    {assignment next : Assignment}
    (matched : pattern.match? triple assignment = some next)
    (name : String) :
    (next name).isSome ↔ (assignment name).isSome ∨ pattern.Mentions name := by
  simp only [match?, Option.bind_eq_bind, Option.bind_eq_some_iff] at matched
  obtain ⟨first, subject, second, predicate, object⟩ := matched
  rw [Slot.isSome_of_match? object, Slot.isSome_of_match? predicate,
    Slot.isSome_of_match? subject, or_assoc, or_assoc]
  rfl

/-! ## All patterns -/

/-- The solutions of patterns that give at least the terms of an assignment. -/
def solutionsFrom (triples : List Triple) (assignment : Assignment) :
    List Pattern → List Assignment
  | [] => [assignment]
  | pattern :: rest =>
      triples.flatMap fun triple =>
        match pattern.match? triple assignment with
        | some next => solutionsFrom triples next rest
        | none => []

theorem mem_solutionsFrom_cons_iff
    {triples : List Triple}
    {pattern : Pattern}
    {rest : List Pattern}
    {assignment final : Assignment} :
    final ∈ solutionsFrom triples assignment (pattern :: rest) ↔
      ∃ triple ∈ triples, ∃ next,
        pattern.match? triple assignment = some next ∧ final ∈ solutionsFrom triples next rest := by
  simp only [solutionsFrom, List.mem_flatMap]
  refine exists_congr fun triple => and_congr_right fun _ => ?_
  cases pattern.match? triple assignment <;> simp

/-- The solutions from an assignment are its extensions that make every pattern a triple. -/
theorem mem_solutionsFrom_iff
    {triples : List Triple}
    {patterns : List Pattern}
    {assignment final : Assignment} :
    final ∈ solutionsFrom triples assignment patterns ↔
      Extends final assignment ∧
        (∀ name,
          (final name).isSome ↔
            (assignment name).isSome ∨ ∃ pattern ∈ patterns, pattern.Mentions name) ∧
        ∀ pattern ∈ patterns, ∃ triple ∈ triples, pattern.Becomes final triple := by
  induction patterns generalizing assignment with
  | nil =>
      rw [solutionsFrom, List.mem_singleton]
      constructor
      · rintro rfl
        exact ⟨fun _ _ present => present, by simp, by simp⟩
      · rintro ⟨extend, assigned, _⟩
        funext name
        cases present : assignment name with
        | none => simpa [present] using assigned name
        | some term => exact extend name term present
  | cons pattern rest inductionHypothesis =>
      rw [mem_solutionsFrom_cons_iff]
      constructor
      · rintro ⟨triple, member, next, matched, solution⟩
        obtain ⟨extend, assigned, holds⟩ := inductionHypothesis.mp solution
        obtain ⟨extendHere, becomes⟩ := Pattern.match?_iff.mp ⟨next, matched, extend⟩
        refine ⟨extendHere, ?_, List.forall_mem_cons.mpr ⟨⟨triple, member, becomes⟩, holds⟩⟩
        intro name
        rw [assigned, Pattern.isSome_of_match? matched, List.exists_mem_cons_iff, or_assoc]
      · rintro ⟨extend, assigned, holds⟩
        obtain ⟨⟨triple, member, becomes⟩, later⟩ := List.forall_mem_cons.mp holds
        obtain ⟨next, matched, extendNext⟩ := Pattern.match?_iff.mpr ⟨extend, becomes⟩
        refine ⟨triple, member, next, matched, inductionHypothesis.mpr ⟨extendNext, ?_, later⟩⟩
        intro name
        rw [assigned, Pattern.isSome_of_match? matched, List.exists_mem_cons_iff, or_assoc]

/-- A pattern is one triple at most under an assignment. -/
theorem Pattern.Becomes.unique
    {pattern : Pattern}
    {assignment : Assignment}
    {first second : Triple}
    (one : pattern.Becomes assignment first)
    (other : pattern.Becomes assignment second) :
    first = second := by
  obtain ⟨_, _, _⟩ := first
  obtain ⟨_, _, _⟩ := second
  obtain rfl := Option.some.inj (one.subject.symm.trans other.subject)
  obtain rfl := Option.some.inj (one.predicate.symm.trans other.predicate)
  obtain rfl := Option.some.inj (one.object.symm.trans other.object)
  rfl

theorem nodup_solutionsFrom
    {triples : List Triple}
    (distinct : triples.Nodup)
    (patterns : List Pattern)
    (assignment : Assignment) :
    (solutionsFrom triples assignment patterns).Nodup := by
  induction patterns generalizing assignment with
  | nil =>
      exact List.nodup_singleton assignment
  | cons pattern rest inductionHypothesis =>
      rw [solutionsFrom, List.nodup_flatMap]
      constructor
      · intro triple _
        cases pattern.match? triple assignment with
        | none => exact List.nodup_nil
        | some next => exact inductionHypothesis next
      · -- What two triples lead to makes the pattern one or the other.
        have becomes {triple : Triple} {final : Assignment}
            (member :
              final ∈ match pattern.match? triple assignment with
                | some next => solutionsFrom triples next rest
                | none => []) :
            pattern.Becomes final triple := by
          cases matched : pattern.match? triple assignment with
          | none =>
              rw [matched] at member
              cases member
          | some next =>
              rw [matched] at member
              exact (Pattern.match?_iff.mp ⟨next, matched, (mem_solutionsFrom_iff.mp member).1⟩).2
        refine distinct.imp fun different => ?_
        intro final inFirst inSecond
        exact different ((becomes inFirst).unique (becomes inSecond))

/-- The solutions of patterns in a graph, each of them once. -/
def solutions (triples : List Triple) (patterns : List Pattern) : List Assignment :=
  solutionsFrom triples.dedup (fun _ => none) patterns

/-- The solutions that are computed are those of the set of triples. -/
theorem mem_solutions_iff
    {triples : List Triple}
    {patterns : List Pattern}
    {assignment : Assignment} :
    assignment ∈ solutions triples patterns ↔
      Solves {triple | triple ∈ triples} patterns assignment := by
  rw [solutions, mem_solutionsFrom_iff]
  constructor
  · rintro ⟨_, assigned, holds⟩
    exact ⟨by simpa using assigned, by simpa [List.mem_dedup] using holds⟩
  · rintro ⟨assigned, holds⟩
    exact ⟨by simp [Extends], by simpa using assigned, by simpa [List.mem_dedup] using holds⟩

/-- The values of a variable in these solutions are what a query finds. -/
theorem finds_solutions
    (triples : List Triple)
    (patterns : List Pattern)
    (wanted : String) :
    Finds {triple | triple ∈ triples} patterns wanted
      ((solutions triples patterns).map fun assignment => assignment wanted) :=
  ⟨solutions triples patterns, nodup_solutionsFrom (List.nodup_dedup triples) patterns _,
    fun _ => mem_solutions_iff, rfl⟩

/-! ## Deletions -/

instance
    (pattern : Pattern)
    (assignment : Assignment)
    (triple : Triple) :
    Decidable (pattern.Becomes assignment triple) :=
  decidable_of_iff
    (pattern.subject.under assignment = some triple.subject ∧
      pattern.predicate.under assignment = some triple.predicate ∧
        pattern.object.under assignment = some triple.object)
    ⟨fun ⟨subject, predicate, object⟩ => ⟨subject, predicate, object⟩,
      fun becomes => ⟨becomes.subject, becomes.predicate, becomes.object⟩⟩

/-- The triples that are left by a deletion. -/
def deleted (triples : List Triple) (patterns : List Pattern) : List Triple :=
  triples.filter fun triple =>
    ¬ ∃ assignment ∈ solutions triples patterns,
      ∃ pattern ∈ patterns, pattern.Becomes assignment triple

/-- Deleting from a list of triples is deleting from their set. -/
theorem setOf_deleted
    (triples : List Triple)
    (patterns : List Pattern) :
    {triple | triple ∈ deleted triples patterns} =
      without {triple | triple ∈ triples} patterns := by
  ext triple
  simp only [deleted, without, Set.mem_ofPred_eq, List.mem_filter, decide_eq_true_eq,
    mem_solutions_iff]

end GraphBroker.Rdf
