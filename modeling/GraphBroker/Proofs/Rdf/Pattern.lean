import Mathlib.Data.List.Nodup
import Mathlib.Data.Set.Basic

namespace GraphBroker.Rdf

/-!
# Triples and patterns

A graph is a set of triples.  Patterns are triples with variables in some of their
slots.  They are solved by giving a term to each of their variables, and to no other,
so that all of them become triples of the graph.  A query finds one value for each
solution, and a deletion takes away what the patterns become under any of them.
-/

/-- What a triple is made of. -/
inductive Term where
  /-- A resource, by its full name. -/
  | resource (name : String)
  /-- A text, and the full name of its type. -/
  | literal (value : String) (type : String)
  deriving Repr, DecidableEq

structure Triple where
  subject : Term
  predicate : Term
  object : Term
  deriving Repr, DecidableEq

/-- What stands in one slot of a pattern. -/
inductive Slot where
  | given (term : Term)
  | var (name : String)
  deriving Repr, DecidableEq

structure Pattern where
  subject : Slot
  predicate : Slot
  object : Slot
  deriving Repr, DecidableEq

/-- Terms for some variables. -/
abbrev Assignment : Type := String → Option Term

namespace Slot

/-- The term of a slot under an assignment. -/
def under (assignment : Assignment) : Slot → Option Term
  | .given term => some term
  | .var name => assignment name

/-- The term of a slot without a variable. -/
def term? : Slot → Option Term
  | .given term => some term
  | .var _ => none

end Slot

namespace Pattern

/-- A variable stands in one of the slots. -/
def Mentions (pattern : Pattern) (name : String) : Prop :=
  pattern.subject = .var name ∨ pattern.predicate = .var name ∨ pattern.object = .var name

/-- What the pattern is under an assignment. -/
structure Becomes (pattern : Pattern) (assignment : Assignment) (triple : Triple) : Prop where
  subject : pattern.subject.under assignment = some triple.subject
  predicate : pattern.predicate.under assignment = some triple.predicate
  object : pattern.object.under assignment = some triple.object

/-- The triple that a pattern without variables is. -/
def triple? (pattern : Pattern) : Option Triple := do
  let subject ← pattern.subject.term?
  let predicate ← pattern.predicate.term?
  let object ← pattern.object.term?
  some ⟨subject, predicate, object⟩

end Pattern

/-- An assignment solves some patterns. -/
structure Solves
    (graph : Set Triple)
    (patterns : List Pattern)
    (assignment : Assignment) :
    Prop where
  /-- Their variables have terms, and no other variable has one. -/
  assigns : ∀ name, (assignment name).isSome ↔ ∃ pattern ∈ patterns, pattern.Mentions name
  holds : ∀ pattern ∈ patterns, ∃ triple ∈ graph, pattern.Becomes assignment triple

/-- The values of a variable in all solutions, each solution counted once, in any order. -/
def Finds
    (graph : Set Triple)
    (patterns : List Pattern)
    (wanted : String)
    (found : List (Option Term)) :
    Prop :=
  ∃ solutions : List Assignment,
    solutions.Nodup ∧
      (∀ assignment, assignment ∈ solutions ↔ Solves graph patterns assignment) ∧
        found = solutions.map fun assignment => assignment wanted

/-- A graph without what some patterns become in it. -/
def without (graph : Set Triple) (patterns : List Pattern) : Set Triple :=
  {triple | triple ∈ graph ∧
    ¬ ∃ assignment, Solves graph patterns assignment ∧
      ∃ pattern ∈ patterns, pattern.Becomes assignment triple}

/-- A variable of the patterns has a term in every solution. -/
theorem Finds.bound
    {graph : Set Triple}
    {patterns : List Pattern}
    {wanted : String}
    {found : List (Option Term)}
    (finds : Finds graph patterns wanted found)
    (mentioned : ∃ pattern ∈ patterns, pattern.Mentions wanted) :
    ∃ terms : List Term, found = terms.map some := by
  obtain ⟨solutions, distinct, complete, rfl⟩ := finds
  have assigned : ∀ assignment ∈ solutions, (assignment wanted).isSome := by
    intro assignment member
    exact (((complete assignment).mp member).assigns wanted).mpr mentioned
  clear complete distinct
  induction solutions with
  | nil =>
      exact ⟨[], rfl⟩
  | cons assignment rest inductionHypothesis =>
      obtain ⟨term, here⟩ := Option.isSome_iff_exists.mp (assigned assignment List.mem_cons_self)
      obtain ⟨terms, later⟩ := inductionHypothesis fun other member =>
        assigned other (List.mem_cons_of_mem _ member)
      exact ⟨term :: terms, by rw [List.map_cons, here, later, List.map_cons]⟩

/-- What is found where there is at most one solution. -/
theorem Finds.of_unique
    {graph : Set Triple}
    {patterns : List Pattern}
    {wanted : String}
    {found : List (Option Term)}
    (finds : Finds graph patterns wanted found)
    {only : Option Assignment}
    (unique : ∀ assignment, Solves graph patterns assignment ↔ only = some assignment) :
    found = only.toList.map fun assignment => assignment wanted := by
  obtain ⟨solutions, distinct, complete, rfl⟩ := finds
  have distinctOnly : only.toList.Nodup := by
    cases only <;> simp
  have same : solutions.Perm only.toList := by
    rw [List.perm_ext_iff_of_nodup distinct distinctOnly]
    intro assignment
    rw [complete, unique, Option.mem_toList]
  cases only with
  | none => rw [List.perm_nil.mp same, Option.toList_none]
  | some assignment => rw [List.perm_singleton.mp same, Option.toList_some]

end GraphBroker.Rdf
