import GraphBroker.Proofs.Rdf.Pattern
import GraphBroker.Proofs.Rdf.Words

namespace GraphBroker.Rdf

/-!
# The languages of graphs

What a Turtle document, a query and an update mean to a server that keeps to the
standards of these languages.  Only a part of each language is read here: words stand
apart, names hold no escapes, and there is one subject between two braces.  What is
read has the meaning that the standard gives it; what is not read has none here.
-/

/-- Short names of namespaces, the newest first. -/
abbrev Namespaces : Type := List (String × String)

/-! ## Words -/

/-- A name of a variable, of a namespace or within one. -/
def isName (chars : List Char) : Bool :=
  !chars.isEmpty && chars.all Char.isAlphanum

/-- A character of a full name that needs no escape. -/
def isFullNameChar (c : Char) : Bool :=
  0x20 < c.toNat
    && !(['<', '>', '"', '\x7b', '\x7d', '|', '^', '\x60', '\\'].contains c)

/-- A character of a text that needs no escape. -/
def isTextChar (c : Char) : Bool :=
  c != '"' && c != '\\' && c != '\r' && c != '\n'

/-- The full name that stands before an angle bracket at the end. -/
def fullName? (chars : List Char) : Option String :=
  let name := chars.dropLast
  if chars.getLast? = some '>' ∧ name.all isFullNameChar ∧ "http://".toList.isPrefixOf name then
    some (String.ofList name)
  else
    none

/-- The resource of a short name: a namespace, a colon and a name within the namespace. -/
def short? (namespaces : Namespaces) (chars : List Char) : Option String :=
  let space := chars.takeWhile (· != ':')
  match chars.drop space.length with
  | ':' :: name =>
      if isName name then
        (namespaces.lookup (String.ofList space)).map fun full => full ++ String.ofList name
      else
        none
  | _ => none

/-- The full name of a resource. -/
def resource? (namespaces : Namespaces) (chars : List Char) : Option String :=
  match chars with
  | '<' :: rest => fullName? rest
  | chars => short? namespaces chars

/-- The text and the type that stand after a quote. -/
def literal? (namespaces : Namespaces) (chars : List Char) : Option Term :=
  let value := chars.takeWhile isTextChar
  match chars.drop value.length with
  | '"' :: '^' :: '^' :: type =>
      (resource? namespaces type).map fun type => .literal (String.ofList value) type
  | _ => none

/-- The variable that a word names. -/
def variableName? (word : String) : Option String :=
  match word.toList with
  | '?' :: name => if isName name then some (String.ofList name) else none
  | _ => none

/-- A word in the place of a subject or a predicate. -/
def named? (namespaces : Namespaces) (word : String) : Option Slot :=
  match variableName? word with
  | some name => some (.var name)
  | none => (resource? namespaces word.toList).map fun name => .given (.resource name)

/-- A word in the place of an object. -/
def object? (namespaces : Namespaces) (word : String) : Option Slot :=
  match word.toList with
  | '"' :: rest => (literal? namespaces rest).map .given
  | _ => named? namespaces word

/-! ## Patterns -/

/-- Predicates and objects of a subject up to a full stop, and the words after it. -/
def pairs? (namespaces : Namespaces) (subject : Slot) :
    List String → Option (List Pattern × List String)
  | predicate :: object :: mark :: rest => do
      let predicate ← named? namespaces predicate
      let object ← object? namespaces object
      if mark = "." then
        some ([⟨subject, predicate, object⟩], rest)
      else if mark = ";" then
        let (others, rest) ← pairs? namespaces subject rest
        some (⟨subject, predicate, object⟩ :: others, rest)
      else
        none
  | _ => none

/-- A subject with its predicates and objects. -/
def patterns? (namespaces : Namespaces) : List String → Option (List Pattern × List String)
  | subject :: rest => do
      let subject ← named? namespaces subject
      pairs? namespaces subject rest
  | [] => none

/-- The short name of a namespace is made known. -/
def declared? (namespaces : Namespaces) (name target : String) : Option Namespaces :=
  let chars := name.toList
  match target.toList with
  | '<' :: rest =>
      if chars.getLast? = some ':' ∧ isName chars.dropLast then
        (fullName? rest).map fun full => (String.ofList chars.dropLast, full) :: namespaces
      else
        none
  | _ => none

/-! ## Texts -/

/-- The namespaces at the beginning of a document. -/
def declarations? (namespaces : Namespaces) : List String → Option (Namespaces × List String)
  | "@prefix" :: name :: target :: "." :: rest => do
      let namespaces ← declared? namespaces name target
      declarations? namespaces rest
  | rest => some (namespaces, rest)

/-- The triples of a document. -/
def document? (text : String) : Option (List Triple) := do
  let (namespaces, rest) ← declarations? [] (words text)
  let (patterns, rest) ← patterns? namespaces rest
  if rest = [] then patterns.mapM Pattern.triple? else none

/-- The namespaces at the beginning of a query or an update. -/
def prologue? (namespaces : Namespaces) : List String → Option (Namespaces × List String)
  | "PREFIX" :: name :: target :: rest => do
      let namespaces ← declared? namespaces name target
      prologue? namespaces rest
  | rest => some (namespaces, rest)

/-- The variable that a query asks for, and its patterns. -/
def query? (text : String) : Option (String × List Pattern) := do
  let (namespaces, rest) ← prologue? [] (words text)
  match rest with
  | "SELECT" :: wanted :: "WHERE" :: "\x7b" :: body => do
      let wanted ← variableName? wanted
      let (patterns, rest) ← patterns? namespaces body
      if rest = ["\x7d"] then some (wanted, patterns) else none
  | _ => none

/-- What is read of a subject leaves fewer words. -/
theorem length_lt_of_pairs?
    {namespaces : Namespaces}
    {subject : Slot}
    {words rest : List String}
    {patterns : List Pattern}
    (found : pairs? namespaces subject words = some (patterns, rest)) :
    rest.length < words.length := by
  fun_induction pairs? namespaces subject words generalizing patterns with
  | case1 predicate object mark after inductionHypothesis =>
      simp only [Option.bind_eq_bind, Option.bind_eq_some_iff] at found
      obtain ⟨_, _, _, _, found⟩ := found
      split at found
      · cases found
        simp only [List.length_cons]
        omega
      · split at found
        · obtain ⟨⟨others, left⟩, later, found⟩ := Option.bind_eq_some_iff.mp found
          cases found
          have shorter : left.length < after.length := inductionHypothesis later
          simp only [List.length_cons]
          omega
        · cases found
  | case2 =>
      cases found

theorem length_lt_of_patterns?
    {namespaces : Namespaces}
    {words rest : List String}
    {patterns : List Pattern}
    (found : patterns? namespaces words = some (patterns, rest)) :
    rest.length < words.length := by
  cases words with
  | nil =>
      cases found
  | cons subject others =>
      obtain ⟨_, _, found⟩ := Option.bind_eq_some_iff.mp found
      have shorter := length_lt_of_pairs? found
      simp only [List.length_cons]
      omega

/-- The patterns of deletions, of which each is done before the next. -/
def deletions? (namespaces : Namespaces) : List String → Option (List (List Pattern))
  | "DELETE" :: "WHERE" :: "\x7b" :: body =>
      match found : patterns? namespaces body with
      | some (patterns, ["\x7d"]) => some [patterns]
      | some (patterns, "\x7d" :: ";" :: rest) =>
          have := length_lt_of_patterns? found
          (deletions? namespaces rest).map fun later => patterns :: later
      | _ => none
  | _ => none
  termination_by words => words.length
  decreasing_by
    simp only [List.length_cons] at this ⊢
    omega

/-- The patterns of the deletions of an update. -/
def update? (text : String) : Option (List (List Pattern)) := do
  let (namespaces, rest) ← prologue? [] (words text)
  deletions? namespaces rest

end GraphBroker.Rdf
