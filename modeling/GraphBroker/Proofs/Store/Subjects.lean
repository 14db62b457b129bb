import GraphBroker.Proofs.Rdf.Rendering
import GraphBroker.Proofs.Text.Base64
import GraphBroker.Store.Graph
import Mathlib.Data.List.Basic

namespace GraphBroker.Store

open Rdf Text

/-!
# Subjects of a graph

Every instance and every binding has a subject of its own.  Identifiers that need no
escape are written as they are and tell the subjects apart, and with them everything
that the store writes can be read.
-/

/-- What has a subject of its own. -/
inductive Entry where
  | ofInstance (id : String)
  | ofBinding (id : String) (bindingId : String)
  deriving DecidableEq

/-- A word of the broker's vocabulary. -/
def vocabulary (name : String) : Term :=
  .resource (graphNamespace ++ name)

/-- A text in a graph. -/
def stored (value : String) : Term :=
  .literal value (textNamespace ++ "string")

namespace Entry

/-- Nothing in the identifiers needs an escape. -/
def Safe : Entry → Prop
  | .ofInstance id => Graph.isSafeKey id = true
  | .ofBinding id bindingId => Graph.isSafeKey id = true ∧ Graph.isSafeKey bindingId = true

instance : DecidablePred Safe
  | .ofInstance id => inferInstanceAs (Decidable (Graph.isSafeKey id = true))
  | .ofBinding id bindingId =>
      inferInstanceAs (Decidable (Graph.isSafeKey id = true ∧ Graph.isSafeKey bindingId = true))

/-- The node of the subject. -/
def node : Entry → Node
  | .ofInstance id => Graph.instanceNode id
  | .ofBinding id bindingId => Graph.bindingNode id bindingId

/-- The name of the subject within the broker's namespace. -/
def path : Entry → String
  | .ofInstance id => "instance/" ++ id
  | .ofBinding id bindingId => "binding/" ++ id ++ "/" ++ bindingId

/-- The subject. -/
def subject (entry : Entry) : Term :=
  vocabulary entry.path

/-- What is written of an entry with its stored text. -/
def block : Entry → String → Block
  | .ofInstance id, data => Graph.instanceBlock id data
  | .ofBinding id bindingId, data => Graph.bindingBlock id bindingId data

/-- The query for the stored text of an entry. -/
def query : Entry → Query
  | .ofInstance id => Graph.instanceQuery id
  | .ofBinding id bindingId => Graph.bindingQuery id bindingId

/-- The triples of an entry with its stored text. -/
def triples : Entry → String → List Triple
  | .ofInstance id, data =>
      let subject := (ofInstance id).subject
      [⟨subject, vocabulary "GUID", stored id⟩,
        ⟨subject, vocabulary "isa", vocabulary "instance"⟩,
        ⟨subject, vocabulary "datais", stored data⟩]
  | .ofBinding id bindingId, data =>
      let subject := (ofBinding id bindingId).subject
      [⟨subject, vocabulary "GUID", stored bindingId⟩,
        ⟨subject, vocabulary "isa", vocabulary "binding"⟩,
        ⟨subject, vocabulary "boundto", (ofInstance id).subject⟩,
        ⟨subject, vocabulary "datais", stored data⟩]

/-- All triples of an entry have its subject. -/
theorem subject_of_mem_triples
    {entry : Entry}
    {data : String}
    {triple : Triple}
    (member : triple ∈ entry.triples data) :
    triple.subject = entry.subject := by
  cases entry with
  | ofInstance id =>
      simp only [triples, List.mem_cons, List.not_mem_nil, or_false] at member
      rcases member with rfl | rfl | rfl <;> rfl
  | ofBinding id bindingId =>
      simp only [triples, List.mem_cons, List.not_mem_nil, or_false] at member
      rcases member with rfl | rfl | rfl | rfl <;> rfl

end Entry

/-! ## Identifiers -/

/-- A safe identifier has only the characters that identifiers may have. -/
theorem isKeyChar_of_safe
    {key : String}
    (safe : Graph.isSafeKey key = true)
    {c : Char}
    (member : c ∈ key.toList) :
    Graph.isKeyChar c = true := by
  simp only [Graph.isSafeKey, Bool.and_eq_true, List.all_eq_true] at safe
  exact safe.2 c member

/-- Letters, digits, hyphens and underscores may stand in an identifier. -/
theorem isKeyChar_iff
    {c : Char} :
    Graph.isKeyChar c = true ↔
      ('A' ≤ c ∧ c ≤ 'Z') ∨ ('a' ≤ c ∧ c ≤ 'z') ∨ ('0' ≤ c ∧ c ≤ '9') ∨ c = '-' ∨ c = '_' := by
  have alphanum :
      c.isAlphanum =
        (decide ('A' ≤ c ∧ c ≤ 'Z') || ('a' ≤ c && c ≤ 'z') || ('0' ≤ c && c ≤ '9')) :=
    rfl
  simp only [Graph.isKeyChar, alphanum, Bool.or_eq_true, Bool.and_eq_true, decide_eq_true_eq,
    beq_iff_eq, or_assoc]

/-- The characters of identifiers are those of one byte. -/
theorem ascii_of_isKeyChar
    {c : Char}
    (plain : Graph.isKeyChar c = true) :
    c.toNat < 128 := by
  have bounded {most : Char} (below : c ≤ most) : c.toNat ≤ most.toNat := below
  rcases isKeyChar_iff.mp plain with ⟨-, upper⟩ | ⟨-, lower⟩ | ⟨-, digit⟩ | rfl | rfl
  · exact (bounded upper).trans_lt (by decide)
  · exact (bounded lower).trans_lt (by decide)
  · exact (bounded digit).trans_lt (by decide)
  · decide
  · decide

/-- What holds of every ASCII character of identifiers holds of all of them. -/
theorem of_isKeyChar
    (property : Char → Bool)
    (ascii :
      ∀ code < 128, Graph.isKeyChar (Char.ofNat code) = true → property (Char.ofNat code) = true)
    {c : Char}
    (plain : Graph.isKeyChar c = true) :
    property c = true := by
  have holds := ascii c.toNat (ascii_of_isKeyChar plain)
  rw [Char.ofNat_toNat] at holds
  exact holds plain

/-- The characters of identifiers may stand in a full name. -/
theorem isFullNameChar_of_isKeyChar
    {c : Char}
    (plain : Graph.isKeyChar c = true) :
    isFullNameChar c = true :=
  of_isKeyChar isFullNameChar (by decide) plain

/-- A safe identifier has no slash, so it is one step of a path. -/
theorem slash_not_mem
    {key : String}
    (safe : Graph.isSafeKey key = true) :
    '/' ∉ key.toList := by
  intro member
  exact absurd (isKeyChar_of_safe safe member) (by decide)

/-- Different words of the vocabulary have different full names. -/
theorem vocabulary_inj
    {first second : String} :
    vocabulary first = vocabulary second ↔ first = second := by
  rw [vocabulary, vocabulary, Term.resource.injEq, String.append_right_inj]

namespace Entry

/-- No two entries have one subject. -/
theorem subject_inj
    {first second : Entry}
    (firstSafe : first.Safe) :
    first.subject = second.subject ↔ first = second := by
  constructor
  · intro same
    have paths := vocabulary_inj.mp same
    cases first with
    | ofInstance id =>
        cases second with
        | ofInstance other =>
            simpa [path, String.append_right_inj] using paths
        | ofBinding other otherBinding =>
            have chars := congrArg (fun text => text.toList.head?) paths
            simp [path] at chars
    | ofBinding id bindingId =>
        cases second with
        | ofInstance other =>
            have chars := congrArg (fun text => text.toList.head?) paths
            simp [path] at chars
        | ofBinding other otherBinding =>
            have parts : id.toList ++ '/' :: bindingId.toList =
                other.toList ++ '/' :: otherBinding.toList := by
              have chars := congrArg String.toList paths
              simpa [path] using chars
            obtain ⟨ids, _, bindingIds⟩ := (List.append_cons_inj_of_notMem
              (slash_not_mem firstSafe.1) (slash_not_mem firstSafe.2)).mp parts
            rw [String.toList_inj.mp ids, String.toList_inj.mp bindingIds]
  · rintro rfl
    rfl

/-! ## Texts -/

variable {namespaces : Namespaces} {entry : Entry} {data : String}

/-- The path of a safe entry has only characters of full names. -/
theorem legible_path
    (safe : entry.Safe) :
    ∀ c ∈ entry.path.toList, isFullNameChar c = true := by
  have key {id : String} (safe : Graph.isSafeKey id = true) :
      ∀ c ∈ id.toList, isFullNameChar c = true :=
    fun c member => isFullNameChar_of_isKeyChar (isKeyChar_of_safe safe member)
  intro c member
  cases entry with
  | ofInstance id =>
      have start : ∀ c ∈ "instance/".toList, isFullNameChar c = true :=
        List.all_eq_true.mp (by decide)
      rw [path, String.toList_append, List.mem_append] at member
      rcases member with inStart | inId
      · exact start c inStart
      · exact key safe c inId
  | ofBinding id bindingId =>
      have start : ∀ c ∈ "binding/".toList, isFullNameChar c = true :=
        List.all_eq_true.mp (by decide)
      have middle : ∀ c ∈ "/".toList, isFullNameChar c = true :=
        List.all_eq_true.mp (by decide)
      simp only [path, String.toList_append, List.mem_append] at member
      rcases member with ((inStart | inId) | inMiddle) | inBindingId
      · exact start c inStart
      · exact key safe.1 c inId
      · exact middle c inMiddle
      · exact key safe.2 c inBindingId

/-- The node of a safe entry is legible and a name. -/
theorem legible_node
    (safe : entry.Safe) :
    entry.node.Legible namespaces ∧ entry.node.IsNamed := by
  have legible := legible_path safe
  cases entry with
  | ofInstance id => exact ⟨legible, trivial⟩
  | ofBinding id bindingId => exact ⟨legible, trivial⟩

end Entry

/-- Nothing in a text needs an escape, and there is no white space in it. -/
def IsPlainText (text : String) : Prop :=
  ∀ c ∈ text.toList, isTextChar c = true ∧ isSpace c = false

/-- A safe identifier is written as it is inside a text. -/
theorem plainText_of_safe
    {key : String}
    (safe : Graph.isSafeKey key = true) :
    IsPlainText key := by
  intro c member
  have plain := isKeyChar_of_safe safe member
  have solid := of_isKeyChar (fun c => !isSpace c) (by decide) plain
  exact ⟨of_isKeyChar isTextChar (by decide) plain, by simpa using solid⟩

/-- The stored form of a record is written as it is inside a text. -/
theorem plainText_storedText
    (codec : Json.Codec α)
    (record : α) :
    IsPlainText (storedText codec record) := by
  have digits : ∀ digit < 64, isTextChar (Base64.digitChar digit) = true ∧
      isSpace (Base64.digitChar digit) = false := by
    decide
  intro c member
  rw [storedText, Base64.encode, String.toList_ofList] at member
  rcases Base64.digit_of_mem_encodeOnto member with rfl | ⟨digit, bound, rfl⟩
  · decide
  · exact digits digit bound

/-! ## What the store writes can be read -/

/-- A short name in the graph's namespace is legible and a name. -/
theorem legible_word
    {namespaces : Namespaces}
    (known : namespaces.lookup "sdcf" = some graphNamespace)
    {name : String}
    (named : isName name.toList = true) :
    (Node.word name).Legible namespaces ∧ (Node.word name).IsNamed :=
  ⟨⟨named, known⟩, trivial⟩

/-- A variable with a short name is legible and a name. -/
theorem legible_var
    {namespaces : Namespaces}
    {name : String}
    (named : isName name.toList = true) :
    (Node.var name).Legible namespaces ∧ (Node.var name).IsNamed :=
  ⟨named, trivial⟩

/-- The variable for stored texts has the form of a name. -/
theorem isName_dataVariable : isName Graph.dataVariable.toList = true := by
  decide

/-- A plain text is legible. -/
theorem legible_text
    {value : String}
    (plain : IsPlainText value) :
    (Node.text value).Legible documentNamespaces :=
  ⟨plain, rfl⟩

namespace Entry

variable {entry : Entry} {data : String}

/-- The block of a safe entry with a plain text is legible. -/
theorem legible_block
    (safe : entry.Safe)
    (plain : IsPlainText data) :
    (entry.block data).Legible documentNamespaces := by
  have word {name : String} (named : isName name.toList = true) :
      (Node.word name).Legible documentNamespaces ∧ (Node.word name).IsNamed :=
    legible_word rfl named
  cases entry with
  | ofInstance id =>
      refine ⟨legible_node safe, ?_, ?_, by simp [block, Graph.instanceBlock]⟩
      · simp only [block, Graph.instanceBlock, List.forall_mem_cons]
        exact ⟨word (by decide), word (by decide), word (by decide), by simp⟩
      · simp only [block, Graph.instanceBlock, List.forall_mem_cons]
        exact ⟨legible_text (plainText_of_safe safe), (word (by decide)).1, legible_text plain, by simp⟩
  | ofBinding id bindingId =>
      have parent : (ofInstance id).Safe := safe.1
      refine ⟨legible_node safe, ?_, ?_, by simp [block, Graph.bindingBlock]⟩
      · simp only [block, Graph.bindingBlock, List.forall_mem_cons]
        exact ⟨word (by decide), word (by decide), word (by decide), word (by decide), by simp⟩
      · simp only [block, Graph.bindingBlock, List.forall_mem_cons]
        exact ⟨legible_text (plainText_of_safe safe.2), (word (by decide)).1, (legible_node parent).1,
          legible_text plain, by simp⟩

/-- The document of an entry is read as its triples. -/
theorem document?_turtle
    (safe : entry.Safe)
    (plain : IsPlainText data) :
    document? (entry.block data).turtle = some (entry.triples data) := by
  rw [(legible_block safe plain).document?_turtle]
  cases entry <;> rfl

/-- What a query for a stored text asks for. -/
def patterns : Entry → List Pattern
  | .ofInstance id =>
      let subject := Slot.given (ofInstance id).subject
      [⟨subject, .given (vocabulary "isa"), .given (vocabulary "instance")⟩,
        ⟨subject, .given (vocabulary "datais"), .var "data"⟩]
  | .ofBinding id bindingId =>
      let subject := Slot.given (ofBinding id bindingId).subject
      [⟨subject, .given (vocabulary "isa"), .given (vocabulary "binding")⟩,
        ⟨subject, .given (vocabulary "boundto"), .given (ofInstance id).subject⟩,
        ⟨subject, .given (vocabulary "datais"), .var "data"⟩]

/-- The query for the stored text of an entry is read as its patterns. -/
theorem query?_render
    (safe : entry.Safe) :
    query? entry.query.render = some ("data", entry.patterns) := by
  have word {name : String} (named : isName name.toList = true) :
      (Node.word name).Legible ownNamespace ∧ (Node.word name).IsNamed :=
    legible_word rfl named
  have data : (Node.var "data").Legible ownNamespace := (legible_var isName_dataVariable).1
  cases entry with
  | ofInstance id =>
      have legible : (ofInstance id).query.block.Legible ownNamespace := by
        refine ⟨legible_node safe, ?_, ?_, by simp [query, Graph.instanceQuery]⟩
        · simp only [query, Graph.instanceQuery, List.forall_mem_cons]
          exact ⟨word (by decide), word (by decide), by simp⟩
        · simp only [query, Graph.instanceQuery, List.forall_mem_cons]
          exact ⟨(word (by decide)).1, data, by simp⟩
      exact Query.query?_render isName_dataVariable legible
  | ofBinding id bindingId =>
      have parent : (ofInstance id).Safe := safe.1
      have legible : (ofBinding id bindingId).query.block.Legible ownNamespace := by
        refine ⟨legible_node safe, ?_, ?_, by simp [query, Graph.bindingQuery]⟩
        · simp only [query, Graph.bindingQuery, List.forall_mem_cons]
          exact ⟨word (by decide), word (by decide), word (by decide), by simp⟩
        · simp only [query, Graph.bindingQuery, List.forall_mem_cons]
          exact ⟨(word (by decide)).1, (legible_node parent).1, data, by simp⟩
      exact Query.query?_render isName_dataVariable legible

end Entry

/-- What the query for all bindings of an instance asks for. -/
def bindingsPatterns (id : String) : List Pattern :=
  let subject := Slot.var "binding"
  [⟨subject, .given (vocabulary "isa"), .given (vocabulary "binding")⟩,
    ⟨subject, .given (vocabulary "boundto"), .given (Entry.ofInstance id).subject⟩,
    ⟨subject, .given (vocabulary "datais"), .var "data"⟩]

/--
The query for all bindings is understood as asking for the texts of what is bound to the
instance.
-/
theorem query?_allBindingsQuery
    {id : String}
    (safe : Graph.isSafeKey id = true) :
    query? (Graph.allBindingsQuery id).render = some ("data", bindingsPatterns id) := by
  have word {name : String} (named : isName name.toList = true) :
      (Node.word name).Legible ownNamespace ∧ (Node.word name).IsNamed :=
    legible_word rfl named
  have data : (Node.var "data").Legible ownNamespace := (legible_var (by decide)).1
  have parent : (Entry.ofInstance id).Safe := safe
  have legible : (Graph.allBindingsQuery id).block.Legible ownNamespace := by
    refine ⟨legible_var (by decide), ?_, ?_, by simp [Graph.allBindingsQuery]⟩
    · simp only [Graph.allBindingsQuery, List.forall_mem_cons]
      exact ⟨word (by decide), word (by decide), word (by decide), by simp⟩
    · simp only [Graph.allBindingsQuery, List.forall_mem_cons]
      exact ⟨(word (by decide)).1, (Entry.legible_node parent).1, data, by simp⟩
  exact Query.query?_render isName_dataVariable legible

/-- What is deleted of a subject, which is everything. -/
def everythingOf (subject : Slot) : Pattern :=
  ⟨subject, .var "p", .var "o"⟩

/-- Deleting a binding is understood as deleting everything about it. -/
theorem update?_bindingDeletion
    {id bindingId : String}
    (safe : (Entry.ofBinding id bindingId).Safe) :
    update? (Graph.bindingDeletion id bindingId).render =
      some [[everythingOf (.given (Entry.ofBinding id bindingId).subject)]] := by
  have legible : ∀ block ∈ (Graph.bindingDeletion id bindingId).blocks,
      block.Legible (Graph.bindingDeletion id bindingId).namespaces := by
    intro block member
    obtain rfl := List.mem_singleton.mp member
    refine ⟨Entry.legible_node safe, ?_, ?_, by simp⟩
    · simp only [List.forall_mem_cons]
      exact ⟨legible_var (by decide), by simp⟩
    · simp only [List.forall_mem_cons]
      exact ⟨(legible_var (by decide)).1, by simp⟩
  exact Update.update?_render legible (by simp [Graph.bindingDeletion])

/--
Deleting an instance is understood as deleting everything about what is bound to it, and then
everything about it.
-/
theorem update?_instanceDeletion
    {id : String}
    (safe : Graph.isSafeKey id = true) :
    update? (Graph.instanceDeletion id).render =
      some
        [[⟨.var "binding", .given (vocabulary "boundto"), .given (Entry.ofInstance id).subject⟩,
            everythingOf (.var "binding")],
          [everythingOf (.given (Entry.ofInstance id).subject)]] := by
  have parent : (Entry.ofInstance id).Safe := safe
  have legible : ∀ block ∈ (Graph.instanceDeletion id).blocks,
      block.Legible (Graph.instanceDeletion id).namespaces := by
    have known : (Graph.instanceDeletion id).namespaces = ownNamespace := rfl
    rw [known]
    simp only [Graph.instanceDeletion, List.forall_mem_cons]
    refine ⟨⟨legible_var (by decide), ?_, ?_, by simp⟩, ⟨Entry.legible_node parent, ?_, ?_, by simp⟩,
      by simp⟩
    · simp only [List.forall_mem_cons]
      exact ⟨legible_word rfl (by decide), legible_var (by decide), by simp⟩
    · simp only [List.forall_mem_cons]
      exact ⟨(Entry.legible_node parent).1, (legible_var (by decide)).1, by simp⟩
    · simp only [List.forall_mem_cons]
      exact ⟨legible_var (by decide), by simp⟩
    · simp only [List.forall_mem_cons]
      exact ⟨(legible_var (by decide)).1, by simp⟩
  exact Update.update?_render legible (by simp [Graph.instanceDeletion])

end GraphBroker.Store
