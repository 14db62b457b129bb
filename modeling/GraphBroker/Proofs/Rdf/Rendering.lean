import GraphBroker.Proofs.Rdf.Language
import GraphBroker.Store.Triples

namespace GraphBroker.Store

open Rdf

/-!
# What the texts for a graph say

A block stands for one pattern for each of its pairs.  The document, the query and the
update that are written from blocks are read as these patterns, if nothing in the
blocks needs an escape.
-/

namespace Node

/-- What a node stands for. -/
def slot : Node → Slot
  | .resource path => .given (.resource (graphNamespace ++ path))
  | .word name => .given (.resource (graphNamespace ++ name))
  | .text value => .given (.literal value (textNamespace ++ "string"))
  | .var name => .var name

/-- Nothing in the node needs an escape, and the namespaces of its short names are known. -/
def Legible (namespaces : Namespaces) : Node → Prop
  | .resource path => ∀ c ∈ path.toList, isFullNameChar c = true
  | .word name => isName name.toList = true ∧ namespaces.lookup "sdcf" = some graphNamespace
  | .text value =>
      (∀ c ∈ value.toList, isTextChar c = true ∧ isSpace c = false) ∧
        namespaces.lookup "xsd" = some textNamespace
  | .var name => isName name.toList = true

/-- The node is no text, which only an object can be. -/
def IsNamed : Node → Prop
  | .text _ => False
  | _ => True

end Node

namespace Block

/-- The patterns of a block. -/
def patterns (block : Block) : List Pattern :=
  block.pairs.map fun pair => ⟨block.subject.slot, pair.1.slot, pair.2.slot⟩

/-- Everything in the block can be read in its place. -/
structure Legible (namespaces : Namespaces) (block : Block) : Prop where
  subject : block.subject.Legible namespaces ∧ block.subject.IsNamed
  predicates : ∀ pair ∈ block.pairs, pair.1.Legible namespaces ∧ pair.1.IsNamed
  objects : ∀ pair ∈ block.pairs, pair.2.Legible namespaces
  nonempty : block.pairs ≠ []

end Block

/-! ## Nodes -/

/-- The four characters that separate words. -/
theorem isSpace_iff
    {c : Char} :
    isSpace c = true ↔ c = ' ' ∨ c = '\t' ∨ c = '\r' ∨ c = '\n' := by
  simp [isSpace, or_assoc]

/-- No character of a full name separates words. -/
theorem isSpace_of_isFullNameChar
    {c : Char}
    (plain : isFullNameChar c = true) :
    isSpace c = false := by
  apply Bool.eq_false_iff.mpr
  intro space
  rcases isSpace_iff.mp space with rfl | rfl | rfl | rfl <;> exact absurd plain (by decide)

/-- No letter or digit separates words. -/
theorem isSpace_of_isAlphanum
    {c : Char}
    (plain : c.isAlphanum = true) :
    isSpace c = false := by
  apply Bool.eq_false_iff.mpr
  intro space
  rcases isSpace_iff.mp space with rfl | rfl | rfl | rfl <;> exact absurd plain (by decide)

/-- A short name has only letters and digits. -/
theorem isAlphanum_of_isName
    {chars : List Char}
    (named : isName chars = true)
    {c : Char}
    (member : c ∈ chars) :
    c.isAlphanum = true := by
  simp only [isName, Bool.and_eq_true, List.all_eq_true] at named
  exact named.2 c member

namespace Node

variable {namespaces : Namespaces} {node : Node}

/-- A text between other characters is one word if all of them are solid. -/
theorem isWord_of_solid
    {text : String}
    (before after : String)
    (first : before ≠ "")
    (begins : before.toList.any isSpace = false)
    (middle : ∀ c ∈ text.toList, isSpace c = false)
    (ends : after.toList.any isSpace = false) :
    IsWord (before ++ text ++ after) where
  nonempty := by
    simp [first]
  solid := by
    intro c member
    simp only [String.toList_append, List.mem_append, or_assoc] at member
    rcases member with inBefore | inText | inAfter
    · simpa using List.any_eq_false.mp begins c inBefore
    · exact middle c inText
    · simpa using List.any_eq_false.mp ends c inAfter

/-- A legible node is written as one word. -/
theorem Legible.isWord
    (legible : node.Legible namespaces) :
    IsWord node.render := by
  cases node with
  | resource path =>
      exact isWord_of_solid _ _ (by decide) (by decide)
        (fun c member => isSpace_of_isFullNameChar (legible c member)) (by decide)
  | word name =>
      have word := isWord_of_solid "sdcf:" "" (by decide) (by decide)
        (fun c member => isSpace_of_isAlphanum (isAlphanum_of_isName legible.1 member)) (by decide)
      simpa [render] using word
  | text value =>
      exact isWord_of_solid _ _ (by decide) (by decide) (fun c member => (legible.1 c member).2)
        (by decide)
  | var name =>
      have word := isWord_of_solid "?" "" (by decide) (by decide)
        (fun c member => isSpace_of_isAlphanum (isAlphanum_of_isName legible member)) (by decide)
      simpa [render] using word

/-- A path in the namespace of the graph is read back as a full name. -/
theorem fullName?_path
    {path : String}
    (plain : ∀ c ∈ path.toList, isFullNameChar c = true) :
    fullName? (graphNamespace.toList ++ path.toList ++ ['>']) = some (graphNamespace ++ path) := by
  have space : graphNamespace.toList.all isFullNameChar = true := by decide
  have all : (graphNamespace.toList ++ path.toList).all isFullNameChar = true := by
    rw [List.all_append, space, Bool.true_and, List.all_eq_true]
    exact plain
  have absolute : "http://".toList.isPrefixOf (graphNamespace.toList ++ path.toList) = true := by
    have begins : "http://".toList <+: graphNamespace.toList := by decide
    exact List.isPrefixOf_iff_prefix.mpr (begins.trans (List.prefix_append _ _))
  have ends : (graphNamespace.toList ++ path.toList ++ ['>']).getLast? = some '>' := by simp
  simp only [fullName?, List.dropLast_concat, ends, all, absolute, and_self, if_true]
  rw [← String.toList_append, String.ofList_toList]

/-- A short name stands for its namespace followed by its name. -/
theorem short?_name
    {space name full : String}
    (solid : ':' ∉ space.toList)
    (named : isName name.toList = true)
    (known : namespaces.lookup space = some full) :
    short? namespaces (space.toList ++ ':' :: name.toList) = some (full ++ name) := by
  have before : (space.toList ++ ':' :: name.toList).takeWhile (· != ':') = space.toList := by
    have others : ∀ c ∈ space.toList, (c != ':') = true := by
      intro c member
      have different : c ≠ ':' := fun same => solid (same ▸ member)
      simpa using different
    rw [List.takeWhile_append_of_pos others]
    simp
  simp only [short?, before, List.drop_left, named, if_true, String.ofList_toList, known,
    Option.map_some]

/-- The characters of a resource. -/
theorem toList_render_resource
    (path : String) :
    (resource path).render.toList =
      '<' :: (graphNamespace.toList ++ path.toList ++ ['>']) := by
  simp [render]

/-- The characters of a short name. -/
theorem toList_render_word
    (name : String) :
    (word name).render.toList = "sdcf".toList ++ ':' :: name.toList := by
  simp [render]

/-- The characters of a text. -/
theorem toList_render_text
    (value : String) :
    (text value).render.toList =
      '"' :: (value.toList ++ '"' :: '^' :: '^' :: ("xsd".toList ++ ':' :: "string".toList)) := by
  simp [render]

/-- The characters of a variable. -/
theorem toList_render_var
    (name : String) :
    (var name).render.toList = '?' :: name.toList := by
  simp [render]

/-- A text without quotes and separators is read back as a literal with its type. -/
theorem literal?_text
    {value : String}
    (plain : ∀ c ∈ value.toList, isTextChar c = true ∧ isSpace c = false)
    (known : namespaces.lookup "xsd" = some textNamespace) :
    literal? namespaces
        (value.toList ++ '"' :: '^' :: '^' :: ("xsd".toList ++ ':' :: "string".toList)) =
      some (.literal value (textNamespace ++ "string")) := by
  have before : (value.toList ++ '"' :: '^' :: '^' :: ("xsd".toList ++ ':' :: "string".toList)).takeWhile
      isTextChar = value.toList := by
    rw [List.takeWhile_append_of_pos fun c member => (plain c member).1]
    simp [isTextChar]
  have named : isName "string".toList = true := by decide
  have type : resource? namespaces ("xsd".toList ++ ':' :: "string".toList) =
      some (textNamespace ++ "string") :=
    short?_name (by decide) named known
  simp only [literal?, before, List.drop_left, type, Option.map_some, String.ofList_toList]

/-- A legible name is read back as the slot that it fills. -/
theorem Legible.named?_render
    (legible : node.Legible namespaces)
    (named : node.IsNamed) :
    named? namespaces node.render = some node.slot := by
  cases node with
  | resource path =>
      have resource : resource? namespaces (resource path).render.toList =
          some (graphNamespace ++ path) := by
        rw [toList_render_resource]
        exact fullName?_path legible
      have noVariable : variableName? (Node.resource path).render = none := by
        simp [variableName?, toList_render_resource]
      simp only [named?, noVariable, resource, Option.map_some, slot]
  | word name =>
      have resource : resource? namespaces (word name).render.toList =
          some (graphNamespace ++ name) := by
        rw [toList_render_word]
        exact short?_name (by decide) legible.1 legible.2
      have noVariable : variableName? (word name).render = none := by
        simp [variableName?, toList_render_word]
      simp only [named?, noVariable, resource, Option.map_some, slot]
  | text value =>
      exact named.elim
  | var name =>
      have isVariable : variableName? (var name).render = some name := by
        simp [variableName?, toList_render_var, show isName name.toList = true from legible]
      simp only [named?, isVariable, slot]

/-- A legible node is read back as the slot that it fills. -/
theorem Legible.object?_render
    (legible : node.Legible namespaces) :
    object? namespaces node.render = some node.slot := by
  cases node with
  | text value =>
      simp only [object?, toList_render_text, literal?_text legible.1 legible.2, Option.map_some,
        slot]
  | resource path =>
      simp only [object?, toList_render_resource, legible.named?_render trivial]
      rfl
  | word name =>
      simp only [object?, toList_render_word, legible.named?_render trivial]
      rfl
  | var name =>
      simp only [object?, toList_render_var, legible.named?_render trivial]
      rfl

end Node

/-! ## Blocks -/

namespace Block

variable {namespaces : Namespaces} {block : Block}

/-- The words of predicates and objects, with a semicolon between each two pairs. -/
def pairWords (pairs : List (Node × Node)) : List String :=
  [";"].intercalate (pairs.map fun pair => [pair.1.render, pair.2.render])

/-- The words of a legible block are its subject and its pairs, one by one. -/
theorem Legible.words_render
    (legible : block.Legible namespaces)
    {between : String}
    (begins : between.toList.head?.any isSpace = true)
    (ends : between.toList.getLast?.any isSpace = true)
    (semicolon : words between = [";"]) :
    words (block.render between) = block.subject.render :: pairWords block.pairs := by
  have subject := legible.subject.1.isWord.words_eq
  have pairs : block.pairs.map (fun pair => words (pair.1.render ++ " " ++ pair.2.render)) =
      block.pairs.map fun pair => [pair.1.render, pair.2.render] := by
    apply List.map_congr_left
    intro pair member
    rw [String.append_assoc, words_append_of_head (by simp [isSpace]), words_append_of_getLast (by decide),
      (legible.predicates pair member).1.isWord.words_eq, (legible.objects pair member).isWord.words_eq]
    rfl
  rw [render, words_append_of_getLast (by simp [isSpace]), words_append_of_head (by decide), subject,
    words_intercalate begins ends, semicolon, List.map_map, pairWords, ← pairs]
  rfl

/-- The words of pairs are read back up to the period that ends them. -/
theorem pairs?_pairWords
    {subject : Slot}
    {pairs : List (Node × Node)}
    (predicates : ∀ pair ∈ pairs, pair.1.Legible namespaces ∧ pair.1.IsNamed)
    (objects : ∀ pair ∈ pairs, pair.2.Legible namespaces)
    (nonempty : pairs ≠ [])
    (rest : List String) :
    pairs? namespaces subject (pairWords pairs ++ "." :: rest) =
      some (pairs.map fun pair => ⟨subject, pair.1.slot, pair.2.slot⟩, rest) := by
  induction pairs with
  | nil =>
      exact absurd rfl nonempty
  | cons pair others inductionHypothesis =>
      have predicate := (predicates pair List.mem_cons_self).1.named?_render
        (predicates pair List.mem_cons_self).2
      have object := (objects pair List.mem_cons_self).object?_render
      cases others with
      | nil =>
          simp [pairWords, pairs?, predicate, object]
      | cons next more =>
          have later := inductionHypothesis
            (fun other member => predicates other (List.mem_cons_of_mem _ member))
            (fun other member => objects other (List.mem_cons_of_mem _ member)) (by simp)
          have split : pairWords (pair :: next :: more) =
              pair.1.render :: pair.2.render :: ";" :: pairWords (next :: more) := by
            simp [pairWords]
          rw [split]
          simp [pairs?, predicate, object, later]

/-- The words of a legible block are read back as its patterns. -/
theorem Legible.patterns?_words
    (legible : block.Legible namespaces)
    (rest : List String) :
    patterns? namespaces (block.subject.render :: pairWords block.pairs ++ "." :: rest) =
      some (block.patterns, rest) := by
  have subject := legible.subject.1.named?_render legible.subject.2
  have pairs : pairs? namespaces block.subject.slot (pairWords block.pairs ++ "." :: rest) =
      some (block.patterns, rest) :=
    pairs?_pairWords legible.predicates legible.objects legible.nonempty rest
  simp [patterns?, subject, pairs]

end Block

/-! ## Texts -/

/-- The short name of the broker's namespace. -/
def ownNamespace : Namespaces := [("sdcf", graphNamespace)]

/-- The short names that a document makes known. -/
def documentNamespaces : Namespaces := ("xsd", textNamespace) :: ownNamespace

/-- The graph's own abbreviation is understood. -/
theorem declared?_own :
    declared? [] "sdcf:" ("<" ++ graphNamespace ++ ">") = some ownNamespace := by
  decide

/-- The abbreviation for types of texts is understood. -/
theorem declared?_text :
    declared? ownNamespace "xsd:" ("<" ++ textNamespace ++ ">") = some documentNamespaces := by
  decide

/-- Where no declaration stands, no namespace is added. -/
theorem declarations?_of_ne
    {namespaces : Namespaces}
    {first : String}
    (other : first ≠ "@prefix")
    (rest : List String) :
    declarations? namespaces (first :: rest) = some (namespaces, first :: rest) := by
  unfold declarations?
  split
  · next same => exact absurd (List.cons.inj same).1 other
  · rfl

/-- Where no abbreviation stands, no namespace is added. -/
theorem prologue?_of_ne
    {namespaces : Namespaces}
    {first : String}
    (other : first ≠ "PREFIX")
    (rest : List String) :
    prologue? namespaces (first :: rest) = some (namespaces, first :: rest) := by
  unfold prologue?
  split
  · next same => exact absurd (List.cons.inj same).1 other
  · rfl

/-- After the abbreviation of a query the graph's own namespace is known. -/
theorem prologue?_abbreviation
    (rest : List String) :
    prologue? [] (words abbreviation ++ rest) = prologue? ownNamespace rest := by
  have all : words abbreviation = ["PREFIX", "sdcf:", "<" ++ graphNamespace ++ ">"] := by decide
  rw [all]
  simp only [List.cons_append, List.nil_append, prologue?, declared?_own, Option.bind_eq_bind,
    Option.bind_some]

/-- No subject is taken for the beginning of a declaration. -/
theorem Block.Legible.subject_ne
    {namespaces : Namespaces}
    {block : Block}
    (legible : block.Legible namespaces) :
    block.subject.render ≠ "@prefix" := by
  intro same
  have read := legible.subject.1.named?_render legible.subject.2
  rw [same] at read
  cases read

/-- The first lines of a document. -/
def declarations : String :=
  "@prefix sdcf: <" ++ graphNamespace ++ "> .\n"
    ++ "@prefix xsd: <" ++ textNamespace ++ "> .\n"

/-- After the declarations of a document both its namespaces are known. -/
theorem declarations?_declarations
    (rest : List String) :
    declarations? [] (words declarations ++ rest) = declarations? documentNamespaces rest := by
  have all : words declarations =
      ["@prefix", "sdcf:", "<" ++ graphNamespace ++ ">", ".",
        "@prefix", "xsd:", "<" ++ textNamespace ++ ">", "."] := by
    decide +kernel
  rw [all]
  simp only [List.cons_append, List.nil_append, declarations?, declared?_own, declared?_text,
    Option.bind_eq_bind, Option.bind_some]

/-- A document is read as the triples that its block's patterns are. -/
theorem Block.Legible.document?_turtle
    {block : Block}
    (legible : block.Legible documentNamespaces) :
    document? block.turtle = block.patterns.mapM Pattern.triple? := by
  have shape : block.turtle = declarations ++ (block.render " ;\n\t" ++ " .\n") :=
    String.append_assoc
  have lineEnd : declarations.toList.getLast?.any isSpace = true := by decide +kernel
  have space : " .\n".toList.head?.any isSpace = true := by decide
  have body : words (block.render " ;\n\t") = block.subject.render :: pairWords block.pairs :=
    legible.words_render (by decide) (by decide) (by decide)
  have ends : words " .\n" = ["."] := by decide
  have read := legible.patterns?_words []
  rw [document?, shape, words_append_of_getLast lineEnd, words_append_of_head space,
    body, ends, declarations?_declarations, List.cons_append,
    declarations?_of_ne legible.subject_ne, Option.bind_eq_bind, Option.bind_some]
  rw [List.cons_append] at read
  simp only [read, Option.bind_eq_bind, Option.bind_some, if_true]

/-- A query is read as what it asks for. -/
theorem Query.query?_render
    {query : Query}
    (named : isName query.wanted.toList = true)
    (legible : query.block.Legible ownNamespace) :
    query? query.render = some (query.wanted, query.block.patterns) := by
  have shape : query.render =
      abbreviation ++ ("SELECT " ++ (("?" ++ query.wanted) ++
        (" WHERE \x7b\n\t" ++ (query.block.render " ;\n\t\t" ++ " .\n\x7d")))) := by
    have select : "SELECT ?" = "SELECT " ++ "?" := by decide
    simp only [render, select, String.append_assoc]
  have wanted : Node.Legible ownNamespace (.var query.wanted) := named
  have variableWord : words ("?" ++ query.wanted) = ["?" ++ query.wanted] :=
    wanted.isWord.words_eq
  have isVariable : variableName? ("?" ++ query.wanted) = some query.wanted := by
    simp [variableName?, named]
  have body : words (query.block.render " ;\n\t\t") =
      query.block.subject.render :: Block.pairWords query.block.pairs :=
    legible.words_render (by decide) (by decide) (by decide)
  have read := legible.patterns?_words ["\x7d"]
  have select : words "SELECT " = ["SELECT"] := by decide
  have opening : words " WHERE \x7b\n\t" = ["WHERE", "\x7b"] := by decide
  have closing : words " .\n\x7d" = [".", "\x7d"] := by decide
  rw [query?, shape, words_append_of_getLast (by decide), prologue?_abbreviation,
    words_append_of_getLast (by decide), words_append_of_head (by simp [isSpace]), variableWord,
    words_append_of_getLast (by decide), words_append_of_head (by decide), body, select, opening, closing]
  simp only [List.cons_append, List.nil_append] at read ⊢
  rw [prologue?_of_ne (by decide)]
  simp [isVariable, read]

namespace Update

/-- The short names that an update makes known. -/
def namespaces (update : Update) : Namespaces :=
  if update.blocks.any Block.hasWord then ownNamespace else []

/-- The words of one deletion. -/
def deletionWords (block : Block) : List String :=
  "DELETE" :: "WHERE" :: "\x7b" ::
    (block.subject.render :: Block.pairWords block.pairs ++ [".", "\x7d"])

/-- The words of a deletion. -/
theorem words_deletion
    {known : Namespaces}
    {block : Block}
    (legible : block.Legible known) :
    words ("DELETE WHERE \x7b " ++ block.render " ; " ++ " . \x7d") = deletionWords block := by
  have body : words (block.render " ; ") = block.subject.render :: Block.pairWords block.pairs :=
    legible.words_render (by decide) (by decide) (by decide)
  have opening : words "DELETE WHERE \x7b " = ["DELETE", "WHERE", "\x7b"] := by decide
  have closing : words " . \x7d" = [".", "\x7d"] := by decide
  rw [words_append_of_head (by decide), words_append_of_getLast (by decide), body, opening, closing]
  rfl

/-- One deletion is read as its patterns, whatever follows it. -/
theorem patterns?_deletion
    {known : Namespaces}
    {block : Block}
    (legible : block.Legible known)
    (rest : List String) :
    patterns? known
        (block.subject.render :: (Block.pairWords block.pairs ++ "." :: "\x7d" :: rest)) =
      some (block.patterns, "\x7d" :: rest) :=
  legible.patterns?_words ("\x7d" :: rest)

/-- The last deletion of an update is read back as its patterns. -/
theorem deletions?_last
    {known : Namespaces}
    {block : Block}
    (legible : block.Legible known) :
    deletions? known (deletionWords block) = some [block.patterns] := by
  have read := patterns?_deletion legible []
  rw [deletionWords, List.cons_append, deletions?]
  split
  · next patterns found =>
      rw [read] at found
      cases found
      rfl
  · next patterns rest found =>
      rw [read] at found
      cases found
  · next noLast noNext =>
      exact absurd read (noLast _)

/-- A deletion before others is read back as its patterns, and then they are read. -/
theorem deletions?_next
    {known : Namespaces}
    {block : Block}
    (legible : block.Legible known)
    (rest : List String) :
    deletions? known (deletionWords block ++ ";" :: rest) =
      (deletions? known rest).map fun later => block.patterns :: later := by
  have read := patterns?_deletion legible (";" :: rest)
  have shape : deletionWords block ++ ";" :: rest =
      "DELETE" :: "WHERE" :: "\x7b" ::
        (block.subject.render :: (Block.pairWords block.pairs ++ "." :: "\x7d" :: ";" :: rest)) := by
    simp [deletionWords]
  rw [shape, deletions?]
  split
  · next patterns found =>
      rw [read] at found
      cases found
  · next patterns others found =>
      rw [read] at found
      cases found
      rfl
  · next noLast noNext =>
      exact absurd read (noNext _ _)

/-- Deletions are read back one by one, in order. -/
theorem deletions?_deletionWords
    {known : Namespaces}
    {blocks : List Block}
    (legible : ∀ block ∈ blocks, block.Legible known)
    (nonempty : blocks ≠ []) :
    deletions? known ([";"].intercalate (blocks.map deletionWords)) =
      some (blocks.map Block.patterns) := by
  induction blocks with
  | nil =>
      exact absurd rfl nonempty
  | cons block others inductionHypothesis =>
      have here := legible block List.mem_cons_self
      cases others with
      | nil =>
          simp only [List.map_cons, List.map_nil, List.intercalate_singleton, deletions?_last here]
      | cons next more =>
          have later := inductionHypothesis
            (fun other member => legible other (List.mem_cons_of_mem _ member)) (by simp)
          simp only [List.map_cons, List.intercalate_cons_cons, List.append_assoc,
            List.singleton_append] at later ⊢
          rw [deletions?_next here, later]
          rfl

/-- An update is read as the deletions of its blocks. -/
theorem update?_render
    {update : Update}
    (legible : ∀ block ∈ update.blocks, block.Legible update.namespaces)
    (nonempty : update.blocks ≠ []) :
    update? update.render = some (update.blocks.map Block.patterns) := by
  have blocks : words (" ;\n".intercalate (update.blocks.map fun block =>
      "DELETE WHERE \x7b " ++ block.render " ; " ++ " . \x7d")) =
        [";"].intercalate (update.blocks.map deletionWords) := by
    have semicolon : words " ;\n" = [";"] := by decide
    rw [words_intercalate (by decide) (by decide), semicolon, List.map_map]
    congr 1
    apply List.map_congr_left
    intro block member
    exact words_deletion (legible block member)
  have read := deletions?_deletionWords legible nonempty
  -- What follows the short names begins with a deletion.
  obtain ⟨rest, first⟩ : ∃ rest, [";"].intercalate (update.blocks.map deletionWords) =
      "DELETE" :: rest := by
    cases listed : update.blocks with
    | nil => exact absurd listed nonempty
    | cons block others => cases others <;> exact ⟨_, by simp [deletionWords]; rfl⟩
  rw [update?, render]
  by_cases abbreviated : update.blocks.any Block.hasWord = true
  · have lineEnd : abbreviation.toList.getLast?.any isSpace = true := by decide
    rw [namespaces, if_pos abbreviated] at read
    rw [if_pos abbreviated, words_append_of_getLast lineEnd, prologue?_abbreviation, blocks, first,
      prologue?_of_ne (by decide), Option.bind_eq_bind, Option.bind_some, ← first]
    exact read
  · rw [namespaces, if_neg abbreviated] at read
    rw [if_neg abbreviated, String.empty_append, blocks, first, prologue?_of_ne (by decide),
      Option.bind_eq_bind, Option.bind_some, ← first]
    exact read

end Update

end GraphBroker.Store
