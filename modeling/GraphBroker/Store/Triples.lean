namespace GraphBroker.Store

/-!
# Triples and the texts that speak of them

A graph database holds triples of a subject, a predicate and an object.  The
broker adds triples by a Turtle document, looks them up by a query, and deletes
them by an update.  Each of these texts is written from a block: one subject
with its predicates and objects.
-/

/-- The namespace of everything that the broker keeps in a graph. -/
def graphNamespace : String := "http://github.com/stardog-union/service-broker/"

/-- The namespace of the type of a text. -/
def textNamespace : String := "http://www.w3.org/2001/XMLSchema#"

/-- What a block speaks of. -/
inductive Node where
  /-- A resource, by the rest of its name in the broker's namespace. -/
  | resource (path : String)
  /-- A word of the broker's vocabulary. -/
  | word (name : String)
  | text (value : String)
  | var (name : String)
  deriving Repr, DecidableEq

/-- One subject with its predicates and objects. -/
structure Block where
  subject : Node
  pairs : List (Node × Node)
  deriving Repr, DecidableEq

/-- A query for the values of one variable. -/
structure Query where
  wanted : String
  block : Block
  deriving Repr, DecidableEq

/-- Deletions, carried out one after the other. -/
structure Update where
  blocks : List Block
  deriving Repr, DecidableEq

namespace Node

/-- The written form of a node. -/
def render : Node → String
  | .resource path => "<" ++ graphNamespace ++ path ++ ">"
  | .word name => "sdcf:" ++ name
  | .text value => "\"" ++ value ++ "\"^^xsd:string"
  | .var name => "?" ++ name

/-- The node is written with the abbreviation of the broker's namespace. -/
def isWord : Node → Bool
  | .word _ => true
  | _ => false

end Node

namespace Block

/-- A subject with its predicates and objects, and the text between two pairs. -/
def render (between : String) (block : Block) : String :=
  block.subject.render ++ " "
    ++ between.intercalate (block.pairs.map fun pair => pair.1.render ++ " " ++ pair.2.render)

/-- Some node of the block is a word of the vocabulary. -/
def hasWord (block : Block) : Bool :=
  block.subject.isWord || block.pairs.any fun pair => pair.1.isWord || pair.2.isWord

/-- The Turtle document of a block. -/
def turtle (block : Block) : String :=
  "@prefix sdcf: <" ++ graphNamespace ++ "> .\n"
    ++ "@prefix xsd: <" ++ textNamespace ++ "> .\n"
    ++ block.render " ;\n\t" ++ " .\n"

end Block

/-- The line that abbreviates the broker's namespace. -/
def abbreviation : String :=
  "PREFIX sdcf: <" ++ graphNamespace ++ ">\n"

/-- The text of a query. -/
def Query.render (query : Query) : String :=
  abbreviation ++ "SELECT ?" ++ query.wanted ++ " WHERE \x7b\n\t"
    ++ query.block.render " ;\n\t\t" ++ " .\n\x7d"

/-- The text of an update.  It abbreviates the namespace only if a block has words of it. -/
def Update.render (update : Update) : String :=
  (if update.blocks.any Block.hasWord then abbreviation else "")
    ++ " ;\n".intercalate (update.blocks.map fun block =>
      "DELETE WHERE \x7b " ++ block.render " ; " ++ " . \x7d")

end GraphBroker.Store
