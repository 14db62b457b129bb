import GraphBroker.Text.Split

namespace GraphBroker.Host

/-!
# Paths

A path is a sequence of names between slashes.  Empty names and single dots say
nothing; two dots lead back.
-/

/-- A path, taken apart. -/
structure Path where
  absolute : Bool
  /-- The names along the path. -/
  steps : List String
  /-- The path ends in a slash, so that only a directory can have it. -/
  trailing : Bool
  deriving Repr, DecidableEq

namespace Path

/-- The name that leads back. -/
def back : String := ".."

/-- A name that leads nowhere. -/
def isIdle (name : String) : Bool :=
  name.isEmpty || name == "."

/-- Take a path apart. -/
def ofText (text : String) : Path :=
  { absolute := text.toList.head? == some '/'
    steps := (Text.splitAtSlashes text).filter fun name => !isIdle name
    trailing := text.toList.getLast? == some '/' }

/-- The text of a path. -/
def render (path : Path) : String :=
  (if path.absolute then "/" else "") ++ "/".intercalate path.steps
    ++ (if path.trailing && !path.steps.isEmpty then "/" else "")

/-- The path of the directory around, unless it is where the path starts. -/
def parent? (path : Path) : Option Path :=
  match path.steps with
  | [] => none
  | [_] => if path.absolute then some { path with steps := [], trailing := false } else none
  | steps => some { path with steps := steps.dropLast, trailing := false }

/-- Go one name further from a place, given by the names that lead to it, newest first. -/
def advance (place : List String) (name : String) : List String :=
  if name = back then place.tail else name :: place

/-- The shortest path that leads to the same place, if every name along it is a directory. -/
def normal (path : Path) : Path :=
  { path with
    steps := (path.steps.foldl (fun place name =>
      if name = back then
        match place with
        | [] => if path.absolute then [] else [back]
        | last :: rest => if last = back then back :: place else rest
      else name :: place) []).reverse
    trailing := false }

end Path

end GraphBroker.Host
