import GraphBroker.Remote.Domain.Label

namespace GraphBroker.Remote.Domain

/-!
# Domain names

Many spellings of a domain name are the same: characters are replaced by others
that look or mean the same, and composed.  The labels of the name are then
written in ASCII.  A name of small ASCII letters without marks is its own form.
-/

open Unicode (Direction)

/-- A label of ASCII without the mark. -/
def isPlain (label : List Char) : Bool :=
  label.all isAscii && label.take 4 != mark

/-- What becomes of the characters of a name, unless one is refused. -/
def images? (name : List Char) : Option (List Char) :=
  (name.foldlM (fun before c => (image? c).map fun image => image.reverse ++ before) []).map
    List.reverse

/-- The labels of a name between its full stops. -/
def labels (name : List Char) : List (List Char) :=
  Text.splitChars (· == '.') name

/-- A name in ASCII, if it is one. -/
def toAscii? (name : List Char) : Option (List Char) :=
  let lowered := name.map Char.toLower
  if (labels lowered).all isPlain then
    some lowered
  else do
    let images ← images? name
    let decoded ← (labels (Unicode.composed images)).mapM labelOf?
    let bothWays := decoded.any fun label => label.any fun c => (Direction.ofChar c).isRightward
    if decoded.all isSound && (!bothWays || decoded.all directionsFit) then
      some (List.intercalate ['.'] (decoded.map writtenLabel))
    else
      none

end GraphBroker.Remote.Domain
