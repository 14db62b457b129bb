namespace GraphBroker.Text

/-!
# Splitting texts

A sequence of characters is split at every separator.  The pieces are what
stands between two separators, so there is one more of them than of separators.
-/

/-- The pieces of a sequence, after those already found and the one begun, newest first. -/
def splitOnto (separates : Char → Bool) (pieces : List (List Char)) (piece : List Char) :
    List Char → List (List Char)
  | [] => (piece.reverse :: pieces).reverse
  | c :: rest =>
      if separates c then splitOnto separates (piece.reverse :: pieces) [] rest
      else splitOnto separates pieces (c :: piece) rest

/-- Split a sequence of characters at every separator. -/
def splitChars (separates : Char → Bool) (chars : List Char) : List (List Char) :=
  splitOnto separates [] [] chars

/-- Split a text at every slash. -/
def splitAtSlashes (text : String) : List String :=
  (splitChars (· == '/') text.toList).map String.ofList

end GraphBroker.Text
