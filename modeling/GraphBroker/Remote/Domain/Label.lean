import GraphBroker.Remote.Domain.Alphabet
import GraphBroker.Remote.Domain.Punycode
import GraphBroker.Unicode.Composition
import GraphBroker.Unicode.Direction
import GraphBroker.Unicode.Joining

namespace GraphBroker.Remote.Domain

/-!
# Labels of domain names

A label is what stands between two full stops of a domain name.  Its written
form is ASCII: that of a label with other characters begins with `xn--`.
-/

open Unicode (Direction)

/-- A character of ASCII. -/
def isAscii (c : Char) : Bool :=
  c.toNat < 0x80

/-- The beginning of the written form of a label that is not ASCII. -/
def mark : List Char := ['x', 'n', '-', '-']

/-- The greatest number of characters after the mark. -/
def writtenLimit : Nat := 2000

/-- The greatest number of characters of a label that is not ASCII. -/
def labelLimit : Nat := 1000

/-- Letters join here, or are kept from it. -/
def zeroWidthJoiner : Char := '\u200D'

/-- Letters do not join here. -/
def zeroWidthNonJoiner : Char := '\u200C'

/--
The joiners of a label stand where they have a meaning: after a mark that
silences a vowel, and a non-joiner also between letters that would join.
`before` is what precedes, newest first.
-/
def joinersFit (before : List Char) : List Char → Bool
  | [] => true
  | c :: rest =>
      let silenced := before.head?.map Unicode.combiningClass = some Unicode.viramaClass
      let fits :=
        if c = zeroWidthNonJoiner then decide silenced || Unicode.joinAcross before rest
        else if c = zeroWidthJoiner then decide silenced
        else true
      fits && joinersFit (c :: before) rest

/-- The directions of the characters of a label go together. -/
def directionsFit (label : List Char) : Bool :=
  match label.map Direction.ofChar with
  | [] => true
  | first :: rest =>
      let inside := rest.reverse.dropWhile (· == .nonspacing)
      let fits (member ends : Direction → Bool) : Bool :=
        inside.all member && (inside.head?.map ends).getD true
      match first with
      | .leftToRight => fits Direction.fitsLeftToRight Direction.endsLeftToRight
      | .rightToLeft | .arabicLetter =>
          fits Direction.fitsRightToLeft Direction.endsRightToLeft
            && !(inside.contains .arabicNumber && inside.contains .europeanNumber)
      | _ => false

/-- The label that a written form stands for; one without the mark stands for itself. -/
def labelOf? (written : List Char) : Option (List Char) :=
  if written.take 4 = mark then
    let text := written.drop 4
    if writtenLimit < text.length ∨ !text.all isAscii then
      none
    else
      (Punycode.decode? text).filter fun label =>
        !label.all isAscii && label.all isAllowed && Unicode.composed label == label
  else
    some written

/-- A label has a form and a length that are allowed. -/
def isSound (label : List Char) : Bool :=
  label.all isAscii
    || (decide (label.length ≤ labelLimit) && !(label.head?.map Unicode.isMark).getD false
      && joinersFit [] label)

/-- The written form of a label. -/
def writtenLabel (label : List Char) : List Char :=
  if label.all isAscii then label else mark ++ Punycode.encode label

end GraphBroker.Remote.Domain
