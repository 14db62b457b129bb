import GraphBroker.Text.Natural
import GraphBroker.Text.Split

namespace GraphBroker.Remote

/-!
# Numeric host addresses

A host that ends in a number is an address of version 4, written in up to four
parts of which the last may stand for several bytes and each may be octal or
hexadecimal.  A host between brackets is an address of version 6.  Both are
written in one form only.
-/

namespace Address4

/-- One part of an address: hexadecimal after `0x`, octal after `0`, and decimal otherwise. -/
def part? (digits : List Char) : Option Nat :=
  match digits with
  | [] => none
  | '0' :: 'x' :: rest | '0' :: 'X' :: rest => Text.digitsValue? 16 rest
  | '0' :: second :: rest => Text.digitsValue? 8 (second :: rest)
  | _ => Text.digitsValue? 10 digits

/-- The parts of a host, without an empty one at its end. -/
def parts (host : List Char) : List (List Char) :=
  let pieces := Text.splitChars (· == '.') host
  match pieces.getLast? with
  | some [] => if pieces.length > 1 then pieces.dropLast else pieces
  | _ => pieces

/-- The host is an address of version 4, or is none at all: its last part is a number. -/
def endsInNumber (host : List Char) : Bool :=
  match (parts host).getLast? with
  | none | some [] => false
  | some last => last.all Char.isDigit || ((last.take 2).map Char.toLower == ['0', 'x'] && (part? last).isSome)

/-- The address that a host stands for. -/
def parse? (host : List Char) : Option Nat := do
  let values ← (parts host).mapM part?
  let last ← values.getLast?
  let first := values.dropLast
  if 3 < first.length ∨ first.any (255 < ·) ∨ Nat.pow 256 (4 - first.length) ≤ last then
    none
  else
    let (high, _) := first.foldl
      (fun (sum, place) value => (sum + value * Nat.pow 256 place, place - 1)) (0, 3)
    some (high + last)

/-- An address as four decimal parts. -/
def render (address : Nat) : String :=
  ".".intercalate
    ([address / 0x1000000 % 256, address / 0x10000 % 256, address / 0x100 % 256, address % 256].map
      toString)

end Address4

namespace Address6

/-- One group of hexadecimal digits. -/
def group? (digits : List Char) : Option Nat :=
  if 1 ≤ digits.length ∧ digits.length ≤ 4 then Text.digitsValue? 16 digits else none

/-- Four decimal bytes, which stand for the last two groups. -/
def trailing? (text : List Char) : Option (List Nat) := do
  let pieces := Text.splitChars (· == '.') text
  let bytes ← pieces.mapM fun digits =>
    if digits.isEmpty ∨ 3 < digits.length ∨ (digits.head? = some '0' ∧ digits.length ≠ 1) then none
    else (Text.digitsValue? 10 digits).filter (· < 256)
  match bytes with
  | [a, b, c, d] => some [a * 256 + b, c * 256 + d]
  | _ => none

/-- Groups with colons between them, of which the last may be four decimal bytes. -/
def groups? (text : List Char) : Option (List Nat) :=
  if text.isEmpty then
    some []
  else do
    let pieces := Text.splitChars (· == ':') text
    let last ← pieces.getLast?
    let first ← pieces.dropLast.mapM group?
    let rest ← if last.contains '.' then trailing? last else (group? last).map fun value => [value]
    some (first ++ rest)

/-- Cut a text at the first pair of colons. -/
def cutAtGap (before : List Char) : List Char → Option (List Char × List Char)
  | ':' :: ':' :: rest => some (before.reverse, rest)
  | c :: rest => cutAtGap (c :: before) rest
  | [] => none

/-- The eight groups that a text between brackets stands for.  A pair of colons is a run of zeros. -/
def parse? (text : List Char) : Option (List Nat) :=
  match cutAtGap [] text with
  | none => do
      let groups ← groups? text
      if groups.length = 8 then some groups else none
  | some (before, after) => do
      if before.contains '.' then none
      let left ← groups? before
      let right ← groups? after
      let given := left.length + right.length
      if given ≤ 7 then some (left ++ List.replicate (8 - given) 0 ++ right) else none

/-- How many zeros a sequence of groups begins with. -/
def zerosAt (groups : List Nat) : Nat :=
  (groups.takeWhile (· == 0)).length

/-- The first of the longest runs of at least two zeros: where it begins and how long it is. -/
def longestGap? (groups : List Nat) : Option (Nat × Nat) :=
  (List.range 8).foldl
    (fun best start =>
      let length := zerosAt (groups.drop start)
      if 2 ≤ length ∧ (best.map Prod.snd).getD 1 < length then some (start, length) else best)
    none

/-- Groups with colons between them. -/
def renderGroups (groups : List Nat) : String :=
  ":".intercalate (groups.map fun group => String.ofList (Nat.toDigits 16 group))

/-- An address between brackets. -/
def render (groups : List Nat) : String :=
  match longestGap? groups with
  | none => "[" ++ renderGroups groups ++ "]"
  | some (start, length) =>
      "[" ++ renderGroups (groups.take start) ++ "::"
        ++ renderGroups (groups.drop (start + length)) ++ "]"

end Address6

end GraphBroker.Remote
