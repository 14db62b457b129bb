import GraphBroker.Text.Natural
import GraphBroker.Text.Split

namespace GraphBroker.Unicode

/-!
# Runs of code points

A property of characters is kept as runs of code points in ascending order and
written as a text of words.  A word is the hexadecimal number of one character,
or of the first and the last of a run with a hyphen between them.  After a slash
stands the distance between the members of the run, where it is not one, and
after a colon stand the numbers that belong to them, with full stops between.
-/

/-- Code points at equal distances, and the numbers that belong to them. -/
structure Run where
  first : Nat
  last : Nat
  step : Nat
  numbers : List Nat
  deriving Repr, DecidableEq

namespace Run

/-- A code point is a member of a run. -/
def contains (run : Run) (code : Nat) : Bool :=
  run.first ≤ code && code ≤ run.last && (code - run.first) % run.step == 0

/-- Read the members of a run. -/
def bounds? (chars : List Char) : Option (Nat × Nat) :=
  match Text.splitChars (· == '-') chars with
  | [only] => (Text.digitsValue? 16 only).map fun code => (code, code)
  | [first, last] => do return (← Text.digitsValue? 16 first, ← Text.digitsValue? 16 last)
  | _ => none

/-- Read the members of a run and the distance between them. -/
def members? (chars : List Char) : Option (Nat × Nat × Nat) :=
  match Text.splitChars (· == '/') chars with
  | [bounds] => do
      let (first, last) ← bounds? bounds
      return (first, last, 1)
  | [bounds, step] => do
      let (first, last) ← bounds? bounds
      return (first, last, ← Text.digitsValue? 16 step)
  | _ => none

/-- Read one word. -/
def ofWord? (word : List Char) : Option Run :=
  match Text.splitChars (· == ':') word with
  | [members] => do
      let (first, last, step) ← members? members
      return { first, last, step, numbers := [] }
  | [members, numbers] => do
      let (first, last, step) ← members? members
      let numbers ← (Text.splitChars (· == '.') numbers).mapM (Text.digitsValue? 16)
      return { first, last, step, numbers }
  | _ => none

end Run

/-- Runs in ascending order, none of which begins before another one has ended. -/
structure Runs where
  runs : Array Run

namespace Runs

/-- Read runs from their written form. -/
def ofText (text : String) : Runs :=
  let words := Text.splitChars (fun c => c == ' ' || c == '\n') text.toList
  ⟨((words.filter fun word => !word.isEmpty).filterMap Run.ofWord?).toArray⟩

/-- Halve the places from `low` up to `high` until the last run that begins by `code` is left. -/
def seek (runs : Array Run) (code low high : Nat) : Nat :=
  if high ≤ low + 1 then
    low
  else
    let middle := (low + high) / 2
    if ((runs[middle]?).map Run.first).getD 0 ≤ code then seek runs code middle high
    else seek runs code low middle
termination_by high - low
decreasing_by all_goals omega

/-- The run of which a code point is a member. -/
def find? (table : Runs) (code : Nat) : Option Run :=
  (table.runs[seek table.runs code 0 table.runs.size]?).filter fun run => run.contains code

/-- A character is a member of one of the runs. -/
def contains (table : Runs) (c : Char) : Bool :=
  (table.find? c.toNat).isSome

end Runs

end GraphBroker.Unicode
