namespace GraphBroker.Remote.Domain.Punycode

/-!
# Labels in ASCII

The characters of a label that are not ASCII are written as a sequence of
numbers behind those that are.  Each number says how far it is from one
insertion to the next, counting the places of the label so far again for every
code point.  A number is written least digit first; its digits have thresholds
that follow a bias, and the last digit is the one below its threshold.
-/

/-- The base of the numbers. -/
def base : Nat := 36

/-- The first bias. -/
def firstBias : Nat := 72

/-- The first code point that is not ASCII. -/
def firstCode : Nat := 0x80

/-- The letter or digit of a value below the base. -/
def digitChar (value : Nat) : Char :=
  if value < 26 then Char.ofNat ('a'.toNat + value) else Char.ofNat ('0'.toNat + (value - 26))

/-- The value of a small letter or a digit. -/
def digitValue? (c : Char) : Option Nat :=
  if 'a' ≤ c ∧ c ≤ 'z' then some (c.toNat - 'a'.toNat)
  else if c.isDigit then some (c.toNat - '0'.toNat + 26)
  else none

/-- The threshold of a digit, where the places of digits are `base`, twice `base`, and so on. -/
def threshold (bias place : Nat) : Nat :=
  if place ≤ bias then 1 else if bias + 26 ≤ place then 26 else place - bias

/-- A threshold is at least one. -/
theorem threshold_pos (bias place : Nat) : 1 ≤ threshold bias place := by
  unfold threshold
  split
  · omega
  · split <;> omega

/-- Divide a difference down to the range of one digit, counting the steps. -/
def settle (delta steps : Nat) : Nat × Nat :=
  if 455 < delta then settle (delta / 35) (steps + base) else (delta, steps)
termination_by delta
decreasing_by exact Nat.div_lt_self (by omega) (by omega)

/-- The bias after a number, from its value and from how many characters there are by then. -/
def adapt (delta count : Nat) (first : Bool) : Nat :=
  let scaled := if first then delta / 700 else delta / 2
  let (delta, steps) := settle (scaled + scaled / count) 0
  steps + base * delta / (delta + 38)

/-! ## Writing -/

/-- One number, its least digit first. -/
def writeNumber (bias place value : Nat) : List Char :=
  let limit := threshold bias place
  if value < limit then
    [digitChar value]
  else
    digitChar (limit + (value - limit) % (base - limit))
      :: writeNumber bias (place + base) ((value - limit) / (base - limit))
termination_by value
decreasing_by
  have := threshold_pos bias place
  have := Nat.div_le_self (value - threshold bias place) (base - threshold bias place)
  omega

/-- A label being written. -/
structure Writing where
  written : List Char
  delta : Nat
  bias : Nat
  handled : Nat
  first : Bool

/-- Pass one character of the label while the characters with code `code` are inserted. -/
def Writing.pass (code : Nat) (writing : Writing) (c : Char) : Writing :=
  if c.toNat < code then
    { writing with delta := writing.delta + 1 }
  else if c.toNat = code then
    { written := writing.written ++ writeNumber writing.bias base writing.delta
      delta := 0
      bias := adapt writing.delta (writing.handled + 1) writing.first
      handled := writing.handled + 1
      first := false }
  else
    writing

/-- Insert the characters of each code in ascending order. -/
def insertAll (label : List Char) (writing : Writing) (reached : Nat) : List Nat → Writing
  | [] => writing
  | code :: rest =>
      let moved :=
        { writing with delta := writing.delta + (code - reached) * (writing.handled + 1) }
      let passed := label.foldl (Writing.pass code) moved
      insertAll label { passed with delta := passed.delta + 1 } (code + 1) rest

/-- A label without the mark in front of it. -/
def encode (label : List Char) : List Char :=
  let ascii := label.filter fun c => c.toNat < firstCode
  let others := (label.map Char.toNat).filter (firstCode ≤ ·)
  let codes := (others.mergeSort fun first second => decide (first ≤ second)).eraseDups
  let start := if ascii.isEmpty then [] else ascii ++ ['-']
  start ++ (insertAll label ⟨[], 0, firstBias, ascii.length, true⟩ firstCode codes).written

/-! ## Reading -/

/-- Numbers stay below this limit. -/
def numberLimit : Nat := 0x100000000

/-- Read one number: its value added to `value`, and what comes after it. -/
def readNumber? (bias place weight value : Nat) : List Char → Option (Nat × List Char)
  | [] => none
  | c :: rest =>
      match digitValue? c with
      | none => none
      | some digit =>
          let value := value + digit * weight
          let limit := threshold bias place
          if numberLimit ≤ value then none
          else if digit < limit then some (value, rest)
          else if numberLimit ≤ weight * (base - limit) then none
          else readNumber? bias (place + base) (weight * (base - limit)) value rest

/-- A number takes at least one character. -/
theorem readNumber?_shorter
    {bias place weight value : Nat}
    {chars : List Char}
    {result : Nat × List Char}
    (found : readNumber? bias place weight value chars = some result) :
    result.2.length < chars.length := by
  induction chars generalizing place weight value with
  | nil => simp [readNumber?] at found
  | cons c rest ih =>
      unfold readNumber? at found
      split at found
      · simp at found
      · dsimp only at found
        split at found
        · simp at found
        · split at found
          · simp only [Option.some.injEq] at found
            simp [← found]
          · split at found
            · simp at found
            · have := ih found
              simp only [List.length_cons]
              omega

/-- Insert a character for each number into the label so far. -/
def insertRead? (bias code place : Nat) (label : List Char) (chars : List Char) :
    Option (List Char) :=
  if chars.isEmpty then
    some label
  else
    match _found : readNumber? bias base 1 place chars with
    | none => none
    | some (value, rest) =>
        let count := label.length + 1
        let code := code + value / count
        if code.isValidChar then
          insertRead? (adapt (value - place) count (place == 0)) code (value % count + 1)
            (label.insertIdx (value % count) (Char.ofNat code)) rest
        else
          none
termination_by chars.length
decreasing_by exact readNumber?_shorter _found

/-- The label that a text stands for. -/
def decode? (text : List Char) : Option (List Char) :=
  let numbers := (text.reverse.takeWhile (· != '-')).reverse
  let start := text.take (text.length - numbers.length - 1)
  if start.isEmpty then insertRead? firstBias firstCode 0 [] text
  else insertRead? firstBias firstCode 0 start numbers

end GraphBroker.Remote.Domain.Punycode
