import GraphBroker.Decimal.Shortest

namespace GraphBroker.Json

/-!
# JSON numbers

A number is an integer of at most 64 bits or a double.  `Number.chars` writes
it; `Numeral` reads one character at a time what the grammar allows and
`Numeral.value?` says which number a complete numeral stands for.
-/

/-- How many integers of 64 bits are negative. -/
abbrev negativeCount : Nat := 0x8000000000000000

/-- A number of a JSON value. -/
inductive Number where
  /-- An integer from zero on. -/
  | natural (value : UInt64)
  /-- The integer `-1 - below`. -/
  | negative (below : Fin negativeCount)
  /-- Any other number; never infinite and never undefined. -/
  | real (value : Float)

namespace Number

/-- The lowest power of ten that is written with its digits in place. -/
def leastPositional : Int := -5

/-- The lowest power of ten that is written with an exponent again. -/
def leastScaled : Int := 16

/-- Decimal digits of a natural number. -/
def naturalChars (value : Nat) : List Char :=
  Nat.toDigits 10 value

/--
A positive decimal as a real number is written: always with a point or an
exponent, and with an exponent only for very small and very large numbers.
-/
def decimalChars (decimal : Decimal) : List Char :=
  let digits := naturalChars decimal.digits
  let leading := decimal.exponent + digits.length - 1
  if leastPositional ≤ leading ∧ leading < leastScaled then
    if 0 ≤ decimal.exponent then
      digits ++ List.replicate decimal.exponent.toNat '0' ++ ['.', '0']
    else if 0 ≤ leading then
      let whole := leading.toNat + 1
      digits.take whole ++ '.' :: digits.drop whole
    else
      '0' :: '.' :: (List.replicate (-leading - 1).toNat '0' ++ digits)
  else
    let mantissa :=
      match digits with
      | first :: second :: rest => first :: '.' :: second :: rest
      | single => single
    let sign := if leading < 0 then ['-'] else ['+']
    mantissa ++ 'e' :: (sign ++ naturalChars leading.natAbs)

/-- A double in the shortest form that reads back. -/
def realChars (value : Float) : List Char :=
  let bits := value.toBits
  let magnitude :=
    match Decimal.Binary.ofBits? bits with
    | none => ['0', '.', '0']
    | some binary => decimalChars binary.shortest
  if bits.toNat < negativeCount then magnitude else '-' :: magnitude

/-- The written form of a number. -/
def chars : Number → List Char
  | .natural value => naturalChars value.toNat
  | .negative below => '-' :: naturalChars (below.val + 1)
  | .real value => realChars value

/-- A double divided by a power of ten, in steps that a double can hold. -/
def scaleDown (value : Float) (places : Nat) : Float :=
  if places ≤ 308 then
    value / Float.ofScientific 1 false places
  else if value == 0.0 then
    value
  else
    scaleDown (value / Float.ofScientific 1 false 308) (places - 308)
  termination_by places

/-- A natural number times a power of ten, if it is in the range of a double. -/
def scaled? (significand : Nat) (exponent : Int) : Option Float :=
  let value := Float.ofNat significand
  if exponent < 0 then
    some (scaleDown value exponent.natAbs)
  else if 308 < exponent then
    if value == 0.0 then some value else none
  else
    let result := value * Float.ofScientific 1 false exponent.toNat
    if result.isInf then none else some result

end Number

/--
How much of a numeral has been read.  The names say what came last; a numeral
may end only after `zero`, `whole`, `fraction` and `exponent`.
-/
inductive Numeral.Phase where
  | sign
  | zero
  | whole
  | point
  | fraction
  | mark
  | markSign
  | exponent
  deriving Repr, DecidableEq

/-- A numeral as far as it has been read, its digits newest first. -/
structure Numeral where
  negative : Bool
  phase : Numeral.Phase
  whole : List Nat
  fraction : List Nat
  down : Bool
  exponent : List Nat
  deriving Repr, DecidableEq

namespace Numeral

/-- What a further character does to a numeral. -/
inductive Move where
  /-- It belongs to the numeral. -/
  | grows (numeral : Numeral)
  /-- The numeral is complete without it. -/
  | ends
  /-- No numeral goes on like this. -/
  | breaks

/-- The value of a decimal digit. -/
def digit? (c : Char) : Option Nat :=
  if c.isDigit then some (c.toNat - '0'.toNat) else none

/-- The numeral begun by a character, if one can begin with it. -/
def begin? (c : Char) : Option Numeral :=
  if c = '-' then
    some ⟨true, .sign, [], [], false, []⟩
  else
    match digit? c with
    | some 0 => some ⟨false, .zero, [0], [], false, []⟩
    | some digit => some ⟨false, .whole, [digit], [], false, []⟩
    | none => none

/-- A numeral after its whole part: a point, an exponent mark, or the end. -/
def afterWhole (numeral : Numeral) (c : Char) : Move :=
  if c = '.' then .grows { numeral with phase := .point }
  else if c = 'e' ∨ c = 'E' then .grows { numeral with phase := .mark }
  else .ends

/-- Read one more character of a numeral. -/
def move (numeral : Numeral) (c : Char) : Move :=
  match numeral.phase, digit? c with
  | .sign, some 0 => .grows { numeral with phase := .zero, whole := [0] }
  | .sign, some digit => .grows { numeral with phase := .whole, whole := [digit] }
  | .sign, none => .breaks
  | .zero, some _ => .breaks
  | .zero, none => numeral.afterWhole c
  | .whole, some digit => .grows { numeral with whole := digit :: numeral.whole }
  | .whole, none => numeral.afterWhole c
  | .point, some digit => .grows { numeral with phase := .fraction, fraction := [digit] }
  | .point, none => .breaks
  | .fraction, some digit => .grows { numeral with fraction := digit :: numeral.fraction }
  | .fraction, none =>
      if c = 'e' ∨ c = 'E' then .grows { numeral with phase := .mark } else .ends
  | .mark, some digit => .grows { numeral with phase := .exponent, exponent := [digit] }
  | .mark, none =>
      if c = '+' then .grows { numeral with phase := .markSign }
      else if c = '-' then .grows { numeral with phase := .markSign, down := true }
      else .breaks
  | .markSign, some digit => .grows { numeral with phase := .exponent, exponent := [digit] }
  | .markSign, none => .breaks
  | .exponent, some digit => .grows { numeral with exponent := digit :: numeral.exponent }
  | .exponent, none => .ends

/-- A numeral may end here. -/
def complete (numeral : Numeral) : Bool :=
  match numeral.phase with
  | .zero | .whole | .fraction | .exponent => true
  | .sign | .point | .mark | .markSign => false

/--
Append digits to a number as long as it stays within a bound: the number
reached and how many digits were left over.
-/
def absorb (bound : Nat) (value : Nat) : List Nat → Nat × Nat
  | [] => (value, 0)
  | digit :: rest =>
      let next := value * 10 + digit
      if bound < next then (value, rest.length + 1) else absorb bound next rest

/-- The greatest significand; digits beyond it only move the exponent. -/
def significandBound : Nat := UInt64.size - 1

/-- The greatest exponent that is read as a number. -/
def exponentBound : Nat := 0x7FFFFFFF

/-- A double with the numeral's sign. -/
def signed (numeral : Numeral) (value : Float) : Number :=
  .real (if numeral.negative then -value else value)

/-- The integer that a numeral without fraction and exponent stands for. -/
def integer (numeral : Numeral) (significand : Nat) : Number :=
  if numeral.negative then
    if h : 0 < significand ∧ significand ≤ negativeCount then
      .negative ⟨significand - 1, by omega⟩
    else
      .real (-(Float.ofNat significand))
  else
    .natural (UInt64.ofNat significand)

/--
The number that a complete numeral stands for, if it is in range.  The first
digits make a significand of 64 bits, the others count as places of the
exponent, and the significand is scaled by one power of ten.
-/
def value? (numeral : Numeral) : Option Number :=
  let (whole, dropped) := absorb significandBound 0 numeral.whole.reverse
  if numeral.fraction.isEmpty ∧ numeral.exponent.isEmpty ∧ dropped = 0 then
    some (numeral.integer whole)
  else
    let fraction := numeral.fraction.reverse
    let (significand, unread) := absorb significandBound whole fraction
    let places : Int := (dropped : Int) - ((fraction.length : Int) - unread)
    let (exponent, excess) := absorb exponentBound 0 numeral.exponent.reverse
    if excess = 0 then
      let exponent : Int := if numeral.down then -exponent else exponent
      (Number.scaled? significand (places + exponent)).map numeral.signed
    else if significand = 0 ∨ numeral.down then
      some (numeral.signed 0.0)
    else
      none

end Numeral

end GraphBroker.Json
