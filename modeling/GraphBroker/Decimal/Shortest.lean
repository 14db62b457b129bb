namespace GraphBroker

/-!
# The shortest decimal that reads back

A binary floating-point number stands for every real that rounds to it.  Its
shortest decimal is the decimal with the fewest digits among those reals, and
the nearest to the number where several have that many.  All arithmetic is
exact: a number is a mantissa times a power of two, and a candidate is compared
with the two ends of the interval after clearing denominators.
-/

/-- A positive decimal: `digits` times ten to the `exponent`. -/
structure Decimal where
  digits : Nat
  exponent : Int
  deriving Repr, DecidableEq

namespace Decimal

/-- A positive binary number: `mantissa` times two to the `exponent`. -/
structure Binary where
  mantissa : Nat
  exponent : Int
  deriving Repr, DecidableEq

/-- The least mantissa of a double with all its digits. -/
def Binary.leastFull : Nat := 0x10000000000000

/-- The magnitude held by the bits of a double, or nothing for zero. -/
def Binary.ofBits? (bits : UInt64) : Option Binary :=
  let fraction : Nat := bits.toNat % leastFull
  let field : Nat := bits.toNat / leastFull % 0x800
  if field = 0 then
    if fraction = 0 then none else some ⟨fraction, -1074⟩
  else
    some ⟨leastFull + fraction, (field : Int) - 1075⟩

/--
The reals that round to a number, in quarters of its last place: the lower and
the upper end, the number itself, and whether the ends belong to it.
-/
structure Interval where
  lower : Nat
  centre : Nat
  upper : Nat
  closed : Bool
  deriving Repr, DecidableEq

/-- The interval of a double.  Below a power of two the lower half is half as wide. -/
def Binary.interval (number : Binary) : Interval :=
  let narrow := number.mantissa = leastFull ∧ -1074 < number.exponent
  { lower := 4 * number.mantissa - (if narrow then 1 else 2)
    centre := 4 * number.mantissa
    upper := 4 * number.mantissa + 2
    closed := number.mantissa % 2 = 0 }

/-- The power of ten of the first digit of `numerator / denominator`. -/
def leadingExponent (numerator denominator : Nat) : Int :=
  if denominator ≤ numerator then
    ((Nat.toDigits 10 (numerator / denominator)).length : Int) - 1
  else
    -((Nat.toDigits 10 ((denominator - 1) / numerator)).length : Int)

/-- Remove zeros at the end, as often as `fuel` allows. -/
def stripZeros : Nat → Decimal → Decimal
  | 0, decimal => decimal
  | fuel + 1, decimal =>
      if decimal.digits % 10 = 0 ∧ decimal.digits ≠ 0 then
        stripZeros fuel ⟨decimal.digits / 10, decimal.exponent + 1⟩
      else
        decimal

/-- The candidate with digits `digits` on the grid of `10 ^ exponent` lies in the interval. -/
def Interval.holds (interval : Interval) (scale denominator : Nat) (candidate : Nat) : Bool :=
  let low := interval.lower * scale
  let high := interval.upper * scale
  let point := candidate * denominator
  if interval.closed then low ≤ point && point ≤ high else low < point && point < high

/--
The best candidate on one grid: of the two multiples of the grid's step around
the number, those in the interval, the nearer one if both are, and the even one
of two equally near.
-/
def Interval.candidate? (interval : Interval) (scale denominator : Nat) : Option Nat :=
  let below := interval.centre * scale / denominator
  let above := below + 1
  match interval.holds scale denominator below, interval.holds scale denominator above with
  | false, false => none
  | true, false => some below
  | false, true => some above
  | true, true =>
      let gapBelow := interval.centre * scale - below * denominator
      let gapAbove := above * denominator - interval.centre * scale
      if gapBelow < gapAbove then some below
      else if gapAbove < gapBelow then some above
      else if below % 2 = 0 then some below
      else some above

/-- Search the grids from `count` digits on, one digit more at a time. -/
def Binary.search (number : Binary) (leading : Int) : Nat → Nat → Decimal
  | 0, _ => ⟨0, 0⟩
  | fuel + 1, count =>
      let step := leading - (count : Int) + 1
      let quarter := number.exponent - 2
      let scale := Nat.pow 2 quarter.toNat * Nat.pow 10 (-step).toNat
      let denominator := Nat.pow 2 (-quarter).toNat * Nat.pow 10 step.toNat
      match number.interval.candidate? scale denominator with
      | some digits => stripZeros 17 ⟨digits, step⟩
      | none => Binary.search number leading fuel (count + 1)

/-- The shortest decimal of a positive double.  Seventeen digits always suffice. -/
def Binary.shortest (number : Binary) : Decimal :=
  let leading :=
    leadingExponent (number.mantissa * Nat.pow 2 number.exponent.toNat)
      (Nat.pow 2 (-number.exponent).toNat)
  number.search leading 17 1

end Decimal

end GraphBroker
