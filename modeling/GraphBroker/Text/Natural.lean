namespace GraphBroker.Text

/-!
# Natural numbers in digits

A decimal number may have a plus sign.  It is read from the left, and the first
thing wrong with it is what is reported.  Numbers in other bases are digits and
nothing else.
-/

/-- Why a text is no number in range. -/
inductive NaturalError where
  | empty
  | invalidDigit
  | tooLarge
  deriving Repr, DecidableEq

/-- The words for a text that is no number. -/
def NaturalError.message : NaturalError → String
  | .empty => "cannot parse integer from empty string"
  | .invalidDigit => "invalid digit found in string"
  | .tooLarge => "number too large to fit in target type"

/-- Read further digits of a number. -/
def readDigits (bound : Nat) (value : Nat) : List Char → Except NaturalError Nat
  | [] => .ok value
  | c :: rest =>
      if c.isDigit then
        let next := value * 10 + (c.toNat - '0'.toNat)
        if bound < next then .error .tooLarge else readDigits bound next rest
      else
        .error .invalidDigit

/-- Read a number that is at most a bound. -/
def readNatural (bound : Nat) (text : String) : Except NaturalError Nat :=
  match text.toList with
  | [] => .error .empty
  | ['+'] => .error .invalidDigit
  | '+' :: digits => readDigits bound 0 digits
  | digits => readDigits bound 0 digits

/-- The value of a character as a digit of a base up to sixteen. -/
def digitOf? (base : Nat) (c : Char) : Option Nat :=
  let value? :=
    if c.isDigit then some (c.toNat - '0'.toNat)
    else if 'a' ≤ c ∧ c ≤ 'f' then some (c.toNat - 'a'.toNat + 10)
    else if 'A' ≤ c ∧ c ≤ 'F' then some (c.toNat - 'A'.toNat + 10)
    else none
  value?.filter (· < base)

/-- The value of a sequence of digits in a base; no digits are worth nothing. -/
def digitsValue? (base : Nat) (digits : List Char) : Option Nat :=
  digits.foldlM (fun value c => (digitOf? base c).map (value * base + ·)) 0

end GraphBroker.Text
