namespace GraphBroker.Text.Percent

/-!
# Percent-encoding

A byte outside the set that a place allows is written `%XX` in upper-case
hexadecimal.  Reading turns every `%XX`, in either letter case, back into its
byte and leaves a percent sign that two hexadecimal digits do not follow as it is.
-/

/-- The upper-case hexadecimal digit of a number below sixteen. -/
def hexDigit (digit : Nat) : Char :=
  if digit < 10 then Char.ofNat ('0'.toNat + digit) else Char.ofNat ('A'.toNat + (digit - 10))

/-- The value of a hexadecimal digit. -/
def hexValue? (byte : UInt8) : Option UInt8 :=
  if 0x30 ≤ byte && byte ≤ 0x39 then some (byte - 0x30)
  else if 0x41 ≤ byte && byte ≤ 0x46 then some (byte - 0x41 + 10)
  else if 0x61 ≤ byte && byte ≤ 0x66 then some (byte - 0x61 + 10)
  else none

/-- One byte, written as it is where `kept` allows it and as `%XX` elsewhere. -/
def encodeByte (kept : UInt8 → Bool) (byte : UInt8) : List Char :=
  if kept byte then
    [Char.ofNat byte.toNat]
  else
    ['%', hexDigit (byte.toNat / 16), hexDigit (byte.toNat % 16)]

/-- A byte sequence with every byte that `kept` refuses written as `%XX`. -/
def encode (kept : UInt8 → Bool) (bytes : List UInt8) : List Char :=
  bytes.flatMap (encodeByte kept)

/-- The bytes behind a percent-encoded sequence. -/
def decode : List UInt8 → List UInt8
  | [] => []
  | [a] => [a]
  | [a, b] => [a, b]
  | a :: b :: c :: rest =>
      if a == 0x25 then
        match hexValue? b, hexValue? c with
        | some high, some low => (high * 16 + low) :: decode rest
        | _, _ => a :: decode (b :: c :: rest)
      else
        a :: decode (b :: c :: rest)

end GraphBroker.Text.Percent
