namespace GraphBroker.Text.Base64

/-!
# Base64

The standard alphabet with padding.  Reading accepts exactly what writing
produces: the length is a multiple of four, padding stands only at the end, and
the bits that padding leaves over are zero.
-/

/-- The character of a six-bit digit. -/
def digitChar (digit : Nat) : Char :=
  if digit < 26 then Char.ofNat ('A'.toNat + digit)
  else if digit < 52 then Char.ofNat ('a'.toNat + (digit - 26))
  else if digit < 62 then Char.ofNat ('0'.toNat + (digit - 52))
  else if digit == 62 then '+'
  else '/'

/-- The six-bit digit that a character stands for. -/
def digitValue? (c : Char) : Option Nat :=
  if 'A' ≤ c && c ≤ 'Z' then some (c.toNat - 'A'.toNat)
  else if 'a' ≤ c && c ≤ 'z' then some (c.toNat - 'a'.toNat + 26)
  else if '0' ≤ c && c ≤ '9' then some (c.toNat - '0'.toNat + 52)
  else if c == '+' then some 62
  else if c == '/' then some 63
  else none

/-- Write the bytes after the characters already written, which come newest first. -/
def encodeOnto (written : List Char) : List UInt8 → List Char
  | [] => written.reverse
  | [a] =>
      let a := a.toNat
      ('=' :: '=' :: digitChar (a % 4 * 16) :: digitChar (a / 4) :: written).reverse
  | [a, b] =>
      let a := a.toNat
      let b := b.toNat
      ('=' :: digitChar (b % 16 * 4) :: digitChar (a % 4 * 16 + b / 16)
        :: digitChar (a / 4) :: written).reverse
  | a :: b :: c :: rest =>
      let x := a.toNat
      let y := b.toNat
      let z := c.toNat
      encodeOnto
        (digitChar (z % 64) :: digitChar (y % 16 * 4 + z / 64)
          :: digitChar (x % 4 * 16 + y / 16) :: digitChar (x / 4) :: written)
        rest

/-- The written form of a byte sequence. -/
def encode (bytes : List UInt8) : String :=
  String.ofList (encodeOnto [] bytes)

/-- Read the groups of four that follow the bytes already found, which come newest first. -/
def decodeOnto? (found : List UInt8) : List Char → Option (List UInt8)
  | [] => some found.reverse
  | [a, b, '=', '='] => do
      let a ← digitValue? a
      let b ← digitValue? b
      if b % 16 == 0 then
        some (UInt8.ofNat (a * 4 + b / 16) :: found).reverse
      else
        none
  | [a, b, c, '='] => do
      let a ← digitValue? a
      let b ← digitValue? b
      let c ← digitValue? c
      if c % 4 == 0 then
        some (UInt8.ofNat (b % 16 * 16 + c / 4) :: UInt8.ofNat (a * 4 + b / 16) :: found).reverse
      else
        none
  | a :: b :: c :: d :: rest =>
      match digitValue? a, digitValue? b, digitValue? c, digitValue? d with
      | some a, some b, some c, some d =>
          decodeOnto?
            (UInt8.ofNat (c % 4 * 64 + d) :: UInt8.ofNat (b % 16 * 16 + c / 4)
              :: UInt8.ofNat (a * 4 + b / 16) :: found)
            rest
      | _, _, _, _ => none
  | _ => none

/-- The bytes that a text stands for, if it is a written form. -/
def decode? (text : String) : Option (List UInt8) :=
  decodeOnto? [] text.toList

end GraphBroker.Text.Base64
