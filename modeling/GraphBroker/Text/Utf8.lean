namespace GraphBroker.Text.Utf8

/-!
# UTF-8

Bytes are read into characters one byte at a time.  A sequence of bytes that
cannot begin or continue a character is read as one hole, as long as it can be
the beginning of some character: this is the division that Unicode recommends
for replacing ill-formed input.  `units` keeps the holes, `decode?` refuses
them, and `decodeLossy` writes U+FFFD for each.
-/

/-- What the next byte of an unfinished character must be. -/
structure Pending where
  /-- The bits collected so far. -/
  code : Nat
  /-- How many bytes are still owed. -/
  owed : Nat
  /-- The least byte that may come next. -/
  low : UInt8
  /-- The greatest byte that may come next. -/
  high : UInt8
  deriving Repr, DecidableEq

/-- A reading in progress: the units found, newest first, and the character begun. -/
structure Reading where
  found : List (Option Char)
  pending : Option Pending
  deriving Repr, DecidableEq

/-- The first byte of a character: a whole character, a beginning, or a hole. -/
def Reading.start (found : List (Option Char)) (byte : UInt8) : Reading :=
  let code := byte.toNat
  if byte < 0x80 then
    ⟨some (Char.ofNat code) :: found, none⟩
  else if byte < 0xC2 then
    ⟨none :: found, none⟩
  else if byte < 0xE0 then
    ⟨found, some ⟨code - 0xC0, 1, 0x80, 0xBF⟩⟩
  else if byte < 0xF0 then
    let low := if byte == 0xE0 then 0xA0 else 0x80
    let high := if byte == 0xED then 0x9F else 0xBF
    ⟨found, some ⟨code - 0xE0, 2, low, high⟩⟩
  else if byte < 0xF5 then
    let low := if byte == 0xF0 then 0x90 else 0x80
    let high := if byte == 0xF4 then 0x8F else 0xBF
    ⟨found, some ⟨code - 0xF0, 3, low, high⟩⟩
  else
    ⟨none :: found, none⟩

/-- Read one more byte.  A byte that does not continue the character begun ends it as a hole. -/
def Reading.step (reading : Reading) (byte : UInt8) : Reading :=
  match reading.pending with
  | none => Reading.start reading.found byte
  | some pending =>
      if pending.low ≤ byte && byte ≤ pending.high then
        let code := pending.code * 64 + (byte.toNat - 0x80)
        if pending.owed ≤ 1 then
          ⟨some (Char.ofNat code) :: reading.found, none⟩
        else
          ⟨reading.found, some ⟨code, pending.owed - 1, 0x80, 0xBF⟩⟩
      else
        Reading.start (none :: reading.found) byte

/-- The units read once the input has ended; an unfinished character is a hole. -/
def Reading.finish (reading : Reading) : List (Option Char) :=
  match reading.pending with
  | none => reading.found.reverse
  | some _ => (none :: reading.found).reverse

/-- The characters of a byte sequence, with `none` for each ill-formed stretch. -/
def units (bytes : List UInt8) : List (Option Char) :=
  (bytes.foldl Reading.step ⟨[], none⟩).finish

/-- The text that bytes encode, if they are well-formed. -/
def decode? (bytes : List UInt8) : Option String :=
  ((units bytes).mapM id).map String.ofList

/-- A stretch of bytes that is no text. -/
structure Flaw where
  start : Nat
  /-- How long it is, unless the input ends in it. -/
  length : Option Nat
  deriving Repr, DecidableEq

/-- The first flaw in bytes, after so many of them and with a character begun at some place. -/
def flawFrom? (index : Nat) (start : Nat) (pending : Option Pending) : List UInt8 → Option Flaw
  | [] => pending.map fun _ => ⟨start, none⟩
  | byte :: rest =>
      let start := if pending.isSome then start else index
      let reading := Reading.step ⟨[], pending⟩ byte
      if none ∈ reading.found then some ⟨start, some (max 1 (index - start))⟩
      else flawFrom? (index + 1) start reading.pending rest

/-- The first flaw in bytes. -/
def flaw? (bytes : List UInt8) : Option Flaw :=
  flawFrom? 0 0 none bytes

/-- The words for a flaw. -/
def Flaw.message (flaw : Flaw) : String :=
  match flaw.length with
  | some length =>
      "invalid utf-8 sequence of " ++ toString length ++ " bytes from index " ++ toString flaw.start
  | none => "incomplete utf-8 byte sequence from index " ++ toString flaw.start

/-- The text that bytes encode, with U+FFFD for each ill-formed stretch. -/
def decodeLossy (bytes : List UInt8) : String :=
  String.ofList ((units bytes).map fun unit => unit.getD '\uFFFD')

/-- The bytes of some characters. -/
def encodeChars (chars : List Char) : List UInt8 :=
  chars.flatMap String.utf8EncodeChar

/-- The bytes of a text. -/
def encode (text : String) : List UInt8 :=
  encodeChars text.toList

end GraphBroker.Text.Utf8
