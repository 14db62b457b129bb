import GraphBroker.Json.Number

namespace GraphBroker.Json

/-!
# JSON tokens

Characters are gathered into tokens one at a time.  Where no token can begin or
go on, a `stray` token ends the sequence.  The input may have holes, where its
bytes were no UTF-8; a hole is harmless inside a text that nobody reads.
-/

/-- The smallest parts of a JSON text. -/
inductive Token where
  | openList
  | closeList
  | openTable
  | closeTable
  | comma
  | colon
  | null
  | flag (value : Bool)
  /-- A number, if it is in range. -/
  | number (value : Option Number)
  /-- A text, if its escapes and bytes stand for characters. -/
  | text (value : Option String)
  /-- Something that is no token; the last of its sequence. -/
  | stray

/-- What a text's next character belongs to. -/
inductive TextPart where
  /-- The text itself. -/
  | plain
  /-- The character after a backslash. -/
  | escape
  /-- The hexadecimal digits of an escape, so many already read with so much value. -/
  | code (digits : Nat) (value : Nat)

/-- A text as far as it has been read. -/
structure OpenText where
  /-- The characters read, newest first. -/
  chars : List Char
  /-- Everything read so far stands for characters. -/
  sound : Bool
  /-- The first half of a character written as two escapes. -/
  half : Option Nat
  part : TextPart

/-- The token being read. -/
inductive Lexeme where
  | none
  /-- A word, of which these characters are still to come. -/
  | word (token : Token) (rest : List Char)
  | numeral (numeral : Numeral)
  | text (text : OpenText)
  /-- Nothing more, since a stray character has been met. -/
  | stuck

/-- The tokens read so far, newest first, and the one being read. -/
structure Scan where
  tokens : List Token
  lexeme : Lexeme

/-- The four characters that may stand between tokens. -/
def isSpace (c : Char) : Bool :=
  c == ' ' || c == '\t' || c == '\n' || c == '\r'

namespace OpenText

/-- A text of which only the opening quote has been read. -/
def start : OpenText :=
  ⟨[], true, none, .plain⟩

/-- Add a character.  A first half that waits for its second is then without one. -/
def push (text : OpenText) (c : Char) : OpenText :=
  { chars := c :: text.chars, sound := text.sound && text.half.isNone, half := none, part := .plain }

/-- Add something that stands for no character. -/
def spoil (text : OpenText) : OpenText :=
  { text with sound := false, half := none, part := .plain }

/-- Add the value of an escape with four hexadecimal digits. -/
def pushCode (text : OpenText) (value : Nat) : OpenText :=
  match text.half with
  | some high =>
      if 0xDC00 ≤ value ∧ value < 0xE000 then
        { text with
          chars := Char.ofNat (0x10000 + (high - 0xD800) * 0x400 + (value - 0xDC00)) :: text.chars
          half := none
          part := .plain }
      else
        text.spoil
  | none =>
      if 0xD800 ≤ value ∧ value < 0xDC00 then { text with half := some value, part := .plain }
      else if 0xDC00 ≤ value ∧ value < 0xE000 then text.spoil
      else text.push (Char.ofNat value)

/-- The token that a text makes once its closing quote has been read. -/
def close (text : OpenText) : Token :=
  .text (if text.sound && text.half.isNone then some (String.ofList text.chars.reverse) else none)

/-- The character that a letter after a backslash stands for. -/
def escaped? (c : Char) : Option Char :=
  if c = '"' ∨ c = '\\' ∨ c = '/' then some c
  else if c = 'b' then some '\x08'
  else if c = 'f' then some '\x0c'
  else if c = 'n' then some '\n'
  else if c = 'r' then some '\r'
  else if c = 't' then some '\t'
  else none

/-- The value of a hexadecimal digit in either letter case. -/
def hexValue? (c : Char) : Option Nat :=
  if c.isDigit then some (c.toNat - '0'.toNat)
  else if 'a' ≤ c ∧ c ≤ 'f' then some (c.toNat - 'a'.toNat + 10)
  else if 'A' ≤ c ∧ c ≤ 'F' then some (c.toNat - 'A'.toNat + 10)
  else none

end OpenText

namespace Scan

/-- Nothing read yet. -/
def start : Scan :=
  ⟨[], .none⟩

/-- Add a whole token. -/
def emit (scan : Scan) (token : Token) : Scan :=
  ⟨token :: scan.tokens, .none⟩

/-- Give up at a stray character. -/
def strand (scan : Scan) : Scan :=
  ⟨.stray :: scan.tokens, .stuck⟩

/-- Read a character that begins a token or stands between two. -/
def begin (scan : Scan) (c : Char) : Scan :=
  if isSpace c then ⟨scan.tokens, .none⟩
  else if c = '"' then ⟨scan.tokens, .text .start⟩
  else if c = ',' then scan.emit .comma
  else if c = ':' then scan.emit .colon
  else if c = '[' then scan.emit .openList
  else if c = ']' then scan.emit .closeList
  else if c = '\x7b' then scan.emit .openTable
  else if c = '\x7d' then scan.emit .closeTable
  else if c = 'n' then ⟨scan.tokens, .word .null ['u', 'l', 'l']⟩
  else if c = 't' then ⟨scan.tokens, .word (.flag true) ['r', 'u', 'e']⟩
  else if c = 'f' then ⟨scan.tokens, .word (.flag false) ['a', 'l', 's', 'e']⟩
  else
    match Numeral.begin? c with
    | some numeral => ⟨scan.tokens, .numeral numeral⟩
    | none => scan.strand

/-- Read a character of a text, or the quote that closes it. -/
def stepText (scan : Scan) (text : OpenText) (unit : Option Char) : Scan :=
  match text.part, unit with
  | .plain, none => ⟨scan.tokens, .text text.spoil⟩
  | .plain, some c =>
      if c = '"' then scan.emit text.close
      else if c = '\\' then ⟨scan.tokens, .text { text with part := .escape }⟩
      else if c.toNat < 0x20 then scan.strand
      else ⟨scan.tokens, .text (text.push c)⟩
  | .escape, some c =>
      if c = 'u' then ⟨scan.tokens, .text { text with part := .code 0 0 }⟩
      else
        match OpenText.escaped? c with
        | some meant => ⟨scan.tokens, .text (text.push meant)⟩
        | none => scan.strand
  | .code digits value, some c =>
      match OpenText.hexValue? c with
      | some digit =>
          let value := value * 16 + digit
          if digits = 3 then ⟨scan.tokens, .text (text.pushCode value)⟩
          else ⟨scan.tokens, .text { text with part := .code (digits + 1) value }⟩
      | none => scan.strand
  | _, none => scan.strand

/-- Read one more character, or a hole in the input. -/
def step (scan : Scan) (unit : Option Char) : Scan :=
  match scan.lexeme, unit with
  | .stuck, _ => scan
  | .text opened, unit => scan.stepText opened unit
  | _, none => scan.strand
  | .none, some c => scan.begin c
  | .word _ [], some _ => scan.strand
  | .word token [last], some c => if c = last then scan.emit token else scan.strand
  | .word token (next :: rest), some c =>
      if c = next then ⟨scan.tokens, .word token rest⟩ else scan.strand
  | .numeral numeral, some c =>
      match numeral.move c with
      | .grows numeral => ⟨scan.tokens, .numeral numeral⟩
      | .ends => (scan.emit (.number numeral.value?)).begin c
      | .breaks => scan.strand

/-- The tokens once the input has ended.  An unfinished token counts as stray. -/
def finish (scan : Scan) : List Token :=
  match scan.lexeme with
  | .none | .stuck => scan.tokens.reverse
  | .numeral numeral =>
      if numeral.complete then
        (Token.number numeral.value? :: scan.tokens).reverse
      else
        (Token.stray :: scan.tokens).reverse
  | .word _ _ | .text _ => (Token.stray :: scan.tokens).reverse

end Scan

/-- The tokens of a character sequence with holes. -/
def tokens (units : List (Option Char)) : List Token :=
  (units.foldl Scan.step Scan.start).finish

end GraphBroker.Json
