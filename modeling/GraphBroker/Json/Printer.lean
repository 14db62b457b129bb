import GraphBroker.Json.Document

namespace GraphBroker.Json

/-!
# Writing JSON

The written form has no blanks.  Inside a text only the quote, the backslash
and the control characters are escaped.
-/

/-- The lower-case hexadecimal digit of a number below sixteen. -/
def lowerHexDigit (digit : Nat) : Char :=
  if digit < 10 then Char.ofNat ('0'.toNat + digit) else Char.ofNat ('a'.toNat + (digit - 10))

/-- One character inside a written text. -/
def escapeChar (c : Char) : List Char :=
  if c = '"' then ['\\', '"']
  else if c = '\\' then ['\\', '\\']
  else if c.toNat < 0x20 then
    if c = '\x08' then ['\\', 'b']
    else if c = '\t' then ['\\', 't']
    else if c = '\n' then ['\\', 'n']
    else if c = '\x0c' then ['\\', 'f']
    else if c = '\r' then ['\\', 'r']
    else ['\\', 'u', '0', '0', lowerHexDigit (c.toNat / 16), lowerHexDigit (c.toNat % 16)]
  else [c]

/-- A text between its quotes. -/
def textChars (text : String) : List Char :=
  '"' :: (text.toList.flatMap escapeChar ++ ['"'])

namespace Document

mutual

/-- Write a document after the characters already written, which come newest first. -/
def writeOnto (written : List Char) : Document → List Char
  | .null => 'l' :: 'l' :: 'u' :: 'n' :: written
  | .flag true => 'e' :: 'u' :: 'r' :: 't' :: written
  | .flag false => 'e' :: 's' :: 'l' :: 'a' :: 'f' :: written
  | .number value => value.chars.reverseAux written
  | .text value => (textChars value).reverseAux written
  | .list items _ => ']' :: writeItemsOnto ('[' :: written) true items
  | .table members _ => '\x7d' :: writeMembersOnto ('\x7b' :: written) true members
  | .unreadable _ => written

/-- Write items, with a comma before each but the first. -/
def writeItemsOnto (written : List Char) (first : Bool) : List Document → List Char
  | [] => written
  | item :: rest =>
      let separated := if first then written else ',' :: written
      writeItemsOnto (writeOnto separated item) false rest

/-- Write members, with a comma before each but the first. -/
def writeMembersOnto
    (written : List Char)
    (first : Bool) :
    List (Option String × Document) → List Char
  | [] => written
  | (key, value) :: rest =>
      let separated := if first then written else ',' :: written
      let keyed := ':' :: (textChars (key.getD "")).reverseAux separated
      writeMembersOnto (writeOnto keyed value) false rest

end

/-- The characters of a document's written form. -/
def chars (document : Document) : List Char :=
  (writeOnto [] document).reverse

/-- The written form of a document. -/
def print (document : Document) : String :=
  String.ofList document.chars

end Document

/-- The written form of a value. -/
def print (value : Json) : String :=
  (Document.ofJson value).print

end GraphBroker.Json
