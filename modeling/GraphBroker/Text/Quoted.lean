import GraphBroker.Text.Printable

namespace GraphBroker.Text

/-!
# Quoted text in messages

Messages show a text between double quotes, so that its ends and its hidden
characters can be seen: a quote and a backslash are escaped, the usual controls
have short names, and any other character that is not printable is written with
its code point.
-/

/-- The lower-case hexadecimal digits of a number, without leading zeros. -/
def hexDigits (value : Nat) : List Char :=
  Nat.toDigits 16 value

/-- One character inside a quoted text. -/
def quoteChar (c : Char) : List Char :=
  if c = '\x00' then ['\\', '0']
  else if c = '\t' then ['\\', 't']
  else if c = '\r' then ['\\', 'r']
  else if c = '\n' then ['\\', 'n']
  else if c = '"' then ['\\', '"']
  else if c = '\\' then ['\\', '\\']
  else if isPrintable c then [c]
  else '\\' :: 'u' :: '\x7b' :: (hexDigits c.toNat ++ ['\x7d'])

/-- A text between double quotes, with what would mislead the eye escaped. -/
def quoted (text : String) : String :=
  String.ofList ('"' :: (text.toList.flatMap quoteChar ++ ['"']))

end GraphBroker.Text
