import GraphBroker.Text.Percent
import GraphBroker.Text.Utf8

namespace GraphBroker.Remote.Url

/-!
# Which bytes a part of a URL keeps

Every part of a URL has a set of bytes that stand for themselves; all others are
percent-encoded.
-/

/-- Printable ASCII, the space included. -/
def isVisible (byte : UInt8) : Bool :=
  0x20 ≤ byte && byte < 0x7F

/-- The byte of an ASCII character. -/
def byteOf (c : Char) : UInt8 :=
  UInt8.ofNat c.toNat

/-- Visible bytes except those of some characters. -/
def visibleExcept (excluded : List Char) (byte : UInt8) : Bool :=
  isVisible byte && !(excluded.map byteOf).contains byte

/-- Bytes that a fragment keeps. -/
def keptInFragment : UInt8 → Bool :=
  visibleExcept [' ', '"', '<', '>', '\x60']

/-- Bytes that a query keeps. -/
def keptInQuery (special : Bool) : UInt8 → Bool :=
  visibleExcept ([' ', '"', '#', '<', '>'] ++ if special then ['\''] else [])

/-- Bytes that a path keeps. -/
def keptInPath : UInt8 → Bool :=
  visibleExcept [' ', '"', '#', '<', '>', '?', '\x60', '\x7b', '\x7d']

/-- Bytes that a segment keeps when it is added to a path. -/
def keptInSegment (special : Bool) : UInt8 → Bool :=
  visibleExcept ([' ', '"', '#', '<', '>', '?', '\x60', '\x7b', '\x7d', '/', '%']
    ++ if special then ['\\'] else [])

/-- Bytes that a login keeps. -/
def keptInLogin : UInt8 → Bool :=
  visibleExcept [' ', '"', '#', '<', '>', '?', '\x60', '\x7b', '\x7d', '/', ':', ';', '=', '@', '[',
    '\\', ']', '^', '|']

/-- Bytes that the host of a URL keeps that is not special. -/
def keptInHost (byte : UInt8) : Bool :=
  0x1F < byte && byte < 0x7F

/-- Characters percent-encoded outside a set of bytes. -/
def encodeChars (kept : UInt8 → Bool) (chars : List Char) : String :=
  String.ofList (Text.Percent.encode kept (Text.Utf8.encodeChars chars))

/-- The text behind percent-encoded characters, if it is one. -/
def decodeChars? (chars : List Char) : Option String :=
  Text.Utf8.decode? (Text.Percent.decode (Text.Utf8.encodeChars chars))

end GraphBroker.Remote.Url
