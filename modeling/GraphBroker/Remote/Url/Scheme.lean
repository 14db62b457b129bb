namespace GraphBroker.Remote.Url

/-!
# Schemes and characters of URLs

Some schemes are special: their URLs always have an authority and a path, their
hosts are domain names or addresses, and a backslash is a slash in them.
-/

/-- A character that is dropped wherever it stands. -/
def isLineBreak (c : Char) : Bool :=
  c == '\t' || c == '\n' || c == '\r'

/-- Characters without those that are dropped. -/
def withoutBreaks (chars : List Char) : List Char :=
  chars.filter fun c => !isLineBreak c

/-- The special schemes and their standard ports. -/
def standardPort? (scheme : String) : Option (Option Nat) :=
  [("http", some 80), ("https", some 443), ("ws", some 80), ("wss", some 443), ("ftp", some 21),
   ("file", none)].lookup scheme

/-- A special scheme. -/
def isSpecial (scheme : String) : Bool :=
  (standardPort? scheme).isSome

/-- A character that separates the segments of a path when it is read. -/
def isSlash (special : Bool) (c : Char) : Bool :=
  c == '/' || (special && c == '\\')

/-- Cut a sequence at the first of a character. -/
def cutAt (mark : Char) (chars : List Char) : List Char × Option (List Char) :=
  let before := chars.takeWhile (· != mark)
  match chars.drop before.length with
  | [] => (before, none)
  | _ :: after => (before, some after)

/-- A character of a scheme after its first letter. -/
def isSchemeChar (c : Char) : Bool :=
  c.isAlphanum || c == '+' || c == '-' || c == '.'

/-- Read a scheme and the colon after it, in lower case. -/
def scheme? (chars : List Char) : Option (String × List Char) :=
  match cutAt ':' chars with
  | (before, some rest) =>
      match withoutBreaks before with
      | first :: others =>
          if first.isAlpha && others.all isSchemeChar then
            some (String.ofList ((first :: others).map Char.toLower), rest)
          else
            none
      | [] => none
  | (_, none) => none

end GraphBroker.Remote.Url
