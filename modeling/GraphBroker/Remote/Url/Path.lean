import GraphBroker.Remote.Url.Encoding
import GraphBroker.Remote.Url.Scheme
import GraphBroker.Text.Split

namespace GraphBroker.Remote.Url

/-!
# Paths

A path is a list of segments.  A segment `.` names the place itself and `..` the
one before it, be their dots percent-encoded or not.  The letter of a drive is
never left by `..`, and the path of a file that begins with one is written with
a colon after it.
-/

/-- A segment that names the segment before it. -/
def isDoubleDot (segment : String) : Bool :=
  let lower := segment.toList.map Char.toLower
  [".".toList, "%2e".toList].any fun first =>
    [".".toList, "%2e".toList].any fun second => lower == first ++ second

/-- A segment that names itself. -/
def isSingleDot (segment : String) : Bool :=
  let lower := segment.toList.map Char.toLower
  lower == ".".toList || lower == "%2e".toList

/-- The letter of a drive. -/
def isDrive (chars : List Char) : Bool :=
  match chars with
  | [letter, sign] => letter.isAlpha && (sign == ':' || sign == '|')
  | _ => false

/-- A segment that is the letter of a drive up to its end or to a backslash. -/
def beginsAsDrive (segment : String) : Bool :=
  isDrive (segment.toList.takeWhile (· != '\\'))

/-- The letter of a drive with a colon after it. -/
def withColon (segment : String) : String :=
  String.ofList (segment.toList.take 1 ++ [':'])

/-- Cut a segment after the letter of a drive and its colon, if a line break was dropped there. -/
def cutAtDrive? (chars : List Char) : Option (String × List Char) :=
  match chars.dropWhile isLineBreak with
  | letter :: afterLetter =>
      match afterLetter.dropWhile isLineBreak with
      | ':' :: next :: rest =>
          if letter.isAlpha && isLineBreak next && !(withoutBreaks rest).isEmpty then
            some (String.ofList [letter, ':'], withoutBreaks rest)
          else
            none
      | _ => none
  | [] => none

/-- A path as far as it has been read. -/
structure Trail where
  /-- The segments so far, newest first. -/
  before : List String
  /-- The path of a file has begun with the letter of a drive. -/
  onDrive : Bool
  deriving Repr, DecidableEq

namespace Trail

/-- The segments without the newest one, unless it is the letter of a drive. -/
def parent (before : List String) : List String :=
  match before with
  | [] => []
  | newest :: earlier => if beginsAsDrive newest then before else earlier

/-- Go on by one segment, after which the path may end. -/
def step (kept : UInt8 → Bool) (file : Bool) (ends : Bool) (trail : Trail) (chars : List Char) :
    Trail :=
  let segment := encodeChars kept (withoutBreaks chars)
  let stay (before : List String) : Trail :=
    { trail with before := if ends then "" :: before else before }
  if isDoubleDot segment then
    stay (parent trail.before)
  else if isSingleDot segment then
    stay trail.before
  else if file && trail.before.isEmpty then
    match cutAtDrive? chars with
    | some (drive, rest) => { trail with before := [encodeChars kept rest, drive] }
    | none =>
        if isDrive segment.toList then ⟨[withColon segment], true⟩
        else { trail with before := [segment] }
  else
    { trail with before := segment :: trail.before }

/-- Go on by all segments of a path. -/
def walk (kept : UInt8 → Bool) (file : Bool) (trail : Trail) : List (List Char) → Trail
  | [] => trail
  | [chars] => trail.step kept file true chars
  | chars :: rest => (trail.step kept file false chars).walk kept file rest

/-- The segments in their order. -/
def segments (trail : Trail) : List String :=
  trail.before.reverse

end Trail

/-- Characters without a slash in front. -/
def withoutSlash (special : Bool) (chars : List Char) : List Char :=
  match chars with
  | first :: rest => if isSlash special first then rest else chars
  | [] => []

/-- The path that some characters are, which may begin with a slash. -/
def segments (special : Bool) (chars : List Char) : List String :=
  (Trail.walk keptInPath false ⟨[], false⟩
    (Text.splitChars (isSlash special) (withoutSlash special chars))).segments

/-- The trail of a file through all slashes. -/
def fileTrail (chars : List Char) : Trail :=
  Trail.walk keptInPath true ⟨[], false⟩ (Text.splitChars (isSlash true) chars)

/-- The path of a file: nothing stands between its first slashes. -/
def Trail.filePath (trail : Trail) : List String :=
  match trail.segments.dropWhile (· == "") with
  | [] => [""]
  | path => path

/-- The path without an empty segment at its end, unless it is the only one. -/
def popIfEmpty (path : List String) : List String :=
  if 2 ≤ path.length ∧ path.getLast? = some "" then path.dropLast else path

/--
Add a name to a path as one segment.  The names `.` and `..` add nothing; line
breaks are dropped, and what is left may then still be one of these.
-/
def pushSegment (scheme : String) (path : List String) (name : String) : List String :=
  if name = "." ∨ name = ".." then
    path
  else
    let before := if path = [""] then [] else path.reverse
    (Trail.step (keptInSegment (isSpecial scheme)) (scheme == "file") true ⟨before, false⟩
      name.toList).segments

end GraphBroker.Remote.Url
