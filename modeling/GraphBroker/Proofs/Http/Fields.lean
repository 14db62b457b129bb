import GraphBroker.Gateway.MediaType
import GraphBroker.Http.Message
import GraphBroker.Proofs.Text.Utf8
import Mathlib.Data.List.TakeWhile

namespace GraphBroker.Http

open Text Gateway.MediaType

/-!
# Fields and the parameters of their values

The value of a field may be followed by parameters: after each semicolon there is a name,
an equals sign and a text, which is a token or stands in quotes.  What is written as a
parameter is read back, if it is a token or holds nothing that has a meaning in quotes.
-/

/-- A value and the parameters after it. -/
structure Labelled where
  value : String
  parameters : List (String × String)
  deriving DecidableEq

/-- White space that may stand around a value or a parameter. -/
def isPad (c : Char) : Bool :=
  c == ' ' || c == '\t'

/-- A text up to a closing quote.  A backslash stands before a character that is meant as it is. -/
def quoted? : List Char → Option (List Char × List Char)
  | [] => none
  | '"' :: rest => some ([], rest)
  | '\\' :: c :: rest => (quoted? rest).map fun (text, after) => (c :: text, after)
  | c :: rest => (quoted? rest).map fun (text, after) => (c :: text, after)

/-- The text of a parameter and what comes after it. -/
def parameterText? : List Char → Option (List Char × List Char)
  | '"' :: rest => quoted? rest
  | chars =>
      let token := chars.takeWhile isTokenChar
      if token.isEmpty then none else some (token, chars.drop token.length)

/-- Parameters, at most so many of them. -/
def parameters? : Nat → List Char → Option (List (String × String))
  | _, [] => some []
  | 0, _ => none
  | fuel + 1, c :: rest =>
      if c = ';' then
        let parameter := rest.dropWhile isPad
        let name := parameter.takeWhile isTokenChar
        match parameter.drop name.length with
        | '=' :: written => do
            let (text, after) ← parameterText? written
            let others ← parameters? fuel (after.dropWhile isPad)
            some ((String.ofList (name.map Char.toLower), String.ofList text) :: others)
        | _ => none
      else
        none

/-- The value and the parameters that the bytes of a field say. -/
def labelled? (bytes : List UInt8) : Option Labelled := do
  let text ← Utf8.decode? bytes
  let value := text.toList.takeWhile fun c => c != ';' && !isPad c
  let rest := (text.toList.drop value.length).dropWhile isPad
  let parameters ← parameters? rest.length rest
  some ⟨String.ofList (value.map Char.toLower), parameters⟩

/-- A text that needs no quotes around it. -/
def IsToken (text : String) : Prop :=
  text ≠ "" ∧ ∀ c ∈ text.toList, isTokenChar c = true

instance (text : String) : Decidable (IsToken text) :=
  @instDecidableAnd _ _ _ (List.decidableBAll (fun c => isTokenChar c = true) text.toList)

/-- A text that can stand in quotes as it is. -/
def IsQuotable (text : String) : Prop :=
  ∀ c ∈ text.toList, c ≠ '"' ∧ c ≠ '\\'

instance (text : String) : Decidable (IsQuotable text) :=
  List.decidableBAll (fun c => c ≠ '"' ∧ c ≠ '\\') text.toList

theorem isPad_of_isTokenChar
    {c : Char}
    (token : isTokenChar c = true) :
    isPad c = false := by
  apply Bool.eq_false_iff.mpr
  intro pad
  simp only [isPad, Bool.or_eq_true, beq_iff_eq] at pad
  rcases pad with rfl | rfl <;> exact absurd token (by decide)

theorem ne_of_isTokenChar
    {c other : Char}
    (token : isTokenChar c = true)
    (noToken : isTokenChar other = false) :
    c ≠ other := by
  rintro rfl
  rw [token] at noToken
  cases noToken

/-! ## Texts of parameters -/

theorem quoted?_append
    {chars : List Char}
    (plain : ∀ c ∈ chars, c ≠ '"' ∧ c ≠ '\\')
    (rest : List Char) :
    quoted? (chars ++ '"' :: rest) = some (chars, rest) := by
  induction chars with
  | nil =>
      rfl
  | cons c others inductionHypothesis =>
      obtain ⟨noQuote, noBackslash⟩ := plain c List.mem_cons_self
      have later := inductionHypothesis fun other member => plain other (.tail _ member)
      rw [List.cons_append, quoted?]
      · rw [later]
        rfl
      · exact noQuote
      · intro _ _ same
        exact absurd same noBackslash

/-- A token is read up to its end. -/
theorem parameterText?_token
    {text : String}
    (token : IsToken text) :
    parameterText? text.toList = some (text.toList, []) := by
  obtain ⟨nonempty, solid⟩ := token
  have whole : text.toList.takeWhile isTokenChar = text.toList :=
    List.takeWhile_eq_self_iff.mpr solid
  rw [parameterText?]
  · simp [whole, nonempty]
  · intro rest quote
    exact ne_of_isTokenChar (solid '"' (by simp [quote])) (by decide) rfl

/-- A text in quotes is read up to the closing quote. -/
theorem parameterText?_quoted
    {text : String}
    (quotable : IsQuotable text) :
    parameterText? ("\"" ++ text ++ "\"").toList = some (text.toList, []) := by
  have chars : ("\"" ++ text ++ "\"").toList = '"' :: (text.toList ++ ['"']) := by
    simp
  rw [chars]
  exact quoted?_append quotable []

/-! ## A value with one parameter -/

theorem parameters?_single
    {name written text : String}
    (token : IsToken name)
    (read : parameterText? written.toList = some (text.toList, []))
    (fuel : Nat) :
    parameters? (fuel + 1) (';' :: ' ' :: (name.toList ++ '=' :: written.toList)) =
      some [(String.ofList (name.toList.map Char.toLower), text)] := by
  obtain ⟨nonempty, solid⟩ := token
  obtain ⟨first, others, chars⟩ : ∃ first others, name.toList = first :: others :=
    List.exists_cons_of_ne_nil (by simpa using nonempty)
  have unpadded : (' ' :: (name.toList ++ '=' :: written.toList)).dropWhile isPad =
      name.toList ++ '=' :: written.toList := by
    have solidFirst : isPad first = false := isPad_of_isTokenChar (solid first (by simp [chars]))
    rw [List.dropWhile_cons_of_pos (by decide), chars, List.cons_append,
      List.dropWhile_cons_of_neg (by simp [solidFirst])]
  have named : (name.toList ++ '=' :: written.toList).takeWhile isTokenChar = name.toList := by
    rw [List.takeWhile_append_of_pos solid]
    simp [show isTokenChar '=' = false by decide]
  simp [parameters?, unpadded, named, read]

/-- A value with one parameter is read as it is written. -/
theorem labelled?_single
    (value name : String)
    {written text : String}
    (plain : ∀ c ∈ value.toList, (c != ';' && !isPad c) = true)
    (token : IsToken name)
    (read : parameterText? written.toList = some (text.toList, [])) :
    labelled? (Utf8.encode (value ++ "; " ++ name ++ "=" ++ written)) =
      some
        ⟨String.ofList (value.toList.map Char.toLower),
          [(String.ofList (name.toList.map Char.toLower), text)]⟩ := by
  have chars : (value ++ "; " ++ name ++ "=" ++ written).toList =
      value.toList ++ ';' :: ' ' :: (name.toList ++ '=' :: written.toList) := by
    simp
  have before : (value ++ "; " ++ name ++ "=" ++ written).toList.takeWhile
      (fun c => c != ';' && !isPad c) = value.toList := by
    rw [chars, List.takeWhile_append_of_pos plain]
    simp
  have after : ((value ++ "; " ++ name ++ "=" ++ written).toList.drop value.toList.length).dropWhile
      isPad = ';' :: ' ' :: (name.toList ++ '=' :: written.toList) := by
    rw [chars, List.drop_left]
    rfl
  have single :=
    parameters?_single token read (' ' :: (name.toList ++ '=' :: written.toList)).length
  rw [labelled?, Utf8.decode?_encode]
  simp only [Option.bind_eq_bind, Option.bind_some, before, after, List.length_cons] at single ⊢
  rw [single]
  rfl

/-! ## Fields -/

/-- A field is read as it is written, if white space stands neither before nor after its value. -/
theorem Head.field?_written
    {name : String}
    {value : List UInt8}
    (plain : ':' ∉ name.toList)
    (first : ∀ byte ∈ value.head?, Head.isPadding byte = false)
    (last : ∀ byte ∈ value.getLast?, Head.isPadding byte = false) :
    Head.field? (Utf8.encode (name ++ ": ") ++ value) =
      some (String.ofList (name.toList.map Char.toLower), value) := by
  have colon : (0x3A : UInt8) ∉ Utf8.encode name :=
    fun member => plain (Utf8.mem_of_mem_encode member (by decide))
  have line : Utf8.encode (name ++ ": ") ++ value = Utf8.encode name ++ 0x3A :: 0x20 :: value := by
    rw [Utf8.encode_append, List.append_assoc]
    rfl
  have named : (Utf8.encode name ++ 0x3A :: 0x20 :: value).takeWhile (· != 0x3A) =
      Utf8.encode name := by
    rw [List.takeWhile_append_of_pos fun byte member => by
        simpa using ne_of_mem_of_not_mem member colon]
    simp
  have started : (0x20 :: value).dropWhile Head.isPadding = value := by
    rw [List.dropWhile_cons_of_pos (by decide)]
    cases value with
    | nil =>
        rfl
    | cons byte rest =>
        exact List.dropWhile_cons_of_neg (by simp [first byte rfl])
  have ended : value.reverse.dropWhile Head.isPadding = value.reverse := by
    cases same : value.reverse with
    | nil =>
        rfl
    | cons byte rest =>
        have isLast : value.getLast? = some byte := by simp [List.getLast?_eq_head?_reverse, same]
        exact List.dropWhile_cons_of_neg (by simp [last byte isLast])
  rw [Head.field?, line]
  simp [named, started, ended, Utf8.decode?_encode]

end GraphBroker.Http
