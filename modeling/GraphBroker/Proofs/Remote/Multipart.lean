import GraphBroker.Proofs.Http.Fields
import GraphBroker.Remote.Wire

namespace GraphBroker.Remote

open Text

/-!
# Reading multipart documents

A multipart document is read line by line.  Its parts stand after lines that begin with two
hyphens and the boundary, and the last part ends at such a line with two more hyphens.  A
part has fields, an empty line and its content, to which the end of its last line does not
belong.

Fields are read back from the document that they are written into, whatever they hold, if
no line of theirs looks like one that divides the parts.
-/

namespace Multipart

/-- A part of a document: the name of its field and the bytes that it holds. -/
structure Part where
  name : String
  content : List UInt8
  deriving Repr, DecidableEq

/-- The lines of some bytes.  Each ends in a carriage return and a line feed, except the last. -/
def lines : List UInt8 → List (List UInt8)
  | [] => [[]]
  | [byte] => [[byte]]
  | first :: second :: rest =>
      if first = Http.carriageReturn ∧ second = Http.lineFeed then
        [] :: lines rest
      else
        (lines (second :: rest)).modifyHead (first :: ·)

/-- The beginning of a line between parts. -/
def delimiter (boundary : String) : List UInt8 :=
  Utf8.encode ("--" ++ boundary)

/-- The beginning of the line after the last part. -/
def closing (boundary : String) : List UInt8 :=
  Utf8.encode ("--" ++ boundary ++ "--")

/-- The lines between those with the boundary.  Nothing may come after the document. -/
def groups? (boundary : String) : List (List UInt8) → Option (List (List (List UInt8)))
  | [] => none
  | line :: rest =>
      if closing boundary <+: line then
        if rest = [[]] then some [[]] else none
      else if delimiter boundary <+: line then
        (groups? boundary rest).map ([] :: ·)
      else
        (groups? boundary rest).map (List.modifyHead (line :: ·))

/-- The part in some lines. -/
def part? (group : List (List UInt8)) : Option Part := do
  let head := group.takeWhile (· ≠ [])
  let content ← (group.drop head.length).tail?
  let fields ← head.mapM Http.Head.field?
  let disposition ← fields.lookup "content-disposition"
  let labelled ← Http.labelled? disposition
  let name ← labelled.parameters.lookup "name"
  if labelled.value = "form-data" then some ⟨name, Http.lineEnd.intercalate content⟩ else none

/-- The parts of a document.  Nothing may come before the first. -/
def parts? (boundary : String) (bytes : List UInt8) : Option (List Part) :=
  match groups? boundary (lines bytes) with
  | some ([] :: groups) => groups.mapM part?
  | _ => none

/-- The parts in the body of a message, whose fields say what the boundary is. -/
def formParts? (message : Http.Message) : Option (List Part) := do
  let contentType ← message.head.fields.lookup "content-type"
  let labelled ← Http.labelled? contentType
  let boundary ← labelled.parameters.lookup "boundary"
  if labelled.value = "multipart/form-data" then parts? boundary message.body else none

/-- A field that can be a part as it is. -/
structure Inert (boundary : String) (field : Form.Field) : Prop where
  quotable : Http.IsQuotable field.name
  oneLine : '\r' ∉ field.name.toList
  undivided : ∀ line ∈ lines (Utf8.encode field.value), ¬ delimiter boundary <+: line

/-! ## Lines -/

/-- There is always a line, though it may be empty. -/
theorem lines_ne_nil
    (bytes : List UInt8) :
    lines bytes ≠ [] := by
  induction bytes using lines.induct with
  | case1 =>
      simp [lines]
  | case2 byte =>
      simp [lines]
  | case3 first second rest ends inductionHypothesis =>
      simp [lines, ends]
  | case4 first second rest goesOn inductionHypothesis =>
      simpa [lines, goesOn] using inductionHypothesis

/-- A line ends where it ends, whatever comes after it. -/
theorem lines_append
    (before after : List UInt8) :
    lines (before ++ Http.lineEnd ++ after) = lines before ++ lines after := by
  induction before using lines.induct with
  | case1 =>
      simp [lines, Http.lineEnd]
  | case2 byte =>
      simp [lines, Http.lineEnd, Http.carriageReturn, Http.lineFeed]
  | case3 first second rest ends inductionHypothesis =>
      simpa [lines, ends] using inductionHypothesis
  | case4 first second rest goesOn inductionHypothesis =>
      obtain ⟨line, others, found⟩ := List.exists_cons_of_ne_nil (lines_ne_nil (second :: rest))
      simp only [List.cons_append] at inductionHypothesis ⊢
      rw [lines, if_neg goesOn, inductionHypothesis, lines, if_neg goesOn, found]
      rfl

/-- Bytes without a carriage return are one line. -/
theorem lines_of_not_mem
    {bytes : List UInt8}
    (unbroken : Http.carriageReturn ∉ bytes) :
    lines bytes = [bytes] := by
  induction bytes using lines.induct with
  | case1 =>
      rfl
  | case2 byte =>
      rfl
  | case3 first second rest ends inductionHypothesis =>
      simp [ends] at unbroken
  | case4 first second rest goesOn inductionHypothesis =>
      rw [lines, if_neg goesOn, inductionHypothesis fun member => unbroken (.tail _ member)]
      rfl

/-- No byte is lost in the division into lines. -/
theorem intercalate_lines
    (bytes : List UInt8) :
    Http.lineEnd.intercalate (lines bytes) = bytes := by
  induction bytes using lines.induct with
  | case1 =>
      rfl
  | case2 byte =>
      simp [lines]
  | case3 first second rest ends inductionHypothesis =>
      obtain ⟨line, others, found⟩ := List.exists_cons_of_ne_nil (lines_ne_nil rest)
      rw [found] at inductionHypothesis
      simpa [lines, ends, found, Http.lineEnd, List.intercalate] using inductionHypothesis
  | case4 first second rest goesOn inductionHypothesis =>
      obtain ⟨line, others, found⟩ := List.exists_cons_of_ne_nil (lines_ne_nil (second :: rest))
      rw [found] at inductionHypothesis
      rw [lines, if_neg goesOn, found]
      cases others <;> simpa [List.intercalate] using inductionHypothesis

/-! ## Groups of lines -/

section

variable {boundary : String} {line : List UInt8} {rest : List (List UInt8)}

/-- The closing line begins like every delimiter. -/
theorem delimiter_prefix_closing
    (boundary : String) :
    delimiter boundary <+: closing boundary := by
  rw [closing, Utf8.encode_append]
  exact List.prefix_append ..

/-- A line with the boundary begins with a hyphen. -/
theorem head?_of_divides
    (divides : delimiter boundary <+: line) :
    line.head? = some 0x2D := by
  obtain ⟨rest, rfl⟩ := divides
  rw [delimiter, Utf8.encode_append]
  rfl

/-- After a delimiter a new group begins. -/
theorem groups?_delimiter
    (boundary : String)
    (rest : List (List UInt8)) :
    groups? boundary (delimiter boundary :: rest) = (groups? boundary rest).map ([] :: ·) := by
  have short : ¬ closing boundary <+: delimiter boundary := by
    intro same
    have lengths := same.length_le
    simp only [closing, delimiter, Utf8.encode_append, List.length_append] at lengths
    exact absurd lengths (by simp [show (Utf8.encode "--").length = 2 by decide])
  rw [groups?, if_neg short, if_pos List.prefix_rfl]

/-- After the closing line nothing is left. -/
theorem groups?_closing
    (boundary : String) :
    groups? boundary [closing boundary, []] = some [[]] := by
  rw [groups?, if_pos List.prefix_rfl, if_pos rfl]

/-- Lines that do not begin with the boundary stay together. -/
theorem groups?_append
    {group : List (List UInt8)}
    (undivided : ∀ line ∈ group, ¬ delimiter boundary <+: line)
    (rest : List (List UInt8)) :
    groups? boundary (group ++ rest) =
      (groups? boundary rest).map (List.modifyHead (group ++ ·)) := by
  induction group with
  | nil =>
      cases found : groups? boundary rest with
      | none =>
          rw [List.nil_append, found]
          rfl
      | some groups =>
          cases groups <;> simp [found]
  | cons line others inductionHypothesis =>
      have noDelimiter := undivided line List.mem_cons_self
      have noClosing : ¬ closing boundary <+: line :=
        fun closes => noDelimiter ((delimiter_prefix_closing boundary).trans closes)
      rw [List.cons_append, groups?, if_neg noClosing, if_neg noDelimiter,
        inductionHypothesis fun other member => undivided other (.tail _ member), Option.map_map]
      congr 1
      funext groups
      cases groups <;> rfl

end

/-! ## Documents -/

/-- The first line of the part of a field. -/
def disposition (field : Form.Field) : String :=
  "Content-Disposition: form-data; name=\"" ++ field.name ++ "\""

/-- The lines of the part of a field. -/
def group (field : Form.Field) : List (List UInt8) :=
  Utf8.encode (disposition field) :: [] :: lines (Utf8.encode field.value)

/-- A part is its disposition, an empty line and its value. -/
theorem renderPart_eq
    (field : Form.Field) :
    renderPart field =
      "\r\n" ++ disposition field ++ "\r\n" ++ "\r\n" ++ field.value ++ "\r\n" := by
  have before : "\r\nContent-Disposition: form-data; name=\"" =
      "\r\n" ++ "Content-Disposition: form-data; name=\"" := rfl
  have after : "\"\r\n\r\n" = "\"" ++ "\r\n" ++ "\r\n" := rfl
  unfold renderPart
  rw [before, after]
  unfold disposition
  simp only [String.append_assoc]

/-- The first part stands line by line before the others. -/
theorem render_cons
    (boundary : String)
    (field : Form.Field)
    (fields : List Form.Field) :
    Utf8.encode (render boundary (field :: fields)) =
      delimiter boundary ++ Http.lineEnd ++
        (Utf8.encode (disposition field) ++ Http.lineEnd ++ ([] ++ Http.lineEnd ++
          (Utf8.encode field.value ++ Http.lineEnd ++ Utf8.encode (render boundary fields)))) := by
  have lineEnd : Utf8.encode "\r\n" = Http.lineEnd := rfl
  have text : render boundary (field :: fields) =
      "--" ++ boundary ++ renderPart field ++ render boundary fields := by
    simp [render, String.append_assoc]
  rw [text, renderPart_eq]
  simp only [Utf8.encode_append, delimiter, lineEnd, List.append_assoc, List.nil_append]

section

variable {boundary : String} {field : Form.Field} {fields : List Form.Field}

/-- A boundary of one line makes a delimiter of one line. -/
theorem not_mem_delimiter
    (oneLine : '\r' ∉ boundary.toList) :
    Http.carriageReturn ∉ delimiter boundary := by
  intro member
  have inText := Utf8.mem_of_mem_encode member (by decide)
  simp [Http.carriageReturn, oneLine] at inText

/-- A name of one line makes a disposition of one line. -/
theorem not_mem_disposition
    (oneLine : '\r' ∉ field.name.toList) :
    Http.carriageReturn ∉ Utf8.encode (disposition field) := by
  intro member
  have inText := Utf8.mem_of_mem_encode member (by decide)
  unfold disposition at inText
  simp [Http.carriageReturn, oneLine] at inText

/-- The lines of a document are those of its parts between lines with the boundary. -/
theorem lines_render
    (oneLine : '\r' ∉ boundary.toList)
    (inert : ∀ field ∈ fields, Inert boundary field) :
    lines (Utf8.encode (render boundary fields)) =
      fields.flatMap (fun field => delimiter boundary :: group field) ++ [closing boundary, []] := by
  induction fields with
  | nil =>
      have unbroken : Http.carriageReturn ∉ closing boundary := by
        rw [closing, Utf8.encode_append, List.mem_append, not_or]
        exact ⟨not_mem_delimiter oneLine, by decide⟩
      have text : Utf8.encode (render boundary []) = closing boundary ++ Http.lineEnd ++ [] := by
        have ending : "--\r\n" = "--" ++ "\r\n" := rfl
        have lineEnd : Utf8.encode "\r\n" = Http.lineEnd := rfl
        simp only [render, List.map_nil, String.join_nil, String.empty_append, ending, closing,
          Utf8.encode_append, lineEnd, List.append_assoc, List.append_nil]
      rw [text, lines_append, lines_of_not_mem unbroken]
      rfl
  | cons field others inductionHypothesis =>
      have single := (inert field List.mem_cons_self).oneLine
      rw [render_cons, lines_append, lines_append, lines_append, lines_append,
        lines_of_not_mem (not_mem_delimiter oneLine), lines_of_not_mem (not_mem_disposition single),
        inductionHypothesis fun other member => inert other (.tail _ member)]
      simp [group, lines]

/-- The lines of an inert field have no delimiter among them. -/
theorem undivided_group
    (inert : Inert boundary field) :
    ∀ line ∈ group field, ¬ delimiter boundary <+: line := by
  intro line member
  simp only [group, List.mem_cons] at member
  rcases member with rfl | rfl | inValue
  · intro divides
    have other : (Utf8.encode (disposition field)).head? = some 0x43 := by
      unfold disposition
      rw [Utf8.encode_append, Utf8.encode_append]
      rfl
    exact absurd (other.symm.trans (head?_of_divides divides)) (by decide)
  · intro divides
    exact absurd (head?_of_divides divides) (by decide)
  · exact inert.undivided line inValue

/-- The parts of a document come apart where they were put together. -/
theorem groups?_render
    (oneLine : '\r' ∉ boundary.toList)
    (inert : ∀ field ∈ fields, Inert boundary field) :
    groups? boundary (lines (Utf8.encode (render boundary fields))) =
      some ([] :: fields.map group) := by
  rw [lines_render oneLine inert]
  clear oneLine
  induction fields with
  | nil =>
      exact groups?_closing boundary
  | cons field others inductionHypothesis =>
      have later := inductionHypothesis fun other member => inert other (.tail _ member)
      rw [List.flatMap_cons, List.cons_append, List.cons_append, groups?_delimiter,
        List.append_assoc, groups?_append (undivided_group (inert field List.mem_cons_self)), later]
      simp

/-- The first line of a part tells the name of its field. -/
theorem field?_disposition
    (quotable : Http.IsQuotable field.name) :
    ∃ value,
      Http.Head.field? (Utf8.encode (disposition field)) = some ("content-disposition", value) ∧
      Http.labelled? value = some ⟨"form-data", [("name", field.name)]⟩ := by
  refine
    ⟨Utf8.encode ("form-data" ++ "; " ++ "name" ++ "=" ++ ("\"" ++ field.name ++ "\"")), ?_,
      Http.labelled?_single "form-data" "name" (List.all_eq_true.mp (by decide)) (by decide)
        (Http.parameterText?_quoted quotable)⟩
  have text : disposition field = "Content-Disposition" ++ ": " ++
      ("form-data" ++ "; " ++ "name" ++ "=" ++ ("\"" ++ field.name ++ "\"")) := by
    have before : "Content-Disposition: form-data; name=\"" =
        "Content-Disposition" ++ ": " ++ ("form-data" ++ "; " ++ "name" ++ "=" ++ "\"") := rfl
    unfold disposition
    rw [before]
    simp only [String.append_assoc]
  rw [text, Utf8.encode_append, Http.Head.field?_written (by decide)]
  · rfl
  · intro byte member
    rw [Utf8.encode_append, Utf8.encode_append] at member
    cases Option.some.inj member
    rfl
  · intro byte member
    have quote : Utf8.encode "\"" = [0x22] := rfl
    rw [Utf8.encode_append, Utf8.encode_append ("\"" ++ field.name), quote, ← List.append_assoc,
      List.getLast?_concat] at member
    cases Option.some.inj member
    rfl

/-- The lines of a field with a quotable name are read back as the field. -/
theorem part?_group
    (quotable : Http.IsQuotable field.name) :
    part? (group field) = some ⟨field.name, Utf8.encode field.value⟩ := by
  obtain ⟨value, named, labelled⟩ := field?_disposition quotable
  have nonempty : Utf8.encode (disposition field) ≠ [] := by
    unfold disposition
    rw [Utf8.encode_append, Utf8.encode_append]
    exact List.cons_ne_nil _ _
  have head : (group field).takeWhile (· ≠ []) = [Utf8.encode (disposition field)] := by
    simp [group, nonempty]
  have content : ((group field).drop 1).tail? = some (lines (Utf8.encode field.value)) := rfl
  simp only [part?, head, List.length_singleton, content, List.mapM_cons, named]
  simp [labelled, intercalate_lines]

/-- The fields of a document are read as they were written, one part each. -/
theorem parts?_render
    (oneLine : '\r' ∉ boundary.toList)
    (inert : ∀ field ∈ fields, Inert boundary field) :
    parts? boundary (Utf8.encode (render boundary fields)) =
      some (fields.map fun field => ⟨field.name, Utf8.encode field.value⟩) := by
  rw [parts?, groups?_render oneLine inert]
  clear oneLine
  induction fields with
  | nil =>
      rfl
  | cons field others inductionHypothesis =>
      have read := part?_group (inert field List.mem_cons_self).quotable
      have later := inductionHypothesis fun other member => inert other (.tail _ member)
      simp only [List.map_cons, List.mapM_cons, read, later]
      rfl

/-- The message of a request tells the boundary of its body. -/
theorem lookup_contentType
    {request : Request}
    (multipart : request.body = .multipart fields)
    (boundary : String) :
    (Request.message boundary request).head.fields.lookup "content-type" =
      some (Utf8.encode ("multipart/form-data; boundary=" ++ boundary)) := by
  have noLogin (logins : List Login) :
      (logins.map fun login => ("authorization", Utf8.encode (Request.presented login))).lookup
        "content-type" = none := by
    rw [List.lookup_eq_none_iff]
    simp
  simp only [Request.message, multipart, Body.contentType?, List.lookup_append, noLogin]
  rfl

/-- Whoever receives a request reads the fields of its body, one part each. -/
theorem formParts?_message
    {request : Request}
    (multipart : request.body = .multipart fields)
    (token : Http.IsToken boundary)
    (inert : ∀ field ∈ fields, Inert boundary field) :
    formParts? (Request.message boundary request) =
      some (fields.map fun field => ⟨field.name, Utf8.encode field.value⟩) := by
  have oneLine : '\r' ∉ boundary.toList :=
    fun member => absurd (token.2 '\r' member) (by decide)
  have body : (Request.message boundary request).body = Utf8.encode (render boundary fields) := by
    rw [Request.message, multipart]
    rfl
  have labelled : Http.labelled? (Utf8.encode ("multipart/form-data; boundary=" ++ boundary)) =
      some ⟨"multipart/form-data", [("boundary", boundary)]⟩ :=
    Http.labelled?_single "multipart/form-data" "boundary" (List.all_eq_true.mp (by decide))
      (by decide) (Http.parameterText?_token token)
  simp [formParts?, lookup_contentType multipart, labelled, body, parts?_render oneLine inert]

end

end Multipart

end GraphBroker.Remote
