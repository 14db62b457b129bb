import GraphBroker.Proofs.Json.Controls
import GraphBroker.Proofs.Json.Values
import GraphBroker.Proofs.Remote.Exchange
import GraphBroker.Proofs.Remote.Host
import GraphBroker.Proofs.Remote.Multipart

namespace GraphBroker.Remote.Client

open Dialogue Json Text

/-!
# Requests that create a database

The name of a database goes into a JSON text, and that text goes into the part of a form.
Neither the quotes of the text nor the lines of the form give way to a name, whatever
characters it is made of: the server reads the name that was meant, and nothing besides.
-/

/-- What the description of a new database says. -/
def databaseMembers (database : String) : Json :=
  .object [("dbname", .text database), ("files", .array []), ("options", .object [])]

/-- A request for what is named beneath the server can be made. -/
def Reaches (client : Client) (names : List String) : Prop :=
  ∃ url, client.target names = .ok url ∧ Session.obstacle? url.withoutLogin = none

/-! ## The description as a text -/

section

variable (database : String)

theorem throughout_databaseMembers
    {property : Json → Prop}
    (whole : property (databaseMembers database))
    (name : property (.text database))
    (files : property (.array []))
    (options : property (.object [])) :
    (databaseMembers database).Throughout property := by
  refine .intro whole ?_
  simp only [databaseMembers, parts, List.map_cons, List.map_nil, List.forall_mem_cons]
  exact ⟨.of_undivided name rfl, .of_undivided files rfl, .of_undivided options rfl, nofun⟩

theorem legible_databaseDescription :
    (databaseDescription database).Legible :=
  Document.legible_ofJson (throughout_databaseMembers database trivial trivial trivial trivial)

/-- The text stands for the description and for nothing else. -/
theorem ofText_databaseDescription :
    Source.ofText (databaseDescription database).print = ⟨databaseDescription database, true⟩ :=
  (legible_databaseDescription database).ofText_print (show 2 ≤ depthLimit by decide)

/-- The text is read as what the description says. -/
theorem jsonText_databaseDescription :
    Reader.value.jsonText (databaseDescription database).print = .ok (databaseMembers database) := by
  have ascending : IsSorted (databaseMembers database) := by
    simp only [databaseMembers, IsSorted, Ascending, List.pairwise_cons, List.forall_mem_cons,
      List.Pairwise.nil, and_true]
    decide
  have sorted : (databaseMembers database).Throughout IsSorted :=
    throughout_databaseMembers database ascending trivial trivial .nil
  have plain : (databaseMembers database).Throughout IsPlain :=
    throughout_databaseMembers database (by decide : "dbname" ≠ Reader.embeddedKey) trivial trivial
      trivial
  have read : Reader.value (databaseDescription database) = .ok (databaseMembers database) :=
    Reader.valueWith_ofJson sorted plain
  simp only [Reader.jsonText, Reader.source, ofText_databaseDescription, read, if_true]

/-- No byte of the text ends a line. -/
theorem unbroken_databaseDescription :
    Http.carriageReturn ∉ Utf8.encode (databaseDescription database).print ∧
      Http.lineFeed ∉ Utf8.encode (databaseDescription database).print := by
  have visible := (legible_databaseDescription database).visible_print.bytes
  constructor
  · intro member
    exact absurd (visible _ member) (by decide)
  · intro member
    exact absurd (visible _ member) (by decide)

theorem head?_databaseDescription :
    (Utf8.encode (databaseDescription database).print).head? = some 0x7B := by
  obtain ⟨rest, chars⟩ : ∃ rest, (databaseDescription database).chars = '\x7b' :: rest := by
    simp [databaseDescription, Document.ofMembers, Document.ofItems, Document.chars,
      Document.writeOnto, Document.writeMembersOnto, Document.writeItemsOnto, List.reverseAux_eq]
  rw [Document.print, Utf8.encode, String.toList_ofList, chars]
  rfl

/-- No name of a database makes the description contain a delimiter. -/
theorem inert_databaseDescription
    (boundary : String) :
    Multipart.Inert boundary ⟨"root", (databaseDescription database).print⟩ := by
  refine
    ⟨show Http.IsQuotable "root" by decide, show '\r' ∉ "root".toList by decide, ?_⟩
  have unbroken := (unbroken_databaseDescription database).1
  intro line member divides
  rw [Multipart.lines_of_not_mem unbroken, List.mem_singleton] at member
  have hyphen := Multipart.head?_of_divides divides
  rw [member, head?_databaseDescription] at hyphen
  exact absurd hyphen (by decide)

end

/-! ## The request -/

section

variable {client : Client} {database : String} {sent : List (Exchange wire)}

/-- A request beneath the server is sent once if it can be made, and not at all otherwise. -/
theorem sent_by_send
    {method : Method}
    {names : List String}
    {accept : String}
    {body : Body}
    {expected : Http.Status}
    {outcome : Except Failure String}
    (yields : (client.send method names accept body expected).run.Yields sent outcome) :
    (¬ client.Reaches names ∧ sent = []) ∨
      (client.Reaches names ∧ ∃ request : Request, ∃ reply,
        sent = [⟨request, reply⟩] ∧ request.body = body) := by
  rcases yields_given_bind yields with ⟨failure, unreached, rfl, -⟩ | ⟨url, reached, asking⟩
  · refine Or.inl ⟨?_, rfl⟩
    rintro ⟨url, reached, -⟩
    rw [unreached] at reached
    cases reached
  · rcases Request.outcome_of_exchange asking with ⟨reason, blocked, rfl, -⟩ | ⟨free, reply, rfl, -⟩
    · refine Or.inl ⟨?_, rfl⟩
      rintro ⟨other, same, free⟩
      rw [reached] at same
      cases same
      exact Option.some_ne_none reason (blocked.symm.trans free)
    · exact Or.inr ⟨⟨url, reached, free⟩, _, reply, rfl, rfl⟩

/--
Creating a database sends one request with one field, or nothing where the server cannot be
reached.
-/
theorem sent_to_create
    {outcome : Except Failure Unit}
    (yields : (client.perform (.createDatabase database)).run.Yields sent outcome) :
    (¬ client.Reaches ["admin", "databases"] ∧ sent = []) ∨
      (client.Reaches ["admin", "databases"] ∧ ∃ request : Request, ∃ reply,
        sent = [⟨request, reply⟩] ∧
          request.body = .multipart [⟨"root", (databaseDescription database).print⟩]) := by
  rcases yields_bind yields with ⟨failure, sending, -⟩ | ⟨text, first, later, rfl, sending, ending⟩
  · exact sent_by_send sending
  · obtain ⟨rfl, -⟩ := yields_done_iff.mp ending
    rw [List.append_nil]
    exact sent_by_send sending

end

/-- A part of a form that describes a new database, and does nothing else. -/
structure Describes (database : String) (part : Multipart.Part) : Prop where
  named : part.name = "root"
  /-- Neither a carriage return nor a line feed is in it. -/
  unbroken : Http.carriageReturn ∉ part.content ∧ Http.lineFeed ∉ part.content
  /-- It is a text, which has these members in this order and no others. -/
  written :
    ∃ text, Utf8.decode? part.content = some text ∧
      Source.ofText text =
        ⟨.ofMembers [("dbname", .text database), ("files", .ofItems []), ("options", .ofMembers [])],
          true⟩ ∧
      Reader.value.jsonText text =
        .ok (.object [("dbname", .text database), ("files", .array []), ("options", .object [])])

/-- The part of a form that is sent for a new database. -/
def creationPart (database : String) : Multipart.Part :=
  ⟨"root", Utf8.encode (databaseDescription database).print⟩

/-- The message of a creation has one part, the description of the database. -/
theorem formParts?_creation
    {boundary : String}
    (token : Http.IsToken boundary)
    {request : Request}
    {database : String}
    (body : request.body = .multipart [⟨"root", (databaseDescription database).print⟩]) :
    Multipart.formParts? (Request.message boundary request) = some [creationPart database] :=
  Multipart.formParts?_message body token
    (List.forall_mem_singleton.mpr (inert_databaseDescription database boundary))

theorem describes_creation
    (database : String) :
    Describes database (creationPart database) := by
  have content : (creationPart database).content =
      Utf8.encode (databaseDescription database).print := by
    rw [creationPart]
  constructor
  case named =>
    rfl
  case unbroken =>
    rw [content]
    exact unbroken_databaseDescription database
  case written =>
    rw [content]
    exact
      ⟨(databaseDescription database).print, Utf8.decode?_encode _,
        ofText_databaseDescription database, jsonText_databaseDescription database⟩

/--
No name of a database breaks out of the request that creates it.  Whatever the name is made of,
and whatever boundary is drawn for the form, at most one request is sent, and one is sent if
the address of the server can be written in it.  Who reads its body by the content type of the
message finds one part alone, which describes the database by that very name.
-/
theorem database_name_stays_inside
    {boundary : String}
    (token : Http.IsToken boundary)
    (client : Client)
    (database : String)
    {σ : Type}
    (respond : Request → σ → Option Response × σ)
    (state : σ) :
    let sent := (client.perform (.createDatabase database)).run.exchanges (P := wire) respond state
    (sent = [] ↔ ¬ client.Reaches ["admin", "databases"]) ∧
      sent.length ≤ 1 ∧
      ∀ exchange ∈ sent, ∃ part,
        Multipart.formParts? (Request.message boundary exchange.question) = some [part] ∧
          Describes database part := by
  intro sent
  have yields := yields_exchanges (P := wire) respond (client.perform (.createDatabase database)).run
    state
  change Yields _ sent _ at yields
  generalize sent = exchanges at yields ⊢
  rcases sent_to_create yields with ⟨unreached, rfl⟩ | ⟨reached, request, reply, rfl, body⟩
  · exact ⟨by simpa using unreached, by simp, List.forall_mem_nil _⟩
  · refine ⟨by simpa using reached, by simp, ?_⟩
    intro exchange member
    rw [List.mem_singleton.mp member]
    exact ⟨_, formParts?_creation token body, describes_creation database⟩

/-- A name that ends its text, its part and the whole form is still nothing but a name. -/
theorem closing_name_stays_inside :
    let database := "a\",\"options\":1\x7d\r\n--7--\r\n"
    let creating := (onNetwork.perform (.createDatabase database)).run
    let sent := creating.exchanges (P := wire) Peer.answer (.scripted [some ⟨201, []⟩])
    Http.IsToken "7" ∧ sent ≠ [] ∧
      ∀ exchange ∈ sent, ∃ part,
        Multipart.formParts? (Request.message "7" exchange.question) = some [part] ∧
          Describes database part := by
  intro database creating sent
  have stays := database_name_stays_inside (show Http.IsToken "7" by decide) onNetwork database
    Peer.answer (.scripted [some ⟨201, []⟩])
  have reaches : onNetwork.Reaches ["admin", "databases"] := ⟨_, rfl, rfl⟩
  exact ⟨by decide, fun unsent => stays.1.mp unsent reaches, stays.2.2⟩

end GraphBroker.Remote.Client
