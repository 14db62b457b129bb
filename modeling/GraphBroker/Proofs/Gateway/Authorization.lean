import GraphBroker.Config.Sources
import GraphBroker.Gateway.Service
import GraphBroker.Proofs.Broker.History
import GraphBroker.Proofs.Text.Base64
import GraphBroker.Proofs.Text.Utf8

namespace GraphBroker.Gateway

open Text

/-!
# Who passes the gate

The broker compares the name and the password that a header presents with its
own.  A header presents them as one text, which is cut at its first colon.  A name
with a colon in it can therefore not be presented: whoever configures such a name
has a broker that lets nobody pass.
-/

/--
A header's value carries a text: the word `Basic` in any letter case, spaces, and
the Base64 form of the text's bytes.
-/
def Carries (value : List UInt8) (text : String) : Prop :=
  ∃ word spaces, value = word ++ spaces ++ Utf8.encode (Base64.encode (Utf8.encode text)) ∧
    word.map lowerByte = Utf8.encode "basic" ∧
    spaces ≠ [] ∧ ∀ space ∈ spaces, space = 0x20

/--
A request presents a login: its first authorization header carries the name, a colon
and the password.
-/
def Request.Presents (request : Request) (login : Login) : Prop :=
  ∃ value, (request.values "authorization").head? = some value ∧
    Carries value (login.username ++ ":" ++ login.password)

/-! ## The parts of a header's value -/

theorem drop_length_takeWhile
    (keeps : α → Bool)
    (items : List α) :
    items.drop (items.takeWhile keeps).length = items.dropWhile keeps := by
  have parts := List.takeWhile_append_dropWhile (p := keeps) (l := items)
  calc
    items.drop (items.takeWhile keeps).length
      = (items.takeWhile keeps ++ items.dropWhile keeps).drop (items.takeWhile keeps).length := by
        rw [parts]
    _ = items.dropWhile keeps := List.drop_left

/-- The Base64 part of a value is what follows its scheme and the spaces after it. -/
theorem encodedPart?_eq_some_iff
    {value encoded : List UInt8} :
    encodedPart? value = some encoded ↔
      ∃ word spaces, value = word ++ spaces ++ encoded ∧
        word.map lowerByte = Utf8.encode "basic" ∧
        (spaces ≠ [] ∧ ∀ space ∈ spaces, space = 0x20) ∧
        ∃ first rest, encoded = first :: rest ∧ first ≠ 0x20 := by
  constructor
  · intro found
    unfold encodedPart? at found
    simp only at found
    split at found
    · next space rest after =>
        split at found
        · next scheme =>
            simp only [Bool.and_eq_true, beq_iff_eq] at scheme
            obtain ⟨rfl, named⟩ := scheme
            cases shown : rest.dropWhile (· == 0x20) with
            | nil =>
                simp [shown] at found
            | cons first others =>
                obtain rfl : first :: others = encoded := by simpa [shown] using found
                refine ⟨value.take (Utf8.encode "basic").length,
                  0x20 :: rest.takeWhile (· == 0x20), ?_, named, ⟨by simp, ?_⟩,
                  first, others, rfl, ?_⟩
                · rw [List.append_assoc, List.cons_append, ← shown,
                    List.takeWhile_append_dropWhile, ← after, List.take_append_drop]
                · intro space member
                  rcases List.mem_cons.mp member with rfl | later
                  · rfl
                  · simpa using List.all_eq_true.mp List.all_takeWhile space later
                · have kept := List.head_dropWhile_not (· == (0x20 : UInt8)) (l := rest)
                    (by simp [shown])
                  simpa [shown] using kept
        · cases found
    · cases found
  · rintro ⟨word, spaces, rfl, named, ⟨nonempty, blank⟩, first, rest, rfl, shown⟩
    have length : (Utf8.encode "basic").length = word.length := by
      rw [← named, List.length_map]
    cases spaces with
    | nil =>
        exact absurd rfl nonempty
    | cons space others =>
        have isSpace : space = 0x20 := blank space (by simp)
        have skipped : (others ++ first :: rest).dropWhile (· == 0x20) = first :: rest := by
          rw [List.dropWhile_append_of_pos fun other member => by
            simp [blank other (by simp [member])]]
          simp [shown]
        simp only [encodedPart?, length, List.append_assoc, List.take_left, List.drop_left,
          List.cons_append, named, isSpace, skipped, beq_self_eq_true, Bool.and_self, if_true]

/-- A text is cut into what stands before its first colon and what stands after it. -/
theorem splitAtColon?_eq_some_iff
    {chars : List Char}
    {username password : String} :
    splitAtColon? chars = some (username, password) ↔
      chars = username.toList ++ ':' :: password.toList ∧ ':' ∉ username.toList := by
  unfold splitAtColon?
  simp only [drop_length_takeWhile]
  constructor
  · intro found
    have parts := List.takeWhile_append_dropWhile (p := (· != ':')) (l := chars)
    cases after : chars.dropWhile (· != ':') with
    | nil =>
        simp [after] at found
    | cons colon rest =>
        have isColon : colon = ':' := by
          have kept := List.head_dropWhile_not (· != ':') (l := chars) (by simp [after])
          simpa [after] using kept
        subst isColon
        simp only [after, Option.some.injEq, Prod.mk.injEq] at found
        obtain ⟨rfl, rfl⟩ := found
        rw [String.toList_ofList, String.toList_ofList, ← after, parts]
        refine ⟨rfl, ?_⟩
        intro within
        have kept := List.all_eq_true.mp List.all_takeWhile ':' within
        simp at kept
  · rintro ⟨rfl, absent⟩
    have before : ∀ c ∈ username.toList, (c != ':') = true := by
      intro c member
      simpa using fun same : c = ':' => absent (same ▸ member)
    rw [List.dropWhile_append_of_pos before, List.takeWhile_append_of_pos before]
    simp

/-- The written form of some bytes begins with a byte that is no space. -/
theorem encode_eq_cons
    {bytes : List UInt8}
    (nonempty : bytes ≠ []) :
    ∃ first rest, Utf8.encode (Base64.encode bytes) = first :: rest ∧ first ≠ 0x20 := by
  have ascii : ∀ digit, digit < 64 → (Base64.digitChar digit).toNat < 128 ∧
      UInt8.ofNat (Base64.digitChar digit).toNat ≠ 0x20 := by
    decide
  obtain ⟨digit, others, bound, written⟩ := Base64.encodeOnto_eq_cons nonempty
  obtain ⟨small, shown⟩ := ascii digit bound
  have single : String.utf8EncodeChar (Base64.digitChar digit) =
      [UInt8.ofNat (Base64.digitChar digit).toNat] := by
    rw [← Utf8.utf8EncodeChar_one small, Char.ofNat_toNat]
  refine ⟨_, Utf8.encodeChars others, ?_, shown⟩
  rw [Utf8.encode, Base64.encode, String.toList_ofList, written, Utf8.encodeChars,
    List.flatMap_cons, single]
  rfl

/-- A header's value presents a login if it carries its text, and the name has no colon. -/
theorem presented?_eq_some_iff
    {value : List UInt8}
    {login : Login} :
    presented? value = some login ↔
      Carries value (login.username ++ ":" ++ login.password) ∧ ':' ∉ login.username.toList := by
  constructor
  · intro presented
    obtain ⟨encoded, carried, decoding⟩ := Option.bind_eq_some_iff.mp presented
    obtain ⟨text, isText, reading⟩ := Option.bind_eq_some_iff.mp decoding
    obtain ⟨bytes, areBytes, rereading⟩ := Option.bind_eq_some_iff.mp reading
    obtain ⟨plain, isPlain, splitting⟩ := Option.bind_eq_some_iff.mp rereading
    obtain ⟨⟨username, password⟩, cut, made⟩ := Option.bind_eq_some_iff.mp splitting
    obtain rfl := Option.some.inj made
    obtain ⟨word, spaces, rfl, named, ⟨nonempty, blank⟩, _⟩ := encodedPart?_eq_some_iff.mp carried
    obtain rfl := Utf8.decode?_eq_some_iff.mp isText
    obtain rfl := Base64.decode?_eq_some_iff.mp areBytes
    obtain rfl := Utf8.decode?_eq_some_iff.mp isPlain
    obtain ⟨parts, noColon⟩ := splitAtColon?_eq_some_iff.mp cut
    have whole : plain = username ++ ":" ++ password := by
      rw [← String.toList_inj, parts]
      simp
    exact ⟨⟨word, spaces, by rw [whole], named, nonempty, blank⟩, noColon⟩
  · rintro ⟨⟨word, spaces, rfl, named, nonempty, blank⟩, noColon⟩
    have encoded : encodedPart? (word ++ spaces ++ Utf8.encode (Base64.encode (Utf8.encode
        (login.username ++ ":" ++ login.password)))) =
        some (Utf8.encode (Base64.encode (Utf8.encode
          (login.username ++ ":" ++ login.password)))) := by
      refine encodedPart?_eq_some_iff.mpr
        ⟨word, spaces, rfl, named, ⟨nonempty, blank⟩, encode_eq_cons ?_⟩
      intro empty
      have colon : String.utf8EncodeChar ':' = [] :=
        List.flatMap_eq_nil_iff.mp empty ':' (by simp)
      exact absurd colon (by decide)
    have cut : splitAtColon? (login.username ++ ":" ++ login.password).toList =
        some (login.username, login.password) :=
      splitAtColon?_eq_some_iff.mpr ⟨by simp, noColon⟩
    simp only [presented?, encoded, Utf8.decode?_encode, Base64.decode?_encode, cut,
      Option.bind_eq_bind, Option.bind_some]

/-! ## The gate -/

/-- What becomes of a request to a place once its login is right. -/
def beyondGate (broker : Broker) (request : Request) (route : Route) : Passage :=
  if takes route.methods request.method then dispatch broker request route
  else .answered ((Response.bare 405).announcing (route.methods.getD []))

/-- The answer to a request to a place whose login is not right. -/
def turnedAway (request : Request) (route : Route) : Response :=
  if takes route.methods request.method then .unauthorized
  else Response.unauthorized.announcing (route.methods.getD [])

/-- A passage ends in an answer that asks for a login. -/
def Passage.Unauthorized (passage : Passage) : Prop :=
  ∃ response, passage = .answered response ∧ response.status = 401

theorem unauthorized_of_turnedAway
    (request : Request)
    (route : Route) :
    (Passage.answered (turnedAway request route)).Unauthorized := by
  refine ⟨_, rfl, ?_⟩
  unfold turnedAway
  split <;> rfl

/-- Whatever comes of a body is no lack of authorization. -/
theorem not_unauthorized_of_whenRead
    (read : Except BodyError α)
    (operation : α → Broker.Operation) :
    ¬ (whenRead read operation).Unauthorized := by
  rintro ⟨response, same, status⟩
  cases read with
  | ok value =>
      cases same
  | error error =>
      cases same
      cases status

/-- What comes of identifiers is no lack of authorization unless what follows is one. -/
theorem not_unauthorized_of_withIds
    {ids : Except MissingId α}
    {next : α → Passage}
    (admitted : ∀ ids, ¬ (next ids).Unauthorized) :
    ¬ (withIds ids next).Unauthorized := by
  cases ids with
  | ok ids =>
      exact admitted ids
  | error missing =>
      rintro ⟨response, same, status⟩
      cases same
      cases status

theorem not_unauthorized_of_admitted
    (operation : Broker.Operation) :
    ¬ (Passage.admitted operation).Unauthorized := by
  rintro ⟨response, same, _⟩
  cases same

/-- Beyond the gate nothing is turned away for its login. -/
theorem not_unauthorized_of_beyondGate
    (broker : Broker)
    (request : Request)
    (route : Route) :
    ¬ (beyondGate broker request route).Unauthorized := by
  unfold beyondGate
  split
  · cases route with
    | catalog | unnamedInstance | unnamedBinding =>
        rintro ⟨response, same, status⟩
        cases same
        cases status
    | serviceInstance raw =>
        refine not_unauthorized_of_withIds fun id => ?_
        split
        · exact not_unauthorized_of_whenRead _ _
        · split
          · exact not_unauthorized_of_admitted _
          · exact not_unauthorized_of_admitted _
    | serviceBinding raw rawBinding =>
        refine not_unauthorized_of_withIds fun (id, bindingId) => ?_
        dsimp only
        split
        · exact not_unauthorized_of_whenRead _ _
        · exact not_unauthorized_of_admitted _
  · rintro ⟨response, same, status⟩
    cases same
    cases status

/-- The login that a request is taken to present is the one that it presents. -/
theorem login?_eq_some_iff
    {request : Request}
    {login : Login} :
    request.login? = some login ↔ request.Presents login ∧ ':' ∉ login.username.toList := by
  simp only [Request.login?, firstPresented?, Request.Presents, Option.bind_eq_some_iff,
    presented?_eq_some_iff]
  constructor
  · rintro ⟨value, first, carries, noColon⟩
    exact ⟨⟨value, first, carries⟩, noColon⟩
  · rintro ⟨⟨value, first, carries⟩, noColon⟩
    exact ⟨value, first, carries, noColon⟩

/-- The login that is accepted is the one that is required. -/
theorem accepts_iff
    {required presented : Login} :
    accepts required presented = true ↔ presented = required := by
  obtain ⟨username, password⟩ := required
  obtain ⟨otherUsername, otherPassword⟩ := presented
  simp only [accepts, Bool.and_eq_true, beq_iff_eq, Login.mk.injEq]
  exact and_congr eq_comm eq_comm

/--
A request to a place of the broker passes the gate if it presents the broker's login
and the name in that login has no colon, and is then never asked for a login.  Every
other request is answered 401.
-/
theorem passes_iff_presents
    (broker : Broker)
    (request : Request)
    (route : Route)
    (routed : Route.ofPath? (pathOf request.target) = some route) :
    (request.Presents broker.login ∧ ':' ∉ broker.login.username.toList →
      pass broker request = beyondGate broker request route ∧
        ¬ (pass broker request).Unauthorized) ∧
    (¬ (request.Presents broker.login ∧ ':' ∉ broker.login.username.toList) →
      pass broker request = .answered (turnedAway request route) ∧
        (pass broker request).Unauthorized) := by
  constructor
  · intro presents
    have presented := login?_eq_some_iff.mpr presents
    have accepted := accepts_iff.mpr (rfl : broker.login = broker.login)
    have passed : pass broker request = beyondGate broker request route := by
      simp only [pass, routed, presented, accepted, beyondGate]
      cases takes route.methods request.method <;> simp
    rw [passed]
    exact ⟨rfl, not_unauthorized_of_beyondGate broker request route⟩
  · intro presentsNot
    have barred : pass broker request = .answered (turnedAway request route) := by
      cases presented : request.login? with
      | none =>
          simp only [pass, routed, presented, turnedAway]
      | some login =>
          have unaccepted : accepts broker.login login = false := by
            rw [Bool.eq_false_iff]
            intro accepted
            obtain rfl := accepts_iff.mp accepted
            exact presentsNot (login?_eq_some_iff.mp presented)
          simp only [pass, routed, presented, unaccepted, turnedAway, Bool.not_false, if_true]
    rw [barred]
    exact ⟨rfl, unauthorized_of_turnedAway request route⟩

/-! ## Two logins -/

/-- A request for the catalog with an authorization header. -/
def catalogRequest (authorization : List UInt8) : Request :=
  ⟨"GET", "/v2/catalog", [("Authorization", authorization)], []⟩

theorem route_catalogRequest
    (authorization : List UInt8) :
    Route.ofPath? (pathOf (catalogRequest authorization).target) = some .catalog :=
  show Route.ofPath? (pathOf "/v2/catalog") = some .catalog by decide

theorem presents_catalogRequest
    {authorization : List UInt8}
    {login : Login}
    (carries : Carries authorization (login.username ++ ":" ++ login.password)) :
    (catalogRequest authorization).Presents login :=
  ⟨authorization, by simp [catalogRequest, Request.values], carries⟩

/-- The login of a broker is accepted in any letter case of the scheme and after any spaces. -/
theorem passes_catalogRequest :
    let request := catalogRequest (Utf8.encode "bAsIC  cGxhdGZvcm06c2VjcmV0")
    Route.ofPath? (pathOf request.target) = some .catalog ∧
      request.Presents Broker.soleServer.login ∧
      ':' ∉ Broker.soleServer.login.username.toList ∧
      pass Broker.soleServer request = beyondGate Broker.soleServer request .catalog := by
  intro request
  have routed : Route.ofPath? (pathOf request.target) = some .catalog := route_catalogRequest _
  have presents : request.Presents Broker.soleServer.login :=
    presents_catalogRequest
      ⟨Utf8.encode "bAsIC", [0x20, 0x20], by decide +kernel, by decide, by simp, by simp⟩
  have noColon : ':' ∉ Broker.soleServer.login.username.toList := by decide
  have passed :=
    (passes_iff_presents Broker.soleServer request .catalog routed).1 ⟨presents, noColon⟩
  exact ⟨routed, presents, noColon, passed.1⟩

/-- Settings in which the name of the platform has a colon. -/
def colonSettings : Config.Settings where
  port := Config.Port.standard
  host := "0.0.0.0"
  brokerId := "broker"
  brokerUsername := "a:b"
  brokerPassword := "c"
  logLevel := .info
  logFile := none
  plans := []
  storage := ⟨.memory, .null⟩

/-- Settings are taken whose login no request can present: one that carries it is turned away. -/
theorem unauthorized_with_colon :
    let broker : Broker :=
      { id := colonSettings.brokerId
        plans := Keyed.empty
        login := ⟨colonSettings.brokerUsername, colonSettings.brokerPassword⟩ }
    let request := catalogRequest (Utf8.encode "Basic YTpiOmM=")
    colonSettings.validate = .ok colonSettings ∧
      Route.ofPath? (pathOf request.target) = some .catalog ∧
      request.Presents broker.login ∧
      pass broker request = .answered .unauthorized ∧ Response.unauthorized.status = 401 := by
  intro broker request
  have routed : Route.ofPath? (pathOf request.target) = some .catalog := route_catalogRequest _
  have carries : Carries (Utf8.encode "Basic YTpiOmM=") "a:b:c" :=
    ⟨Utf8.encode "Basic", [0x20], by decide +kernel, by decide, by simp, by simp⟩
  -- The same text is taken for a shorter name and a longer password.
  have taken : request.login? = some ⟨"a", "b:c"⟩ :=
    login?_eq_some_iff.mpr ⟨presents_catalogRequest carries, by decide⟩
  have unaccepted : accepts broker.login ⟨"a", "b:c"⟩ = false := by decide
  have permitted : takes Route.catalog.methods request.method = true := by decide
  have shown : ¬ IsBlank colonSettings.brokerId :=
    fun blank => absurd (blank 'b' (by decide)) (by decide)
  have valid : colonSettings.validate = .ok colonSettings := by
    rw [Config.Settings.validate, if_neg shown, if_neg (by decide)]
  refine ⟨valid, routed, presents_catalogRequest carries, ?_, rfl⟩
  simp only [pass, routed, taken, unaccepted, permitted, Bool.not_false, if_true]

end GraphBroker.Gateway
