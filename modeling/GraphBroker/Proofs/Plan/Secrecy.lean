import GraphBroker.Plan.Basic
import GraphBroker.Proofs.Coupling
import GraphBroker.Proofs.Json.Likeness

namespace GraphBroker.Plan

open Dialogue Json

/-!
# What plans do without regard to an administrator's login

The login of an administrator goes to servers and nowhere else.  It comes from the
configuration of a plan, or from the parameters of a request, and is then kept in the
payload of the instance.  Plans, parameters and payloads that differ in such a login
alone make the same calls but for the login, and come to the same results.
-/

/-! ## Values that differ in a login -/

/-- Texts that may stand for each other in a login: any names, and passwords that are not empty. -/
def Hidden (name one other : String) : Prop :=
  name = "username" ∨ (name = "password" ∧ one ≠ "" ∧ other ≠ "")

/-- Values that are the same, or parts of a login that may differ. -/
inductive CoveredLogin (name : String) : Json → Json → Prop where
  | same (value : Json) :
      CoveredLogin name value value
  | text {one other : String}
      (hidden : Hidden name one other) :
      CoveredLogin name (.text one) (.text other)

/-- Parameters, or payloads, that are the same but for the login of an administrator. -/
abbrev SameButLogin : Json → Json → Prop :=
  SameBut CoveredLogin ["db_name", "url", "username", "password"]

/-- Choices of a site that differ in the login alone. -/
structure SiteChoice.Resembles (one other : SiteChoice) : Prop where
  database : one.database = other.database
  url : one.url = other.url
  password : one.password = other.password ∨ (one.password ≠ "" ∧ other.password ≠ "")

/-- Sites that differ in the login alone. -/
structure Site.Resembles (one other : Site) : Prop where
  database : one.database = other.database
  url : one.server.url = other.server.url

/-- Plans that differ in the login of a configured server alone. -/
inductive Resembles : Plan → Plan → Prop where
  | shared (id : String) {server other : Server}
      (address : server.url = other.url) :
      Resembles ⟨id, .shared server⟩ ⟨id, .shared other⟩
  | perInstance (id : String) :
      Resembles ⟨id, .perInstance⟩ ⟨id, .perInstance⟩

/-- A password is missing from both of two choices that differ in the login alone, or from neither. -/
theorem SiteChoice.Resembles.isEmpty_eq
    {one other : SiteChoice}
    (resembles : one.Resembles other) :
    one.password.isEmpty = other.password.isEmpty := by
  rw [Bool.eq_iff_iff, String.isEmpty_iff, String.isEmpty_iff]
  rcases resembles.password with same | ⟨given, otherGiven⟩
  · rw [same]
  · exact ⟨fun missing => absurd missing given, fun missing => absurd missing otherGiven⟩

/-- The payloads of two choices that differ in the login alone differ in the login alone. -/
theorem SiteChoice.Resembles.payload
    {one other : SiteChoice}
    (resembles : one.Resembles other) :
    SameButLogin one.payload other.payload := by
  have password : CoveredLogin "password" (.text one.password) (.text other.password) := by
    rcases resembles.password with same | given
    · rw [same]
      exact .same _
    · exact .text (Or.inr ⟨rfl, given⟩)
  unfold SiteChoice.payload
  rw [resembles.database, resembles.url]
  refine .object (.cons ⟨rfl, .same _⟩ (.cons ⟨rfl, password⟩ (.cons ⟨rfl, .same _⟩ ?_)))
  exact .cons ⟨rfl, .text (Or.inl rfl)⟩ .nil

/-! ## Readings -/

/-- Texts that are the same, or parts of a login that may differ. -/
def PartAlike (name one other : String) : Prop :=
  one = other ∨ Hidden name one other

/-- A part is like itself. -/
theorem PartAlike.refl
    (name text : String) :
    PartAlike name text text :=
  Or.inl rfl

/-- What is no part of a login is the same. -/
theorem PartAlike.eq
    {name one other : String}
    (alike : PartAlike name one other)
    (noUsername : name ≠ "username")
    (noPassword : name ≠ "password") :
    one = other := by
  rcases alike with same | isUsername | ⟨isPassword, _⟩
  · exact same
  · exact absurd isUsername noUsername
  · exact absurd isPassword noPassword

/-- A text is read as the same text, unless it is part of a login. -/
theorem matches_text
    {name : String}
    {one other : Json}
    (covered : CoveredLogin name one other) :
    Matches (PartAlike name) (Codec.text.read.json one) (Codec.text.read.json other) := by
  cases covered with
  | same value => exact .refl (PartAlike.refl name) _
  | text hidden => exact .ok (Or.inr hidden)

/-- A part that is absent is like itself. -/
theorem partAlike_absent
    (name : String) :
    ∀ value ∈ (textMember name).absent, PartAlike name value value :=
  fun value _ => PartAlike.refl name value

/-- Which choices of a database pass for each other. -/
def DatabaseChoice.likeness : Shape.Likeness (.cons (textMember "db_name") .nil) :=
  (PartAlike "db_name", ())

/-- Which choices of a site pass for each other. -/
def SiteChoice.likeness :
    Shape.Likeness
      (.cons (textMember "db_name") <|
       .cons (textMember "url") <|
       .cons (textMember "username") <|
       .cons (textMember "password") .nil) :=
  (PartAlike "db_name", PartAlike "url", PartAlike "username", PartAlike "password", ())

/-- The choice of a database shows nothing of a login. -/
theorem matches_databaseChoice
    {one other : Json}
    (same : SameButLogin one other) :
    Matches Eq (DatabaseChoice.codec.read.json one) (DatabaseChoice.codec.read.json other) := by
  refine Codec.matches_read_record DatabaseChoice.likeness ?_ (fun _ => .same)
    ⟨matches_text, partAlike_absent "db_name", trivial⟩ ⟨["url", "username", "password"], rfl⟩ same
  rintro ⟨database, _⟩ ⟨otherDatabase, _⟩ ⟨alike, _⟩
  exact congrArg DatabaseChoice.mk (alike.eq (by decide) (by decide))

/-- Payloads that are alike but for the login choose sites that are. -/
theorem matches_siteChoice
    {one other : Json}
    (same : SameButLogin one other) :
    Matches SiteChoice.Resembles (SiteChoice.codec.read.json one)
      (SiteChoice.codec.read.json other) := by
  refine Codec.matches_read_record SiteChoice.likeness ?_ (fun _ => .same)
    ⟨matches_text, partAlike_absent "db_name", matches_text, partAlike_absent "url",
      matches_text, partAlike_absent "username", matches_text, partAlike_absent "password",
      trivial⟩
    List.prefix_rfl same
  rintro ⟨database, url, username, password, _⟩ ⟨_, _, _, _, _⟩ ⟨sameDatabase, sameUrl, _, given, _⟩
  refine ⟨sameDatabase.eq (by decide) (by decide), sameUrl.eq (by decide) (by decide), ?_⟩
  rcases given with same | isUsername | ⟨_, given⟩
  · exact Or.inl same
  · exact absurd isUsername (by decide)
  · exact Or.inr given

/-- A blank value stands for the blank choice in both of two values that differ in a login alone. -/
theorem matches_project
    {codec : Codec α}
    {alike : α → α → Prop}
    {blank : α}
    (blankAlike : alike blank blank)
    {one other : Json}
    (same : SameButLogin one other)
    (read : Matches alike (codec.read.json one) (codec.read.json other)) :
    Matches alike (project codec blank one) (project codec blank other) := by
  have null : one.isNull = other.isNull := by
    cases same with
    | same value => rfl
    | object members => rfl
    | array items => rfl
  unfold project
  rw [null]
  split
  · exact .ok blankAlike
  · exact read

/-- The choice of a database shows nothing of a login, given or not. -/
theorem matches_project_databaseChoice
    {one other : Json}
    (same : SameButLogin one other) :
    Matches Eq (project DatabaseChoice.codec .blank one)
      (project DatabaseChoice.codec .blank other) :=
  matches_project rfl same (matches_databaseChoice same)

/-- Payloads that are alike but for the login choose sites that are, given or not. -/
theorem matches_project_siteChoice
    {one other : Json}
    (same : SameButLogin one other) :
    Matches SiteChoice.Resembles (project SiteChoice.codec .blank one)
      (project SiteChoice.codec .blank other) :=
  matches_project ⟨rfl, rfl, Or.inl rfl⟩ same (matches_siteChoice same)

/-! ## Sites -/

/-- Plans that are alike but for the login have the same identifier. -/
theorem Resembles.id_eq
    {plan other : Plan}
    (resembles : plan.Resembles other) :
    plan.id = other.id := by
  cases resembles with
  | shared id address => rfl
  | perInstance id => rfl

/-- The catalog does not tell plans apart that differ in a login alone. -/
theorem Resembles.catalogEntry_eq
    {plan other : Plan}
    (resembles : plan.Resembles other) :
    plan.catalogEntry = other.catalogEntry := by
  cases resembles with
  | shared id address => rfl
  | perInstance id => rfl

/-- Plans that are alike but for the login find sites that are. -/
theorem Resembles.matches_site?
    {plan other : Plan}
    (resembles : plan.Resembles other)
    {payload otherPayload : Json}
    (same : SameButLogin payload otherPayload) :
    Matches Site.Resembles (plan.site? payload) (other.site? otherPayload) := by
  cases resembles with
  | shared id address =>
      refine (matches_project_databaseChoice same).map ?_
      rintro choice _ rfl
      exact ⟨rfl, address⟩
  | perInstance id =>
      refine (matches_project_siteChoice same).map ?_
      intro choice otherChoice resembles
      exact ⟨resembles.database, resembles.url⟩

/-- A request is taken for one that asks for an instance, or not, whatever the logins are. -/
theorem Resembles.describes_eq
    {plan other : Plan}
    (resembles : plan.Resembles other)
    {site otherSite : Site}
    (sites : site.Resembles otherSite)
    {parameters otherParameters : Json}
    (same : SameButLogin parameters otherParameters) :
    plan.describes site parameters = other.describes otherSite otherParameters := by
  have requested : plan.requestedDatabase parameters = other.requestedDatabase otherParameters :=
    ((resembles.matches_site? same).map fun sites => sites.database).eq
  unfold describes
  rw [requested, sites.database]

/-! ## Calls -/

/-- One call on a server, by two administrators. -/
structure TwoLogins where
  url : String
  one : Login
  other : Login
  call : AdminCall

/-- The same call by whatever administrator, with the same reply. -/
def anyLogin : Coupling administration where
  Pair := TwoLogins
  first pair := ⟨⟨pair.url, pair.one⟩, pair.call⟩
  second pair := ⟨⟨pair.url, pair.other⟩, pair.call⟩
  Meet _ reply other := reply = other

/-- Steps of a plan that differ in a login alone, and results that pass for each other. -/
abbrev Alongside (alike : α → β → Prop) (steps : Steps α) (others : Steps β) : Prop :=
  Parallel anyLogin (Matches alike) steps.run others.run

/-- A call to one server runs alongside the same call with another login. -/
theorem alongside_call
    {server other : Server}
    (address : server.url = other.url)
    (call : AdminCall)
    (report : Remote.Failure → Error) :
    Alongside Eq (Plan.call server call report) (Plan.call other call report) := by
  obtain ⟨url, one⟩ := server
  obtain ⟨_, otherLogin⟩ := other
  cases address
  let pair : anyLogin.Pair := TwoLogins.mk url one otherLogin call
  refine .ask pair ?_
  rintro reply _ rfl
  cases reply with
  | ok reply => exact .done (.ok rfl)
  | error failure => exact .done (.error _)

/-- Results that match are steps alongside each other. -/
theorem alongside_ofExcept
    {alike : α → β → Prop}
    {result : Except Error α}
    {other : Except Error β}
    (same : Matches alike result other) :
    Alongside alike (ofExcept result) (ofExcept other) :=
  .done same

/-- Creating runs alongside for two logins, and leaves payloads that are alike but for the login. -/
theorem Resembles.alongside_create
    {plan other : Plan}
    (resembles : plan.Resembles other)
    (draws : Draws)
    {parameters otherParameters : Json}
    (same : SameButLogin parameters otherParameters) :
    Alongside SameButLogin (plan.create draws parameters) (other.create draws otherParameters) := by
  cases resembles with
  | shared id address =>
      have read := (matches_project_databaseChoice same).mapError fun _ => Error.malformedParameters
      refine (alongside_ofExcept read).bind ?_
      rintro choice _ rfl
      refine (alongside_call address _ _).bind ?_
      rintro reply _ rfl
      exact .done (.ok (.same _))
  | perInstance id =>
      have read := (matches_project_siteChoice same).mapError fun _ => Error.malformedParameters
      refine (alongside_ofExcept read).bind ?_
      rintro ⟨database, url, username, password⟩ ⟨_, _, otherName, otherPassword⟩ resembles
      have missing := resembles.isEmpty_eq
      obtain ⟨rfl, rfl, given⟩ := resembles
      by_cases noUrl : url.isEmpty = true
      · rw [if_pos noUrl, if_pos noUrl]
        exact .done (Matches.error _)
      · rw [if_neg noUrl, if_neg noUrl]
        by_cases noPassword : password.isEmpty = true
        · rw [if_pos noPassword, if_pos (missing.symm.trans noPassword)]
          exact .done (Matches.error _)
        · rw [if_neg noPassword, if_neg (missing ▸ noPassword)]
          refine Parallel.bind (alongside_call ?_ _ _) ?_
          · rfl
          · rintro reply _ rfl
            exact .done (Matches.ok (SiteChoice.Resembles.payload ⟨rfl, rfl, given⟩))

/-- An instance is removed alike from sites that differ in the login alone. -/
theorem alongside_remove
    {site other : Site}
    (resembles : site.Resembles other) :
    Alongside Eq (remove site) (remove other) := by
  unfold remove
  rw [resembles.database]
  refine (alongside_call resembles.url _ _).bind ?_
  rintro reply _ rfl
  exact .done (.ok rfl)

/-- Credentials are issued alike for sites that differ in the login alone. -/
theorem alongside_issue
    {site other : Site}
    (resembles : site.Resembles other)
    (draws : Draws)
    (parameters : Json) :
    Alongside Eq (issue site draws parameters) (issue other draws parameters) := by
  unfold issue
  rw [resembles.database, resembles.url]
  refine (alongside_ofExcept (.refl (fun _ => Eq.refl _) _)).bind ?_
  rintro choice _ rfl
  refine (alongside_call resembles.url _ _).bind ?_
  rintro (known : Bool) _ rfl
  cases known with
  | true =>
      exact .done (Matches.error _)
  | false =>
      refine (alongside_call resembles.url _ _).bind ?_
      rintro _ _ rfl
      refine (alongside_call resembles.url _ _).bind ?_
      rintro _ _ rfl
      exact .done (Matches.ok rfl)

/-- Credentials are issued alike for an instance whose payloads differ in a login alone. -/
theorem Resembles.alongside_bind
    {plan other : Plan}
    (resembles : plan.Resembles other)
    (draws : Draws)
    {payload otherPayload : Json}
    (same : SameButLogin payload otherPayload)
    (parameters : Json) :
    Alongside Eq (plan.bind draws payload parameters) (other.bind draws otherPayload parameters) := by
  have sites := (resembles.matches_site? same).mapError fun _ => Error.malformedPayload
  refine (alongside_ofExcept sites).bind ?_
  intro site otherSite sites
  exact alongside_issue sites draws parameters

/-- Credentials are taken back alike by whatever administrator. -/
theorem alongside_unbind
    {server other : Server}
    (address : server.url = other.url)
    (binding : ServiceBinding) :
    Alongside Eq (unbind server binding) (unbind other binding) := by
  refine (alongside_ofExcept (.refl (fun _ => Eq.refl _) _)).bind ?_
  rintro credentials _ rfl
  refine (alongside_call address _ _).bind ?_
  rintro _ _ rfl
  refine (alongside_call address _ _).bind ?_
  rintro _ _ rfl
  exact .done (Matches.ok rfl)

end GraphBroker.Plan
