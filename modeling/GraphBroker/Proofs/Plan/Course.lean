import GraphBroker.Plan.Basic
import GraphBroker.Proofs.Conversation
import GraphBroker.Proofs.Fallible

namespace GraphBroker.Plan

open Dialogue

/-!
# The courses of a plan's operations

Each operation of a plan makes a few calls on one server and stops at the first
that fails.  For every operation there is a list of its possible courses: the
calls with their outcomes, and the result.  What the operations produce can be
read back, which ties the payload of a record to the site that was prepared.
-/

/-- A call on a server with its outcome. -/
abbrev called
    (server : Server)
    (call : AdminCall)
    (outcome : Except Remote.Failure call.Reply) :
    Exchange administration :=
  ⟨⟨server, call⟩, outcome⟩

/-! ## Payloads -/

/-- A choice of a database is read back from its payload. -/
theorem DatabaseChoice.project_payload
    (choice : DatabaseChoice) :
    project DatabaseChoice.codec .blank choice.payload = .ok choice :=
  rfl

/-- A choice of a site is read back from its payload. -/
theorem SiteChoice.project_payload
    (choice : SiteChoice) :
    project SiteChoice.codec .blank choice.payload = .ok choice :=
  rfl

/-- Credentials are read back from their payload. -/
theorem Credentials.project_payload
    (credentials : Credentials) :
    project Credentials.codec .blank credentials.payload = .ok credentials :=
  rfl

/-! ## Names that are not blank -/

/-- A text is not blank if what stands in for a blank one is not. -/
theorem orElse_ne_empty
    {text fallback : String}
    (named : fallback ≠ "") :
    orElse text fallback ≠ "" := by
  unfold orElse
  split
  · exact named
  · next notEmpty =>
      intro isEmpty
      exact notEmpty (by simp [isEmpty])

/-- A drawn name for a database is not empty. -/
theorem Draws.databaseName_ne_empty
    (draws : Draws) :
    draws.databaseName ≠ "" := by
  simp [databaseName]

/-- A drawn name for a user is not empty. -/
theorem Draws.userName_ne_empty
    (draws : Draws) :
    draws.userName ≠ "" := by
  simp [userName]

/-- A drawn password is not empty. -/
theorem Draws.userPassword_ne_empty
    (draws : Draws) :
    draws.userPassword ≠ "" := by
  intro blank
  have letters : draws.password.draws.toList.map Word.letter = [] := by
    simpa [userPassword, Word.text] using congrArg String.toList blank
  have count := congrArg List.length letters
  simp at count

/-! ## Sites -/

/--
A plan offers a site if the database has a name and the server is the one of the
plan, or, where the caller names the server, its address and login are not blank.
-/
structure Offers (plan : Plan) (site : Site) : Prop where
  database_ne_empty : site.database ≠ ""
  server :
    match plan.kind with
    | .shared server => site.server = server
    | .perInstance =>
        site.server.url ≠ "" ∧ site.server.admin.username ≠ "" ∧ site.server.admin.password ≠ ""

/-- A recorded choice of a database describes the database on the shared server. -/
theorem site?_payload_shared
    (id : String)
    (server : Server)
    (choice : DatabaseChoice) :
    site? ⟨id, .shared server⟩ choice.payload = .ok ⟨choice.database, server⟩ := by
  rw [site?, DatabaseChoice.project_payload]
  rfl

/-- The site of an instance with its own server is the one that its payload chooses. -/
theorem site?_payload_perInstance
    (id : String)
    (choice : SiteChoice) :
    site? ⟨id, .perInstance⟩ choice.payload = .ok ⟨choice.database, choice.server⟩ := by
  rw [site?, SiteChoice.project_payload]
  rfl

/-- Parameters that leave a name open or ask for it describe the site that gets that name. -/
theorem describes_orElse
    {plan : Plan}
    {parameters : Json}
    {wanted site : Site}
    {fallback : String}
    (asked : plan.site? parameters = .ok wanted)
    (named : site.database = orElse wanted.database fallback) :
    plan.describes site parameters = true := by
  simp only [describes, requestedDatabase, asked, Except.map, named, orElse]
  by_cases blank : wanted.database = ""
  · simp [blank]
  · simp [blank, String.isEmpty_iff]

/-- The credentials that are issued for a site where the caller chose a user. -/
def Site.credentials (site : Site) (draws : Draws) (choice : LoginChoice) : Credentials :=
  { database := site.database
    url := site.server.url
    username := orElse choice.username draws.userName
    password := orElse choice.password draws.userPassword }

/-- Parameters choose credentials for a site. -/
def Site.Chooses
    (site : Site)
    (draws : Draws)
    (parameters : Json)
    (credentials : Credentials) :
    Prop :=
  (project LoginChoice.codec .blank parameters).map (site.credentials draws) = .ok credentials

/-- Credentials fit a site: they are for its database on its server, with a name and a password. -/
structure Site.Fits (site : Site) (credentials : Credentials) : Prop where
  database : credentials.database = site.database
  url : credentials.url = site.server.url
  username_ne_empty : credentials.username ≠ ""
  password_ne_empty : credentials.password ≠ ""

/-- Chosen credentials fit the site for which they are chosen. -/
theorem Site.Chooses.fits
    {site : Site}
    {draws : Draws}
    {parameters : Json}
    {credentials : Credentials}
    (chosen : site.Chooses draws parameters credentials) :
    site.Fits credentials := by
  unfold Chooses at chosen
  cases read : project LoginChoice.codec .blank parameters with
  | error error =>
      rw [read] at chosen
      cases chosen
  | ok choice =>
      rw [read] at chosen
      cases chosen
      exact {
        database := rfl
        url := rfl
        username_ne_empty := orElse_ne_empty draws.userName_ne_empty
        password_ne_empty := orElse_ne_empty draws.userPassword_ne_empty
      }

/-! ## Courses -/

/-- How the database of an instance is created. -/
inductive Creating (plan : Plan) (draws : Draws) (parameters : Json) :
    List (Exchange administration) → Except Error Json → Prop where
  /-- The parameters are turned down before any call. -/
  | refused {error : Error}
      (reason : error.status = 400) :
      Creating plan draws parameters [] (.error error)
  /-- The server does not create the database. -/
  | failed {site : Site} {failure : Remote.Failure}
      (offered : plan.Offers site) :
      Creating plan draws parameters
        [called site.server (.createDatabase site.database) (.error failure)]
        (.error (.server failure))
  /-- The database is there, and the payload says where. -/
  | created {site : Site} {payload : Json}
      (offered : plan.Offers site)
      (readable : plan.site? payload = .ok site)
      (requested : plan.describes site parameters = true) :
      Creating plan draws parameters
        [called site.server (.createDatabase site.database) (.ok ())]
        (.ok payload)

/-- How the database of an instance is deleted. -/
inductive Removing (site : Site) :
    List (Exchange administration) → Except Error Unit → Prop where
  | failed {failure : Remote.Failure} :
      Removing site
        [called site.server (.deleteDatabase site.database) (.error failure)]
        (.error (.server failure))
  | removed :
      Removing site
        [called site.server (.deleteDatabase site.database) (.ok ())]
        (.ok ())

/-- How credentials are issued. -/
inductive Issuing (site : Site) (draws : Draws) (parameters : Json) :
    List (Exchange administration) → Except Error Json → Prop where
  /-- The parameters do not have the shape of a choice. -/
  | malformed {error : Json.ReadError}
      (unreadable : project LoginChoice.codec .blank parameters = .error error) :
      Issuing site draws parameters [] (.error .malformedParameters)
  /-- The server does not say whether the user exists. -/
  | unchecked {credentials : Credentials} {failure : Remote.Failure}
      (chosen : site.Chooses draws parameters credentials) :
      Issuing site draws parameters
        [called site.server (.userExists credentials.username) (.error failure)]
        (.error .userCheckFailed)
  /-- The user exists already. -/
  | taken {credentials : Credentials}
      (chosen : site.Chooses draws parameters credentials) :
      Issuing site draws parameters
        [called site.server (.userExists credentials.username) (.ok true)]
        (.error (.userExists credentials.username))
  /-- The server does not create the user. -/
  | notCreated {credentials : Credentials} {failure : Remote.Failure}
      (chosen : site.Chooses draws parameters credentials) :
      Issuing site draws parameters
        [called site.server (.userExists credentials.username) (.ok false),
         called site.server (.newUser credentials.username credentials.password) (.error failure)]
        (.error .userNotCreated)
  /-- The server does not let the new user in. -/
  | notGranted {credentials : Credentials} {failure : Remote.Failure}
      (chosen : site.Chooses draws parameters credentials) :
      Issuing site draws parameters
        [called site.server (.userExists credentials.username) (.ok false),
         called site.server (.newUser credentials.username credentials.password) (.ok ()),
         called site.server (.grantAccess credentials.database credentials.username)
          (.error failure)]
        (.error (.accessNotGranted credentials.database credentials.username))
  /-- The user is there and let in. -/
  | issued {credentials : Credentials}
      (chosen : site.Chooses draws parameters credentials) :
      Issuing site draws parameters
        [called site.server (.userExists credentials.username) (.ok false),
         called site.server (.newUser credentials.username credentials.password) (.ok ()),
         called site.server (.grantAccess credentials.database credentials.username) (.ok ())]
        (.ok credentials.payload)

/-- How credentials are taken back. -/
inductive Revoking (server : Server) (binding : ServiceBinding) :
    List (Exchange administration) → Except Error Unit → Prop where
  /-- The payload of the binding does not have the shape of credentials. -/
  | unreadable {error : Json.ReadError}
      (unread : project Credentials.codec .blank binding.payload = .error error) :
      Revoking server binding [] (.error (.unreadableBinding binding.guid error))
  /-- The server does not keep the user out. -/
  | notRevoked {credentials : Credentials} {failure : Remote.Failure}
      (read : project Credentials.codec .blank binding.payload = .ok credentials) :
      Revoking server binding
        [called server (.revokeAccess credentials.database credentials.username) (.error failure)]
        (.error (.server failure))
  /-- The user is kept out but not deleted. -/
  | notDeleted {credentials : Credentials} {failure : Remote.Failure}
      (read : project Credentials.codec .blank binding.payload = .ok credentials) :
      Revoking server binding
        [called server (.revokeAccess credentials.database credentials.username) (.ok ()),
         called server (.deleteUser credentials.username) (.error failure)]
        (.error (.server failure))
  /-- The user is gone. -/
  | revoked {credentials : Credentials}
      (read : project Credentials.codec .blank binding.payload = .ok credentials) :
      Revoking server binding
        [called server (.revokeAccess credentials.database credentials.username) (.ok ()),
         called server (.deleteUser credentials.username) (.ok ())]
        (.ok ())

/-- Credentials are issued by looking for their user, creating it and letting it in. -/
theorem call_of_issuing
    {site : Site}
    {draws : Draws}
    {parameters : Json}
    {calls : List (Exchange administration)}
    {outcome : Except Error Json}
    (issuing : Issuing site draws parameters calls outcome) :
    calls = [] ∨
      ∃ credentials, site.Fits credentials ∧
        ∀ call ∈ calls,
          call.question.call = .userExists credentials.username ∨
            call.question.call = .newUser credentials.username credentials.password ∨
              call.question.call = .grantAccess credentials.database credentials.username := by
  cases issuing with
  | malformed unreadable =>
      exact Or.inl rfl
  | unchecked chosen | taken chosen | notCreated chosen | notGranted chosen | issued chosen =>
      refine Or.inr ⟨_, chosen.fits, ?_⟩
      simp

/-- Credentials are taken back by keeping their user out and deleting it. -/
theorem call_of_revoking
    {server : Server}
    {binding : ServiceBinding}
    {calls : List (Exchange administration)}
    {outcome : Except Error Unit}
    (revoking : Revoking server binding calls outcome)
    {call : Exchange administration}
    (member : call ∈ calls) :
    ∃ credentials,
      project Credentials.codec .blank binding.payload = .ok credentials ∧
        call.question.server = server ∧
        (call.question.call = .revokeAccess credentials.database credentials.username ∨
          call.question.call = .deleteUser credentials.username) := by
  cases revoking with
  | unreadable unread =>
      cases member
  | notRevoked read =>
      obtain rfl := List.mem_singleton.mp member
      exact ⟨_, read, rfl, Or.inl rfl⟩
  | notDeleted read | revoked read =>
      rcases List.mem_cons.mp member with rfl | last
      · exact ⟨_, read, rfl, Or.inl rfl⟩
      · obtain rfl := List.mem_singleton.mp last
        exact ⟨_, read, rfl, Or.inr rfl⟩

/-! ## Every way of an operation is one of its courses -/

/-- A call goes through one exchange and reports a failure of it. -/
theorem yields_call
    {server : Server}
    {call : AdminCall}
    {report : Remote.Failure → Error}
    {exchanges : List (Exchange administration)}
    {result : Except Error call.Reply}
    (yields : (Plan.call server call report).run.Yields exchanges result) :
    (∃ value, exchanges = [called server call (.ok value)] ∧ result = .ok value) ∨
      ∃ failure, exchanges = [called server call (.error failure)] ∧
        result = .error (report failure) := by
  obtain ⟨reply, rest, rfl, later⟩ := yields_ask_iff.mp yields
  cases reply with
  | ok value =>
      obtain ⟨rfl, rfl⟩ := yields_done_iff.mp later
      exact Or.inl ⟨value, rfl, rfl⟩
  | error failure =>
      obtain ⟨rfl, rfl⟩ := yields_done_iff.mp later
      exact Or.inr ⟨failure, rfl, rfl⟩

/-- A call whose failure ends the operation, and what follows it where it succeeds. -/
theorem yields_call_bind
    {server : Server}
    {call : AdminCall}
    {report : Remote.Failure → Error}
    {next : call.Reply → Steps α}
    {exchanges : List (Exchange administration)}
    {result : Except Error α}
    (yields : (Plan.call server call report >>= next).run.Yields exchanges result) :
    (∃ failure, exchanges = [called server call (.error failure)] ∧
        result = .error (report failure)) ∨
      ∃ value later, exchanges = called server call (.ok value) :: later ∧
        (next value).run.Yields later result := by
  rcases yields_bind yields with ⟨error, failing, rfl⟩ | ⟨value, earlier, later, rfl, first, rest⟩
  · rcases yields_call failing with ⟨_, _, impossible⟩ | ⟨failure, rfl, same⟩
    · cases impossible
    · cases same
      exact Or.inl ⟨failure, rfl, rfl⟩
  · rcases yields_call first with ⟨given, rfl, same⟩ | ⟨_, _, impossible⟩
    · cases same
      exact Or.inr ⟨value, later, rfl, rest⟩
    · cases impossible

/-- The calls of a removal, and what they come to. -/
theorem removing_of_yields
    {site : Site}
    {exchanges : List (Exchange administration)}
    {result : Except Error Unit}
    (yields : (remove site).run.Yields exchanges result) :
    Removing site exchanges result := by
  rcases yields_call_bind yields with ⟨failure, rfl, rfl⟩ | ⟨reply, later, rfl, finished⟩
  · exact .failed
  · obtain ⟨rfl, rfl⟩ := yields_done_iff.mp finished
    exact .removed

/-- The calls of a revocation, and what they come to. -/
theorem revoking_of_yields
    {server : Server}
    {binding : ServiceBinding}
    {exchanges : List (Exchange administration)}
    {result : Except Error Unit}
    (yields : (unbind server binding).run.Yields exchanges result) :
    Revoking server binding exchanges result := by
  rcases yields_given_bind yields with ⟨error, unread, rfl, rfl⟩ | ⟨credentials, read, revoking⟩
  · obtain ⟨readError, unreadable, rfl⟩ := mapError_eq_error_iff.mp unread
    exact .unreadable unreadable
  · have held := mapError_eq_ok_iff.mp read
    rcases yields_call_bind revoking with ⟨failure, rfl, rfl⟩ | ⟨_, later, rfl, deleting⟩
    · exact .notRevoked held
    · rcases yields_call_bind deleting with ⟨failure, rfl, rfl⟩ | ⟨_, last, rfl, finished⟩
      · exact .notDeleted held
      · obtain ⟨rfl, rfl⟩ := yields_done_iff.mp finished
        exact .revoked held

/-- The calls of an issue, and what they come to. -/
theorem issuing_of_yields
    {site : Site}
    {draws : Draws}
    {parameters : Json}
    {exchanges : List (Exchange administration)}
    {result : Except Error Json}
    (yields : (issue site draws parameters).run.Yields exchanges result) :
    Issuing site draws parameters exchanges result := by
  rcases yields_given_bind yields with ⟨error, unread, rfl, rfl⟩ | ⟨choice, read, checking⟩
  · obtain ⟨readError, unreadable, rfl⟩ := mapError_eq_error_iff.mp unread
    exact .malformed unreadable
  · have chosen : site.Chooses draws parameters (site.credentials draws choice) := by
      simp [Site.Chooses, mapError_eq_ok_iff.mp read, Except.map]
    rcases yields_call_bind checking with ⟨failure, rfl, rfl⟩ | ⟨known, later, rfl, creating⟩
    · exact .unchecked chosen
    · cases known with
      | true =>
          obtain ⟨rfl, rfl⟩ := yields_done_iff.mp creating
          exact .taken chosen
      | false =>
          rcases yields_call_bind creating with ⟨failure, rfl, rfl⟩ | ⟨_, later, rfl, granting⟩
          · exact .notCreated chosen
          · rcases yields_call_bind granting with ⟨failure, rfl, rfl⟩ | ⟨_, last, rfl, finished⟩
            · exact .notGranted chosen
            · obtain ⟨rfl, rfl⟩ := yields_done_iff.mp finished
              exact .issued chosen

/-- The calls of a creation, and what they come to. -/
theorem creating_of_yields
    {plan : Plan}
    {draws : Draws}
    {parameters : Json}
    {exchanges : List (Exchange administration)}
    {result : Except Error Json}
    (yields : (plan.create draws parameters).run.Yields exchanges result) :
    Creating plan draws parameters exchanges result := by
  obtain ⟨id, kind⟩ := plan
  cases kind with
  | shared server =>
      rcases yields_given_bind yields with ⟨error, unread, rfl, rfl⟩ | ⟨choice, read, creating⟩
      · obtain ⟨readError, unreadable, rfl⟩ := mapError_eq_error_iff.mp unread
        exact .refused rfl
      · have chosen := mapError_eq_ok_iff.mp read
        let site : Site := ⟨orElse choice.database draws.databaseName, server⟩
        have offered : Offers ⟨id, .shared server⟩ site :=
          ⟨orElse_ne_empty draws.databaseName_ne_empty, rfl⟩
        rcases yields_call_bind creating with ⟨failure, rfl, rfl⟩ | ⟨_, later, rfl, finished⟩
        · exact .failed offered
        · obtain ⟨rfl, rfl⟩ := yields_done_iff.mp finished
          exact .created offered (site?_payload_shared id server _)
            (describes_orElse (congrArg (Except.map _) chosen) rfl)
  | perInstance =>
      rcases yields_given_bind yields with ⟨error, unread, rfl, rfl⟩ | ⟨choice, read, checking⟩
      · obtain ⟨readError, unreadable, rfl⟩ := mapError_eq_error_iff.mp unread
        exact .refused rfl
      · have chosen := mapError_eq_ok_iff.mp read
        by_cases noUrl : choice.url.isEmpty = true
        · rw [if_pos noUrl] at checking
          obtain ⟨rfl, rfl⟩ := yields_done_iff.mp checking
          exact .refused rfl
        · rw [if_neg noUrl] at checking
          by_cases noPassword : choice.password.isEmpty = true
          · rw [if_pos noPassword] at checking
            obtain ⟨rfl, rfl⟩ := yields_done_iff.mp checking
            exact .refused rfl
          · rw [if_neg noPassword] at checking
            let site : Site :=
              ⟨orElse choice.database draws.databaseName,
                ⟨choice.url, ⟨orElse choice.username "admin", choice.password⟩⟩⟩
            have offered : Offers ⟨id, .perInstance⟩ site := {
              database_ne_empty := orElse_ne_empty draws.databaseName_ne_empty
              server :=
                ⟨fun blank => noUrl (String.isEmpty_iff.mpr blank),
                  orElse_ne_empty (by decide),
                  fun blank => noPassword (String.isEmpty_iff.mpr blank)⟩
            }
            rcases yields_call_bind checking with ⟨failure, rfl, rfl⟩ | ⟨_, later, rfl, finished⟩
            · exact .failed offered
            · obtain ⟨rfl, rfl⟩ := yields_done_iff.mp finished
              exact .created offered (site?_payload_perInstance id _)
                (describes_orElse (congrArg (Except.map _) chosen) rfl)

end GraphBroker.Plan
