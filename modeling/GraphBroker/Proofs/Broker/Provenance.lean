import GraphBroker.Proofs.Broker.Records

namespace GraphBroker.Broker

open Store Plan

/-!
# Where databases and users come from

What the broker takes away it has put there itself, at the same address and with
the same login.  The names of a teardown are read from a record, and a record is
made only after the calls that put its database or its user there succeeded; so
it is enough that every record is warranted by the calls of the past.
-/

/-- A database was created on a server. -/
def DatabaseCreated
    (past : List (Exchange administration))
    (server : Server)
    (database : String) :
    Prop :=
  called server (.createDatabase database) (.ok ()) ∈ past

/-- A user was created on a server. -/
def UserCreated
    (past : List (Exchange administration))
    (server : Server)
    (username : String) :
    Prop :=
  ∃ password, called server (.newUser username password) (.ok ()) ∈ past

/-- A user of a server was let into a database. -/
def AccessGranted
    (past : List (Exchange administration))
    (server : Server)
    (database username : String) :
    Prop :=
  called server (.grantAccess database username) (.ok ()) ∈ past

/-- What a call takes away was put there before. -/
def Warranted (past : List (Exchange administration)) (question : AdminQuestion) : Prop :=
  match question.call with
  | .deleteDatabase database => DatabaseCreated past question.server database
  | .revokeAccess database username =>
      UserCreated past question.server username ∧
        AccessGranted past question.server database username
  | .deleteUser username => UserCreated past question.server username
  | .createDatabase _ | .userExists _ | .newUser _ _ | .grantAccess _ _ => True

/-- No name and no password of a call is blank. -/
def Named (call : AdminCall) : Prop :=
  call.database? ≠ some "" ∧ call.username? ≠ some "" ∧ call.password? ≠ some ""

/-- Every call is warranted by those before it, and none has a blank name or password. -/
def Orderly (calls : List (Exchange administration)) : Prop :=
  ∀ earlier call later,
    calls = earlier ++ call :: later →
    Warranted earlier call.question ∧ Named call.question.call

section

variable {past calls : List (Exchange administration)}

/-- A database that was created stays created by what happens later. -/
theorem DatabaseCreated.append
    {server : Server}
    {database : String}
    (created : DatabaseCreated past server database) :
    DatabaseCreated (past ++ calls) server database :=
  List.mem_append_left calls created

/-- A user that was created stays created by what happens later. -/
theorem UserCreated.append
    {server : Server}
    {username : String}
    (created : UserCreated past server username) :
    UserCreated (past ++ calls) server username := by
  obtain ⟨password, made⟩ := created
  exact ⟨password, List.mem_append_left calls made⟩

/-- Access that was granted stays granted by what happens later. -/
theorem AccessGranted.append
    {server : Server}
    {database username : String}
    (granted : AccessGranted past server database username) :
    AccessGranted (past ++ calls) server database username :=
  List.mem_append_left calls granted

/-- What warrants a call does so with more calls before it. -/
theorem Warranted.append
    {question : AdminQuestion}
    (warranted : Warranted past question) :
    Warranted (past ++ calls) question := by
  obtain ⟨server, call⟩ := question
  cases call with
  | deleteDatabase database =>
      exact DatabaseCreated.append warranted
  | revokeAccess database username =>
      exact ⟨UserCreated.append warranted.1, AccessGranted.append warranted.2⟩
  | deleteUser username =>
      exact UserCreated.append warranted
  | createDatabase _ | userExists _ | newUser _ _ | grantAccess _ _ =>
      trivial

/-- Calls that are all warranted by orderly ones go on in order. -/
theorem Orderly.append
    (orderly : Orderly past)
    (warranted : ∀ call ∈ calls, Warranted past call.question ∧ Named call.question.call) :
    Orderly (past ++ calls) := by
  intro earlier call later split
  rcases List.append_eq_append_iff.mp split with
    ⟨between, rfl, rest⟩ | ⟨between, same, rest⟩
  · have member : call ∈ calls := by simp [rest]
    obtain ⟨warrant, named⟩ := warranted call member
    exact ⟨warrant.append, named⟩
  · cases between with
    | nil =>
        rw [List.append_nil] at same
        rw [List.nil_append] at rest
        have member : call ∈ calls := by simp [← rest]
        rw [← same]
        exact warranted call member
    | cons first others =>
        cases rest
        exact orderly earlier call others same

end

/-! ## The calls of a plan -/

section

variable {past calls : List (Exchange administration)} {draws : Draws} {parameters : Json}
variable {site : Site}

/-- A creation takes nothing away, so its calls need no warrant. -/
theorem warranted_of_creating
    {plan : Plan}
    {outcome : Except Plan.Error Json}
    (creating : plan.Creating draws parameters calls outcome) :
    ∀ call ∈ calls, Warranted past call.question ∧ Named call.question.call := by
  intro call member
  cases creating with
  | refused reason =>
      cases member
  | failed offered | created offered readable requested =>
      obtain rfl := List.mem_singleton.mp member
      exact ⟨trivial, by simpa [AdminCall.database?] using offered.database_ne_empty,
        by simp [AdminCall.username?], by simp [AdminCall.password?]⟩

/-- A removal is warranted by the creation of its database. -/
theorem warranted_of_removing
    {outcome : Except Plan.Error Unit}
    (named : site.database ≠ "")
    (created : DatabaseCreated past site.server site.database)
    (removing : Removing site calls outcome) :
    ∀ call ∈ calls, Warranted past call.question ∧ Named call.question.call := by
  intro call member
  cases removing with
  | failed | removed =>
      obtain rfl := List.mem_singleton.mp member
      exact ⟨created, by simpa [AdminCall.database?] using named,
        by simp [AdminCall.username?], by simp [AdminCall.password?]⟩

/-- An issue takes nothing away, so its calls need no warrant. -/
theorem warranted_of_issuing
    {outcome : Except Plan.Error Json}
    (named : site.database ≠ "")
    (issuing : Issuing site draws parameters calls outcome) :
    ∀ call ∈ calls, Warranted past call.question ∧ Named call.question.call := by
  intro call member
  rcases call_of_issuing issuing with rfl | ⟨credentials, fits, asked⟩
  · cases member
  · have user := fits.username_ne_empty
    have password := fits.password_ne_empty
    have database : credentials.database ≠ "" := fits.database ▸ named
    rcases asked call member with same | same | same
    · simp [same, Warranted, Named, AdminCall.database?, AdminCall.username?, AdminCall.password?,
        user]
    · simp [same, Warranted, Named, AdminCall.database?, AdminCall.username?, AdminCall.password?,
        user, password]
    · simp [same, Warranted, Named, AdminCall.database?, AdminCall.username?, AdminCall.password?,
        user, database]

end

/-! ## Records that the past warrants -/

/-- The database of a recorded instance has a name and was created. -/
def WarrantedInstance
    (broker : Broker)
    (past : List (Exchange administration))
    (_ : String)
    (record : ServiceInstance) :
    Prop :=
  ∃ plan site,
    broker.planOf record = .ok (plan, site) ∧ site.database ≠ "" ∧
      DatabaseCreated past site.server site.database

/-- The user of a recorded binding has a name, was created, and was let into the database. -/
def WarrantedBinding
    (broker : Broker)
    (past : List (Exchange administration))
    (_ : String)
    (record : ServiceInstance)
    (_ : String)
    (binding : ServiceBinding) :
    Prop :=
  ∃ plan site credentials,
    broker.planOf record = .ok (plan, site) ∧
      project Credentials.codec .blank binding.payload = .ok credentials ∧
      credentials.database ≠ "" ∧ credentials.username ≠ "" ∧
      UserCreated past site.server credentials.username ∧
      AccessGranted past site.server credentials.database credentials.username

/-- The past warrants every record. -/
abbrev RecordsWarranted
    (broker : Broker)
    (past : List (Exchange administration))
    (memory : Memory) :
    Prop :=
  Each (WarrantedInstance broker past) (WarrantedBinding broker past) memory

section

variable {broker : Broker} {draws : Draws} {past calls : List (Exchange administration)}
variable {before after : Memory} {id bindingId : String} {record : ServiceInstance} {plan : Plan}
variable {site : Site}

/-- Records that the past warrants are warranted by a longer past. -/
theorem RecordsWarranted.append
    (warranted : RecordsWarranted broker past before) :
    RecordsWarranted broker (past ++ calls) before :=
  warranted.weaken
    (fun ⟨plan, site, usable, named, created⟩ => ⟨plan, site, usable, named, created.append⟩)
    (fun ⟨plan, site, credentials, usable, read, database, user, created, granted⟩ =>
      ⟨plan, site, credentials, usable, read, database, user, created.append, granted.append⟩)

/-- The database of a recorded instance was created. -/
theorem RecordsWarranted.created
    (warranted : RecordsWarranted broker past before)
    (recorded : before.instance? id = some record)
    (usable : broker.planOf record = .ok (plan, site)) :
    site.database ≠ "" ∧ DatabaseCreated past site.server site.database := by
  obtain ⟨_, _, located, named, created⟩ := warranted.instances recorded
  rw [usable] at located
  cases located
  exact ⟨named, created⟩

/-- The user of a recorded binding was created, and was let into the database. -/
theorem RecordsWarranted.issued
    {binding : ServiceBinding}
    {credentials : Credentials}
    (warranted : RecordsWarranted broker past before)
    (recorded : before.instance? id = some record)
    (usable : broker.planOf record = .ok (plan, site))
    (held : before.binding? id bindingId = some binding)
    (read : project Credentials.codec .blank binding.payload = .ok credentials) :
    credentials.database ≠ "" ∧ credentials.username ≠ "" ∧
      UserCreated past site.server credentials.username ∧
      AccessGranted past site.server credentials.database credentials.username := by
  obtain ⟨parent, above, _, _, found, located, same, issued⟩ := warranted.bindings held
  rw [recorded] at above
  cases above
  rw [usable] at located
  cases located
  rw [read] at same
  cases same
  exact issued

/-- Taking the credentials of a recorded binding away is warranted by their issue. -/
theorem warranted_of_taken
    {binding : ServiceBinding}
    {credentials : Credentials}
    {call : Exchange administration}
    (warranted : RecordsWarranted broker past before)
    (recorded : before.instance? id = some record)
    (usable : broker.planOf record = .ok (plan, site))
    (held : before.binding? id bindingId = some binding)
    (read : project Credentials.codec .blank binding.payload = .ok credentials)
    (there : call.question.server = site.server)
    (taken :
      call.question.call = .revokeAccess credentials.database credentials.username ∨
        call.question.call = .deleteUser credentials.username) :
    Warranted past call.question ∧ Named call.question.call := by
  obtain ⟨database, user, created, granted⟩ := warranted.issued recorded usable held read
  rcases taken with same | same
  · simp [same, there, Warranted, Named, AdminCall.database?, AdminCall.username?,
      AdminCall.password?, database, user, created, granted]
  · simp [same, there, Warranted, Named, AdminCall.database?, AdminCall.username?,
      AdminCall.password?, user, created]

/-- The past warrants every call of a turn. -/
theorem warranted_of_turn
    {operation : Operation}
    {answer : Answer}
    (turn : Turn broker draws before operation calls answer after)
    (warranted : RecordsWarranted broker past before) :
    ∀ call ∈ calls, Warranted past call.question ∧ Named call.question.call := by
  cases turn with
  | idle quiet =>
      simp
  | notCreated creating | instanceNotRecorded creating | provisioned known creating added =>
      exact warranted_of_creating creating
  | notRemoved recorded usable listed sweeping removing
  | instanceNotErased recorded usable listed sweeping removing
  | deprovisioned recorded usable listed sweeping removing erased =>
      obtain ⟨named, created⟩ := warranted.created recorded usable
      intro call member
      rcases List.mem_append.mp member with swept | removed
      · obtain ⟨binding, among, credentials, read, there, taken⟩ := call_of_sweeping sweeping swept
        obtain ⟨bindingId, held⟩ := listed.mp among
        exact warranted_of_taken warranted recorded usable held read there taken
      · exact warranted_of_removing named created removing call removed
  | notIssued recorded usable issuing | bindingNotRecorded recorded usable issuing
  | bound recorded usable issuing added =>
      exact warranted_of_issuing (warranted.created recorded usable).1 issuing
  | notRevoked recorded usable held erased revoking
  | unbound recorded usable held erased revoking =>
      intro call member
      obtain ⟨credentials, read, there, taken⟩ := call_of_revoking revoking member
      exact warranted_of_taken warranted recorded usable held read there taken

/-- With the calls of a turn, the past warrants the records after it. -/
theorem RecordsWarranted.of_turn
    {operation : Operation}
    {answer : Answer}
    (turn : Turn broker draws before operation calls answer after)
    (warranted : RecordsWarranted broker past before) :
    RecordsWarranted broker (past ++ calls) after := by
  refine Each.of_turn turn ?_ ?_ warranted.append
  · intro id request plan payload _ known creating
    cases creating with
    | created offered readable requested =>
        exact ⟨plan, _, planOf_eq_ok_iff.mpr ⟨known, readable⟩, offered.database_ne_empty,
          List.mem_append_right past (by simp)⟩
  · intro id bindingId request record plan site payload _ recorded usable issuing
    obtain ⟨named, _⟩ := warranted.created recorded usable
    cases issuing with
    | @issued credentials chosen =>
        have fits := chosen.fits
        exact ⟨plan, site, credentials, usable, credentials.project_payload,
          fits.database ▸ named, fits.username_ne_empty,
          ⟨credentials.password, List.mem_append_right past (by simp)⟩,
          List.mem_append_right past (by simp)⟩

end

/--
Whatever the broker takes away it has put there before, at the same address and
with the same login, and it never uses a blank name or password.
-/
theorem orderly_history
    {τ : Type}
    (broker : Broker)
    (keeper : Keeper)
    (server : (question : AdminQuestion) → τ → question.Outcome × τ)
    (others : τ)
    (tasks : List Task) :
    Orderly (callsOf (broker.history keeper server tasks (keeper.blank, others))) := by
  let sound (past : List Event) (memory : Memory) : Prop :=
    Orderly (callsOf past) ∧ RecordsWarranted broker (callsOf past) memory
  have start : sound [] Memory.empty := by
    refine ⟨?_, Each.empty⟩
    intro earlier call later split
    simp [callsOf] at split
  have step {past : List Event} {draws : Draws} {before after : Memory} {event : Event}
      (turn : Turn broker draws before event.operation event.calls event.answer after)
      (holds : sound past before) :
      sound (past ++ [event]) after := by
    obtain ⟨orderly, warranted⟩ := holds
    have calls : callsOf (past ++ [event]) = callsOf past ++ event.calls := by
      simp [callsOf]
    simp only [sound, calls]
    exact ⟨orderly.append (warranted_of_turn turn warranted), warranted.of_turn turn⟩
  exact (records_induction step start tasks others).1

end GraphBroker.Broker
