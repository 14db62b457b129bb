import GraphBroker.Proofs.Admin.World
import GraphBroker.Proofs.Broker.Records

namespace GraphBroker.Broker

open Store Plan World

/-!
# Bindings and their users

A recorded binding hands out credentials, and they should be of use: their user
should be there and be let into their database.  That is kept by everything the
broker does but one.  Deprovisioning takes the users of all bindings back before
it deletes the database; if it then fails, the records of these bindings stay.
-/

/-- The credentials of a binding. -/
abbrev credentialsOf (binding : ServiceBinding) : Except Json.ReadError Credentials :=
  project Credentials.codec .blank binding.payload

/-- The user of credentials is there, and is let into their database. -/
structure Valid (world : World) (credentials : Credentials) : Prop where
  user : credentials.username ∈ (world credentials.url).users
  access : (credentials.database, credentials.username) ∈ (world credentials.url).access

/-- The credentials of every recorded binding are valid. -/
def Backed (memory : Memory) (world : World) : Prop :=
  ∀ {id bindingId binding},
    memory.binding? id bindingId = some binding →
    ∃ credentials, credentialsOf binding = .ok credentials ∧ Valid world credentials

/-- A recorded instance was not deprovisioned, but the access of a user was taken away. -/
def Event.strands (event : Event) : Bool :=
  match event.operation, event.answer with
  | .deprovision _, .error _ => event.calls.any (succeeds .revokeAccess)
  | _, _ => false

/--
All bindings are backed, and no two of them share a user.  This is why taking
back the user of one binding does not touch another.
-/
structure Secured (broker : Broker) (memory : Memory) (world : World) : Prop where
  usable : Usable broker memory
  backed : Backed memory world
  distinct :
    ∀ {id other bindingId otherBinding binding rival credentials claimed},
      memory.binding? id bindingId = some binding →
      memory.binding? other otherBinding = some rival →
      credentialsOf binding = .ok credentials →
      credentialsOf rival = .ok claimed →
      credentials.url = claimed.url →
      credentials.username = claimed.username →
      id = other ∧ bindingId = otherBinding

/-! ## What the calls of a plan do to users -/

section

variable {calls : List (Exchange administration)} {before after : World} {draws : Draws}
variable {parameters : Json} {site : Site} {server : Server} {url username : String}

/-- Creating a database takes nobody's access away. -/
theorem harmless_of_creating
    {plan : Plan}
    {outcome : Except Plan.Error Json}
    (creating : plan.Creating draws parameters calls outcome) :
    ∀ call ∈ calls, ¬ Harms url username call := by
  intro call member harms
  cases creating with
  | refused reason =>
      cases member
  | failed offered | created offered readable requested =>
      obtain rfl := List.mem_singleton.mp member
      exact harms.2.1

/-- Removing a database takes nobody's access away. -/
theorem harmless_of_removing
    {outcome : Except Plan.Error Unit}
    (removing : Removing site calls outcome) :
    ∀ call ∈ calls, ¬ Harms url username call := by
  intro call member harms
  cases removing with
  | failed | removed =>
      obtain rfl := List.mem_singleton.mp member
      exact harms.2.1

/-- Issuing credentials takes nobody's access away, even when it stops half way. -/
theorem harmless_of_issuing
    {outcome : Except Plan.Error Json}
    (issuing : Issuing site draws parameters calls outcome) :
    ∀ call ∈ calls, ¬ Harms url username call := by
  intro call member harms
  rcases call_of_issuing issuing with rfl | ⟨credentials, fits, asked⟩
  · cases member
  · obtain ⟨_, takes, _⟩ := harms
    rcases asked call member with same | same | same
    · rw [same] at takes
      exact takes
    · rw [same] at takes
      exact takes
    · rw [same] at takes
      exact takes

/-- A call that takes credentials back harms no user but theirs. -/
theorem harmed_of_taken
    {call : Exchange administration}
    {credentials : Credentials}
    (there : call.question.server = server)
    (taken :
      call.question.call = .revokeAccess credentials.database credentials.username ∨
        call.question.call = .deleteUser credentials.username)
    (harms : Harms url username call) :
    url = server.url ∧ username = credentials.username := by
  obtain ⟨here, takes, _⟩ := harms
  refine ⟨by rw [← here, there], ?_⟩
  rcases taken with same | same
  · rw [same] at takes
    exact takes.symm
  · rw [same] at takes
    exact takes.symm

/-- New credentials are valid, and their user was not there before. -/
theorem valid_of_issuing
    {payload : Json}
    (issuing : Issuing site draws parameters calls (.ok payload))
    (leads : Leads (P := administration) Obeys before calls after) :
    ∃ credentials,
      payload = credentials.payload ∧ site.Fits credentials ∧
        credentials.username ∉ (before credentials.url).users ∧ Valid after credentials := by
  cases issuing with
  | @issued credentials chosen =>
      obtain ⟨checked, asking, named, creating, granted, granting, rfl⟩ := leads
      have fits := chosen.fits
      have url := fits.url
      obtain ⟨known, rfl⟩ := Obeys.of_ok asking
      obtain ⟨_, rfl⟩ := Obeys.of_ok creating
      obtain ⟨_, rfl⟩ := Obeys.of_ok granting
      refine ⟨credentials, rfl, fits, ?_, ?_, ?_⟩
      · intro there
        rw [url] at there
        have told : before.reply ⟨site.server, .userExists credentials.username⟩ = true :=
          decide_eq_true there
        rw [told] at known
        cases known
      · simp [World.after, AdminCall.effect, url]
      · simp [World.after, AdminCall.effect, url]

/-- While nobody's access is taken away in a sweep, nobody is harmed. -/
theorem harmless_of_sweeping
    {bindings : List ServiceBinding}
    (sweeping : Sweeping server bindings calls)
    (unrevoked : calls.any (succeeds .revokeAccess) = false) :
    ∀ call ∈ calls, ¬ Harms url username call := by
  induction sweeping with
  | nil =>
      simp
  | cons revoking sweeping inductionHypothesis =>
      rw [List.any_append, Bool.or_eq_false_iff] at unrevoked
      have others := inductionHypothesis unrevoked.2
      intro call member harms
      rcases List.mem_append.mp member with here | there
      · cases revoking with
        | unreadable unread =>
            cases here
        | notRevoked read =>
            obtain rfl := List.mem_singleton.mp here
            obtain ⟨_, _, _, succeeded⟩ := harms
            cases succeeded
        | notDeleted read | revoked read =>
            cases unrevoked.1
      · exact others call there harms

/-- If a sweep takes anybody's access away, it is that of the user of a binding. -/
theorem revoked_of_sweeping
    {bindings : List ServiceBinding}
    (sweeping : Sweeping server bindings calls)
    (revoked : calls.any (succeeds .revokeAccess) = true) :
    ∃ binding ∈ bindings, ∃ credentials, credentialsOf binding = .ok credentials ∧
      called server (.revokeAccess credentials.database credentials.username) (.ok ()) ∈ calls := by
  induction sweeping with
  | nil =>
      cases revoked
  | @cons binding rest first later outcome revoking sweeping inductionHypothesis =>
      rw [List.any_append, Bool.or_eq_true] at revoked
      rcases revoked with here | there
      · refine ⟨binding, by simp, ?_⟩
        cases revoking with
        | unreadable unread | notRevoked read =>
            cases here
        | @notDeleted credentials failure read | @revoked credentials read =>
            exact ⟨credentials, read, by simp⟩
      · obtain ⟨other, among, credentials, read, member⟩ := inductionHypothesis there
        exact ⟨other, by simp [among], credentials, read, by simp [member]⟩

end

/-! ## What a turn does to bindings and their users -/

section

variable {broker : Broker} {draws : Draws} {id bindingId : String}
variable {record : ServiceInstance} {plan : Plan} {site : Site} {binding : ServiceBinding}
variable {credentials : Credentials} {operation : Operation} {answer : Answer}
variable {calls : List (Exchange administration)} {before after : Memory} {world later : World}

/-- The credentials in a usable record name the server of the instance's site. -/
theorem url_of_usable
    (usable : Usable broker before)
    (recorded : before.instance? id = some record)
    (located : broker.planOf record = .ok (plan, site))
    (held : before.binding? id bindingId = some binding)
    (read : credentialsOf binding = .ok credentials) :
    credentials.url = site.server.url := by
  obtain ⟨parent, above, _, _, _, issued, same, payload, fits⟩ := usable.bindings held
  rw [recorded] at above
  cases above
  rw [located] at same
  cases same
  rw [credentialsOf, payload, issued.project_payload] at read
  cases read
  exact fits.url

/-- Bindings that remain, with users that were spared, are still backed and distinct. -/
theorem Secured.of_spared
    (secured : Secured broker before world)
    (usable : Usable broker after)
    (remaining :
      ∀ {id bindingId binding},
        after.binding? id bindingId = some binding →
        before.binding? id bindingId = some binding)
    (spared :
      ∀ {id bindingId binding credentials},
        after.binding? id bindingId = some binding →
        credentialsOf binding = .ok credentials →
        Spares world later credentials.url credentials.username) :
    Secured broker after later where
  usable := usable
  backed held := by
    obtain ⟨credentials, read, valid⟩ := secured.backed (remaining held)
    have kept := spared held read
    exact ⟨credentials, read, kept.user valid.user, kept.access valid.access⟩
  distinct held rival := secured.distinct (remaining held) (remaining rival)

/-- Calls that harm nobody keep all bindings backed and distinct. -/
theorem Secured.of_harmless
    (secured : Secured broker before world)
    (leads : Leads (P := administration) Obeys world calls later)
    (harmless : ∀ {url username}, ∀ call ∈ calls, ¬ Harms url username call) :
    Secured broker before later :=
  secured.of_spared secured.usable (fun held => held) (fun _ _ => spares_of_leads leads harmless)

/-- Calls that harm the users of some bindings of an instance spare those of all others. -/
theorem Secured.spares_untaken
    (secured : Secured broker before world)
    (recorded : before.instance? id = some record)
    (located : broker.planOf record = .ok (plan, site))
    (chosen : String → Prop)
    (taking :
      ∀ call ∈ calls, ∀ {url username},
        Harms url username call →
        ∃ takenId taken claimed,
          chosen takenId ∧ before.binding? id takenId = some taken ∧
            credentialsOf taken = .ok claimed ∧
            url = site.server.url ∧ username = claimed.username)
    (leads : Leads (P := administration) Obeys world calls later)
    {other : String}
    (held : before.binding? other bindingId = some binding)
    (read : credentialsOf binding = .ok credentials)
    (untaken : ¬ (other = id ∧ chosen bindingId)) :
    Spares world later credentials.url credentials.username := by
  refine spares_of_leads leads ?_
  intro call member harms
  obtain ⟨takenId, taken, claimed, picked, there, claim, url, user⟩ := taking call member harms
  have sameUrl := url.trans (url_of_usable secured.usable recorded located there claim).symm
  obtain ⟨rfl, rfl⟩ := secured.distinct held there read claim sameUrl user
  exact untaken ⟨rfl, picked⟩

/-- A new binding is backed, and its user is not that of another. -/
theorem Secured.of_added_binding
    {payload : Json}
    (secured : Secured broker before world)
    (usable : Usable broker after)
    (added : Allows (.addBinding id bindingId ⟨bindingId, payload⟩) before (.ok ()) after)
    (issued : payload = credentials.payload)
    (fresh : credentials.username ∉ (world credentials.url).users)
    (valid : Valid later credentials)
    (spared : ∀ {url username}, Spares world later url username) :
    Secured broker after later where
  usable := usable
  backed held := by
    rcases added.binding_of_added held with ⟨_, rfl⟩ | there
    · exact ⟨credentials, by rw [credentialsOf, issued, credentials.project_payload], valid⟩
    · obtain ⟨known, read, worked⟩ := secured.backed there
      exact ⟨known, read, spared.user worked.user, spared.access worked.access⟩
  distinct held rival read claim url user := by
    -- The user of a recorded binding was there before, and the new one was not.
    have foreign {other otherBinding : String} {taken : ServiceBinding} {owned : Credentials}
        (there : before.binding? other otherBinding = some taken)
        (own : credentialsOf taken = .ok owned)
        (sameUrl : credentials.url = owned.url)
        (sameUser : credentials.username = owned.username) : False := by
      obtain ⟨_, again, worked⟩ := secured.backed there
      rw [own] at again
      cases again
      rw [sameUrl, sameUser] at fresh
      exact fresh worked.user
    have new {owned : Credentials}
        (own : credentialsOf ⟨bindingId, payload⟩ = .ok owned) :
        credentials = owned := by
      rw [credentialsOf, issued, credentials.project_payload] at own
      cases own
      rfl
    rcases added.binding_of_added held with ⟨here, rfl⟩ | held
    · obtain rfl := new read
      rcases added.binding_of_added rival with ⟨there, rfl⟩ | rival
      · exact ⟨here.1.trans there.1.symm, here.2.trans there.2.symm⟩
      · exact (foreign rival claim url user).elim
    · rcases added.binding_of_added rival with ⟨there, rfl⟩ | rival
      · obtain rfl := new claim
        exact (foreign held read url.symm user.symm).elim
      · exact secured.distinct held rival read claim url user

/-- Unless access was taken away for nothing, a turn keeps all bindings backed. -/
theorem secured_of_turn
    {event : Event}
    (turn : Turn broker draws before event.operation event.calls event.answer after)
    (leads : Leads (P := administration) Obeys world event.calls later)
    (kept : event.strands = false)
    (secured : Secured broker before world) :
    Secured broker after later := by
  have usable := usable_of_turn turn secured.usable
  obtain ⟨operation, calls, answer⟩ := event
  cases turn with
  | idle quiet =>
      exact secured.of_harmless leads (by simp)
  | notCreated creating | instanceNotRecorded creating =>
      exact secured.of_harmless leads (harmless_of_creating creating)
  | provisioned known creating added =>
      refine secured.of_spared usable ?_ ?_
      · intro id bindingId binding held
        simpa [added.binding?_of_ok, Call.bindingAfter] using held
      · intro id bindingId binding credentials held read
        exact spares_of_leads leads (harmless_of_creating creating)
  | notRemoved recorded located listed sweeping removing
  | instanceNotErased recorded located listed sweeping removing =>
      refine secured.of_harmless leads ?_
      intro url username call member
      simp only [Event.strands, List.append_eq, List.any_append, Bool.or_eq_false_iff] at kept
      rcases List.mem_append.mp member with swept | removed
      · exact harmless_of_sweeping sweeping kept.1 call swept
      · exact harmless_of_removing removing call removed
  | @deprovisioned id record plan site bindings swept calls after recorded located listed sweeping
      removing erased =>
      refine secured.of_spared usable (fun held => (erased.binding_of_erased_instance held).2) ?_
      intro other bindingId binding credentials remaining read
      obtain ⟨elsewhere, held⟩ := erased.binding_of_erased_instance remaining
      refine secured.spares_untaken recorded located (fun _ => True) ?_ leads held read
        (fun same => elsewhere same.1)
      intro call member url username harms
      rcases List.mem_append.mp member with taken | removed
      · obtain ⟨rival, among, claimed, claim, there, takes⟩ := call_of_sweeping sweeping taken
        obtain ⟨rivalId, found⟩ := listed.mp among
        exact ⟨rivalId, rival, claimed, trivial, found, claim, harmed_of_taken there takes harms⟩
      · exact (harmless_of_removing removing call removed harms).elim
  | notIssued recorded located issuing | bindingNotRecorded recorded located issuing =>
      exact secured.of_harmless leads (harmless_of_issuing issuing)
  | bound recorded located issuing added =>
      obtain ⟨credentials, issued, fits, fresh, valid⟩ := valid_of_issuing issuing leads
      exact secured.of_added_binding usable added issued fresh valid
        (spares_of_leads leads (harmless_of_issuing issuing))
  | @notRevoked id bindingId record plan site binding calls failure after recorded located held
      erased revoking
  | @unbound id bindingId record plan site binding calls after recorded located held erased
      revoking =>
      refine secured.of_spared usable (fun found => (erased.binding_of_erased found).2) ?_
      intro other otherBinding rival credentials remaining read
      obtain ⟨different, found⟩ := erased.binding_of_erased remaining
      refine secured.spares_untaken recorded located (fun taken => taken = bindingId) ?_ leads
        found read different
      intro call member url username harms
      obtain ⟨claimed, claim, there, takes⟩ := call_of_revoking revoking member
      exact ⟨bindingId, binding, claimed, rfl, held, claim, harmed_of_taken there takes harms⟩

/-- A sweep that takes somebody's access away leaves a recorded binding without it. -/
theorem not_backed_of_sweeping
    {bindings : List ServiceBinding}
    {swept : List (Exchange administration)}
    {outcome : Except Plan.Error Unit}
    (secured : Secured broker before world)
    (recorded : before.instance? id = some record)
    (located : broker.planOf record = .ok (plan, site))
    (listed : ∀ binding ∈ bindings, ∃ bindingId, before.binding? id bindingId = some binding)
    (sweeping : Sweeping site.server bindings swept)
    (removing : Removing site calls outcome)
    (leads : Leads (P := administration) Obeys world (swept ++ calls) later)
    (revoked : (swept ++ calls).any (succeeds .revokeAccess) = true) :
    ¬ Backed before later := by
  have nothingElse : calls.any (succeeds .revokeAccess) = false := by
    cases removing with
    | failed | removed =>
        rfl
  rw [List.any_append, nothingElse, Bool.or_false] at revoked
  obtain ⟨binding, among, credentials, read, taken⟩ := revoked_of_sweeping sweeping revoked
  obtain ⟨bindingId, held⟩ := listed binding among
  have ungranted :
      ∀ call ∈ swept ++ calls,
        call.question.call ≠ .grantAccess credentials.database credentials.username := by
    intro call member granting
    rcases List.mem_append.mp member with inSweep | inRemoval
    · obtain ⟨_, _, claimed, _, _, takes⟩ := call_of_sweeping sweeping inSweep
      rw [granting] at takes
      rcases takes with impossible | impossible <;> cases impossible
    · cases removing with
      | failed | removed =>
          obtain rfl := List.mem_singleton.mp inRemoval
          cases granting
  have keptOut := keptOut_of_leads leads ungranted (List.mem_append_left calls taken)
  intro backed
  obtain ⟨found, again, valid⟩ := backed held
  rw [read] at again
  cases again
  rw [← url_of_usable secured.usable recorded located held read] at keptOut
  exact keptOut valid.access

/-- If access was taken away for nothing, a binding is left without its user. -/
theorem not_backed_of_turn
    {event : Event}
    (turn : Turn broker draws before event.operation event.calls event.answer after)
    (leads : Leads (P := administration) Obeys world event.calls later)
    (stranded : event.strands = true)
    (secured : Secured broker before world) :
    ¬ Backed after later := by
  obtain ⟨operation, calls, answer⟩ := event
  cases turn with
  | idle quiet =>
      simp only [Event.strands, List.any_nil] at stranded
      split at stranded <;> cases stranded
  | notRemoved recorded located listed sweeping removing
  | instanceNotErased recorded located listed sweeping removing =>
      exact not_backed_of_sweeping secured recorded located (fun _ => listed.mp) sweeping removing
        leads stranded
  | _ =>
      cases stranded

end

/-! ## Histories -/

section

variable {φ : Type} {broker : Broker} {keeper : Keeper}
variable {fault : AdminQuestion → φ → Option Remote.Failure × φ}

/-- The servers' calls of a turn lead from one world to the next. -/
theorem leads_obeys
    (task : Task)
    (state : keeper.State × (World × φ)) :
    Leads (P := administration) Obeys state.2.1
      (broker.seen keeper (World.answer fault) task state).calls
      (broker.carryOut keeper (World.answer fault) task state).2.2.1 :=
  leads_servers (obeys_answer fault) task state

/-- All bindings are backed throughout a run if and only if none of its events strands one. -/
theorem backed_iff_of_secured
    (tasks : List Task)
    {state : keeper.State × (World × φ)}
    (secured : Secured broker (keeper.records state.1) state.2.1) :
    (∀ count,
      let reached := broker.afterwards keeper (World.answer fault) (tasks.take count) state
      Backed (keeper.records reached.1) reached.2.1) ↔
    ∀ event ∈ broker.history keeper (World.answer fault) tasks state, event.strands = false := by
  induction tasks generalizing state with
  | nil =>
      refine iff_of_true ?_ ?_
      · intro count
        rw [List.take_nil]
        exact secured.backed
      · intro event member
        cases member
  | cons task rest inductionHypothesis =>
      have turn : Turn broker task.draws (keeper.records state.1) task.operation
          (broker.seen keeper (World.answer fault) task state).calls
          (broker.seen keeper (World.answer fault) task state).answer
          (keeper.records (broker.carryOut keeper (World.answer fault) task state).2.1) :=
        turn_of_task task state
      have leads : Leads (P := administration) Obeys state.2.1
          (broker.seen keeper (World.answer fault) task state).calls
          (broker.carryOut keeper (World.answer fault) task state).2.2.1 :=
        leads_obeys task state
      cases stranded : (broker.seen keeper (World.answer fault) task state).strands with
      | true =>
          refine iff_of_false ?_ ?_
          · intro backed
            exact not_backed_of_turn turn leads stranded secured (backed 1)
          · intro none
            have unstranded := none (broker.seen keeper (World.answer fault) task state)
              (by simp [history])
            rw [stranded] at unstranded
            cases unstranded
      | false =>
          have later := inductionHypothesis (secured_of_turn turn leads stranded secured)
          constructor
          · intro backed event member
            rcases List.mem_cons.mp member with rfl | follows
            · exact stranded
            · exact later.mp (fun count => backed (count + 1)) event follows
          · intro none count
            cases count with
            | zero =>
                exact secured.backed
            | succ count =>
                exact later.mpr (fun event member => none event (by simp [history, member])) count

end

/--
From a store without records, whatever users the servers have and whichever calls
fail: the credentials of all recorded bindings are valid at every point of a run
if and only if no deprovisioning that took away a user's access ended in failure.
-/
theorem backed_throughout_iff
    {φ : Type}
    (broker : Broker)
    (keeper : Keeper)
    (fault : AdminQuestion → φ → Option Remote.Failure × φ)
    (world : World)
    (script : φ)
    (tasks : List Task) :
    (∀ count,
      let reached :=
        broker.afterwards keeper (World.answer fault) (tasks.take count)
          (keeper.blank, (world, script))
      Backed (keeper.records reached.1) reached.2.1) ↔
    ∀ event ∈ broker.history keeper (World.answer fault) tasks (keeper.blank, (world, script)),
      event.strands = false := by
  have secured : Secured broker (keeper.records keeper.blank) world := by
    rw [keeper.records_blank]
    exact {
      usable := Each.empty
      backed := fun held => by simp at held
      distinct := fun held => by simp at held
    }
  exact backed_iff_of_secured tasks secured

/-! ## A run that strands a binding -/

/-- No database can be deleted. -/
def undeletable (question : AdminQuestion) (script : Unit) : Option Remote.Failure × Unit :=
  match question.call with
  | .deleteDatabase _ => (some (.defective (.forced .deleteDatabase)), script)
  | _ => (none, script)

/-- An instance is provisioned, bound once, and deprovisioned. -/
def wholeLife : List Task :=
  [⟨plainDraws, .provision "i1"
      ⟨"service", "shared", "org", "space", .object [("db_name", .text "alpha")]⟩⟩,
   ⟨plainDraws, .bind "i1" "b1"
      ⟨"service", "shared", none, .object [("password", .text "pw"), ("username", .text "bob")]⟩⟩,
   ⟨plainDraws, .deprovision "i1"⟩]

/-- After a failed deprovisioning, a recorded binding has lost its user. -/
theorem not_backed_after_failed_deletion :
    let reached :=
      soleServer.afterwards Keeper.memory (World.answer undeletable) wholeLife
        (Memory.empty, (fun _ => ⟨[], []⟩, ()))
    ¬ Backed reached.1 reached.2.1 := by
  intro reached backed
  let bob : Credentials := ⟨"alpha", "http://server", "bob", "pw"⟩
  have held : Memory.binding? reached.1 "i1" "b1" = some ⟨"b1", bob.payload⟩ := rfl
  have gone : "bob" ∉ (reached.2.1 "http://server").users := by decide
  obtain ⟨credentials, read, valid⟩ := backed held
  rw [credentialsOf, bob.project_payload] at read
  cases read
  exact gone valid.user

end GraphBroker.Broker
