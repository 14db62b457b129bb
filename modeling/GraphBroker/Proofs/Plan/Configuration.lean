import GraphBroker.Proofs.Plan.Registry
import GraphBroker.Proofs.Plan.Secrecy

namespace GraphBroker

open Plan Json

/-!
# Configurations that differ in a login

The configuration of a plan may name a server and its administrator.  Two configurations
that differ in the names and passwords of administrators alone are turned down with the
same error, or lead to the same plans but for these logins.
-/

/-- Registries with the same plans, but for the logins of configured servers. -/
def Registry.Alike (one other : Registry) : Prop :=
  List.Forall₂ (fun plan other => plan.1 = other.1 ∧ plan.2.Resembles other.2)
    one.entries other.entries

namespace Registry.Alike

variable {plans others : Registry}

/-- The catalog tells nothing of a login. -/
theorem catalogEntries_eq
    (alike : plans.Alike others) :
    plans.catalogEntries = others.catalogEntries := by
  unfold Registry.Alike at alike
  unfold Registry.catalogEntries Keyed.values
  generalize plans.entries = plans at alike ⊢
  generalize others.entries = others at alike ⊢
  induction alike with
  | nil => rfl
  | cons same later inductionHypothesis => simp [same.2.catalogEntry_eq, inductionHypothesis]

/-- A plan is offered under an identifier by neither registry, or by both but for the login. -/
theorem rel_find?
    (alike : plans.Alike others)
    (planId : String) :
    Option.Rel Plan.Resembles (plans.find? planId) (others.find? planId) := by
  unfold Registry.Alike at alike
  unfold Keyed.find?
  generalize plans.entries = plans at alike ⊢
  generalize others.entries = others at alike ⊢
  induction alike with
  | nil => exact .none
  | @cons plan other plans others same later inductionHypothesis =>
      obtain ⟨planId, plan⟩ := plan
      obtain ⟨_, otherPlan⟩ := other
      obtain ⟨rfl, resembles⟩ := same
      simp only [List.find?_cons]
      split
      · exact .some resembles
      · exact inductionHypothesis

theorem contains_eq
    (alike : plans.Alike others)
    (planId : String) :
    plans.contains planId = others.contains planId := by
  have same := alike.rel_find? planId
  unfold Keyed.contains
  generalize plans.find? planId = plan at same ⊢
  generalize others.find? planId = other at same ⊢
  cases same with
  | none => rfl
  | some resembles => rfl

/-- Registries that differ in logins alone still do with one more plan. -/
theorem insert
    (alike : plans.Alike others)
    {plan other : Plan}
    (resembles : plan.Resembles other)
    (planId : String) :
    Registry.Alike (Keyed.insert plans planId plan) (Keyed.insert others planId other) := by
  unfold Registry.Alike at alike ⊢
  unfold Keyed.insert
  dsimp only
  generalize plans.entries = plans at alike ⊢
  generalize others.entries = others at alike ⊢
  induction alike with
  | nil =>
      exact .cons ⟨rfl, resembles⟩ .nil
  | @cons first second plans others same later inductionHypothesis =>
      obtain ⟨key, held⟩ := first
      obtain ⟨_, otherHeld⟩ := second
      obtain ⟨rfl, holds⟩ := same
      unfold Keyed.insertEntry
      split
      · exact .cons ⟨rfl, resembles⟩ (.cons ⟨rfl, holds⟩ later)
      · split
        · exact .cons ⟨rfl, resembles⟩ later
        · exact .cons ⟨rfl, holds⟩ inductionHypothesis

theorem add
    (alike : plans.Alike others)
    {plan other : Plan}
    (resembles : plan.Resembles other) :
    Matches Registry.Alike (plans.add plan) (others.add other) := by
  unfold Registry.add
  rw [resembles.id_eq, alike.contains_eq]
  split
  · exact .error _
  · exact .ok (alike.insert resembles other.id)

end Registry.Alike

/-! ## Settings -/

/-- Values that are the same, or parts of a configured login, which may differ. -/
inductive CoveredAdmin (name : String) : Json → Json → Prop where
  | same (value : Json) :
      CoveredAdmin name value value
  | text (part : name = "admin_username" ∨ name = "admin_password") (one other : String) :
      CoveredAdmin name (.text one) (.text other)

/-- Entries of the configuration that are the same but for the administrator of a shared server. -/
inductive PlanSetting.Resembles : PlanSetting → PlanSetting → Prop where
  | same (setting : PlanSetting) :
      Resembles setting setting
  | shared (key : String) {parameters other : Json}
      (alike :
        SameBut CoveredAdmin ["stardog_url", "admin_username", "admin_password"] parameters other) :
      Resembles ⟨"shared_database_plan", key, parameters⟩ ⟨"shared_database_plan", key, other⟩

theorem Plan.Resembles.refl
    (plan : Plan) :
    plan.Resembles plan := by
  obtain ⟨planId, kind⟩ := plan
  cases kind with
  | shared server => exact .shared planId rfl
  | perInstance => exact .perInstance planId

/-- Texts that are the same, or parts of a configured login. -/
def AdminAlike (name one other : String) : Prop :=
  one = other ∨ name = "admin_username" ∨ name = "admin_password"

theorem AdminAlike.refl
    (name text : String) :
    AdminAlike name text text :=
  Or.inl rfl

theorem matches_adminText
    {name : String}
    {one other : Json}
    (covered : CoveredAdmin name one other) :
    Matches (AdminAlike name) (Codec.text.read.json one) (Codec.text.read.json other) := by
  cases covered with
  | same value => exact .refl (AdminAlike.refl name) _
  | text part one other => exact .ok (Or.inr part)

/-- Which configured servers pass for each other. -/
def serverLikeness :
    Shape.Likeness
      (.cons (.required "stardog_url" .text) <|
       .cons (.required "admin_username" .text) <|
       .cons (.required "admin_password" .text) .nil) :=
  (AdminAlike "stardog_url", AdminAlike "admin_username", AdminAlike "admin_password", ())

/-- Parameters that differ in the administrator alone configure the same server's address. -/
theorem matches_server
    (title : String)
    {parameters other : Json}
    (same :
      SameBut CoveredAdmin ["stardog_url", "admin_username", "admin_password"] parameters other) :
    Matches (fun one other => one.url = other.url) ((serverCodec title).read.json parameters)
      ((serverCodec title).read.json other) := by
  have required (name : String) :
      ∀ value ∈ (Member.required name Codec.text).absent, AdminAlike name value value :=
    fun value _ => AdminAlike.refl name value
  refine Codec.matches_read_record serverLikeness ?_ (fun _ => .same)
    ⟨matches_adminText, required _, matches_adminText, required _, matches_adminText, required _,
      trivial⟩
    List.prefix_rfl same
  rintro ⟨url, username, password, _⟩ ⟨otherUrl, _, _, _⟩ ⟨alike, _⟩
  rcases alike with same | isUsername | isPassword
  · exact same
  · exact absurd isUsername (by decide)
  · exact absurd isPassword (by decide)

/-- Settings that differ in administrators alone offer plans that do. -/
theorem matches_ofSetting
    {setting other : PlanSetting}
    (resembles : setting.Resembles other) :
    Matches Plan.Resembles (Plan.ofSetting setting) (Plan.ofSetting other) := by
  cases resembles with
  | same setting =>
      exact .refl Plan.Resembles.refl _
  | @shared key parameters other alike =>
      have read := matches_server "struct SharedDatabaseConfig" alike
      simp only [Plan.ofSetting, if_true]
      generalize (serverCodec _).read.json parameters = server at read ⊢
      generalize (serverCodec _).read.json other = otherServer at read ⊢
      cases read with
      | ok address => exact .ok (.shared key address)
      | error error => exact .error _

theorem Registry.Alike.addSettings
    {plans others : Registry}
    (alike : plans.Alike others)
    {settings otherSettings : List PlanSetting}
    (resemble : List.Forall₂ PlanSetting.Resembles settings otherSettings) :
    Matches Registry.Alike (plans.addSettings settings) (others.addSettings otherSettings) := by
  induction resemble generalizing plans others with
  | nil =>
      exact .ok alike
  | cons same later inductionHypothesis =>
      refine (matches_ofSetting same).bind ?_
      intro plan otherPlan resembles
      refine (alike.add resembles).bind ?_
      intro extended otherExtended alike
      exact inductionHypothesis alike

/--
Configurations that differ in the logins of administrators alone are turned down alike,
or lead to registries that differ in these logins alone.
-/
theorem matches_ofSettings
    {settings others : List PlanSetting}
    (resemble : List.Forall₂ PlanSetting.Resembles settings others) :
    Matches Registry.Alike (Registry.ofSettings settings) (Registry.ofSettings others) := by
  have start : Registry.Alike Keyed.empty Keyed.empty := .nil
  exact start.addSettings resemble

end GraphBroker
