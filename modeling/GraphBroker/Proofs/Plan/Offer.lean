import GraphBroker.Proofs.Json.Records
import GraphBroker.Proofs.Plan.Payload
import GraphBroker.Proofs.Plan.Registry

namespace GraphBroker

open Json

/-!
# What a configuration offers

An entry of the configuration offers a plan if it names one of the two kinds of plans and
its parameters are right for it.  A list of entries is taken if every entry offers a plan
and no two have one identifier; the registry then has exactly these plans.  Otherwise the
first entry that is wrong is blamed: for its name, or else for its parameters, or else for
an identifier that an earlier entry has.
-/

/-! ## Single entries -/

/-- Parameters give the parts of a server: each once in a table, or in their order in a list. -/
inductive Plan.Configures : Json → Server → Prop where
  | table {members : List (String × Json)} {url username password : String}
      (urlGiven : valuesUnder "stardog_url" members = [.text url])
      (usernameGiven : valuesUnder "admin_username" members = [.text username])
      (passwordGiven : valuesUnder "admin_password" members = [.text password]) :
      Configures (.object members) ⟨url, ⟨username, password⟩⟩
  | list (url username password : String) :
      Configures (.array [.text url, .text username, .text password]) ⟨url, ⟨username, password⟩⟩

/-- A value that can be read as one: an object that stands for a JSON text holds one. -/
def Json.IsReadable (value : Json) : Prop :=
  ∃ found, Reader.value.json value = .ok found

/-- Parameters of a plan that needs none. -/
inductive Plan.Idle : Json → Prop where
  | null :
      Idle .null
  | table {members : List (String × Json)}
      (readable : ∀ member ∈ members, member.2.IsReadable) :
      Idle (.object members)

namespace PlanSetting

/-- An entry offers a plan under its identifier. -/
inductive Offers (setting : PlanSetting) : Plan → Prop where
  | shared {server : Server}
      (kind : setting.name = "shared_database_plan")
      (configured : Plan.Configures setting.parameters server) :
      Offers setting ⟨setting.id, .shared server⟩
  | perInstance
      (kind : setting.name = "perinstance")
      (idle : Plan.Idle setting.parameters) :
      Offers setting ⟨setting.id, .perInstance⟩

/-- What is wrong with the parameters of an entry, in the words of their reader. -/
inductive Mistaken (setting : PlanSetting) : ReadError → Prop where
  | shared {error : ReadError}
      (kind : setting.name = "shared_database_plan")
      (unread :
        (Plan.serverCodec "struct SharedDatabaseConfig").read.json setting.parameters = .error error) :
      Mistaken setting error
  | perInstance {error : ReadError}
      (kind : setting.name = "perinstance")
      (given : setting.parameters ≠ .null)
      (unread : (Reader.entries Reader.value).json setting.parameters = .error error) :
      Mistaken setting error

/-- The catalog entry for the plan of a setting. -/
def catalogEntry (setting : PlanSetting) : Api.CatalogPlan :=
  let (name, description) :=
    if setting.name = "shared_database_plan" then
      ("shareddb",
       "Creates a new Stardog database on an existing server. "
         ++ "The Stardog server maybe shared by many applications.")
    else
      ("perinstance", "Associate each instance with an existing Stardog knowledge graph.")
  { name
    id := setting.id
    description
    metadata := none
    free := true
    bindable := true }

/-- An offered plan has the identifier that its setting gives. -/
theorem Offers.id_eq
    {setting : PlanSetting}
    {plan : Plan}
    (offers : setting.Offers plan) :
    plan.id = setting.id := by
  cases offers <;> rfl

/-- An offered plan is advertised as its setting says. -/
theorem Offers.catalogEntry_eq
    {setting : PlanSetting}
    {plan : Plan}
    (offers : setting.Offers plan) :
    plan.catalogEntry = setting.catalogEntry := by
  cases offers with
  | shared kind configured =>
      simp [Plan.catalogEntry, Plan.name, Plan.description, catalogEntry, kind]
  | perInstance kind idle =>
      simp [Plan.catalogEntry, Plan.name, Plan.description, catalogEntry, kind]

end PlanSetting

/-! ## Reading the parameters -/

/-- The values under a key are written as the documents under it. -/
theorem valuesUnder_ofJson
    (members : List (String × Json))
    (name : String) :
    valuesUnder (some name)
        (members.map fun member => (some member.1, Document.ofJson member.2)) =
      (valuesUnder name members).map Document.ofJson := by
  simp [valuesUnder, List.filter_map, Function.comp_def]

/-- A text that must be there is taken if it is given once. -/
theorem text_taken_iff
    {name text : String}
    {members : List (String × Json)} :
    (∃ held,
      Shape.Fills (.required name .text)
          (valuesUnder (some (Member.required name Codec.text).name)
            (members.map fun member => (some member.1, Document.ofJson member.2)))
          none held ∧
        held.or (Member.required name Codec.text).absent = some text) ↔
      valuesUnder name members = [.text text] := by
  rw [show (Member.required name Codec.text).name = name from rfl, valuesUnder_ofJson]
  constructor
  · rintro ⟨held, fills, present⟩
    generalize documents : (valuesUnder name members).map Document.ofJson = read at fills
    cases fills with
    | nothing => cases present
    | value taken =>
        obtain ⟨value, rest, single, rfl, nothing⟩ := List.map_eq_cons_iff.mp documents
        obtain rfl := List.map_eq_nil_iff.mp nothing
        cases present
        rw [single, eq_text_of_read taken]
  · intro single
    rw [single]
    exact ⟨some text, .value rfl, rfl⟩

/-- A server is read of the parameters that configure it, and of no others. -/
theorem serverCodec_read_iff
    {title : String}
    {parameters : Json}
    {server : Server} :
    (Plan.serverCodec title).read.json parameters = .ok server ↔ Plan.Configures parameters server := by
  have shape : ∀ document,
      (Plan.serverCodec title).read document = .ok server ↔
        (Shape.cons (.required "stardog_url" .text) <|
         .cons (.required "admin_username" .text) <|
         .cons (.required "admin_password" .text) .nil).read title document =
          .ok (server.url, server.admin.username, server.admin.password, ()) := by
    intro document
    obtain ⟨url, username, password⟩ := server
    refine map_eq_ok_iff.trans ⟨?_, fun read => ⟨_, read, rfl⟩⟩
    rintro ⟨⟨found, other, last, ⟨⟩⟩, read, same⟩
    cases same
    exact read
  rw [Reader.json, shape]
  cases parameters with
  | null | bool value | number value | text value =>
      constructor
      · intro read
        cases read
      · intro configures
        cases configures
  | array items =>
      rw [Document.ofJson_array, Shape.read_list_iff]
      constructor
      · rintro ⟨inOrder, short⟩
        match items, inOrder, short with
        | [first, second, third], ⟨urlRead, usernameRead, passwordRead, _⟩, _ =>
            rw [eq_text_of_read urlRead, eq_text_of_read usernameRead,
              eq_text_of_read passwordRead]
            exact .list _ _ _
      · intro configures
        cases configures
        exact ⟨⟨rfl, rfl, rfl, trivial⟩, Nat.le_refl _⟩
  | object members =>
      rw [Document.ofJson_object, Shape.read_table_iff (by decide)]
      simp only [Shape.Taken, text_taken_iff]
      constructor
      · rintro ⟨_, urlGiven, usernameGiven, passwordGiven, _⟩
        exact .table urlGiven usernameGiven passwordGiven
      · intro configures
        cases configures with
        | table urlGiven usernameGiven passwordGiven =>
            refine ⟨fun entry inside => ?_, urlGiven, usernameGiven, passwordGiven, trivial⟩
            obtain ⟨member, _, rfl⟩ := List.mem_map.mp inside
            exact ⟨member.1, rfl, Or.inr (Document.whole_ofJson member.2)⟩

/-- The members of a table are all read exactly when each of them is readable. -/
theorem entriesOnto_ofJson_iff
    {members : List (String × Json)}
    {read : List (String × Json)} :
    (∃ values, Reader.entriesOnto Reader.value read
        (members.map fun member => (some member.1, Document.ofJson member.2)) = .ok values) ↔
      ∀ member ∈ members, member.2.IsReadable := by
  induction members generalizing read with
  | nil =>
      simp [Reader.entriesOnto]
  | cons member rest inductionHypothesis =>
      rw [List.map_cons, Reader.entriesOnto, List.forall_mem_cons, Json.IsReadable, Reader.json]
      cases Reader.value (Document.ofJson member.2) with
      | error error => simp
      | ok value => simpa using inductionHypothesis

/-- Parameters that are not null are a table of values, if the plan needs none. -/
theorem idle_iff
    {parameters : Json}
    (given : parameters ≠ .null) :
    Plan.Idle parameters ↔ ∃ values, (Reader.entries Reader.value).json parameters = .ok values := by
  cases parameters with
  | null =>
      exact absurd rfl given
  | bool value | number value | text value =>
      constructor
      · intro idle
        cases idle
      · rintro ⟨values, read⟩
        cases read
  | array items =>
      rw [Reader.json, Document.ofJson_array]
      constructor
      · intro idle
        cases idle
      · rintro ⟨values, read⟩
        cases read
  | object members =>
      have entries : (∃ values, (Reader.entries Reader.value).json (.object members) = .ok values) ↔
          ∀ member ∈ members, member.2.IsReadable := by
        rw [Reader.json, Document.ofJson_object, Reader.entries, ← @entriesOnto_ofJson_iff members []]
        simp [bind_eq_ok_iff]
      rw [entries]
      constructor
      · intro idle
        cases idle with
        | table readable => exact readable
      · exact .table

/-- A plan with a shared server is made of the server in its parameters. -/
theorem ofSetting_shared
    {setting : PlanSetting}
    (kind : setting.name = "shared_database_plan") :
    Plan.ofSetting setting =
      (((Plan.serverCodec "struct SharedDatabaseConfig").read.json setting.parameters).map
        fun server => ⟨setting.id, .shared server⟩).mapError (.invalidParameters setting.id) := by
  rw [Plan.ofSetting, if_pos kind]
  cases (Plan.serverCodec "struct SharedDatabaseConfig").read.json setting.parameters <;> rfl

/-- A plan with a server per instance is made of any table of readable parameters. -/
theorem ofSetting_perInstance
    {setting : PlanSetting}
    (kind : setting.name = "perinstance")
    (given : setting.parameters ≠ .null) :
    Plan.ofSetting setting =
      (((Reader.entries Reader.value).json setting.parameters).map
        fun _ => ⟨setting.id, .perInstance⟩).mapError (.invalidParameters setting.id) := by
  rw [Plan.ofSetting, if_neg (by rw [kind]; decide), if_pos kind,
    if_neg (given ∘ Json.isNull_iff.mp)]
  cases (Reader.entries Reader.value).json setting.parameters <;> rfl

/-- A plan with a server per instance needs no parameters. -/
theorem ofSetting_unset
    {setting : PlanSetting}
    (kind : setting.name = "perinstance")
    (null : setting.parameters = .null) :
    Plan.ofSetting setting = .ok ⟨setting.id, .perInstance⟩ := by
  rw [Plan.ofSetting, if_neg (by rw [kind]; decide), if_pos kind, if_pos (Json.isNull_iff.mpr null)]

/-- The plan of an entry is the one that it offers. -/
theorem PlanSetting.Offers.ofSetting_eq
    {setting : PlanSetting}
    {plan : Plan}
    (offers : setting.Offers plan) :
    Plan.ofSetting setting = .ok plan := by
  cases offers with
  | shared kind configured =>
      rw [ofSetting_shared kind, serverCodec_read_iff.mpr configured]
      rfl
  | perInstance kind idle =>
      by_cases null : setting.parameters = .null
      · exact ofSetting_unset kind null
      · obtain ⟨values, read⟩ := (idle_iff null).mp idle
        rw [ofSetting_perInstance kind null, read]
        rfl

/-- A mistaken setting is refused with its mistake and its identifier. -/
theorem PlanSetting.Mistaken.ofSetting_eq
    {setting : PlanSetting}
    {error : ReadError}
    (mistaken : setting.Mistaken error) :
    Plan.ofSetting setting = .error (.invalidParameters setting.id error) := by
  cases mistaken with
  | shared kind unread =>
      rw [ofSetting_shared kind, unread]
      rfl
  | perInstance kind given unread =>
      rw [ofSetting_perInstance kind given, unread]
      rfl

/-- An entry offers a plan, or its name is unknown, or its parameters are mistaken. -/
theorem PlanSetting.offers_or_mistaken
    (setting : PlanSetting) :
    (∃ plan, setting.Offers plan) ∨ (∃ error, setting.Mistaken error) ∨
      setting.name ≠ "shared_database_plan" ∧ setting.name ≠ "perinstance" := by
  by_cases shared : setting.name = "shared_database_plan"
  · cases read : (Plan.serverCodec "struct SharedDatabaseConfig").read.json setting.parameters with
    | ok server => exact Or.inl ⟨_, .shared shared (serverCodec_read_iff.mp read)⟩
    | error error => exact Or.inr (Or.inl ⟨error, .shared shared read⟩)
  · by_cases perInstance : setting.name = "perinstance"
    · by_cases null : setting.parameters = .null
      · exact Or.inl ⟨_, .perInstance perInstance (null ▸ .null)⟩
      · cases read : (Reader.entries Reader.value).json setting.parameters with
        | ok values => exact Or.inl ⟨_, .perInstance perInstance ((idle_iff null).mpr ⟨_, read⟩)⟩
        | error error => exact Or.inr (Or.inl ⟨error, .perInstance perInstance null read⟩)
    · exact Or.inr (Or.inr ⟨shared, perInstance⟩)

/-! ## Lists of entries -/

/-- Every entry offers a plan, and no two entries have one identifier. -/
structure Acceptable (settings : List PlanSetting) : Prop where
  valid : ∀ setting ∈ settings, ∃ plan, setting.Offers plan
  distinct : (settings.map PlanSetting.id).Nodup

/-- Why an entry is turned down that comes after others. -/
inductive PlanSetting.Blamed (earlier : List PlanSetting) (setting : PlanSetting) :
    PlanSettingError → Prop where
  | unknownPlan
      (notShared : setting.name ≠ "shared_database_plan")
      (notPerInstance : setting.name ≠ "perinstance") :
      Blamed earlier setting (.unknownPlan setting.name)
  | invalidParameters {error : ReadError}
      (mistaken : setting.Mistaken error) :
      Blamed earlier setting (.invalidParameters setting.id error)
  | duplicateId {plan : Plan}
      (offers : setting.Offers plan)
      (taken : setting.id ∈ earlier.map PlanSetting.id) :
      Blamed earlier setting (.duplicateId setting.id)

/-- The first entry that does not go with those before it is blamed for an error. -/
inductive Faulty : List PlanSetting → PlanSettingError → Prop where
  | intro {earlier later : List PlanSetting} {setting : PlanSetting} {error : PlanSettingError}
      (fine : Acceptable earlier)
      (blamed : setting.Blamed earlier error) :
      Faulty (earlier ++ setting :: later) error

/-- A registry has the plans that entries offer, each under the identifier of its entry. -/
structure Registry.Presents (registry : Registry) (settings : List PlanSetting) : Prop where
  acceptable : Acceptable settings
  found : ∀ {planId plan},
    registry.find? planId = some plan ↔
      ∃ setting ∈ settings, setting.id = planId ∧ setting.Offers plan

/-- No settings at all are acceptable. -/
theorem acceptable_nil :
    Acceptable [] :=
  ⟨by simp, List.nodup_nil⟩

/-- One more setting is acceptable when it offers a plan whose identifier is not taken. -/
theorem acceptable_concat_iff
    {settings : List PlanSetting}
    {setting : PlanSetting} :
    Acceptable (settings ++ [setting]) ↔
      Acceptable settings ∧ (∃ plan, setting.Offers plan) ∧
        setting.id ∉ settings.map PlanSetting.id := by
  constructor
  · rintro ⟨valid, distinct⟩
    rw [List.map_append, List.nodup_append] at distinct
    refine ⟨⟨fun other inside => valid other (by simp [inside]), distinct.1⟩,
      valid setting (by simp), fun taken => ?_⟩
    exact distinct.2.2 _ taken _ (by simp) rfl
  · rintro ⟨⟨valid, distinct⟩, offered, new⟩
    refine ⟨fun other inside => ?_, ?_⟩
    · rcases List.mem_append.mp inside with earlier | last
      · exact valid other earlier
      · rw [List.mem_singleton.mp last]
        exact offered
    · rw [List.map_append, List.nodup_append]
      refine ⟨distinct, by simp, fun planId taken other last => ?_⟩
      rintro rfl
      exact new (List.mem_singleton.mp last ▸ taken)

/-- The first of acceptable settings are acceptable. -/
theorem Acceptable.of_append
    {earlier later : List PlanSetting}
    (acceptable : Acceptable (earlier ++ later)) :
    Acceptable earlier := by
  have distinct := acceptable.distinct
  rw [List.map_append] at distinct
  exact ⟨fun setting inside => acceptable.valid setting (by simp [inside]),
    (List.nodup_append.mp distinct).1⟩

/-- No entry is blamed that offers a plan under an identifier of its own. -/
theorem PlanSetting.Blamed.not_fitting
    {earlier : List PlanSetting}
    {setting : PlanSetting}
    {error : PlanSettingError}
    (blamed : setting.Blamed earlier error)
    {plan : Plan}
    (offers : setting.Offers plan) :
    setting.id ∈ earlier.map PlanSetting.id := by
  cases blamed with
  | unknownPlan notShared notPerInstance =>
      cases offers with
      | shared kind => exact absurd kind notShared
      | perInstance kind => exact absurd kind notPerInstance
  | invalidParameters mistaken =>
      have both := mistaken.ofSetting_eq.symm.trans offers.ofSetting_eq
      cases both
  | duplicateId _ taken =>
      exact taken

/-- A list of entries with a fault is not acceptable. -/
theorem Faulty.not_acceptable
    {settings : List PlanSetting}
    {error : PlanSettingError}
    (faulty : Faulty settings error) :
    ¬ Acceptable settings := by
  intro acceptable
  cases faulty with
  | @intro earlier later setting _ fine blamed =>
      rw [List.append_cons] at acceptable
      obtain ⟨_, ⟨plan, offers⟩, new⟩ := acceptable_concat_iff.mp acceptable.of_append
      exact new (blamed.not_fitting offers)

namespace Registry.Presents

variable {registry : Registry} {settings : List PlanSetting} {setting : PlanSetting}

/-- An empty registry presents no settings. -/
theorem empty :
    Registry.Presents Keyed.empty [] :=
  ⟨acceptable_nil, by simp⟩

/-- A registry has the plans whose identifiers the settings give. -/
theorem contains_iff
    (presents : registry.Presents settings)
    (planId : String) :
    registry.contains planId = true ↔ planId ∈ settings.map PlanSetting.id := by
  rw [Keyed.contains, Option.isSome_iff_exists, List.mem_map]
  constructor
  · rintro ⟨plan, found⟩
    obtain ⟨setting, inside, same, _⟩ := presents.found.mp found
    exact ⟨setting, inside, same⟩
  · rintro ⟨setting, inside, same⟩
    obtain ⟨plan, offers⟩ := presents.acceptable.valid setting inside
    exact ⟨plan, presents.found.mpr ⟨setting, inside, same, offers⟩⟩

/-- A plan is added under an identifier that is new. -/
theorem add
    (presents : registry.Presents settings)
    {plan : Plan}
    (offers : setting.Offers plan)
    (new : setting.id ∉ settings.map PlanSetting.id) :
    ∃ extended, registry.add plan = .ok extended ∧ extended.Presents (settings ++ [setting]) := by
  have free : ¬ registry.contains plan.id = true := by
    rw [offers.id_eq, presents.contains_iff]
    exact new
  refine ⟨_, if_neg free, acceptable_concat_iff.mpr ⟨presents.acceptable, ⟨plan, offers⟩, new⟩, ?_⟩
  intro planId other
  rw [Keyed.find?_insert, offers.id_eq]
  by_cases same : planId = setting.id
  · subst same
    rw [if_pos rfl, Option.some.injEq]
    constructor
    · rintro rfl
      exact ⟨setting, by simp, rfl, offers⟩
    · rintro ⟨found, inside, same, offersOther⟩
      rcases List.mem_append.mp inside with earlier | last
      · exact absurd (same ▸ List.mem_map_of_mem earlier) new
      · rw [List.mem_singleton.mp last] at offersOther
        exact Except.ok.inj (offers.ofSetting_eq.symm.trans offersOther.ofSetting_eq)
  · rw [if_neg same, presents.found]
    constructor
    · rintro ⟨found, inside, isId, offersOther⟩
      exact ⟨found, by simp [inside], isId, offersOther⟩
    · rintro ⟨found, inside, isId, offersOther⟩
      rcases List.mem_append.mp inside with earlier | last
      · exact ⟨found, earlier, isId, offersOther⟩
      · exact absurd (List.mem_singleton.mp last ▸ isId.symm) same

/-- A plan whose identifier is taken is not added. -/
theorem add_taken
    (presents : registry.Presents settings)
    {plan : Plan}
    (offers : setting.Offers plan)
    (taken : setting.id ∈ settings.map PlanSetting.id) :
    registry.add plan = .error (.duplicateId setting.id) := by
  rw [Registry.add, offers.id_eq, if_pos ((presents.contains_iff _).mpr taken)]

/-- An entry that does not go with those before it ends the registry. -/
theorem addSettings_of_blamed
    (presents : registry.Presents settings)
    {error : PlanSettingError}
    (blamed : setting.Blamed settings error)
    (later : List PlanSetting) :
    registry.addSettings (setting :: later) = .error error := by
  cases blamed with
  | unknownPlan notShared notPerInstance =>
      simp [addSettings, Plan.ofSetting, notShared, notPerInstance, bind, Except.bind]
  | invalidParameters mistaken =>
      simp [addSettings, mistaken.ofSetting_eq, bind, Except.bind]
  | duplicateId offers taken =>
      simp [addSettings, offers.ofSetting_eq, presents.add_taken offers taken, bind, Except.bind]

/-- Further entries are added, or the first of them that does not go with the rest is blamed. -/
theorem addSettings_cases
    (presents : registry.Presents settings)
    (later : List PlanSetting) :
    (∃ extended, registry.addSettings later = .ok extended ∧
        extended.Presents (settings ++ later)) ∨
      ∃ error, registry.addSettings later = .error error ∧ Faulty (settings ++ later) error := by
  induction later generalizing registry settings with
  | nil =>
      exact Or.inl ⟨registry, rfl, by rwa [List.append_nil]⟩
  | cons setting rest inductionHypothesis =>
      have blame {error : PlanSettingError} (blamed : setting.Blamed settings error) :
          ∃ error, registry.addSettings (setting :: rest) = .error error ∧
            Faulty (settings ++ setting :: rest) error :=
        ⟨error, presents.addSettings_of_blamed blamed rest, .intro presents.acceptable blamed⟩
      rcases setting.offers_or_mistaken with ⟨plan, offers⟩ | ⟨error, mistaken⟩ | ⟨notShared, notPerInstance⟩
      · by_cases taken : setting.id ∈ settings.map PlanSetting.id
        · exact Or.inr (blame (.duplicateId offers taken))
        · obtain ⟨extended, added, presentsNext⟩ := presents.add offers taken
          have onward : registry.addSettings (setting :: rest) = extended.addSettings rest := by
            simp [addSettings, offers.ofSetting_eq, added, bind, Except.bind]
          rw [onward, List.append_cons]
          exact inductionHypothesis presentsNext
      · exact Or.inr (blame (.invalidParameters mistaken))
      · exact Or.inr (blame (.unknownPlan notShared notPerInstance))

/-- The catalog has the plans in the order of the registry's identifiers. -/
theorem ids_catalogEntries
    (presents : registry.Presents settings) :
    (registry.catalogEntries.map Api.CatalogPlan.id) = registry.keys := by
  rw [Registry.catalogEntries, Keyed.values, Keyed.keys, List.map_map, List.map_map]
  refine List.map_congr_left fun entry inside => ?_
  obtain ⟨setting, _, same, offers⟩ := presents.found.mp (Keyed.mem_entries_iff.mp inside)
  rw [← same, ← offers.id_eq]
  rfl

/-- The catalog has the entry of each plan that is offered, and no other. -/
theorem catalogEntries_perm
    (presents : registry.Presents settings) :
    registry.catalogEntries.Perm (settings.map PlanSetting.catalogEntry) := by
  have single : registry.catalogEntries.Nodup := by
    refine List.Nodup.of_map Api.CatalogPlan.id ?_
    rw [presents.ids_catalogEntries]
    exact registry.nodup_keys
  have distinct : (settings.map PlanSetting.catalogEntry).Nodup := by
    refine List.Nodup.of_map Api.CatalogPlan.id ?_
    rw [List.map_map]
    exact presents.acceptable.distinct
  refine (List.perm_ext_iff_of_nodup single distinct).mpr fun entry => ?_
  rw [Registry.catalogEntries, List.mem_map, List.mem_map]
  constructor
  · rintro ⟨plan, inside, rfl⟩
    obtain ⟨planId, found⟩ := Keyed.mem_values_iff.mp inside
    obtain ⟨setting, among, _, offers⟩ := presents.found.mp found
    exact ⟨setting, among, offers.catalogEntry_eq.symm⟩
  · rintro ⟨setting, among, rfl⟩
    obtain ⟨plan, offers⟩ := presents.acceptable.valid setting among
    refine ⟨plan, Keyed.mem_values_iff.mpr ⟨setting.id, ?_⟩, offers.catalogEntry_eq⟩
    exact presents.found.mpr ⟨setting, among, rfl, offers⟩

end Registry.Presents

/-! ## The registry of a configuration -/

/-- The registry of a configuration presents its entries. -/
theorem presents_of_ofSettings
    {settings : List PlanSetting}
    {registry : Registry}
    (built : Registry.ofSettings settings = .ok registry) :
    registry.Presents settings := by
  rcases Registry.Presents.empty.addSettings_cases settings with
    ⟨extended, added, presents⟩ | ⟨error, failed, _⟩
  · cases added.symm.trans built
    exact presents
  · cases failed.symm.trans built

/-- A registry is built if every entry offers a plan and no two have one identifier. -/
theorem ofSettings_eq_ok_iff
    {settings : List PlanSetting} :
    (∃ registry, Registry.ofSettings settings = .ok registry) ↔ Acceptable settings := by
  constructor
  · rintro ⟨registry, built⟩
    exact (presents_of_ofSettings built).acceptable
  · intro acceptable
    rcases Registry.Presents.empty.addSettings_cases settings with
      ⟨extended, added, _⟩ | ⟨error, _, faulty⟩
    · exact ⟨extended, added⟩
    · exact absurd acceptable faulty.not_acceptable

/-- Settings are added one after another. -/
theorem addSettings_append
    {registry extended : Registry}
    {earlier : List PlanSetting}
    (added : registry.addSettings earlier = .ok extended)
    (later : List PlanSetting) :
    registry.addSettings (earlier ++ later) = extended.addSettings later := by
  induction earlier generalizing registry with
  | nil =>
      cases added
      rfl
  | cons setting rest inductionHypothesis =>
      obtain ⟨plan, made, adding⟩ := bind_eq_ok_iff.mp added
      obtain ⟨next, extending, onward⟩ := bind_eq_ok_iff.mp adding
      rw [List.cons_append, Registry.addSettings, made]
      refine Eq.trans ?_ (inductionHypothesis onward)
      exact congrArg (· >>= fun next => next.addSettings (rest ++ later)) extending

/-- The error of a configuration is that of its first entry that does not go with those before it. -/
theorem ofSettings_eq_error_iff
    {settings : List PlanSetting}
    {error : PlanSettingError} :
    Registry.ofSettings settings = .error error ↔ Faulty settings error := by
  constructor
  · intro failed
    rcases Registry.Presents.empty.addSettings_cases settings with
      ⟨extended, added, _⟩ | ⟨other, failing, faulty⟩
    · cases added.symm.trans failed
    · cases failing.symm.trans failed
      exact faulty
  · rintro ⟨fine, blamed⟩
    obtain ⟨registry, built⟩ := ofSettings_eq_ok_iff.mpr fine
    exact (addSettings_append built _).trans
      ((presents_of_ofSettings built).addSettings_of_blamed blamed _)

end GraphBroker
