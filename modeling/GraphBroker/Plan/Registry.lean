import GraphBroker.Keyed
import GraphBroker.Plan.Basic

namespace GraphBroker

/-!
# The plans that are offered

The registry is built once from the configuration, entry by entry, and the
first entry that cannot be offered is reported.
-/

/-- An entry of the configuration: which kind of plan to offer under which identifier. -/
structure PlanSetting where
  name : String
  id : String
  parameters : Json

/-- Why an entry cannot be offered. -/
inductive PlanSettingError where
  | unknownPlan (name : String)
  | duplicateId (id : String)
  | invalidParameters (id : String) (error : Json.ReadError)

/-- The plans that are offered, by their identifiers. -/
abbrev Registry : Type := Keyed Plan

namespace PlanSettingError

/-- The words for an entry that cannot be offered. -/
def message : PlanSettingError → String
  | .unknownPlan name => "No plan named " ++ name ++ " exists"
  | .duplicateId id => "plan id \x60" ++ id ++ "\x60 is configured more than once"
  | .invalidParameters id error =>
      "invalid parameters for plan \x60" ++ id ++ "\x60: " ++ error.message

end PlanSettingError

/-- The plan of an entry. -/
def Plan.ofSetting (setting : PlanSetting) : Except PlanSettingError Plan :=
  if setting.name = "shared_database_plan" then
    match (Plan.serverCodec "struct SharedDatabaseConfig").read.json setting.parameters with
    | .ok server => .ok ⟨setting.id, .shared server⟩
    | .error error => .error (.invalidParameters setting.id error)
  else if setting.name = "perinstance" then
    if setting.parameters.isNull then
      .ok ⟨setting.id, .perInstance⟩
    else
      match (Json.Reader.entries Json.Reader.value).json setting.parameters with
      | .ok _ => .ok ⟨setting.id, .perInstance⟩
      | .error error => .error (.invalidParameters setting.id error)
  else
    .error (.unknownPlan setting.name)

namespace Registry

/-- Add a plan under an identifier that is not yet taken. -/
def add (registry : Registry) (plan : Plan) : Except PlanSettingError Registry :=
  if registry.contains plan.id then .error (.duplicateId plan.id)
  else .ok (registry.insert plan.id plan)

/-- Add the plans of further entries. -/
def addSettings (registry : Registry) : List PlanSetting → Except PlanSettingError Registry
  | [] => .ok registry
  | setting :: rest => do
      let plan ← Plan.ofSetting setting
      let registry ← add registry plan
      addSettings registry rest

/-- The registry of a list of entries. -/
def ofSettings (settings : List PlanSetting) : Except PlanSettingError Registry :=
  addSettings Keyed.empty settings

/-- The entries of the catalog. -/
def catalogEntries (registry : Registry) : List Api.CatalogPlan :=
  registry.values.map Plan.catalogEntry

end Registry

end GraphBroker
