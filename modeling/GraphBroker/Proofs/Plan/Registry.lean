import GraphBroker.Plan.Registry
import GraphBroker.Proofs.Fallible
import GraphBroker.Proofs.Keyed

namespace GraphBroker.Registry

/-!
# Plans are found under their own identifiers

The registry is built entry by entry, and each plan goes under its identifier.
The plan that a record names is therefore the plan with that identifier.
-/

/-- Every plan is found under its own identifier. -/
def Filed (registry : Registry) : Prop :=
  ∀ {key plan}, registry.find? key = some plan → plan.id = key

theorem filed_empty :
    Filed Keyed.empty := by
  intro key plan found
  simp at found

theorem Filed.insert
    {registry : Registry}
    (filed : registry.Filed)
    (plan : Plan) :
    Filed (registry.insert plan.id plan) := by
  intro key other found
  rw [Keyed.find?_insert] at found
  by_cases same : key = plan.id
  · simp only [same, if_true, Option.some.injEq] at found
    rw [← found, same]
  · simp only [same, if_false] at found
    exact filed found

theorem Filed.add
    {registry extended : Registry}
    {plan : Plan}
    (filed : registry.Filed)
    (added : registry.add plan = .ok extended) :
    extended.Filed := by
  unfold Registry.add at added
  split at added
  · cases added
  · cases added
    exact filed.insert plan

theorem Filed.addSettings
    {registry extended : Registry}
    {settings : List PlanSetting}
    (filed : registry.Filed)
    (added : registry.addSettings settings = .ok extended) :
    extended.Filed := by
  induction settings generalizing registry with
  | nil =>
      cases added
      exact filed
  | cons setting rest inductionHypothesis =>
      obtain ⟨plan, _, adding⟩ := bind_eq_ok_iff.mp added
      obtain ⟨next, extending, later⟩ := bind_eq_ok_iff.mp adding
      exact inductionHypothesis (filed.add extending) later

/-- The registry of a configuration finds every plan under its own identifier. -/
theorem filed_ofSettings
    {registry : Registry}
    {settings : List PlanSetting}
    (built : ofSettings settings = .ok registry) :
    registry.Filed :=
  filed_empty.addSettings built

end GraphBroker.Registry
