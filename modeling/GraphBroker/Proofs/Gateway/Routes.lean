import GraphBroker.Gateway.Route
import GraphBroker.Proofs.Text.Split
import GraphBroker.Proofs.Text.Utf8

namespace GraphBroker.Gateway

open Text

/-!
# The paths of the broker

A path is looked at by its segments.  Seen as a text, the path of a place is fixed
words with the identifiers between them as they are written, none of which has a
slash in it.
-/

/-- A path names a place. -/
inductive Route.Names : Route → String → Prop where
  | catalog :
      Names .catalog "/v2/catalog"
  | serviceInstance {raw : String}
      (slashless : '/' ∉ raw.toList)
      (given : raw ≠ "") :
      Names (.serviceInstance raw) ("/v2/service_instances/" ++ raw)
  | unnamedInstance :
      Names .unnamedInstance "/v2/service_instances/"
  | serviceBinding {raw rawBinding : String}
      (slashless : '/' ∉ raw.toList)
      (slashlessBinding : '/' ∉ rawBinding.toList)
      (given : rawBinding ≠ "") :
      Names (.serviceBinding raw rawBinding)
        ("/v2/service_instances/" ++ raw ++ "/service_bindings/" ++ rawBinding)
  | unnamedBinding {raw : String}
      (slashless : '/' ∉ raw.toList) :
      Names .unnamedBinding ("/v2/service_instances/" ++ raw ++ "/service_bindings/")

/-- A text written in a path stands for an identifier: percent-decoded, it is a text that shows. -/
structure Identifies (raw id : String) : Prop where
  slashless : '/' ∉ raw.toList
  decodes : Percent.decode (Utf8.encode raw) = Utf8.encode id
  shows : ¬ IsBlank id

/-! ## Places -/

theorem Route.names_of_ofPath?
    {path : String}
    {route : Route}
    (found : Route.ofPath? path = some route) :
    route.Names path := by
  unfold Route.ofPath? at found
  split at found
  · next segments =>
      obtain ⟨_, _, whole⟩ := splitAtSlashes_eq_iff.mp segments
      obtain rfl : path = "/v2/catalog" := String.toList_inj.mp (whole.trans (by decide))
      cases found
      exact .catalog
  · next raw segments =>
      obtain ⟨_, slashless, whole⟩ := splitAtSlashes_eq_iff.mp segments
      obtain rfl : path = "/v2/service_instances/" ++ raw :=
        String.toList_inj.mp (whole.trans (by simp [List.intercalate, List.intersperse]))
      split at found
      · next unnamed =>
          subst unnamed
          cases found
          exact .unnamedInstance
      · next given =>
          cases found
          exact .serviceInstance (slashless raw (by simp)) given
  · next raw rawBinding segments =>
      obtain ⟨_, slashless, whole⟩ := splitAtSlashes_eq_iff.mp segments
      obtain rfl : path = "/v2/service_instances/" ++ raw ++ "/service_bindings/" ++ rawBinding :=
        String.toList_inj.mp (whole.trans (by simp [List.intercalate, List.intersperse]))
      split at found
      · next unnamed =>
          subst unnamed
          cases found
          simpa using Route.Names.unnamedBinding (slashless raw (by simp))
      · next given =>
          cases found
          exact .serviceBinding (slashless raw (by simp)) (slashless rawBinding (by simp)) given
  · cases found

theorem Route.Names.ofPath?
    {path : String}
    {route : Route}
    (named : route.Names path) :
    Route.ofPath? path = some route := by
  unfold Route.ofPath?
  cases named with
  | catalog =>
      have segments : splitAtSlashes "/v2/catalog" = ["", "v2", "catalog"] :=
        splitAtSlashes_eq_iff.mpr (by decide)
      rw [segments]
      rfl
  | @serviceInstance raw slashless given =>
      have segments : splitAtSlashes ("/v2/service_instances/" ++ raw) =
          ["", "v2", "service_instances", raw] :=
        splitAtSlashes_eq_iff.mpr
          ⟨by simp, by simpa using slashless, by simp [List.intercalate, List.intersperse]⟩
      simp [segments, given]
  | unnamedInstance =>
      have segments : splitAtSlashes "/v2/service_instances/" =
          ["", "v2", "service_instances", ""] :=
        splitAtSlashes_eq_iff.mpr (by decide)
      rw [segments]
      rfl
  | @serviceBinding raw rawBinding slashless slashlessBinding given =>
      have segments :
          splitAtSlashes ("/v2/service_instances/" ++ raw ++ "/service_bindings/" ++ rawBinding) =
            ["", "v2", "service_instances", raw, "service_bindings", rawBinding] :=
        splitAtSlashes_eq_iff.mpr
          ⟨by simp, by simpa using ⟨slashless, slashlessBinding⟩,
            by simp [List.intercalate, List.intersperse]⟩
      simp [segments, given]
  | @unnamedBinding raw slashless =>
      have segments :
          splitAtSlashes ("/v2/service_instances/" ++ raw ++ "/service_bindings/") =
            ["", "v2", "service_instances", raw, "service_bindings", ""] :=
        splitAtSlashes_eq_iff.mpr
          ⟨by simp, by simpa using slashless, by simp [List.intercalate, List.intersperse]⟩
      simp [segments]

/-- The place at a path is the one that the path names. -/
theorem Route.ofPath?_eq_some_iff
    {path : String}
    {route : Route} :
    Route.ofPath? path = some route ↔ route.Names path :=
  ⟨Route.names_of_ofPath?, Route.Names.ofPath?⟩

/-! ## Identifiers -/

/-- A percent-encoded text is read as the text whose bytes it stands for. -/
theorem decodeId?_eq_some_iff
    {raw id : String} :
    decodeId? raw = some id ↔ Percent.decode (Utf8.encode raw) = Utf8.encode id :=
  Utf8.decode?_eq_some_iff

theorem instanceId_eq_ok_iff
    {raw id : String} :
    instanceId raw = .ok id ↔
      Percent.decode (Utf8.encode raw) = Utf8.encode id ∧ ¬ IsBlank id := by
  rw [← decodeId?_eq_some_iff, instanceId]
  cases decodeId? raw with
  | none =>
      simp
  | some text =>
      by_cases blank : IsBlank text
      · have unlike : text = id → IsBlank id := fun same => same ▸ blank
        simpa [blank] using unlike
      · have alike : text = id → ¬ IsBlank id := fun same => same ▸ blank
        simpa [blank] using alike

/-- A binding has identifiers if the text for its instance and its own both stand for one. -/
theorem bindingIds_eq_ok_iff
    {raw rawBinding id bindingId : String} :
    bindingIds raw rawBinding = .ok (id, bindingId) ↔
      instanceId raw = .ok id ∧ instanceId rawBinding = .ok bindingId := by
  unfold bindingIds instanceId
  cases decodeId? raw with
  | none =>
      simp
  | some text =>
      cases decodeId? rawBinding with
      | none =>
          simp
      | some bindingText =>
          by_cases blank : IsBlank text
          · simp [blank]
          · by_cases blankBinding : IsBlank bindingText
            · simp [blank, blankBinding]
            · simp [blank, blankBinding]

end GraphBroker.Gateway
