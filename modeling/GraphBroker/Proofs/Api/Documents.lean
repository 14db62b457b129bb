import GraphBroker.Api.Catalog
import GraphBroker.Api.Request
import GraphBroker.Api.Response
import GraphBroker.Proofs.Json.Records
import GraphBroker.Proofs.Record.Fidelity

namespace GraphBroker

open Json

/-!
# Bodies that are read back

Each body that goes over the wire has a document of its own: its members in the order of
their declaration, without those that are left out.  The text of a body stands for that
document.  What is read of it is the body, but for the metadata of a plan that is there and
`null`, which is taken for none; a body is read back exactly if none of the values in it is
taken for a text that it holds.
-/

/-! ## Tables -/

namespace Json

namespace Document

/-- A table of the members that are there. -/
def ofPresent (members : List (String × Option Document)) : Document :=
  .ofMembers (members.filterMap fun member => member.2.map (Prod.mk member.1))

/-- A table is legible when every member present in it is. -/
theorem legible_ofPresent
    {members : List (String × Option Document)}
    (legible : ∀ member ∈ members, ∀ document ∈ member.2, document.Legible) :
    (ofPresent members).Legible := by
  refine legible_ofMembers fun entry present => ?_
  obtain ⟨member, among, given⟩ := List.mem_filterMap.mp present
  obtain ⟨document, here, rfl⟩ := Option.map_eq_some_iff.mp given
  exact legible member among document here

end Document

/-! ## Renderings -/

namespace Codec

/-- What a codec does with values, of which some parts are values that nobody looks into. -/
structure Renders
    (codec : Codec α)
    (document : α → Document)
    (payloads : α → List Json)
    (settled : α → α) :
    Prop where
  write : ∀ value, codec.write value = document value
  legible :
    ∀ value, (∀ payload ∈ payloads value, payload.Throughout IsIntegral) →
      (document value).Legible
  reads :
    ∀ value, (∀ payload ∈ payloads value, payload.Throughout IsSorted) →
      (codec.read (document value) = .ok (settled value) ↔
        ∀ payload ∈ payloads value, payload.Throughout IsPlain)

/-- What becomes of a value that is written as a text, and of the text when it is read. -/
structure ReadsBack
    (codec : Codec α)
    (value : α)
    (document : Document)
    (payloads : List Json)
    (settled : α) :
    Prop where
  text : codec.print value = document.print
  stands :
    (∀ payload ∈ payloads, payload.Throughout IsIntegral) →
    document.nesting ≤ depthLimit →
    Source.ofText (codec.print value) = ⟨document, true⟩
  reads :
    (∀ payload ∈ payloads, payload.Throughout IsSorted ∧ payload.Throughout IsIntegral) →
    document.nesting ≤ depthLimit →
    (codec.read.jsonText (codec.print value) = .ok settled ↔
      ∀ payload ∈ payloads, payload.Throughout IsPlain)

section

variable {codec : Codec α} {document : α → Document} {payloads : α → List Json} {settled : α → α}

/-- Texts stand for their documents, so that reading them is reading these. -/
theorem Renders.readsBack
    (renders : codec.Renders document payloads settled)
    (value : α) :
    codec.ReadsBack value (document value) (payloads value) (settled value) where
  text := by
    rw [print, renders.write]
  stands integral shallow := by
    rw [print, renders.write]
    exact (renders.legible value integral).ofText_print shallow
  reads writable shallow := by
    have legible := renders.legible value fun payload inside => (writable payload inside).2
    have sorted : ∀ payload ∈ payloads value, payload.Throughout IsSorted :=
      fun payload inside => (writable payload inside).1
    rw [← renders.reads value sorted, print, renders.write, Reader.jsonText, Reader.source,
      legible.ofText_print shallow]
    cases codec.read (document value) <;> simp

/-- A list is rendered item by item. -/
theorem Renders.list
    (renders : codec.Renders document payloads settled) :
    codec.list.Renders
      (fun values => .ofItems (values.map document))
      (fun values => values.flatMap payloads)
      (fun values => values.map settled) where
  write values := by
    rw [Codec.list, funext renders.write]
  legible values integral := by
    refine Document.legible_ofItems fun item inside => ?_
    obtain ⟨value, among, rfl⟩ := List.mem_map.mp inside
    exact renders.legible value fun payload held =>
      integral payload (List.mem_flatMap.mpr ⟨value, among, held⟩)
  reads values sorted := by
    have each : ∀ value ∈ values,
        (codec.read (document value) = .ok (settled value) ↔
          ∀ payload ∈ payloads value, payload.Throughout IsPlain) :=
      fun value among => renders.reads value fun payload held =>
        sorted payload (List.mem_flatMap.mpr ⟨value, among, held⟩)
    rw [Codec.list, Document.ofItems, Reader.list_eq_ok_iff, List.forall₂_map_left_iff,
      List.forall₂_map_right_iff, List.forall₂_same]
    simp only [List.mem_flatMap]
    constructor
    · rintro read payload ⟨value, among, held⟩
      exact (each value among).mp (read value among) payload held
    · intro plain value among
      exact (each value among).mpr fun payload held => plain payload ⟨value, among, held⟩

end

end Codec

/-! ## Members -/

/-- What is read of a record that is written, where the record is made up of its members. -/
theorem Codec.read_record_iff
    {title : String}
    {shape : Shape ρ}
    {pack : ρ → α}
    {unpack : α → ρ}
    (distinct : shape.names.Nodup)
    (unpacked : ∀ members, unpack (pack members) = members)
    (packed : ∀ record, pack (unpack record) = record)
    {record found : α} :
    (Codec.record title shape pack unpack).read
        ((Codec.record title shape pack unpack).write record) = .ok found ↔
      shape.ReadsAs (unpack record) (unpack found) := by
  rw [Codec.read_write_record_iff distinct]
  constructor
  · rintro ⟨members, reads, rfl⟩
    rwa [unpacked]
  · exact fun reads => ⟨unpack found, reads, packed found⟩

/-- A value that is not null, or nothing. -/
def given? (value : Option Json) : Option Json :=
  value.filter fun value => !value.isNull

/-- A truth value, if it is true. -/
def Document.mark? (value : Bool) : Option Document :=
  if value then some (.flag true) else none

/-- A value, if it is not null. -/
def Document.ofGiven? (value : Json) : Option Document :=
  if value.isNull then none else some (Document.ofJson value)

/-- A member is read back as a value: as it is written, or as the shape says if it is left out. -/
def Member.ReadsAs (member : Member α) (value found : α) : Prop :=
  if member.omits value then member.absent = some found
  else member.codec.read (member.codec.write value) = .ok found

/-- A flag is read back as it was written, left out or not. -/
theorem readsAs_mark
    (name : String)
    (value : Bool) :
    (Member.mark name).ReadsAs value value := by
  cases value <;> rfl

/-- What is not written as null is there. -/
theorem Reader.optional_of_ne_null
    {reader : Reader α}
    {document : Document}
    (given : document ≠ .null) :
    Reader.optional reader document = (reader document).map some := by
  cases document <;> first | rfl | exact absurd rfl given

/-- A member that may be absent is read back when its codec reads back what it holds. -/
theorem readsAs_optional
    {codec : Codec α}
    (name : String)
    {value : Option α}
    (present : ∀ held ∈ value, codec.write held ≠ .null ∧ codec.read (codec.write held) = .ok held) :
    (Member.optional name codec).ReadsAs value value := by
  cases value with
  | none => rfl
  | some held =>
      obtain ⟨written, read⟩ := present held rfl
      exact (Reader.optional_of_ne_null written).trans (by rw [read]; rfl)

/-- Nothing in an empty payload stands for something else. -/
theorem plain_null :
    Json.null.Throughout IsPlain :=
  .of_undivided trivial rfl

/-- Only an empty payload is written as an empty document. -/
theorem Document.ofJson_ne_null
    {value : Json}
    (given : value ≠ .null) :
    ofJson value ≠ .null := by
  cases value <;> simp_all [ofJson]

namespace Document

/-- A legible document stays legible where it might have been absent. -/
theorem legible_some
    {document : Document}
    (legible : document.Legible) :
    ∀ other ∈ some document, other.Legible := by
  rintro other ⟨⟩
  exact legible

/-- An optional value is written legibly when its writer is legible. -/
theorem legible_map
    {value : Option α}
    {write : α → Document}
    (legible : ∀ held ∈ value, (write held).Legible) :
    ∀ document ∈ value.map write, document.Legible := by
  intro document given
  obtain ⟨held, here, rfl⟩ := Option.map_eq_some_iff.mp given
  exact legible held here

/-- A flag is written legibly. -/
theorem legible_mark?
    (value : Bool) :
    ∀ document ∈ mark? value, document.Legible := by
  cases value with
  | true => exact legible_some (.flag true)
  | false => nofun

/-- A payload of integral numbers is written legibly where it is given. -/
theorem legible_ofGiven?
    {value : Json}
    (integral : value.Throughout IsIntegral) :
    ∀ document ∈ ofGiven? value, document.Legible := by
  unfold ofGiven?
  split
  · nofun
  · exact legible_some (legible_ofJson integral)

end Document

/-- Metadata are read back exactly if they are plain, but for null, which is taken for none. -/
theorem readsAs_metadata_iff
    (name : String)
    {value : Option Json}
    (sorted : ∀ payload ∈ value.toList, payload.Throughout IsSorted) :
    (Member.optional name .value).ReadsAs value (given? value) ↔
      ∀ payload ∈ value.toList, payload.Throughout IsPlain := by
  cases value with
  | none =>
      exact ⟨fun _ => by simp, fun _ => rfl⟩
  | some held =>
      simp only [Option.toList_some, List.mem_singleton, forall_eq] at sorted ⊢
      by_cases null : held = .null
      · subst null
        exact ⟨fun _ => plain_null, fun _ => rfl⟩
      · have shown : held.isNull = false := Bool.eq_false_iff.mpr (null ∘ isNull_iff.mp)
        have kept : given? (some held) = some held := by simp [given?, shown]
        have opened : Reader.optional Reader.value (Document.ofJson held) =
            (Reader.value (Document.ofJson held)).map some :=
          Reader.optional_of_ne_null (Document.ofJson_ne_null null)
        change Reader.optional Reader.value (Document.ofJson held) = .ok (given? (some held)) ↔ _
        rw [opened, kept, map_eq_ok_iff, ← Reader.value_ofJson_iff sorted]
        simp

/-- Parameters are read back exactly if they are plain. -/
theorem readsAs_parameters_iff
    {value : Json}
    (sorted : value.Throughout IsSorted) :
    Api.parametersMember.ReadsAs value value ↔ value.Throughout IsPlain := by
  rw [← Reader.value_ofJson_iff sorted, Member.ReadsAs]
  cases null : value.isNull with
  | true =>
      obtain rfl := isNull_iff.mp null
      exact ⟨fun _ => rfl, fun _ => rfl⟩
  | false =>
      rw [if_neg (by simp [Api.parametersMember, null])]
      exact Iff.rfl

end Json

namespace Api

/-! ## The catalog -/

namespace CatalogPlan

/-- The document of a plan. -/
def document (plan : CatalogPlan) : Document :=
  .ofPresent
    [("name", some (.text plan.name)), ("id", some (.text plan.id)),
     ("description", some (.text plan.description)),
     ("metadata", plan.metadata.map Document.ofJson), ("free", Document.mark? plan.free),
     ("bindable", Document.mark? plan.bindable)]

/-- The plan, with metadata only if they are not null. -/
def settled (plan : CatalogPlan) : CatalogPlan :=
  { plan with metadata := given? plan.metadata }

/-- The members of a plan in a catalog, in order. -/
theorem write_eq
    (plan : CatalogPlan) :
    codec.write plan = plan.document := by
  obtain ⟨name, id, description, metadata, free, bindable⟩ := plan
  cases metadata <;> cases free <;> cases bindable <;> rfl

theorem renders :
    codec.Renders document (fun plan => plan.metadata.toList) settled where
  write := write_eq
  legible plan integral := by
    refine Document.legible_ofPresent ?_
    simp only [List.forall_mem_cons]
    refine ⟨Document.legible_some (.text _), Document.legible_some (.text _),
      Document.legible_some (.text _), Document.legible_map fun payload held => ?_,
      Document.legible_mark? _, Document.legible_mark? _, nofun⟩
    exact Document.legible_ofJson (integral payload (Option.mem_toList.mpr held))
  reads plan sorted := by
    rw [← write_eq, codec, Codec.read_record_iff (by decide) (fun _ => rfl) (fun _ => rfl),
      ← readsAs_metadata_iff "metadata" sorted]
    constructor
    · rintro ⟨_, _, _, metadata, _⟩
      exact metadata
    · intro metadata
      exact ⟨rfl, rfl, rfl, metadata, readsAs_mark "free" _, readsAs_mark "bindable" _, trivial⟩

end CatalogPlan

namespace CatalogService

/-- The document of a service. -/
def document (service : CatalogService) : Document :=
  .ofPresent
    [("name", some (.text service.name)), ("id", some (.text service.id)),
     ("description", some (.text service.description)),
     ("bindable", some (.flag service.bindable)),
     ("plan_updateable", some (.flag service.planUpdateable)),
     ("plans", some (.ofItems (service.plans.map CatalogPlan.document)))]

/-- The metadata of the plans of a service. -/
def metadata (service : CatalogService) : List Json :=
  service.plans.flatMap fun plan => plan.metadata.toList

/-- The service, with metadata of its plans only if they are not null. -/
def settled (service : CatalogService) : CatalogService :=
  { service with plans := service.plans.map CatalogPlan.settled }

/-- The members of a service in a catalog, in order. -/
theorem write_eq
    (service : CatalogService) :
    codec.write service = service.document := by
  rw [document, ← CatalogPlan.renders.list.write]
  rfl

theorem renders :
    codec.Renders document metadata settled where
  write := write_eq
  legible service integral := by
    refine Document.legible_ofPresent ?_
    simp only [List.forall_mem_cons]
    exact ⟨Document.legible_some (.text _), Document.legible_some (.text _),
      Document.legible_some (.text _), Document.legible_some (.flag _),
      Document.legible_some (.flag _),
      Document.legible_some (CatalogPlan.renders.list.legible service.plans integral), nofun⟩
  reads service sorted := by
    have plans := CatalogPlan.renders.list.reads service.plans sorted
    rw [← CatalogPlan.renders.list.write] at plans
    rw [← write_eq, codec, Codec.read_record_iff (by decide) (fun _ => rfl) (fun _ => rfl), metadata,
      ← plans]
    constructor
    · rintro ⟨_, _, _, _, _, plans, _⟩
      exact plans
    · intro plans
      exact ⟨rfl, rfl, rfl, rfl, rfl, plans, trivial⟩

end CatalogService

namespace Catalog

/-- The document of a catalog. -/
def document (catalog : Catalog) : Document :=
  .ofPresent [("services", some (.ofItems (catalog.services.map CatalogService.document)))]

/-- The metadata of all plans in a catalog. -/
def metadata (catalog : Catalog) : List Json :=
  catalog.services.flatMap CatalogService.metadata

/-- The catalog, with metadata only if they are not null. -/
def settled (catalog : Catalog) : Catalog :=
  { catalog with services := catalog.services.map CatalogService.settled }

/-- The members of a catalog. -/
theorem write_eq
    (catalog : Catalog) :
    codec.write catalog = catalog.document := by
  rw [document, ← CatalogService.renders.list.write]
  rfl

theorem renders :
    codec.Renders document metadata settled where
  write := write_eq
  legible catalog integral := by
    refine Document.legible_ofPresent ?_
    simp only [List.forall_mem_cons]
    exact ⟨Document.legible_some (CatalogService.renders.list.legible catalog.services integral),
      nofun⟩
  reads catalog sorted := by
    have services := CatalogService.renders.list.reads catalog.services sorted
    rw [← CatalogService.renders.list.write] at services
    rw [← write_eq, codec, Codec.read_record_iff (by decide) (fun _ => rfl) (fun _ => rfl), metadata,
      ← services]
    constructor
    · rintro ⟨services, _⟩
      exact services
    · intro services
      exact ⟨services, trivial⟩

end Catalog

/-! ## Requests -/

namespace ProvisionRequest

/-- The document of a request to provision an instance. -/
def document (request : ProvisionRequest) : Document :=
  .ofPresent
    [("service_id", some (.text request.service)), ("plan_id", some (.text request.planId)),
     ("organization_guid", some (.text request.organization)),
     ("space_guid", some (.text request.space)),
     ("parameters", Document.ofGiven? request.parameters)]

/-- The members of a request for an instance, in order. -/
theorem write_eq
    (request : ProvisionRequest) :
    codec.write request = request.document := by
  obtain ⟨service, planId, organization, space, parameters⟩ := request
  cases parameters <;> rfl

theorem renders :
    codec.Renders document (fun request => [request.parameters]) id where
  write := write_eq
  legible request integral := by
    refine Document.legible_ofPresent ?_
    simp only [List.forall_mem_cons]
    exact ⟨Document.legible_some (.text _), Document.legible_some (.text _),
      Document.legible_some (.text _), Document.legible_some (.text _),
      Document.legible_ofGiven? (integral _ List.mem_cons_self), nofun⟩
  reads request sorted := by
    rw [← write_eq, codec, Codec.read_record_iff (by decide) (fun _ => rfl) (fun _ => rfl),
      List.forall_mem_singleton, ← readsAs_parameters_iff (sorted _ List.mem_cons_self)]
    constructor
    · rintro ⟨_, _, _, _, parameters, _⟩
      exact parameters
    · intro parameters
      exact ⟨rfl, rfl, rfl, rfl, parameters, trivial⟩

end ProvisionRequest

namespace BindResource

/-- The document of the application of a binding. -/
def document (resource : BindResource) : Document :=
  .ofPresent [("app_guid", resource.application.map .text)]

/-- The members of the resource of a binding, in order. -/
theorem write_eq
    (resource : BindResource) :
    codec.write resource = resource.document := by
  obtain ⟨application⟩ := resource
  cases application <;> rfl

theorem renders :
    codec.Renders document (fun _ => []) id where
  write := write_eq
  legible resource _ := by
    refine Document.legible_ofPresent ?_
    simp only [List.forall_mem_cons]
    exact ⟨Document.legible_map fun _ _ => .text _, nofun⟩
  reads resource _ := by
    rw [← write_eq, codec, Codec.read_record_iff (by decide) (fun _ => rfl) (fun _ => rfl)]
    have application : (Member.optional "app_guid" Codec.text).ReadsAs
        resource.application resource.application :=
      readsAs_optional "app_guid" fun _ _ => ⟨nofun, rfl⟩
    exact ⟨fun _ => nofun, fun _ => ⟨application, trivial⟩⟩

end BindResource

namespace BindRequest

/-- The document of a request to bind an application. -/
def document (request : BindRequest) : Document :=
  .ofPresent
    [("service_id", some (.text request.service)), ("plan_id", some (.text request.planId)),
     ("bind_resource", request.resource.map BindResource.document),
     ("parameters", Document.ofGiven? request.parameters)]

/-- The members of a request for a binding, in order. -/
theorem write_eq
    (request : BindRequest) :
    codec.write request = request.document := by
  rw [document, ← funext BindResource.write_eq]
  obtain ⟨service, planId, resource, parameters⟩ := request
  cases resource <;> cases parameters <;> rfl

theorem renders :
    codec.Renders document (fun request => [request.parameters]) id where
  write := write_eq
  legible request integral := by
    refine Document.legible_ofPresent ?_
    simp only [List.forall_mem_cons]
    exact ⟨Document.legible_some (.text _), Document.legible_some (.text _),
      Document.legible_map fun resource _ => BindResource.renders.legible resource nofun,
      Document.legible_ofGiven? (integral _ List.mem_cons_self), nofun⟩
  reads request sorted := by
    rw [← write_eq, codec, Codec.read_record_iff (by decide) (fun _ => rfl) (fun _ => rfl),
      List.forall_mem_singleton, ← readsAs_parameters_iff (sorted _ List.mem_cons_self)]
    have resource : (Member.optional "bind_resource" BindResource.codec).ReadsAs
        request.resource request.resource := by
      refine readsAs_optional "bind_resource" fun resource _ => ?_
      rw [BindResource.write_eq]
      exact ⟨nofun, (BindResource.renders.reads resource nofun).mpr nofun⟩
    constructor
    · rintro ⟨_, _, _, parameters, _⟩
      exact parameters
    · intro parameters
      exact ⟨rfl, rfl, resource, parameters, trivial⟩

end BindRequest

/-! ## Answers -/

namespace LastOperation

/-- The document of an operation that is still going on. -/
def document (operation : LastOperation) : Document :=
  .ofPresent
    [("state", some (.text operation.state)), ("description", some (.text operation.description)),
     ("async_poll_interval_seconds",
      operation.pollSeconds.map fun seconds => .number (.natural seconds.toUInt64))]

/-- The members of the state of an operation, in order. -/
theorem write_eq
    (operation : LastOperation) :
    codec.write operation = operation.document := by
  obtain ⟨state, description, pollSeconds⟩ := operation
  cases pollSeconds <;> rfl

/-- A small number is read back as it was written. -/
theorem read_natural32
    (value : UInt32) :
    Codec.natural32.read (Codec.natural32.write value) = .ok value := by
  have small : value.toNat < UInt32.size := value.toNat_lt
  simp [Codec.natural32, Reader.natural32, small]

theorem renders :
    codec.Renders document (fun _ => []) id where
  write := write_eq
  legible operation _ := by
    refine Document.legible_ofPresent ?_
    simp only [List.forall_mem_cons]
    exact ⟨Document.legible_some (.text _), Document.legible_some (.text _),
      Document.legible_map fun _ _ => .number trivial, nofun⟩
  reads operation _ := by
    rw [← write_eq, codec, Codec.read_record_iff (by decide) (fun _ => rfl) (fun _ => rfl)]
    have pollSeconds : (Member.optional "async_poll_interval_seconds" Codec.natural32).ReadsAs
        operation.pollSeconds operation.pollSeconds :=
      readsAs_optional "async_poll_interval_seconds" fun seconds _ => ⟨nofun, read_natural32 seconds⟩
    exact ⟨fun _ => nofun, fun _ => ⟨rfl, rfl, pollSeconds, trivial⟩⟩

end LastOperation

namespace InstanceDescription

/-- The document of a description of an instance. -/
def document (description : InstanceDescription) : Document :=
  .ofPresent
    [("dashboard_url", description.dashboard.map .text),
     ("last_operation", description.lastOperation.map LastOperation.document)]

/-- The members of the description of an instance, in order. -/
theorem write_eq
    (description : InstanceDescription) :
    codec.write description = description.document := by
  rw [document, ← funext LastOperation.write_eq]
  obtain ⟨dashboard, lastOperation⟩ := description
  cases dashboard <;> cases lastOperation <;> rfl

theorem renders :
    codec.Renders document (fun _ => []) id where
  write := write_eq
  legible description _ := by
    refine Document.legible_ofPresent ?_
    simp only [List.forall_mem_cons]
    exact ⟨Document.legible_map fun _ _ => .text _,
      Document.legible_map fun operation _ => LastOperation.renders.legible operation nofun, nofun⟩
  reads description _ := by
    rw [← write_eq, codec, Codec.read_record_iff (by decide) (fun _ => rfl) (fun _ => rfl)]
    have dashboard : (Member.optional "dashboard_url" Codec.text).ReadsAs
        description.dashboard description.dashboard :=
      readsAs_optional "dashboard_url" fun _ _ => ⟨nofun, rfl⟩
    have lastOperation : (Member.optional "last_operation" LastOperation.codec).ReadsAs
        description.lastOperation description.lastOperation := by
      refine readsAs_optional "last_operation" fun operation _ => ?_
      rw [LastOperation.write_eq]
      exact ⟨nofun, (LastOperation.renders.reads operation nofun).mpr nofun⟩
    exact ⟨fun _ => nofun, fun _ => ⟨dashboard, lastOperation, trivial⟩⟩

end InstanceDescription

namespace BindingDescription

/-- The document of the credentials of a binding. -/
def document (description : BindingDescription) : Document :=
  .ofPresent [("credentials", some (Document.ofJson description.credentials))]

theorem renders :
    codec.Renders document (fun description => [description.credentials]) id where
  write _ := rfl
  legible description integral := by
    refine Document.legible_ofPresent ?_
    simp only [List.forall_mem_cons]
    exact ⟨Document.legible_some (Document.legible_ofJson (integral _ List.mem_cons_self)), nofun⟩
  reads description sorted := by
    have written : codec.write description = description.document := rfl
    rw [← written, codec, Codec.read_record_iff (by decide) (fun _ => rfl) (fun _ => rfl),
      List.forall_mem_singleton, ← Reader.value_ofJson_iff (sorted _ List.mem_cons_self)]
    constructor
    · rintro ⟨credentials, _⟩
      exact credentials
    · intro credentials
      exact ⟨credentials, trivial⟩

end BindingDescription

namespace ErrorDescription

/-- The document of an error. -/
def document (error : ErrorDescription) : Document :=
  .ofPresent [("description", some (.text error.description))]

theorem renders :
    codec.Renders document (fun _ => []) id where
  write _ := rfl
  legible _ _ := by
    refine Document.legible_ofPresent ?_
    simp only [List.forall_mem_cons]
    exact ⟨Document.legible_some (.text _), nofun⟩
  reads _ _ := ⟨fun _ => nofun, fun _ => rfl⟩

end ErrorDescription

/-! ## All bodies -/

/--
The bodies that go over the wire are read back as they were written.  The text of each is
that of its document, which leaves out what is absent, null parameters, and the marks of a
plan that are false, and nothing else.  If the values in a body hold no numbers but integers
and it is not nested too deep, the text stands for that document; and what is read of it is
the body, with null metadata taken for none, if and only if the values in it are plain.
-/
theorem bodies_read_back
    (catalog : Catalog)
    (provision : ProvisionRequest)
    (bind : BindRequest)
    (provisioned : InstanceDescription)
    (bound : BindingDescription)
    (error : ErrorDescription) :
    Catalog.codec.ReadsBack catalog catalog.document catalog.metadata catalog.settled ∧
      ProvisionRequest.codec.ReadsBack provision provision.document [provision.parameters]
        provision ∧
      BindRequest.codec.ReadsBack bind bind.document [bind.parameters] bind ∧
      InstanceDescription.codec.ReadsBack provisioned provisioned.document [] provisioned ∧
      BindingDescription.codec.ReadsBack bound bound.document [bound.credentials] bound ∧
      ErrorDescription.codec.ReadsBack error error.document [] error :=
  ⟨Catalog.renders.readsBack catalog, ProvisionRequest.renders.readsBack provision,
    BindRequest.renders.readsBack bind, InstanceDescription.renders.readsBack provisioned,
    BindingDescription.renders.readsBack bound, ErrorDescription.renders.readsBack error⟩

/-- A catalog with a plan whose metadata are null, and another that has some. -/
def describedCatalog : Catalog where
  services :=
    [{ name := "Stardog"
       id := "broker"
       description := "Databases"
       bindable := true
       planUpdateable := false
       plans :=
         [⟨"shareddb", "shared", "on one server", some .null, true, true⟩,
          ⟨"perinstance", "own", "on a server of its own",
            some (.object [("cost", .number (.natural 0))]), false, true⟩] }]

/-- The catalog is read back, but for the metadata that are null. -/
theorem describedCatalog_read_back :
    Catalog.codec.read.jsonText (Catalog.codec.print describedCatalog) =
        .ok describedCatalog.settled ∧
      describedCatalog.settled.metadata = [.object [("cost", .number (.natural 0))]] := by
  have everywhere {property : Json → Prop} (null : property .null)
      (whole : property (.object [("cost", .number (.natural 0))]))
      (number : property (.number (.natural 0))) :
      ∀ payload ∈ describedCatalog.metadata, payload.Throughout property := by
    simp only [describedCatalog, Catalog.metadata, CatalogService.metadata, List.flatMap_cons,
      List.flatMap_nil, Option.toList_some, List.append_nil, List.singleton_append,
      List.forall_mem_cons]
    refine ⟨.of_undivided null rfl, .intro whole fun part member => ?_, nofun⟩
    rw [List.mem_singleton.mp member]
    exact .of_undivided number rfl
  have sorted : ∀ payload ∈ describedCatalog.metadata, payload.Throughout IsSorted :=
    everywhere trivial (by simp [IsSorted, Ascending]) trivial
  have integral : ∀ payload ∈ describedCatalog.metadata, payload.Throughout IsIntegral :=
    everywhere trivial trivial trivial
  have plain : ∀ payload ∈ describedCatalog.metadata, payload.Throughout IsPlain :=
    everywhere trivial (by decide : "cost" ≠ Reader.embeddedKey) trivial
  have readsBack := (bodies_read_back describedCatalog ⟨"broker", "shared", "org", "space", .null⟩
    ⟨"broker", "shared", none, .null⟩ ⟨none, none⟩ ⟨.null⟩ ⟨"missing"⟩).1
  refine ⟨(readsBack.reads ?_ (by decide)).mpr plain, rfl⟩
  exact fun payload inside => ⟨sorted payload inside, integral payload inside⟩

/-- Credentials that are taken for a text are not read back, although they are not nested too deep. -/
theorem embeddingCredentials_not_read_back :
    let body : BindingDescription := ⟨embeddingBinding.payload⟩
    body.credentials.Throughout IsSorted ∧ body.credentials.Throughout IsIntegral ∧
      body.document.nesting ≤ depthLimit ∧
      BindingDescription.codec.read.jsonText (BindingDescription.codec.print body) ≠ .ok body := by
  intro body
  have storable := storable_embeddingBinding
  have shallow : body.document.nesting ≤ depthLimit := by decide
  refine ⟨storable.sorted, storable.integral, shallow, ?_⟩
  have reads := (BindingDescription.renders.readsBack body).reads
    (by simpa [body] using ⟨storable.sorted, storable.integral⟩) shallow
  intro same
  obtain ⟨whole, _⟩ := reads.mp same _ List.mem_cons_self
  exact whole rfl

end Api

end GraphBroker
