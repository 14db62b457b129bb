import GraphBroker.Proofs.Store.Vault
import GraphBroker.Store.Relational
import Mathlib.Data.List.Nodup

namespace GraphBroker.Store

/-!
# What the tables hold

The rows of the two tables are joined by numbers that nobody outside sees.  What
the tables hold is a text under each identifier, and a text beneath it for each
binding.  As long as the constraints of the tables are kept, that is all that
there is to say of them, and each statement changes it in one place only.
-/

section

variable {row : α} {rows : List α} {key : α → β}

/-- Rows with distinct keys and a further one with a key of its own have distinct keys. -/
theorem nodup_map_append
    (distinct : (rows.map key).Nodup)
    (fresh : key row ∉ rows.map key) :
    ((rows ++ [row]).map key).Nodup := by
  rw [List.map_append, List.map_singleton, ← List.concat_eq_append]
  exact distinct.concat fresh

/-- Rows with different keys keep different keys when some are left out. -/
theorem nodup_map_filter
    (distinct : (rows.map key).Nodup)
    (kept : α → Bool) :
    ((rows.filter kept).map key).Nodup :=
  distinct.sublist (List.filter_sublist.map key)

end

namespace Tables

/-- What the tables hold: the texts of the rows, wherever they stand. -/
def contents (tables : Tables) : Contents String String where
  instance? id := (tables.instanceRow? id).map InstanceRow.data
  binding? id bindingId := (tables.bindingRow? id bindingId).map BindingRow.data

/-- Every binding has its instance's row, and no two bindings of an instance have one identifier. -/
structure Intact (tables : Tables) : Prop where
  owned : ∀ row ∈ tables.bindings, ∃ parent ∈ tables.instances, parent.number = row.owner
  distinct : (tables.bindings.map fun row => (row.owner, row.guid)).Nodup

/-- The tables keep their constraints, and no number is given twice. -/
structure Sound (tables : Tables) : Prop extends Intact tables where
  guids : (tables.instances.map InstanceRow.guid).Nodup
  instanceNumbers : (tables.instances.map InstanceRow.number).Nodup
  bindingNumbers : (tables.bindings.map BindingRow.number).Nodup
  nextInstance : ∀ row ∈ tables.instances, row.number < tables.nextInstance
  nextBinding : ∀ row ∈ tables.bindings, row.number < tables.nextBinding

/-- Empty tables are sound. -/
theorem sound_empty : Tables.empty.Sound where
  owned := by simp [Tables.empty]
  distinct := List.nodup_nil
  guids := List.nodup_nil
  instanceNumbers := List.nodup_nil
  bindingNumbers := List.nodup_nil
  nextInstance := by simp [Tables.empty]
  nextBinding := by simp [Tables.empty]

namespace Sound

variable {tables : Tables}

/-! ## Looking up -/

/-- In sound tables the row of an instance is the one with its identifier. -/
theorem instanceRow?_eq_some_iff
    (sound : tables.Sound)
    {id : String}
    {row : InstanceRow} :
    tables.instanceRow? id = some row ↔ row ∈ tables.instances ∧ row.guid = id := by
  constructor
  · intro found
    exact ⟨List.mem_of_find?_eq_some found, by simpa using List.find?_some found⟩
  · rintro ⟨member, rfl⟩
    have present : (tables.instanceRow? row.guid).isSome := by
      rw [instanceRow?, List.find?_isSome]
      exact ⟨row, member, by simp⟩
    obtain ⟨other, found⟩ := Option.isSome_iff_exists.mp present
    have same : other.guid = row.guid := by simpa using List.find?_some found
    rw [found, List.inj_on_of_nodup_map sound.guids (List.mem_of_find?_eq_some found) member same]

/--
In sound tables the row of a binding is the one with its identifier and the instance's row as
owner.
-/
theorem bindingRow?_eq_some_iff
    (sound : tables.Sound)
    {id bindingId : String}
    {row : BindingRow} :
    tables.bindingRow? id bindingId = some row ↔
      row ∈ tables.bindings ∧ row.guid = bindingId ∧
        ∃ parent ∈ tables.instances, parent.guid = id ∧ parent.number = row.owner := by
  constructor
  · intro found
    obtain ⟨parent, inTable, inOwn⟩ := Option.bind_eq_some_iff.mp found
    obtain ⟨member, rfl⟩ := sound.instanceRow?_eq_some_iff.mp inTable
    have own := List.mem_filter.mp (List.mem_of_find?_eq_some inOwn)
    have guid : row.guid = bindingId := by simpa using List.find?_some inOwn
    have owner : row.owner = parent.number := by simpa using own.2
    exact ⟨own.1, guid, parent, member, rfl, owner.symm⟩
  · rintro ⟨member, rfl, parent, inTable, rfl, owner⟩
    have parentFound := sound.instanceRow?_eq_some_iff.mpr ⟨inTable, rfl⟩
    have own : row ∈ tables.bindingsOf parent.number :=
      List.mem_filter.mpr ⟨member, by simp [owner]⟩
    have present : ((tables.bindingsOf parent.number).find? fun other =>
        other.guid == row.guid).isSome := by
      rw [List.find?_isSome]
      exact ⟨row, own, by simp⟩
    obtain ⟨other, found⟩ := Option.isSome_iff_exists.mp present
    have otherOwn := List.mem_filter.mp (List.mem_of_find?_eq_some found)
    have sameOwner : other.owner = row.owner := by
      have here : other.owner = parent.number := by simpa using otherOwn.2
      rw [here, owner]
    have sameGuid : other.guid = row.guid := by simpa using List.find?_some found
    have same : other = row :=
      List.inj_on_of_nodup_map sound.distinct otherOwn.1 member (by simp [sameOwner, sameGuid])
    simp only [bindingRow?, parentFound, Option.bind_eq_bind, Option.bind_some]
    rw [found, same]

/-- What sound tables keep of an instance is the text in its row. -/
theorem instance?_eq_some_iff
    (sound : tables.Sound)
    {id text : String} :
    tables.contents.instance? id = some text ↔
      ∃ row ∈ tables.instances, row.guid = id ∧ row.data = text := by
  simp only [contents, Option.map_eq_some_iff, sound.instanceRow?_eq_some_iff, and_assoc]

/-- What sound tables keep of a binding is the text in its row. -/
theorem binding?_eq_some_iff
    (sound : tables.Sound)
    {id bindingId text : String} :
    tables.contents.binding? id bindingId = some text ↔
      ∃ row ∈ tables.bindings,
        row.guid = bindingId ∧
          (∃ parent ∈ tables.instances, parent.guid = id ∧ parent.number = row.owner) ∧
            row.data = text := by
  simp only [contents, Option.map_eq_some_iff, sound.bindingRow?_eq_some_iff, and_assoc]

/-! ## Statements -/

/-- A number that is given next belongs to no row. -/
theorem instanceNumber_fresh
    (sound : tables.Sound) :
    tables.nextInstance ∉ tables.instances.map InstanceRow.number := by
  intro member
  obtain ⟨row, inTable, same⟩ := List.mem_map.mp member
  exact Nat.ne_of_lt (sound.nextInstance row inTable) same

/-- The next number for a binding is a new one. -/
theorem bindingNumber_fresh
    (sound : tables.Sound) :
    tables.nextBinding ∉ tables.bindings.map BindingRow.number := by
  intro member
  obtain ⟨row, inTable, same⟩ := List.mem_map.mp member
  exact Nat.ne_of_lt (sound.nextBinding row inTable) same

/-- Tables stay sound when the row of an unknown instance is added. -/
theorem insertInstance
    (sound : tables.Sound)
    {guid : String}
    (absent : tables.instanceRow? guid = none)
    (data : String) :
    Sound { tables with
      instances := tables.instances ++ [⟨tables.nextInstance, guid, data⟩]
      nextInstance := tables.nextInstance + 1 } where
  owned := by
    intro row member
    obtain ⟨parent, inTable, owner⟩ := sound.owned row member
    exact ⟨parent, List.mem_append_left _ inTable, owner⟩
  distinct := sound.distinct
  guids := by
    apply nodup_map_append sound.guids
    intro member
    obtain ⟨row, inTable, same⟩ := List.mem_map.mp member
    have found := sound.instanceRow?_eq_some_iff.mpr ⟨inTable, same⟩
    rw [absent] at found
    cases found
  instanceNumbers := nodup_map_append sound.instanceNumbers sound.instanceNumber_fresh
  bindingNumbers := sound.bindingNumbers
  nextInstance := by
    intro row member
    rcases List.mem_append.mp member with old | new
    · exact Nat.lt_succ_of_lt (sound.nextInstance row old)
    · obtain rfl := List.mem_singleton.mp new
      exact Nat.lt_succ_self _
  nextBinding := sound.nextBinding

/-- Tables stay sound when an instance's row is deleted with those that it owns. -/
theorem deleteInstance
    (sound : tables.Sound)
    (number : Nat) :
    (tables.deleteInstance number).Sound where
  owned := by
    intro row member
    obtain ⟨inTable, kept⟩ := List.mem_filter.mp member
    obtain ⟨parent, parentInTable, owner⟩ := sound.owned row inTable
    rw [← owner] at kept
    exact ⟨parent, List.mem_filter.mpr ⟨parentInTable, kept⟩, owner⟩
  distinct := nodup_map_filter sound.distinct _
  guids := nodup_map_filter sound.guids _
  instanceNumbers := nodup_map_filter sound.instanceNumbers _
  bindingNumbers := nodup_map_filter sound.bindingNumbers _
  nextInstance row member := sound.nextInstance row (List.mem_filter.mp member).1
  nextBinding row member := sound.nextBinding row (List.mem_filter.mp member).1

/-- Tables stay sound when the row of an unknown binding is added to an instance. -/
theorem insertBinding
    (sound : tables.Sound)
    {parent : InstanceRow}
    (inTable : parent ∈ tables.instances)
    {guid : String}
    (absent : ((tables.bindingsOf parent.number).find? fun row => row.guid == guid) = none)
    (data : String) :
    Sound { tables with
      bindings := tables.bindings ++ [⟨tables.nextBinding, parent.number, guid, data⟩]
      nextBinding := tables.nextBinding + 1 } where
  owned := by
    intro row member
    rcases List.mem_append.mp member with old | new
    · exact sound.owned row old
    · obtain rfl := List.mem_singleton.mp new
      exact ⟨parent, inTable, rfl⟩
  distinct := by
    apply nodup_map_append sound.distinct
    intro member
    obtain ⟨row, rowInTable, same⟩ := List.mem_map.mp member
    obtain ⟨owner, rfl⟩ := Prod.mk.inj same
    have own : row ∈ tables.bindingsOf parent.number :=
      List.mem_filter.mpr ⟨rowInTable, by simp [owner]⟩
    exact List.find?_eq_none.mp absent row own (by simp)
  guids := sound.guids
  instanceNumbers := sound.instanceNumbers
  bindingNumbers := nodup_map_append sound.bindingNumbers sound.bindingNumber_fresh
  nextInstance := sound.nextInstance
  nextBinding := by
    intro row member
    rcases List.mem_append.mp member with old | new
    · exact Nat.lt_succ_of_lt (sound.nextBinding row old)
    · obtain rfl := List.mem_singleton.mp new
      exact Nat.lt_succ_self _

/-- Tables stay sound when a binding's row is deleted. -/
theorem deleteBinding
    (sound : tables.Sound)
    (number : Nat) :
    (tables.deleteBinding number).Sound where
  owned row member := sound.owned row (List.mem_filter.mp member).1
  distinct := nodup_map_filter sound.distinct _
  guids := sound.guids
  instanceNumbers := sound.instanceNumbers
  bindingNumbers := nodup_map_filter sound.bindingNumbers _
  nextInstance := sound.nextInstance
  nextBinding row member := sound.nextBinding row (List.mem_filter.mp member).1

/-! ## What statements change -/

/-- The tables hold what their rows say. -/
theorem contents_eq
    (sound : tables.Sound)
    {contents : Contents String String}
    (instances :
      ∀ id text,
        (∃ row ∈ tables.instances, row.guid = id ∧ row.data = text) ↔
          contents.instance? id = some text)
    (bindings :
      ∀ id bindingId text,
        (∃ row ∈ tables.bindings,
          row.guid = bindingId ∧
            (∃ parent ∈ tables.instances, parent.guid = id ∧ parent.number = row.owner) ∧
              row.data = text) ↔
          contents.binding? id bindingId = some text) :
    tables.contents = contents := by
  apply Contents.ext
  · funext id
    apply Option.ext
    intro text
    rw [sound.instance?_eq_some_iff, instances]
  · funext id bindingId
    apply Option.ext
    intro text
    rw [sound.binding?_eq_some_iff, bindings]

/-- Adding an instance's row adds its text to the contents. -/
theorem contents_insertInstance
    (sound : tables.Sound)
    {guid : String}
    (absent : tables.instanceRow? guid = none)
    (data : String) :
    contents { tables with
      instances := tables.instances ++ [⟨tables.nextInstance, guid, data⟩]
      nextInstance := tables.nextInstance + 1 } =
      tables.contents.withInstance guid data := by
  apply (sound.insertInstance absent data).contents_eq
  · intro id text
    by_cases same : id = guid
    · simp only [Contents.withInstance, if_pos same, Option.some.injEq, List.mem_append,
        List.mem_singleton]
      constructor
      · rintro ⟨row, old | rfl, here, rfl⟩
        · have found := sound.instanceRow?_eq_some_iff.mpr ⟨old, here.trans same⟩
          rw [absent] at found
          cases found
        · rfl
      · rintro rfl
        exact ⟨_, Or.inr rfl, same.symm, rfl⟩
    · simp only [Contents.withInstance, if_neg same, sound.instance?_eq_some_iff, List.mem_append,
        List.mem_singleton]
      constructor
      · rintro ⟨row, old | rfl, rfl, rfl⟩
        · exact ⟨row, old, rfl, rfl⟩
        · exact absurd rfl same
      · rintro ⟨row, old, rfl, rfl⟩
        exact ⟨row, Or.inl old, rfl, rfl⟩
  · intro id bindingId text
    rw [Contents.withInstance, sound.binding?_eq_some_iff]
    constructor
    · rintro ⟨row, member, here, ⟨parent, inTable, rfl, owner⟩, stored⟩
      rcases List.mem_append.mp inTable with old | new
      · exact ⟨row, member, here, ⟨parent, old, rfl, owner⟩, stored⟩
      · obtain rfl := List.mem_singleton.mp new
        -- A binding would have to belong to a row that was not there yet.
        obtain ⟨parent, old, same⟩ := sound.owned row member
        have known := List.mem_map_of_mem (f := InstanceRow.number) old
        rw [same, ← owner] at known
        exact absurd known sound.instanceNumber_fresh
    · rintro ⟨row, member, here, ⟨parent, old, rfl, owner⟩, stored⟩
      exact ⟨row, member, here, ⟨parent, List.mem_append_left _ old, rfl, owner⟩, stored⟩

/-- Deleting an instance's row takes the instance and its bindings out of the contents. -/
theorem contents_deleteInstance
    (sound : tables.Sound)
    {gone : InstanceRow}
    (inTable : gone ∈ tables.instances) :
    (tables.deleteInstance gone.number).contents = tables.contents.withoutInstance gone.guid := by
  -- What the statement tells apart by number, the contents tell apart by identifier.
  have other {row : InstanceRow} (member : row ∈ tables.instances) :
      row.number ≠ gone.number ↔ row.guid ≠ gone.guid := by
    constructor
    · intro apart same
      rw [List.inj_on_of_nodup_map sound.guids member inTable same] at apart
      exact apart rfl
    · intro apart same
      rw [List.inj_on_of_nodup_map sound.instanceNumbers member inTable same] at apart
      exact apart rfl
  apply (sound.deleteInstance gone.number).contents_eq
  · intro id text
    simp only [Tables.deleteInstance, List.mem_filter, bne_iff_ne]
    by_cases same : id = gone.guid
    · simp only [Contents.withoutInstance, if_pos same]
      constructor
      · rintro ⟨row, ⟨member, apart⟩, here, _⟩
        exact absurd (here.trans same) ((other member).mp apart)
      · intro impossible
        cases impossible
    · simp only [Contents.withoutInstance, if_neg same, sound.instance?_eq_some_iff]
      constructor
      · rintro ⟨row, ⟨member, _⟩, here, stored⟩
        exact ⟨row, member, here, stored⟩
      · rintro ⟨row, member, rfl, stored⟩
        exact ⟨row, ⟨member, (other member).mpr same⟩, rfl, stored⟩
  · intro id bindingId text
    simp only [Tables.deleteInstance, List.mem_filter, bne_iff_ne]
    by_cases same : id = gone.guid
    · simp only [Contents.withoutInstance, if_pos same]
      constructor
      · rintro ⟨row, _, _, ⟨parent, ⟨member, apart⟩, here, _⟩, _⟩
        exact absurd (here.trans same) ((other member).mp apart)
      · intro impossible
        cases impossible
    · simp only [Contents.withoutInstance, if_neg same, sound.binding?_eq_some_iff]
      constructor
      · rintro ⟨row, ⟨member, _⟩, here, ⟨parent, ⟨inTable, _⟩, named, owner⟩, stored⟩
        exact ⟨row, member, here, ⟨parent, inTable, named, owner⟩, stored⟩
      · rintro ⟨row, member, here, ⟨parent, inTable, rfl, owner⟩, stored⟩
        have apart := (other inTable).mpr same
        exact ⟨row, ⟨member, owner ▸ apart⟩, here, ⟨parent, ⟨inTable, apart⟩, rfl, owner⟩, stored⟩

/-- Adding a binding's row adds its text to the contents. -/
theorem contents_insertBinding
    (sound : tables.Sound)
    {parent : InstanceRow}
    (inTable : parent ∈ tables.instances)
    {guid : String}
    (absent : ((tables.bindingsOf parent.number).find? fun row => row.guid == guid) = none)
    (data : String) :
    contents { tables with
      bindings := tables.bindings ++ [⟨tables.nextBinding, parent.number, guid, data⟩]
      nextBinding := tables.nextBinding + 1 } =
      tables.contents.withBinding parent.guid guid data := by
  apply (sound.insertBinding inTable absent data).contents_eq
  · intro id text
    exact sound.instance?_eq_some_iff.symm
  · intro id bindingId text
    by_cases same : id = parent.guid ∧ bindingId = guid
    · simp only [Contents.withBinding, if_pos same, Option.some.injEq, List.mem_append,
        List.mem_singleton]
      obtain ⟨rfl, rfl⟩ := same
      constructor
      · rintro ⟨row, old | rfl, here, ⟨other, otherInTable, named, owner⟩, rfl⟩
        · rw [List.inj_on_of_nodup_map sound.guids otherInTable inTable named] at owner
          have own : row ∈ tables.bindingsOf parent.number :=
            List.mem_filter.mpr ⟨old, by simp [owner]⟩
          exact absurd (by simp [here]) (List.find?_eq_none.mp absent row own)
        · rfl
      · rintro rfl
        exact ⟨_, Or.inr rfl, rfl, ⟨parent, inTable, rfl, rfl⟩, rfl⟩
    · simp only [Contents.withBinding, if_neg same, sound.binding?_eq_some_iff, List.mem_append,
        List.mem_singleton]
      constructor
      · rintro ⟨row, old | rfl, rfl, ⟨other, otherInTable, rfl, owner⟩, stored⟩
        · exact ⟨row, old, rfl, ⟨other, otherInTable, rfl, owner⟩, stored⟩
        · have here : other = parent :=
            List.inj_on_of_nodup_map sound.instanceNumbers otherInTable inTable owner
          exact absurd ⟨congrArg InstanceRow.guid here, rfl⟩ same
      · rintro ⟨row, old, here, owned, stored⟩
        exact ⟨row, Or.inl old, here, owned, stored⟩

/-- Deleting a binding's row takes the binding out of the contents. -/
theorem contents_deleteBinding
    (sound : tables.Sound)
    {id bindingId : String}
    {gone : BindingRow}
    (found : tables.bindingRow? id bindingId = some gone) :
    (tables.deleteBinding gone.number).contents = tables.contents.without id bindingId := by
  obtain ⟨inTable, rfl, parent, parentInTable, rfl, owns⟩ := sound.bindingRow?_eq_some_iff.mp found
  apply (sound.deleteBinding gone.number).contents_eq
  · intro id text
    exact sound.instance?_eq_some_iff.symm
  · intro id bindingId text
    simp only [Tables.deleteBinding, List.mem_filter, bne_iff_ne]
    by_cases same : id = parent.guid ∧ bindingId = gone.guid
    · simp only [Contents.without, if_pos same]
      obtain ⟨rfl, rfl⟩ := same
      constructor
      · rintro ⟨row, ⟨member, apart⟩, here, ⟨other, otherInTable, named, owner⟩, _⟩
        rw [List.inj_on_of_nodup_map sound.guids otherInTable parentInTable named, owns] at owner
        have self : row = gone :=
          List.inj_on_of_nodup_map sound.distinct member inTable (by simp [owner, here])
        exact absurd (congrArg BindingRow.number self) apart
      · intro impossible
        cases impossible
    · simp only [Contents.without, if_neg same, sound.binding?_eq_some_iff]
      constructor
      · rintro ⟨row, ⟨member, _⟩, here, owned, stored⟩
        exact ⟨row, member, here, owned, stored⟩
      · rintro ⟨row, member, rfl, ⟨other, otherInTable, rfl, owner⟩, stored⟩
        have apart : row.number ≠ gone.number := by
          intro self
          have rows : row = gone :=
            List.inj_on_of_nodup_map sound.bindingNumbers member inTable self
          rw [rows, ← owns] at owner
          have parents : other = parent :=
            List.inj_on_of_nodup_map sound.instanceNumbers otherInTable parentInTable owner
          exact same ⟨congrArg InstanceRow.guid parents, congrArg BindingRow.guid rows⟩
        exact ⟨row, ⟨member, apart⟩, rfl, ⟨other, otherInTable, rfl, owner⟩, stored⟩

end Sound

end Tables

end GraphBroker.Store
