import TextQuery.Proofs.Model.Projecting
import TextQuery.Proofs.Model.Visibility
import TextQuery.Proofs.Order.Keys
import TextQuery.Proofs.Traversal
import TextQuery.Samples.Catalog

/-!
Skipped fields cannot be observed through queries. Items that differ only in skipped fields, their
own or those of nested items at any depth, pass the same filters, are equal under every order, and
stay alike under every projection, which moreover resets their own skipped fields. Main statement:
`ItemType.skipped_fields_unobservable`.
-/

namespace TextQuery

variable {ι : Type}

theorem Model.view_reordered {models : ι → Model (Property ι)} {model : Model (Property ι)}
    {left right : Item} (same : Stored.FieldsVisiblyEqual models model.fields left right) :
    (model.view models left).Reordered (model.view models right) :=
  .record same.fieldViews

namespace ItemType

theorem not_selects_of_skipped {type : ItemType ι} {projection : Projection} {place : Nat}
    {field : Field (Property ι)} (found : type.model.fields[place]? = some field)
    (hidden : field.skipped = true) : ¬ type.model.Selects projection place := by
  rintro ⟨index, -, here⟩
  obtain ⟨seenField, seenFound, -, seen⟩ := Model.field_of_getElem?_places here
  rw [found] at seenFound
  cases seenFound
  rw [hidden] at seen
  cases seen

/-- At a selected place, projected items differ in skipped fields of nested items only. -/
theorem project_visiblyEqual {models : ι → Model (Property ι)} {type : ItemType ι}
    {left right : Item} (same : Stored.FieldsVisiblyEqual models type.model.fields left right)
    {projection : Projection} {place : Nat} (selected : type.model.Selects projection place)
    {field : Field (Property ι)} (found : type.model.fields[place]? = some field) :
    ∃ leftData rightData, (type.project projection left)[place]? = some leftData ∧
      (type.project projection right)[place]? = some rightData ∧
      Stored.VisiblyEqual models field.type leftData rightData := by
  have seen : field.skipped = false := by
    rw [← Bool.not_eq_true]
    exact fun hidden => not_selects_of_skipped found hidden selected
  obtain ⟨leftData, rightData, leftHeld, rightHeld, alike⟩ := same.getElem? found seen
  exact ⟨leftData, rightData, type.getElem?_project_of_selected projection left selected leftHeld,
    type.getElem?_project_of_selected projection right selected rightHeld, alike⟩

end ItemType

/-! ## People and their password hashes -/

namespace Sample

/-- A person with a name, a password hash and friends. -/
def namedPerson (name hash : String) (friends : List Item) : Item :=
  [ .guid .nil, .string name.toList, .integer 0, .absent, .member "Member".toList,
    .fields addressType.default, .absent, .absent, .float .zero, .elements [],
    .elements (friends.map .fields), .absent, .string hash.toList ]

theorem namedPerson_visiblyEqual (name leftHash rightHash : String)
    {leftFriends rightFriends : List Item}
    (friends : Stored.ElementsVisiblyEqual (modelsOf itemType) (.nested .person)
      (leftFriends.map .fields) (rightFriends.map .fields)) :
    Stored.FieldsVisiblyEqual (modelsOf itemType) personType.model.fields
      (namedPerson name leftHash leftFriends) (namedPerson name rightHash rightFriends) :=
  .visible (.refl _ _) <| .visible (.refl _ _) <| .visible (.refl _ _) <| .visible (.refl _ _) <|
    .visible (.refl _ _) <| .visible (.refl _ _) <| .visible (.refl _ _) <|
    .visible (.refl _ _) <| .visible (.refl _ _) <| .visible (.refl _ _) <|
    .visible (.elements friends) <| .visible (.refl _ _) <| .skipped rfl .nil

end Sample

/-! ## All queries -/

namespace ItemType

/-- Items that differ only in skipped fields, at any depth, pass the same filters, have the same
keys and are equal under all orders, and are alike under all projections: there every skipped field
of their own is that of the default item, fields that are not selected are the same, and selected
ones differ only in skipped fields of nested items. -/
theorem skipped_fields_unobservable (types : ι → ItemType ι) (type : ItemType ι)
    (left right : Item)
    (same : Stored.FieldsVisiblyEqual (modelsOf types) type.model.fields left right) :
    let view := type.model.view (modelsOf types)
    (∀ filter : Filter ι, filter.holds (view left) = filter.holds (view right)) ∧
    (∀ order : Order ι, order.key? (view left) = order.key? (view right) ∧
      order.compare (view left) (view right) = .eq) ∧
    (∀ (projection : Projection) (place : Nat) (field : Field (Property ι)),
      type.model.fields[place]? = some field →
      (field.skipped = true →
        (type.project projection left)[place]? = type.default[place]? ∧
        (type.project projection right)[place]? = type.default[place]?) ∧
      (¬ type.model.Selects projection place →
        (type.project projection left)[place]? = (type.project projection right)[place]?) ∧
      (type.model.Selects projection place →
        ∃ leftData rightData, (type.project projection left)[place]? = some leftData ∧
          (type.project projection right)[place]? = some rightData ∧
          Stored.VisiblyEqual (modelsOf types) field.type leftData rightData)) := by
  intro view
  have reordered : (view left).Reordered (view right) := Model.view_reordered same
  refine ⟨fun filter => reordered.filter_holds filter, ?_, ?_⟩
  · intro order
    have sameKey := reordered.key?_eq order
    exact ⟨sameKey, Order.compare_of_same_key sameKey⟩
  · intro projection place field found
    have unselected : ¬ type.model.Selects projection place → ∀ item : Item,
        (type.project projection item)[place]? = type.default[place]? :=
      fun unselected item => type.getElem?_project_of_not_selected projection item unselected
    refine ⟨?_, ?_, ?_⟩
    · intro hidden
      have reset := unselected (not_selects_of_skipped found hidden)
      exact ⟨reset left, reset right⟩
    · intro other
      rw [unselected other left, unselected other right]
    · intro selected
      exact project_visiblyEqual same selected found

/-- Ana and her friend Bia before and after they change their passwords. A projection to the friends
copies Bia with her own password, but not that of Ana. -/
theorem skipped_fields_unobservable_passwords :
    let left := Sample.namedPerson "Ana" "old" [Sample.namedPerson "Bia" "first" []]
    let right := Sample.namedPerson "Ana" "new" [Sample.namedPerson "Bia" "second" []]
    let view := Sample.personType.model.view (modelsOf Sample.itemType)
    let friends : Projection := ⟨[10]⟩
    left[12]? = some (.string "old".toList) ∧ right[12]? = some (.string "new".toList) ∧
    (∃ filter, Filter.compile Sample.catalog {} (Sample.catalog .person) "friends.name=Bia".toList =
        .ok filter ∧ filter.holds (view left) = true ∧ filter.holds (view right) = true) ∧
    (∀ order : Order Sample, order.compare (view left) (view right) = .eq) ∧
    (Sample.personType.project friends left)[12]? = some (.string []) ∧
    (Sample.personType.project friends right)[12]? = some (.string []) ∧
    (Sample.personType.project friends left)[10]? =
      some (.elements [.fields (Sample.namedPerson "Bia" "first" [])]) ∧
    (Sample.personType.project friends right)[10]? =
      some (.elements [.fields (Sample.namedPerson "Bia" "second" [])]) := by
  intro left right view friends
  have same : Stored.FieldsVisiblyEqual (modelsOf Sample.itemType) Sample.personType.model.fields
      left right :=
    Sample.namedPerson_visiblyEqual _ _ _
      (.cons (.nested (Sample.namedPerson_visiblyEqual _ _ _ (.nil _))) (.nil _))
  obtain ⟨filters, orders, projections⟩ :=
    skipped_fields_unobservable Sample.itemType Sample.personType left right same
  have kept : (Filter.compile Sample.catalog {} (Sample.catalog .person)
      "friends.name=Bia".toList).toOption.any (·.holds (view left)) = true := by
    decide +kernel
  obtain ⟨filter, compiled, holds⟩ := exists_of_any_toOption kept
  obtain ⟨leftReset, rightReset⟩ := (projections friends 12 _ rfl).1 rfl
  refine ⟨rfl, rfl, ⟨filter, compiled, holds, ?_⟩, fun order => (orders order).2, leftReset,
    rightReset, rfl, rfl⟩
  rw [← filters filter]
  exact holds

end ItemType

end TextQuery
