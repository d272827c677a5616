import TextQuery.Proofs.Model.Projecting
import TextQuery.Proofs.View.Reordering

/-!
Data that differs only where queries do not look. `VisiblyEqual models property left right` says
that `left` and `right` are data of one property and differ only in skipped fields, of nested items
at any depth. A set may hold its elements in another order, since what orders it may be skipped.
Main statement: such data has the same view, up to the order of elements (`VisiblyEqual.view`,
`FieldsVisiblyEqual.fieldViews`).
-/

namespace TextQuery

variable {ι : Type}

namespace Stored

mutual

/-- Data of one property that differs only in skipped fields. -/
inductive VisiblyEqual (models : ι → Model (Property ι)) : Property ι → Stored → Stored → Prop
  | refl (property : Property ι) (data : Stored) : VisiblyEqual models property data data
  | present {property : Property ι} {left right : Stored} :
    VisiblyEqual models property left right →
    VisiblyEqual models (.optional property) (.present left) (.present right)
  | pointer {property : Property ι} {left right : Stored} :
    VisiblyEqual models property left right →
    VisiblyEqual models (.pointer property) (.pointer left) (.pointer right)
  | elements {kind : CollectionKind} {property : Property ι} {left right : List Stored} :
    ElementsVisiblyEqual models property left right →
    VisiblyEqual models (.collection kind property) (.elements left) (.elements right)
  | set {kind : CollectionKind} {property : Property ι} {left middle right : List Stored} :
    kind ≠ .sequence → ElementsVisiblyEqual models property left middle → middle.Perm right →
    VisiblyEqual models (.collection kind property) (.elements left) (.elements right)
  | nested {model : ι} {left right : List Stored} :
    FieldsVisiblyEqual models (models model).fields left right →
    VisiblyEqual models (.nested model) (.fields left) (.fields right)

/-- Elements of a collection that differ, one by one, only in skipped fields. -/
inductive ElementsVisiblyEqual (models : ι → Model (Property ι)) :
    Property ι → List Stored → List Stored → Prop
  | nil (property : Property ι) : ElementsVisiblyEqual models property [] []
  | cons {property : Property ι} {left right : Stored} {leftMore rightMore : List Stored} :
    VisiblyEqual models property left right →
    ElementsVisiblyEqual models property leftMore rightMore →
    ElementsVisiblyEqual models property (left :: leftMore) (right :: rightMore)

/-- Data of all fields of a model that differs only in skipped fields: its own, in which anything
may stand, and those of nested items. -/
inductive FieldsVisiblyEqual (models : ι → Model (Property ι)) :
    List (Field (Property ι)) → List Stored → List Stored → Prop
  | nil : FieldsVisiblyEqual models [] [] []
  | skipped {field : Field (Property ι)} {fields : List (Field (Property ι))}
    {left right : Stored} {leftMore rightMore : List Stored} :
    field.skipped = true → FieldsVisiblyEqual models fields leftMore rightMore →
    FieldsVisiblyEqual models (field :: fields) (left :: leftMore) (right :: rightMore)
  | visible {field : Field (Property ι)} {fields : List (Field (Property ι))}
    {left right : Stored} {leftMore rightMore : List Stored} :
    VisiblyEqual models field.type left right →
    FieldsVisiblyEqual models fields leftMore rightMore →
    FieldsVisiblyEqual models (field :: fields) (left :: leftMore) (right :: rightMore)

end

/-! ## Views -/

section Views

variable {models : ι → Model (Property ι)}

mutual

/-- Data that differs only in skipped fields looks the same, up to the order of elements. -/
theorem VisiblyEqual.view {property : Property ι} {left right : Stored}
    (same : VisiblyEqual models property left right) :
    (left.view models property).Reordered (right.view models property) := by
  cases same with
  | refl _ data => exact .refl _
  | present inner => exact inner.view
  | pointer inner => exact inner.view
  | elements all => exact .list all.views (.refl _)
  | @set _ property _ middle right _ all permutation =>
    have arranged := permutation.map fun data : Stored => data.view models property
    rw [← views_eq_map, ← views_eq_map] at arranged
    exact .list all.views arranged
  | nested fields => exact .record fields.fieldViews

theorem ElementsVisiblyEqual.views {property : Property ι} {left right : List Stored}
    (same : ElementsVisiblyEqual models property left right) :
    List.Forall₂ View.Reordered (Stored.views models property left)
      (Stored.views models property right) := by
  cases same with
  | nil _ => exact .nil
  | cons first more => exact .cons first.view more.views

theorem FieldsVisiblyEqual.fieldViews {fields : List (Field (Property ι))}
    {left right : List Stored} (same : FieldsVisiblyEqual models fields left right) :
    List.Forall₂ View.Reordered (Stored.fieldViews models fields left)
      (Stored.fieldViews models fields right) := by
  cases same with
  | nil => exact .nil
  | skipped hidden more =>
    rw [Stored.fieldViews, Stored.fieldViews, if_pos hidden, if_pos hidden]
    exact more.fieldViews
  | @visible field _ _ _ _ _ first more =>
    rw [Stored.fieldViews, Stored.fieldViews]
    cases field.skipped with
    | true => exact more.fieldViews
    | false => exact .cons first.view more.fieldViews

end

end Views

/-! ## Fields -/

section Fields

variable {models : ι → Model (Property ι)} {fields : List (Field (Property ι))}
  {left right : List Stored}

/-- At the place of a field that queries see, the data differs in nested items only. -/
theorem FieldsVisiblyEqual.getElem? (same : FieldsVisiblyEqual models fields left right)
    {place : Nat} {field : Field (Property ι)} (found : fields[place]? = some field)
    (seen : field.skipped = false) :
    ∃ leftData rightData, left[place]? = some leftData ∧ right[place]? = some rightData ∧
      VisiblyEqual models field.type leftData rightData := by
  induction fields generalizing left right place with
  | nil => cases found
  | cons first more ih =>
    cases place with
    | zero =>
      cases found
      cases same with
      | skipped hidden _ => rw [hidden] at seen; cases seen
      | visible data _ => exact ⟨_, _, rfl, rfl, data⟩
    | succ place =>
      cases same with
      | skipped _ rest => exact ih rest found
      | visible _ rest => exact ih rest found

end Fields

end Stored

end TextQuery
