import TextQuery.Model.Item

/-!
What a projection does to each field of an item. Positions of the schema leave out skipped fields,
so a copied field is never a skipped one (`Model.field_of_getElem?_places`), and it is the one that
queries see there (`Model.getElem?_fieldViews`). In the projected item a selected field is that of
the item, and every other field is that of the default (`ItemType.getElem?_project_of_selected`,
`ItemType.getElem?_project_of_not_selected`); so it looks as before at the selected positions
(`ItemType.getElem?_fieldViews_project`).
-/

namespace TextQuery

variable {ι : Type}

theorem Stored.views_eq_map (models : ι → Model (Property ι)) (property : Property ι)
    (all : List Stored) : views models property all = all.map (·.view models property) := by
  induction all with
  | nil => rfl
  | cons data more ih => rw [views, ih, List.map_cons]

namespace Model

section Places

variable {τ : Type} {model : Model τ}

theorem queryable_eq_map :
    model.queryable = (model.fields.zipIdx.filter (!·.1.skipped)).map (·.1) := by
  have filtered := List.filter_map (f := Prod.fst) (p := fun field : Field τ => !field.skipped)
    (l := model.fields.zipIdx)
  rwa [List.zipIdx_map_fst] at filtered

/-- A position of the schema stands for a field that is not skipped, and for its place. -/
theorem field_of_getElem?_places {index place : Nat}
    (found : model.places[index]? = some place) :
    ∃ field, model.fields[place]? = some field ∧ model.queryable[index]? = some field ∧
      field.skipped = false := by
  unfold places at found
  rw [List.getElem?_map] at found
  obtain ⟨⟨field, place'⟩, numbered, rfl⟩ := Option.map_eq_some_iff.1 found
  obtain ⟨member, seen⟩ := List.mem_filter.1 (List.mem_of_getElem? numbered)
  refine ⟨field, List.mk_mem_zipIdx_iff_getElem?.1 member, ?_, by simpa using seen⟩
  rw [queryable_eq_map, List.getElem?_map, numbered]
  rfl

end Places

/-! ## Views of fields -/

section FieldViews

variable (models : ι → Model (Property ι))

/-- Queries see the fields that are not skipped, in order. -/
theorem fieldViews_eq_map (fields : List (Field (Property ι))) (item : Item) :
    Stored.fieldViews models fields item =
      ((fields.zip item).filter (!·.1.skipped)).map fun row => row.2.view models row.1.type := by
  induction item generalizing fields with
  | nil => cases fields <;> rfl
  | cons data more ih =>
    cases fields with
    | nil => rfl
    | cons field fields =>
      rw [Stored.fieldViews, List.zip_cons_cons, ih]
      cases hidden : field.skipped with
      | true => simp [hidden]
      | false => simp [hidden]

/-- At a position of the schema queries see the data at its place. -/
theorem getElem?_fieldViews {model : Model (Property ι)} {item : Item}
    (complete : model.fields.length ≤ item.length) (index : Nat) :
    (Stored.fieldViews models model.fields item)[index]? =
      model.places[index]?.bind fun place =>
        (model.fields.zip item)[place]?.map fun row => row.2.view models row.1.type := by
  let numbered := (model.fields.zip item).zipIdx.filter (!·.1.1.skipped)
  have rows : (model.fields.zip item).filter (!·.1.skipped) = numbered.map (·.1) := by
    have filtered := List.filter_map (f := Prod.fst)
      (p := fun row : Field (Property ι) × Stored => !row.1.skipped)
      (l := (model.fields.zip item).zipIdx)
    rwa [List.zipIdx_map_fst] at filtered
  have places : model.places = numbered.map (·.2) := by
    have fields := List.map_fst_zip complete
    unfold Model.places
    conv => lhs; rw [← fields]
    rw [List.zipIdx_map, List.filter_map, List.map_map]
    rfl
  rw [fieldViews_eq_map, rows, places, List.getElem?_map, List.getElem?_map, List.getElem?_map]
  cases found : numbered[index]? with
  | none => rfl
  | some entry =>
    have member := (List.mem_filter.1 (List.mem_of_getElem? found)).1
    have standing := List.mem_zipIdx_iff_getElem?.1 member
    simp [standing]

end FieldViews

/-- Whether a projection selects the field at a place among all fields. -/
def Selects {τ : Type} (model : Model τ) (projection : Projection) (place : Nat) : Prop :=
  ∃ index ∈ projection.fields, model.places[index]? = some place

/-! ## Copying one field -/

section Copying

variable {τ : Type} (model : Model τ) (target source : Item) {index place : Nat}

theorem length_copyField (index : Nat) :
    (model.copyField target source index).length = target.length := by
  unfold copyField
  split
  · rfl
  · split
    · exact List.length_set
    · rfl

/-- Every field but the copied one stays as it is. -/
theorem getElem?_copyField_of_ne (elsewhere : model.places[index]? ≠ some place) :
    (model.copyField target source index)[place]? = target[place]? := by
  unfold copyField
  split
  · rfl
  · rename_i copied found
    have different : copied ≠ place := fun same => elsewhere (by rw [found, same])
    split
    · exact List.getElem?_set_ne different
    · rfl

theorem getElem?_copyField_of_eq (here : model.places[index]? = some place)
    (within : place < target.length) {data : Stored} (held : source[place]? = some data) :
    (model.copyField target source index)[place]? = some data := by
  unfold copyField
  simp only [here, held]
  exact List.getElem?_set_self within

end Copying

/-! ## Copying all selected fields -/

section Applying

variable {τ : Type} (model : Model τ) (projection : Projection) (default item : Item) {place : Nat}

theorem length_apply : (projection.apply model.copyField default item).length = default.length := by
  obtain ⟨fields⟩ := projection
  unfold Projection.apply
  induction fields generalizing default with
  | nil => rfl
  | cons index more ih => rw [List.foldl_cons, ih, length_copyField]

theorem getElem?_apply_of_not_selects (unselected : ¬ model.Selects projection place) :
    (projection.apply model.copyField default item)[place]? = default[place]? := by
  obtain ⟨fields⟩ := projection
  unfold Projection.apply
  induction fields generalizing default with
  | nil => rfl
  | cons index more ih =>
    have elsewhere : model.places[index]? ≠ some place := fun here =>
      unselected ⟨index, List.mem_cons_self, here⟩
    have rest : ¬ model.Selects ⟨more⟩ place := fun ⟨later, member, here⟩ =>
      unselected ⟨later, List.mem_cons_of_mem _ member, here⟩
    rw [List.foldl_cons, ih _ rest, model.getElem?_copyField_of_ne _ _ elsewhere]

/-- A selected field is copied, and no later copy overwrites it with anything else. -/
theorem getElem?_apply_of_selects (selected : model.Selects projection place)
    (within : place < default.length) {data : Stored} (held : item[place]? = some data) :
    (projection.apply model.copyField default item)[place]? = some data := by
  obtain ⟨fields⟩ := projection
  induction fields generalizing default with
  | nil =>
    obtain ⟨index, member, -⟩ := selected
    cases member
  | cons index more ih =>
    have copied := model.length_copyField default item index
    by_cases again : model.Selects ⟨more⟩ place
    · exact ih _ (by rw [copied]; exact within) again
    · obtain ⟨found, member, here⟩ := selected
      rcases List.mem_cons.1 member with rfl | later
      · have kept := model.getElem?_apply_of_not_selects ⟨more⟩
          (model.copyField default item found) item again
        exact kept.trans (model.getElem?_copyField_of_eq default item here within held)
      · exact absurd ⟨found, later, here⟩ again

end Applying

end Model

namespace ItemType

variable (type : ItemType ι) (projection : Projection) (item : Item) {place : Nat}

theorem getElem?_project_of_not_selected (unselected : ¬ type.model.Selects projection place) :
    (type.project projection item)[place]? = type.default[place]? :=
  type.model.getElem?_apply_of_not_selects projection type.default item unselected

theorem getElem?_project_of_selected (selected : type.model.Selects projection place)
    {data : Stored} (held : item[place]? = some data) :
    (type.project projection item)[place]? = some data := by
  have within : place < type.default.length := by
    obtain ⟨index, -, here⟩ := selected
    obtain ⟨field, found, -⟩ := Model.field_of_getElem?_places here
    rw [type.length_default]
    exact (List.getElem?_eq_some_iff.1 found).1
  exact type.model.getElem?_apply_of_selects projection type.default item selected within held

theorem length_project :
    (type.project projection item).length = type.model.fields.length :=
  (type.model.length_apply projection type.default item).trans type.length_default

/-- At a selected position a projected item looks as it did before. -/
theorem getElem?_fieldViews_project (models : ι → Model (Property ι)) {index : Nat}
    (selected : index ∈ projection.fields) (complete : item.length = type.model.fields.length) :
    (Stored.fieldViews models type.model.fields (type.project projection item))[index]? =
      (Stored.fieldViews models type.model.fields item)[index]? := by
  have projected := type.length_project projection item
  rw [Model.getElem?_fieldViews models (Nat.le_of_eq projected.symm),
    Model.getElem?_fieldViews models (Nat.le_of_eq complete.symm)]
  cases here : type.model.places[index]? with
  | none => rfl
  | some place =>
    obtain ⟨field, found, -, -⟩ := Model.field_of_getElem?_places here
    have within : place < item.length := by
      rw [complete]
      exact (List.getElem?_eq_some_iff.1 found).1
    have held : item[place]? = some item[place] := List.getElem?_eq_getElem within
    have copied := type.getElem?_project_of_selected projection item ⟨index, selected, here⟩ held
    have row : (type.model.fields.zip item)[place]? = some (field, item[place]) :=
      List.getElem?_zip_eq_some.2 ⟨found, held⟩
    have row' : (type.model.fields.zip (type.project projection item))[place]? =
        some (field, item[place]) :=
      List.getElem?_zip_eq_some.2 ⟨found, copied⟩
    rw [Option.bind_some, Option.bind_some, row, row']

end ItemType

end TextQuery
