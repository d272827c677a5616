import TextQuery.Proofs.Model.Projecting
import TextQuery.Proofs.Typing.Conformance

/-!
Data that fits its property. `Stored.Fits` says what a property can hold, down to the range of
integers and the members of enumerations, and `Stored.FieldsFit` extends it to all fields of a
model, skipped ones included. Main statement: what queries see of such data is of the declared type
(`Stored.Fits.view_conforms`, `Model.view_conformsTo`).
-/

namespace TextQuery

variable {ι : Type}

/-- The schemas of several models. -/
def schemasOf (models : ι → Model (Property ι)) : Catalog ι :=
  fun type => (models type).schema

/-! ## Scalar data -/

/-- Whether data is of a scalar type; an integer has to be in the range of its type. -/
def ScalarType.fits : ScalarType → Stored → Bool
  | bool, .bool _ => true
  | char, .char _ => true
  | integer type, .integer n => type.low ≤ n && n ≤ type.high
  | float _, .float _ => true
  | string, .string _ => true
  | date, .date _ => true
  | dateTime, .dateTime _ => true
  | timestamp, .timestamp _ => true
  | guid, .guid _ => true
  | _, _ => false

theorem ScalarType.view_of_fits {type : ScalarType} {data : Stored} (fits : type.fits data = true) :
    ∃ content, type.view data = .value content ∧ type.holds content = true := by
  cases type with
  | integer type =>
    cases data with
    | integer n => cases type <;> exact ⟨_, rfl, rfl⟩
    | _ => cases fits
  | _ => cases data <;> first | exact ⟨_, rfl, rfl⟩ | cases fits

theorem EnumSchema.view_of_mem {enumeration : EnumSchema} {name : Text}
    (member : name ∈ enumeration.members) :
    ∃ ordinal, enumeration.view name = .value (.member ordinal name) ∧
      enumeration.members[ordinal]? = some name := by
  have found : (enumeration.members.findIdx? (· = name)).isSome = true := by
    rw [List.findIdx?_isSome, List.any_eq_true]
    exact ⟨name, member, decide_eq_true rfl⟩
  obtain ⟨ordinal, found⟩ := Option.isSome_iff_exists.1 found
  obtain ⟨within, same, -⟩ := List.findIdx?_eq_some_iff_getElem.1 found
  refine ⟨ordinal, ?_, ?_⟩
  · unfold view
    rw [found]
  · rw [List.getElem?_eq_getElem within, of_decide_eq_true same]

/-! ## Data of all properties -/

namespace Stored

mutual

/-- A property can hold the data. -/
inductive Fits (models : ι → Model (Property ι)) : Property ι → Stored → Prop
  | scalar {type : ScalarType} {data : Stored} :
    type.fits data = true → Fits models (.scalar type) data
  | member {enumeration : EnumSchema} {name : Text} :
    name ∈ enumeration.members → Fits models (.member enumeration) (.member name)
  | absent {property : Property ι} : Fits models (.optional property) .absent
  | present {property : Property ι} {data : Stored} :
    Fits models property data → Fits models (.optional property) (.present data)
  | pointer {property : Property ι} {data : Stored} :
    Fits models property data → Fits models (.pointer property) (.pointer data)
  | elements {kind : CollectionKind} {property : Property ι} {all : List Stored} :
    (∀ data ∈ all, Fits models property data) →
    Fits models (.collection kind property) (.elements all)
  | nested {model : ι} {item : List Stored} :
    FieldsFit models (models model).fields item → Fits models (.nested model) (.fields item)

/-- The fields of a model can hold the data, one by one. -/
inductive FieldsFit (models : ι → Model (Property ι)) :
    List (Field (Property ι)) → List Stored → Prop
  | nil : FieldsFit models [] []
  | cons {field : Field (Property ι)} {fields : List (Field (Property ι))} {data : Stored}
    {more : List Stored} :
    Fits models field.type data → FieldsFit models fields more →
    FieldsFit models (field :: fields) (data :: more)

end

variable {models : ι → Model (Property ι)}

theorem FieldsFit.forall₂ {fields : List (Field (Property ι))} {item : List Stored}
    (fits : FieldsFit models fields item) :
    List.Forall₂ (fun field data => Fits models field.type data) fields item := by
  induction fields generalizing item with
  | nil =>
    cases fits
    exact .nil
  | cons field fields ih =>
    cases fits with
    | cons first more => exact .cons first (ih more)

theorem FieldsFit.length_eq {fields : List (Field (Property ι))} {item : List Stored}
    (fits : FieldsFit models fields item) : item.length = fields.length :=
  fits.forall₂.length_eq.symm

/-- At the place of a field stands data that the field can hold. -/
theorem FieldsFit.getElem? {fields : List (Field (Property ι))} {item : List Stored}
    (fits : FieldsFit models fields item) {place : Nat} {field : Field (Property ι)}
    (found : fields[place]? = some field) :
    ∃ data, item[place]? = some data ∧ Fits models field.type data := by
  obtain ⟨within, rfl⟩ := List.getElem?_eq_some_iff.1 found
  have held : place < item.length := by
    rw [fits.length_eq]
    exact within
  exact ⟨item[place], List.getElem?_eq_getElem held, fits.forall₂.get within held⟩

/-! ## Views -/

mutual

/-- What queries see of fitting data is of the declared type. -/
theorem Fits.view_conforms {property : Property ι} {data : Stored}
    (fits : Fits models property data) :
    View.Conforms (schemasOf models) property.fieldType (data.view models property) := by
  cases fits with
  | @scalar type _ scalar =>
    obtain ⟨content, seen, held⟩ := ScalarType.view_of_fits scalar
    have view : data.view models (.scalar type) = type.view data := by cases data <;> rfl
    rw [view, seen]
    exact .value held
  | @member enumeration name member =>
    obtain ⟨ordinal, seen, named⟩ := EnumSchema.view_of_mem member
    rw [Stored.view, seen]
    exact .value named
  | absent => exact .null
  | present inner => exact .nullable inner.view_conforms
  | pointer inner => exact inner.view_conforms
  | elements each =>
    rw [Stored.view, views_eq_map]
    refine .collection fun view member => ?_
    obtain ⟨data, within, rfl⟩ := List.mem_map.1 member
    exact (each data within).view_conforms
  | nested fields =>
    exact .object (.of_forall₂ (List.forall₂_map_left_iff.2 fields.fieldViews_conform))

/-- Fitting data has a view for each field that queries see, and it is of the declared type. -/
theorem FieldsFit.fieldViews_conform {fields : List (Field (Property ι))} {item : List Stored}
    (fits : FieldsFit models fields item) :
    List.Forall₂ (fun field view => View.Conforms (schemasOf models) field.type.fieldType view)
      (fields.filter (!·.skipped)) (fieldViews models fields item) := by
  cases fits with
  | nil => exact .nil
  | @cons field _ _ _ first more =>
    rw [fieldViews]
    cases hidden : field.skipped with
    | true =>
      rw [List.filter_cons_of_neg (by simp [hidden])]
      exact more.fieldViews_conform
    | false =>
      rw [List.filter_cons_of_pos (by simp [hidden])]
      exact .cons first.view_conforms more.fieldViews_conform

end

end Stored

/-- A fitting item looks as the schema of its model says. -/
theorem Model.view_conformsTo {models : ι → Model (Property ι)} {model : Model (Property ι)}
    {item : Item} (fits : Stored.FieldsFit models model.fields item) :
    (model.view models item).ConformsTo (schemasOf models) model.schema :=
  .of_forall₂ (List.forall₂_map_left_iff.2 fits.fieldViews_conform)

end TextQuery
