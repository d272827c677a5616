import TextQuery.Model.Property
import TextQuery.Query

/-!
Items of a model: the data of all fields, in the order of their declaration. Queries address the
fields that are not skipped, by their position among these; `Model.places` gives the place of each
among all fields.
-/

namespace TextQuery

variable {ι : Type}

/-- An item: the data of all fields of its model. -/
abbrev Item := List Stored

/-- A model with its default item, which has data for each field. -/
structure ItemType (ι : Type) where
  model : Model (Property ι)
  default : Item
  length_default : default.length = model.fields.length
deriving Repr

namespace Model

/-- The places of the fields that queries see, among all fields. -/
def places {τ : Type} (model : Model τ) : List Nat :=
  (model.fields.zipIdx.filter (!·.1.skipped)).map (·.2)

/-- The view of an item. -/
def view (models : ι → Model (Property ι)) (model : Model (Property ι)) (item : Item) : View :=
  .record (Stored.fieldViews models model.fields item)

/-- Copies the field at a schema position from one item to another. -/
def copyField {τ : Type} (model : Model τ) (target source : Item) (index : Nat) : Item :=
  match model.places[index]? with
  | none => target
  | some place =>
    match source[place]? with
    | some data => target.set place data
    | none => target

/-- Whether items of the model hold no data at all. -/
def isEmpty {τ : Type} (model : Model τ) : Bool :=
  model.fields.isEmpty

/-- Items that hold no data are all one and the same, so each is found where the first one is. -/
def foundAt {τ : Type} (model : Model τ) (position : Nat) : Nat :=
  if model.isEmpty then 0 else position

end Model

/-- The models of several item types. -/
def modelsOf (types : ι → ItemType ι) : ι → Model (Property ι) :=
  fun type => (types type).model

/-- The schemas of several item types. -/
def catalogOf (types : ι → ItemType ι) : Catalog ι :=
  fun type => (types type).model.schema

namespace ItemType

/-- Projects an item: the selected fields on top of the default ones. -/
def project (type : ItemType ι) (projection : Projection) (item : Item) : Item :=
  projection.apply type.model.copyField type.default item

/-- The answer to a query among items of this type. -/
def answer (types : ι → ItemType ι) (type : ItemType ι) (query : Query ι) (items : List Item) :
    List Item :=
  query.apply (type.model.view (modelsOf types)) type.model.copyField type.default items

end ItemType

end TextQuery
