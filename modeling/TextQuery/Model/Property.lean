import TextQuery.Schema.Basic
import TextQuery.View

/-!
Properties: how the fields of a model are stored, and what queries see of them. A property is a
scalar, a member of an enumeration, a nested model, or another property that is optional, kept
behind a pointer, or collected. Pointers show nothing of themselves. `Property.fieldType` is the
declared type of a property and `Stored.view` the view of stored data.
-/

namespace TextQuery

variable {ι : Type}

/-- How a collection keeps its elements. -/
inductive CollectionKind where
  /-- In the order in which they were added. -/
  | sequence
  /-- Each once, in ascending order. -/
  | sortedSet
  /-- Each once, in no particular order. -/
  | unorderedSet
deriving DecidableEq, Repr

/-- The way a field is stored. Nested models are named by an element of `ι`. -/
inductive Property (ι : Type) where
  | scalar (type : ScalarType)
  | member (enumeration : EnumSchema)
  | nested (model : ι)
  | optional (inner : Property ι)
  /-- A property behind a pointer. -/
  | pointer (inner : Property ι)
  | collection (kind : CollectionKind) (element : Property ι)
deriving DecidableEq, Repr

/-- The declared type of a property. -/
def Property.fieldType : Property ι → FieldType ι
  | scalar type => .scalar type
  | member enumeration => .enum enumeration
  | nested model => .object model
  | optional inner => .nullable inner.fieldType
  | pointer inner => inner.fieldType
  | collection _ element => .collection element.fieldType

/-- A field of a model: its identifier, its type, and whether queries skip it. -/
structure Field (τ : Type) where
  ident : Text
  type : τ
  skipped : Bool
deriving DecidableEq, Repr

/-- The name of a field: its identifier without the mark of a raw one. -/
def Field.name {τ : Type} (field : Field τ) : Text :=
  (Text.after? "r#".toList field.ident).getD field.ident

/-- A model: its name and all its fields, in the order of their declaration. -/
structure Model (τ : Type) where
  name : Text
  fields : List (Field τ)
deriving DecidableEq, Repr

/-- The fields that queries see, in order. Their positions are the indices of the schema. -/
def Model.queryable {τ : Type} (model : Model τ) : List (Field τ) :=
  model.fields.filter (!·.skipped)

/-- The schema of a model: a descriptor for each field that queries see. -/
def Model.schema (model : Model (Property ι)) : Schema ι :=
  ⟨model.name, model.queryable.map fun field => ⟨field.name, field.type.fieldType⟩⟩

/-- The data of a property. -/
inductive Stored where
  | bool (b : Bool)
  | char (c : Char)
  | integer (n : Int)
  | float (x : Double)
  | string (content : Text)
  | date (day : Date)
  | dateTime (moment : DateTime)
  | timestamp (instant : Timestamp)
  | guid (id : Guid)
  /-- A member of an enumeration, by its name. -/
  | member (name : Text)
  | absent
  | present (inner : Stored)
  | pointer (inner : Stored)
  | elements (elements : List Stored)
  /-- A nested item: the data of all its fields, skipped ones included. -/
  | fields (fields : List Stored)
deriving Repr

/-- The view of scalar data. -/
def ScalarType.view : ScalarType → Stored → View
  | bool, .bool b => .value (.bool b)
  | char, .char c => .value (.char c)
  | integer type, .integer n => .value (if type.isWide then .unsigned n.toNat else .signed n)
  | float _, .float x => .value (.float x)
  | string, .string content => .value (.string content)
  | date, .date day => .value (.date day)
  | dateTime, .dateTime moment => .value (.dateTime moment)
  | timestamp, .timestamp instant => .value (.timestamp instant)
  | guid, .guid id => .value (.guid id)
  | _, _ => .null

/-- The view of a member: its name and its position among the members. -/
def EnumSchema.view (enumeration : EnumSchema) (name : Text) : View :=
  match enumeration.members.findIdx? (· = name) with
  | some ordinal => .value (.member ordinal name)
  | none => .null

namespace Stored

mutual

/-- The view of stored data; data that does not fit its property is not seen. -/
def view (models : ι → Model (Property ι)) : Stored → Property ι → View
  | member name, .member enumeration => enumeration.view name
  | absent, .optional _ => .null
  | present inner, .optional property => inner.view models property
  | pointer inner, .pointer property => inner.view models property
  | elements all, .collection _ property => .list (views models property all)
  | fields all, .nested model => .record (fieldViews models (models model).fields all)
  | data, .scalar type => type.view data
  | _, _ => .null

/-- The views of the elements of a collection. -/
def views (models : ι → Model (Property ι)) (property : Property ι) : List Stored → List View
  | [] => []
  | data :: more => data.view models property :: views models property more

/-- The views of the fields that queries see. -/
def fieldViews (models : ι → Model (Property ι)) (fields : List (Field (Property ι))) :
    List Stored → List View
  | [] => []
  | data :: more =>
    match fields with
    | [] => []
    | field :: fields =>
      if field.skipped then fieldViews models fields more
      else data.view models field.type :: fieldViews models fields more

end

end Stored

end TextQuery
