import TextQuery.Schema.FieldType

/-!
Schemas: the fields of an item type, in order. The position of a field in its schema is the index
at which records hold it. A `Catalog` gives the schema behind every name that object types use.
Fields are looked up by name, ignoring case, and the first match counts (`Schema.field?`).
-/

namespace TextQuery

/-- A field: its declared name and type. -/
structure FieldDescriptor (ι : Type) where
  name : Text
  type : FieldType ι
deriving DecidableEq, Repr

/-- The fields of an item type. -/
structure Schema (ι : Type) where
  typeName : Text
  fields : List (FieldDescriptor ι)
deriving DecidableEq, Repr

/-- The schema behind every name. -/
abbrev Catalog (ι : Type) := ι → Schema ι

namespace Schema

variable {ι : Type}

/-- The first field with the given name up to case, and its position. -/
def field? (schema : Schema ι) (name : Text) : Option (Nat × FieldDescriptor ι) :=
  schema.fields.zipIdx.findSome? fun (field, index) =>
    if Text.eqIgnoreCase field.name name then some (index, field) else none

end Schema

/-- The text of a type under a catalog. -/
def Catalog.typeText {ι : Type} (catalog : Catalog ι) (type : FieldType ι) : Text :=
  type.text fun schema => (catalog schema).typeName

end TextQuery
