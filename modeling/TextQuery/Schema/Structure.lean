import TextQuery.Schema.Basic

/-!
Structural renderings of types: constructor names with their arguments in parentheses, for
diagnostics.
-/

namespace TextQuery

/-- The constructor name of an integer type. -/
def IntegerType.structureText : IntegerType → Text
  | i8 => "I8".toList
  | i16 => "I16".toList
  | i32 => "I32".toList
  | i64 => "I64".toList
  | isize => "Isize".toList
  | u8 => "U8".toList
  | u16 => "U16".toList
  | u32 => "U32".toList
  | u64 => "U64".toList
  | usize => "Usize".toList

/-- The constructor name of a scalar type. -/
def ScalarType.structureText : ScalarType → Text
  | bool => "Bool".toList
  | char => "Char".toList
  | integer type => type.structureText
  | float .f32 => "F32".toList
  | float .f64 => "F64".toList
  | string => "String".toList
  | date => "Date".toList
  | dateTime => "DateTime".toList
  | timestamp => "Timestamp".toList
  | guid => "Guid".toList

/-- A constructor name with one argument. -/
def applied (constructor : String) (argument : Text) : Text :=
  constructor.toList ++ ['('] ++ argument ++ [')']

/-- The name and the members of an enumeration. -/
def EnumSchema.structureText (enumeration : EnumSchema) : Text :=
  "EnumSchema \x7b name: ".toList ++ enumeration.name.quote ++ ", members: [".toList ++
    Text.join ", ".toList (enumeration.members.map Text.quote) ++ "] \x7d".toList

/-- The structure of a type, where `schemaName` gives the names of schemas. -/
def FieldType.structureText {ι : Type} (schemaName : ι → Text) : FieldType ι → Text
  | scalar type => applied "Scalar" type.structureText
  | enum enumeration => applied "Enum" enumeration.structureText
  | nullable inner => applied "Nullable" (inner.structureText schemaName)
  | object schema => applied "Object" (applied "SchemaRef" (schemaName schema))
  | collection element => applied "Collection" (element.structureText schemaName)

/-- The structure of a type under a catalog. -/
def Catalog.typeStructureText {ι : Type} (catalog : Catalog ι) (type : FieldType ι) : Text :=
  type.structureText fun schema => (catalog schema).typeName

end TextQuery
