import TextQuery.Number.Integer
import TextQuery.Number.FloatLiteral
import TextQuery.Text.LowerCase
import TextQuery.Text.Quoted

/-!
Declared types of fields. A field holds a scalar or a member of an enumeration, an object with a
schema of its own, or a collection; any of them may be nullable. Objects name their schema, so
that schemas can refer to themselves and to each other.
-/

namespace TextQuery

/-- The types of single values. -/
inductive ScalarType where
  | bool
  | char
  | integer (type : IntegerType)
  | float (type : FloatType)
  | string
  | date
  | dateTime
  | timestamp
  | guid
deriving DecidableEq, Repr

/-- The name of the type in messages and renderings. -/
def ScalarType.name : ScalarType → Text
  | bool => "bool".toList
  | char => "char".toList
  | integer type => type.name
  | float type => type.name
  | string => "string".toList
  | date => "date".toList
  | dateTime => "datetime".toList
  | timestamp => "timestamp".toList
  | guid => "guid".toList

/-- All scalar types. -/
def ScalarType.all : List ScalarType :=
  [ bool, char, integer .i8, integer .i16, integer .i32, integer .i64, integer .isize,
    integer .u8, integer .u16, integer .u32, integer .u64, integer .usize, float .f32, float .f64,
    string, date, dateTime, timestamp, guid ]

/-- The scalar type with the given name. -/
def ScalarType.ofName? (text : Text) : Option ScalarType :=
  all.find? (·.name = text)

/-- An enumeration: its name, and its members in the order of their declaration. -/
structure EnumSchema where
  name : Text
  members : List Text
deriving DecidableEq, Repr

/-- The position of the first member with the given name up to case. -/
def EnumSchema.ordinalOf? (enumeration : EnumSchema) (text : Text) : Option Nat :=
  enumeration.members.findIdx? (Text.eqIgnoreCase · text)

/-- The declared type of a field. Object types name their schema by an element of `ι`. -/
inductive FieldType (ι : Type) where
  | scalar (type : ScalarType)
  | enum (enumeration : EnumSchema)
  | nullable (inner : FieldType ι)
  | object (schema : ι)
  | collection (element : FieldType ι)
deriving DecidableEq, Repr

namespace FieldType

variable {ι : Type}

/-- The type without the nullable layers around it. -/
def underlying : FieldType ι → FieldType ι
  | nullable inner => inner.underlying
  | type => type

/-- Whether the outermost layer is nullable. -/
def isNullable : FieldType ι → Bool
  | nullable _ => true
  | _ => false

theorem underlying_eq_self {type : FieldType ι} (required : type.isNullable = false) :
    type.underlying = type := by
  cases type with
  | nullable inner => cases required
  | _ => rfl

/-- The type of the elements, for a collection under any number of nullable layers. -/
def element? (type : FieldType ι) : Option (FieldType ι) :=
  match type.underlying with
  | collection element => some element
  | _ => none

/-- The schema, for an object under any number of nullable layers. -/
def object? (type : FieldType ι) : Option ι :=
  match type.underlying with
  | object schema => some schema
  | _ => none

/-- Whether a field of this type is compared with a literal: it holds a scalar or a member. -/
def isComparable (type : FieldType ι) : Bool :=
  match type.underlying with
  | scalar _ => true
  | enum _ => true
  | _ => false

/-- The text of a type, where `schemaName` gives the names of schemas. -/
def text (schemaName : ι → Text) : FieldType ι → Text
  | scalar type => type.name
  | enum enumeration => "enum ".toList ++ enumeration.name
  | nullable inner => inner.text schemaName ++ ['?']
  | object schema => schemaName schema
  | collection element => ['['] ++ element.text schemaName ++ [']']

end FieldType

end TextQuery
