import TextQuery.Model.Item

/-!
Sample item types, from small records to types that refer to themselves and to each other. A field
is declared with its identifier and property, and starts out with the zero of its property unless
another initial datum is given.
-/

namespace TextQuery

/-- The names of the sample item types. -/
inductive Sample where
  | address
  | person
  | scalars
  | optionals
  | holder
  | uni
  | node
  | dept
  | employee
  | empty
  | user
  | userAddress
  | skewed
deriving DecidableEq, Repr

namespace Sample

/-- The name by which a sample is asked for. -/
def name : Sample → Text
  | address => "Address".toList
  | person => "Person".toList
  | scalars => "Scalars".toList
  | optionals => "Optionals".toList
  | holder => "Holder".toList
  | uni => "Uni".toList
  | node => "Node".toList
  | dept => "Dept".toList
  | employee => "Employee".toList
  | empty => "Empty".toList
  | user => "User".toList
  | userAddress => "UserAddress".toList
  | skewed => "Skewed".toList

/-- All samples. -/
def all : List Sample :=
  [ address, person, scalars, optionals, holder, uni, node, dept, employee, empty, user,
    userAddress, skewed ]

/-- The sample with the given name. -/
def ofName? (text : Text) : Option Sample :=
  all.find? (·.name = text)

end Sample

/-- The zero of a scalar type: no, nothing, empty, or the epoch. -/
def ScalarType.zero : ScalarType → Stored
  | bool => .bool false
  | char => .char '\x00'
  | integer _ => .integer 0
  | float _ => .float .zero
  | string => .string []
  | date => .date .epoch
  | dateTime => .dateTime (.atMidnight .epoch)
  | timestamp => .timestamp ⟨.atMidnight .epoch⟩
  | guid => .guid .nil

/-- The zero of a property; a nested item has none of its own, and no data. -/
def Property.zero {ι : Type} : Property ι → Stored
  | scalar type => type.zero
  | member enumeration => .member (enumeration.members.head?.getD [])
  | nested _ => .fields []
  | optional _ => .absent
  | pointer inner => .pointer inner.zero
  | collection _ _ => .elements []

/-- A field of a sample with the datum that it starts out with. -/
structure SampleField where
  field : Field (Property Sample)
  initial : Stored

namespace SampleField

/-- A field that starts out with the zero of its property. -/
def plain (ident : String) (property : Property Sample) : SampleField :=
  ⟨⟨ident.toList, property, false⟩, property.zero⟩

/-- A field that starts out with a given datum. -/
def withInitial (ident : String) (property : Property Sample) (initial : Stored) : SampleField :=
  ⟨⟨ident.toList, property, false⟩, initial⟩

/-- A field that queries skip. -/
def skipped (ident : String) (property : Property Sample) : SampleField :=
  ⟨⟨ident.toList, property, true⟩, property.zero⟩

end SampleField

/-- The item type with the given name and fields. -/
def ItemType.ofFields (name : String) (fields : List SampleField) : ItemType Sample :=
  ⟨⟨name.toList, fields.map (·.field)⟩, fields.map (·.initial), by simp⟩

namespace SampleProperty

open Property

/-! ## Short names for properties -/

/-- A text. -/
def text : Property Sample :=
  scalar .string

/-- A truth value. -/
def truth : Property Sample :=
  scalar .bool

/-- An integer of the given type. -/
def int (type : IntegerType) : Property Sample :=
  scalar (.integer type)

/-- A floating-point number of the given type. -/
def float (type : FloatType) : Property Sample :=
  scalar (.float type)

/-- A sequence. -/
def sequence (element : Property Sample) : Property Sample :=
  collection .sequence element

end SampleProperty

end TextQuery
