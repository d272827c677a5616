import TextQuery.Samples.Basic

/-!
The item types of the samples, their schemas, and the views of their items.
-/

namespace TextQuery

/-- A role with three members. -/
def roleEnum : EnumSchema :=
  ⟨"Role".toList, ["Guest".toList, "Member".toList, "Admin".toList]⟩

/-- The role of users, with two members. -/
def userRoleEnum : EnumSchema :=
  ⟨"Role".toList, ["Admin".toList, "Member".toList]⟩

/-- An enumeration whose members differ in case or lie outside ASCII. -/
def gradeEnum : EnumSchema :=
  ⟨"Grade".toList,
    [ "Alpha".toList, "ALPHA".toList, "Größe".toList, "ΣΊΣΥΦΟΣ".toList, "İstanbul".toList,
      "r#match".toList, "Kelvin".toList,
      "日本".toList ]⟩

namespace Sample

open Property SampleField SampleProperty

/-- A role that starts out as a member. -/
def role (ident : String) : SampleField :=
  withInitial ident (member roleEnum) (.member "Member".toList)

/-- A grade that starts out as the last one with an ASCII name. -/
def grade (ident : String) : SampleField :=
  withInitial ident (member gradeEnum) (.member "Kelvin".toList)

/-- Postal addresses. -/
def addressType : ItemType Sample :=
  .ofFields "Address" [plain "street" text, plain "city" text, plain "zip" (optional (int .u32))]

/-- People, with their friends and a password hash that queries skip. -/
def personType : ItemType Sample :=
  .ofFields "Person"
    [ plain "id" (scalar .guid), plain "name" text, plain "age" (int .i32),
      plain "email" (optional text), role "role",
      withInitial "address" (nested address) (.fields addressType.default),
      plain "birth_date" (optional (scalar .date)),
      plain "last_login" (optional (scalar .timestamp)), plain "score" (float .f32),
      plain "tags" (sequence text), plain "friends" (sequence (nested person)),
      plain "manager" (optional (pointer (nested person))), skipped "password_hash" text ]

/-- One field of every scalar type. -/
def scalarsType : ItemType Sample :=
  .ofFields "Scalars"
    [ plain "f_bool" truth, plain "f_char" (scalar .char), plain "f_i8" (int .i8),
      plain "f_i16" (int .i16), plain "f_i32" (int .i32), plain "f_i64" (int .i64),
      plain "f_isize" (int .isize), plain "f_u8" (int .u8), plain "f_u16" (int .u16),
      plain "f_u32" (int .u32), plain "f_u64" (int .u64), plain "f_usize" (int .usize),
      plain "f_f32" (float .f32), plain "f_f64" (float .f64), plain "f_string" text,
      plain "f_date" (scalar .date), plain "f_datetime" (scalar .dateTime),
      plain "f_timestamp" (scalar .timestamp), plain "f_guid" (scalar .guid), role "f_role",
      grade "f_grade", skipped "hidden" (int .i32) ]

/-- Optional fields of many types. -/
def optionalsType : ItemType Sample :=
  .ofFields "Optionals"
    [ plain "o_bool" (optional truth), plain "o_char" (optional (scalar .char)),
      plain "o_i8" (optional (int .i8)), plain "o_i64" (optional (int .i64)),
      plain "o_u64" (optional (int .u64)), plain "o_f32" (optional (float .f32)),
      plain "o_f64" (optional (float .f64)), plain "o_string" (optional text),
      plain "o_date" (optional (scalar .date)), plain "o_datetime" (optional (scalar .dateTime)),
      plain "o_timestamp" (optional (scalar .timestamp)),
      plain "o_guid" (optional (scalar .guid)), plain "o_role" (optional (member roleEnum)),
      plain "o_twice" (optional (optional (int .i32))),
      plain "o_address" (optional (nested address)),
      plain "o_self" (optional (pointer (nested optionals))) ]

/-- Collections, pointers and their combinations. -/
def holderType : ItemType Sample :=
  .ofFields "Holder"
    [ plain "title" text, plain "ints" (sequence (int .i64)),
      plain "maybe_ints" (sequence (optional (int .i32))),
      plain "maybe_tags" (optional (sequence text)), plain "queue" (sequence (float .f64)),
      plain "letters" (collection .sortedSet (scalar .char)),
      plain "hashed" (collection .unorderedSet text),
      plain "matrix" (sequence (sequence (int .i32))),
      plain "maybe_matrix" (optional (sequence (optional (sequence (int .i32))))),
      plain "roles" (sequence (member roleEnum)), plain "places" (sequence (nested address)),
      plain "maybe_places" (optional (sequence (nested address))),
      plain "gaps" (sequence (optional (nested address))),
      plain "nested" (sequence (nested holder)), plain "boxed" (pointer text),
      plain "counted" (pointer (int .i32)),
      withInitial "shared" (pointer (nested address)) (.pointer (.fields addressType.default)),
      plain "ids" (collection .sortedSet (scalar .guid)), plain "days" (sequence (scalar .date)),
      plain "flags" (sequence truth), plain "inner" (optional (pointer (nested holder))),
      plain "shared_list" (pointer (sequence text)), skipped "note" text ]

/-- Names that differ in case or lie outside ASCII. -/
def uniType : ItemType Sample :=
  .ofFields "Uni"
    [ plain "name" text, plain "NAME" (int .i32), plain "Größe" (int .i32), plain "Straße" text,
      plain "ΣΊΣΥΦΟΣ" text, plain "İd" (int .i32), plain "naïve" truth, grade "stufe",
      plain "r#type" text, plain "kind" (int .i32), plain "日本" (optional text) ]

/-- Trees. -/
def nodeType : ItemType Sample :=
  .ofFields "Node"
    [ plain "id" (int .i32), plain "label" text, plain "next" (optional (pointer (nested node))),
      plain "children" (sequence (nested node)) ]

/-- Departments, which refer to employees. -/
def deptType : ItemType Sample :=
  .ofFields "Dept"
    [ plain "title" text, plain "head" (optional (pointer (nested employee))),
      plain "staff" (sequence (nested employee)) ]

/-- Employees, who refer to a department. -/
def employeeType : ItemType Sample :=
  .ofFields "Employee"
    [ plain "name" text, plain "salary" (float .f64), plain "hired" (scalar .date),
      plain "dept" (optional (pointer (nested dept))), plain "skills" (sequence text) ]

/-- No fields at all. -/
def emptyType : ItemType Sample :=
  .ofFields "Empty" []

/-- Addresses of users; their type has the name of the postal addresses. -/
def userAddressType : ItemType Sample :=
  .ofFields "Address" [plain "street" text, plain "city" text]

/-- Users, with their friends. -/
def userType : ItemType Sample :=
  .ofFields "User"
    [ plain "name" text, plain "age" (int .i32), plain "email" (optional text),
      withInitial "role" (member userRoleEnum) (.member "Member".toList),
      plain "address" (optional (nested userAddress)), plain "tags" (sequence text),
      plain "friends" (sequence (nested user)) ]

/-- The item type of a sample. Items of the skewed sample hold no data. -/
def itemType : Sample → ItemType Sample
  | address => addressType
  | person => personType
  | scalars => scalarsType
  | optionals => optionalsType
  | holder => holderType
  | uni => uniType
  | node => nodeType
  | dept => deptType
  | employee => employeeType
  | empty => emptyType
  | user => userType
  | userAddress => userAddressType
  | skewed => .ofFields "Skewed" []

/-! ## A record that does not fit its schema -/

/-- The declared fields of the skewed sample. -/
def skewedSchema : Schema Sample :=
  let number : FieldType Sample := .scalar (.integer .i32)
  ⟨"Skewed".toList,
    [ ⟨"object_as_number".toList, number⟩, ⟨"list_as_number".toList, number⟩,
      ⟨"number_as_list".toList, .collection number⟩, ⟨"mixed_list".toList, .collection number⟩,
      ⟨"number_as_object".toList, .object address⟩, ⟨"number_as_text".toList, .scalar .string⟩,
      ⟨"missing".toList, number⟩, ⟨"missing_list".toList, .collection number⟩ ]⟩

/-- What an item of the skewed sample shows instead: records where values belong, values where
records and lists belong, and nothing for its last two fields. -/
def skewedView : View :=
  let number (n : Int) : View := .value (.signed n)
  .record
    [ .record [], .list [number 1, number 2], number 5,
      .list [.record [], .list [number 7], .null, number 7], number 5, number 27 ]

/-! ## All samples -/

/-- The schema of a sample. -/
def catalog : Catalog Sample
  | skewed => skewedSchema
  | sample => catalogOf itemType sample

/-- The view of an item of a sample. -/
def view (sample : Sample) (item : Item) : View :=
  match sample with
  | skewed => skewedView
  | sample => sample.itemType.model.view (modelsOf itemType) item

/-! ## A roster of users -/

/-- A user with a name, an age, and an address that goes with the name. -/
def namedUser (name : String) (age : Int) : Item :=
  [ .string name.toList, .integer age, .absent, .member "Member".toList,
    .present (.fields [.string (name.toList ++ " Street".toList), .string "Recife".toList]),
    .elements [], .elements [] ]

/-- Five users. -/
def roster : List Item :=
  [ namedUser "Bruno" 27, namedUser "Fred" 33, namedUser "Albert" 37, namedUser "Lucao" 23,
    namedUser "Luide" 28 ]

end Sample

end TextQuery
