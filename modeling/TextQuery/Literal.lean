import TextQuery.Calendar.Instant
import TextQuery.Error
import TextQuery.Options
import TextQuery.Schema.Basic
import TextQuery.Value

/-!
Literals: the text on the right side of a clause, read for the type of the field on its left side.
For the operators that search text a literal is a needle. Otherwise it is a value of the field's
type, and for a nullable field it may also say that there is none.
-/

namespace TextQuery

/-- A literal that was read for the type of a field. -/
inductive Literal where
  /-- A value, for a field that is not nullable. -/
  | typed (content : Value)
  /-- A value or its absence, for a nullable field. -/
  | nullable (content : Option Value)
  /-- A text to search for; in lower case if the search ignores case. -/
  | needle (content : Text)
deriving DecidableEq, Repr

namespace Literal

/-- The value to compare with, if there is one. -/
def value? : Literal → Option Value
  | typed content => some content
  | nullable content => content
  | needle _ => none

/-- The text of a literal in renderings. -/
def display : Literal → Text
  | typed content => content.display
  | nullable (some content) => content.display
  | nullable none => "null".toList
  | needle content => Text.quote content

end Literal

/-- Reads a value of a scalar type. Strings and characters are taken as they are; white space
around other literals does not count. -/
def ScalarType.read? (options : CompileOptions) (text : Text) : ScalarType → Option Value
  | string => some (.string text)
  | char =>
    match text with
    | [c] => some (.char c)
    | _ => none
  | bool =>
    if text.trim.eqIgnoreAsciiCase "true".toList then some (.bool true)
    else if text.trim.eqIgnoreAsciiCase "false".toList then some (.bool false)
    else none
  | integer type => (type.read? text.trim).map fun n =>
      if type.isWide then .unsigned n.toNat else .signed n
  | float type => (type.read? text.trim).map .float
  | date => (options.readDate? text.trim).map .date
  | dateTime => (options.readDateTime? text.trim).map .dateTime
  | timestamp => ((Timestamp.read? text.trim).or
      ((options.readDateTime? text.trim).map Timestamp.mk)).map .timestamp
  | guid => (Guid.read? text.trim).map .guid

/-- Reads a value of a scalar type, or says why there is none. -/
def ScalarType.read (options : CompileOptions) (type : ScalarType) (text : Text) :
    Except CompileError Value :=
  match type.read? options text with
  | some value => .ok value
  | none => .error (if type = .guid then .invalidGuid text else .invalidLiteral text type.name)

/-- Reads a member of an enumeration by its name, in any case. -/
def EnumSchema.read (enumeration : EnumSchema) (text : Text) : Except CompileError Value :=
  match enumeration.ordinalOf? text.trim with
  | some ordinal => .ok (.member ordinal ((enumeration.members[ordinal]?).getD []))
  | none => .error (.invalidEnumValue text enumeration.name)

variable {ι : Type}

/-- Reads a value of a type that is not nullable. -/
def FieldType.readValue (catalog : Catalog ι) (options : CompileOptions) (type : FieldType ι)
    (text : Text) : Except CompileError Value :=
  match type with
  | enum enumeration => enumeration.read text
  | scalar type => type.read options text
  | other => .error (.invalidLiteral text (catalog.typeText other))

/-- Reads the literal of a clause for the type of its field. -/
def Literal.read (catalog : Catalog ι) (options : CompileOptions) (type : FieldType ι)
    (operator : Operator) (text : Text) : Except CompileError Literal :=
  if !type.isComparable then
    .error (.invalidLiteral text (catalog.typeText type))
  else
    match operator with
    | .contains => .ok (needle text.lower)
    | .containsCaseSensitive => .ok (needle text)
    | _ =>
      if type.isNullable then
        if options.isNullLiteral text then
          .ok (nullable none)
        else
          (type.underlying.readValue catalog options text).map fun value => nullable (some value)
      else
        (type.readValue catalog options text).map typed

end TextQuery
