import TextQuery.Json.Basic
import TextQuery.Query
import TextQuery.Value

/-!
The JSON forms of query parts, parameters, options and values. A name of a fixed set is a string,
or an object with that one member and the value null. Objects may hold further members, which do
not count. Where a member may be left out, its default stands in.
-/

namespace TextQuery

namespace Json

/-- A string. -/
def asText? : Json → Option Text
  | string content => some content
  | _ => none

/-- A list of values of one form. -/
def asList? {α : Type} (read? : Json → Option α) : Json → Option (List α)
  | array elements => elements.mapM read?
  | _ => none

/-- A value or null. -/
def asOption? {α : Type} (read? : Json → Option α) : Json → Option (Option α)
  | null => some none
  | json => (read? json).map some

/-- A name of a fixed set. -/
def asName? : Json → Option Text
  | string content => some content
  | object [(name, null)] => some name
  | _ => none

/-- A member that has to be there. -/
def required? {α : Type} (json : Json) (name : String) (read? : Json → Option α) : Option α :=
  (json.member? name.toList).bind read?

/-- A member that may be left out of an object. -/
def optional? {α : Type} (json : Json) (name : String) (default : α) (read? : Json → Option α) :
    Option α :=
  match json with
  | object _ =>
    match json.member? name.toList with
    | some value => read? value
    | none => some default
  | _ => none

/-- A text or null. -/
def ofOptionalText : Option Text → Json
  | some text => string text
  | none => null

end Json

/-! ## Parts of queries -/

/-- The JSON form of an operator: its name. -/
def Operator.toJson (operator : Operator) : Json :=
  .string operator.name

/-- Reads an operator. -/
def Operator.ofJson? (json : Json) : Option Operator :=
  json.asName?.bind Operator.ofName?

/-- The JSON form of a direction: its name. -/
def Direction.toJson (direction : Direction) : Json :=
  .string direction.name

/-- Reads a direction. -/
def Direction.ofJson? (json : Json) : Option Direction :=
  json.asName?.bind Direction.ofName?

/-- The JSON form of a path. -/
def PathExpr.toJson (path : PathExpr) : Json :=
  .object [("steps".toList, .array (path.steps.map .string))]

/-- Reads a path. -/
def PathExpr.ofJson? (json : Json) : Option PathExpr := do
  return ⟨← json.required? "steps" (Json.asList? Json.asText?)⟩

/-- The JSON form of a clause. -/
def Clause.toJson (clause : Clause) : Json :=
  .object
    [ ("path".toList, clause.path.toJson), ("operator".toList, clause.operator.toJson),
      ("values".toList, .array (clause.values.map .string)) ]

/-- Reads a clause. -/
def Clause.ofJson? (json : Json) : Option Clause := do
  return ⟨← json.required? "path" PathExpr.ofJson?, ← json.required? "operator" Operator.ofJson?,
    ← json.required? "values" (Json.asList? Json.asText?)⟩

/-- The JSON form of an ordering. -/
def OrderBy.toJson (order : OrderBy) : Json :=
  .object
    [ ("path".toList, order.path.toJson),
      ("direction".toList, (order.direction.map Direction.toJson).getD .null) ]

/-- Reads an ordering; a direction may be left out. -/
def OrderBy.ofJson? (json : Json) : Option OrderBy := do
  return ⟨← json.required? "path" PathExpr.ofJson?,
    ← json.optional? "direction" none (Json.asOption? Direction.ofJson?)⟩

/-! ## Parameters and options -/

/-- The JSON form of the texts of a query. -/
def QueryParams.toJson (params : QueryParams) : Json :=
  .object
    [ ("filter".toList, .ofOptionalText params.filter),
      ("query".toList, .ofOptionalText params.query),
      ("order".toList, .ofOptionalText params.order),
      ("select".toList, .ofOptionalText params.select) ]

/-- Reads the texts of a query; each may be left out. -/
def QueryParams.ofJson? (json : Json) : Option QueryParams := do
  return {
    filter := ← json.optional? "filter" none (Json.asOption? Json.asText?)
    query := ← json.optional? "query" none (Json.asOption? Json.asText?)
    order := ← json.optional? "order" none (Json.asOption? Json.asText?)
    select := ← json.optional? "select" none (Json.asOption? Json.asText?) }

/-- The JSON form of options. -/
def CompileOptions.toJson (options : CompileOptions) : Json :=
  .object
    [ ("default_direction".toList, options.defaultDirection.toJson),
      ("date_formats".toList, .array (options.dateFormats.map .string)),
      ("datetime_formats".toList, .array (options.dateTimeFormats.map .string)),
      ("null_literal".toList, .ofOptionalText options.nullLiteral) ]

/-- Reads options; each may be left out. -/
def CompileOptions.ofJson? (json : Json) : Option CompileOptions := do
  let initial : CompileOptions := {}
  return {
    defaultDirection :=
      ← json.optional? "default_direction" initial.defaultDirection Direction.ofJson?
    dateFormats :=
      ← json.optional? "date_formats" initial.dateFormats (Json.asList? Json.asText?)
    dateTimeFormats :=
      ← json.optional? "datetime_formats" initial.dateTimeFormats (Json.asList? Json.asText?)
    nullLiteral :=
      ← json.optional? "null_literal" initial.nullLiteral (Json.asOption? Json.asText?) }

/-! ## Values -/

/-- The name of a value's kind. -/
def Value.kindName : Value → Text
  | bool _ => "Bool".toList
  | char _ => "Char".toList
  | signed _ => "I64".toList
  | unsigned _ => "U64".toList
  | float _ => "F64".toList
  | string _ => "String".toList
  | date _ => "Date".toList
  | dateTime _ => "DateTime".toList
  | timestamp _ => "Timestamp".toList
  | guid _ => "Guid".toList
  | member _ _ => "Enum".toList

/-- The JSON form of a value's content; floats have none here, since JSON numbers are integers. -/
def Value.contentJson? : Value → Option Json
  | bool b => some (.bool b)
  | signed n => some (.integer n)
  | unsigned n => some (.integer n)
  | float _ => none
  | timestamp instant => some (.string instant.zuluText)
  | member ordinal name =>
    some (.object [("ordinal".toList, .integer ordinal), ("name".toList, .string name)])
  | value => some (.string value.text)

/-- The JSON form of a value: its content under the name of its kind. -/
def Value.toJson? (value : Value) : Option Json :=
  value.contentJson?.map fun content => .object [(value.kindName, content)]

end TextQuery
