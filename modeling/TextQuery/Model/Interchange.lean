import TextQuery.Calendar.Instant
import TextQuery.Json.Basic
import TextQuery.Model.Item

/-!
Items as JSON. Reading takes an object with any fields of the model, and the others have their
defaults; floats and everything that JSON has no form for are strings. An optional value is null,
the value, or an object with the one member `Some`. Sets drop what they already hold. Writing shows
the fields that queries see, scalars by their texts; `ItemType.dump` adds the skipped ones under
names that begin with `#`.
-/

namespace TextQuery

variable {ι : Type}

/-! ## Reading -/

/-- Reads scalar data. -/
def ScalarType.stored? : ScalarType → Json → Option Stored
  | bool, .bool b => some (.bool b)
  | char, .string [c] => some (.char c)
  | integer type, .integer n => if type.low ≤ n ∧ n ≤ type.high then some (.integer n) else none
  | float type, .string content => (type.read? content).map .float
  | string, .string content => some (.string content)
  | date, .string content => ((Pattern.ofText "%Y-%m-%d".toList).readDate? content).map .date
  | dateTime, .string content =>
    ((Pattern.ofText "%Y-%m-%dT%H:%M:%S%.f".toList).readDateTime? content).map .dateTime
  | timestamp, .string content => (Timestamp.read? content).map .timestamp
  | guid, .string content => (Guid.read? content).map .guid
  | _, _ => none

/-- Adds an element to a set in ascending order, unless the set holds it already. -/
def insertAscending (value : Stored → Option Value) (data : Stored) : List Stored → List Stored
  | [] => [data]
  | first :: more =>
    match compareKeys (value data) (value first) with
    | .lt => data :: first :: more
    | .eq => first :: more
    | .gt => first :: insertAscending value data more

/-- Adds an element to the end of a set, unless the set holds it already. -/
def insertNew (value : Stored → Option Value) (all : List Stored) (data : Stored) : List Stored :=
  if all.any fun other => compareKeys (value data) (value other) = .eq then all else all ++ [data]

/-- Collects elements as the kind of collection keeps them. -/
def CollectionKind.collect (kind : CollectionKind) (value : Stored → Option Value)
    (all : List Stored) : List Stored :=
  match kind with
  | sequence => all
  | sortedSet => all.foldl (fun set data => insertAscending value data set) []
  | unorderedSet => all.foldl (insertNew value) []

/-- The inner value of an object with the one member `Some`. -/
def Json.asSome? : Json → Option Json
  | .object [(['S', 'o', 'm', 'e'], inner)] => some inner
  | _ => none

theorem Json.sizeOf_asSome?_lt {json inner : Json} (h : json.asSome? = some inner) :
    sizeOf inner < sizeOf json := by
  unfold asSome? at h
  split at h
  · cases h
    simp
    omega
  · cases h

/-- Reads the data of a property. -/
def Property.stored? (types : ι → ItemType ι) (property : Property ι) (json : Json) :
    Option Stored :=
  match property, json with
  | .scalar type, json => type.stored? json
  | .member enumeration, .string name =>
    if name ∈ enumeration.members then some (.member name) else none
  | .optional _, .null => some .absent
  | .optional inner, json =>
    match h : json.asSome? with
    | some content =>
      have := Json.sizeOf_asSome?_lt h
      (inner.stored? types content).map .present
    | none => (inner.stored? types json).map .present
  | .pointer inner, json => (inner.stored? types json).map .pointer
  | .collection kind element, .array all => do
    let data ← all.attach.mapM fun (json : { json // json ∈ all }) =>
      have := List.sizeOf_lt_of_mem json.2
      element.stored? types json.1
    return .elements
      (kind.collect (fun data => (data.view (modelsOf types) element).value?) data)
  | .nested type, .object members => do
    let fields := (types type).model.fields.zip (types type).default
    let data ← fields.mapM fun (field : Field (Property ι) × Stored) =>
      match h : (Json.object members).member? field.1.name with
      | some json =>
        have : sizeOf json < 1 + sizeOf members := by
          simpa using Json.sizeOf_member?_lt h
        field.1.type.stored? types json
      | none => some field.2
    return .fields data
  | _, _ => none
termination_by (sizeOf json, sizeOf property)

/-- Reads an item. -/
def ItemType.item? (types : ι → ItemType ι) (type : ι) (json : Json) : Option Item :=
  match (Property.nested type).stored? types json with
  | some (.fields item) => some item
  | _ => none

/-! ## Writing -/

/-- Elements of an unordered set are shown in the order of their texts. -/
def CollectionKind.arrange (kind : CollectionKind) (all : List Json) : List Json :=
  match kind with
  | unorderedSet => all.mergeSort fun left right => (compare left.text right.text).isLE
  | _ => all

/-- The JSON form of a view of scalar data: its text. -/
def View.scalarJson : View → Json
  | .value content => .string content.text
  | _ => .null

namespace Stored

mutual

/-- The JSON form of stored data: what queries see of it. -/
def dump (models : ι → Model (Property ι)) : Stored → Property ι → Json
  | present inner, .optional property => inner.dump models property
  | pointer inner, .pointer property => inner.dump models property
  | elements all, .collection kind property => .array (kind.arrange (dumps models property all))
  | fields all, .nested model => .object (fieldDumps models (models model).fields all)
  | member name, .member enumeration => (enumeration.view name).scalarJson
  | data, .scalar type => (type.view data).scalarJson
  | _, _ => .null

/-- The JSON forms of the elements of a collection. -/
def dumps (models : ι → Model (Property ι)) (property : Property ι) : List Stored → List Json
  | [] => []
  | data :: more => data.dump models property :: dumps models property more

/-- The members for the fields that queries see. -/
def fieldDumps (models : ι → Model (Property ι)) (fields : List (Field (Property ι))) :
    List Stored → List (Text × Json)
  | [] => []
  | data :: more =>
    match fields with
    | [] => []
    | field :: fields =>
      if field.skipped then fieldDumps models fields more
      else (field.name, data.dump models field.type) :: fieldDumps models fields more

end

/-- The plain JSON form of a skipped field: integers and truth values as such. -/
def plainJson (models : ι → Model (Property ι)) (data : Stored) (property : Property ι) : Json :=
  match data with
  | integer n => .integer n
  | bool b => .bool b
  | data => data.dump models property

end Stored

/-- The JSON form of an item, skipped fields included. -/
def ItemType.dump (types : ι → ItemType ι) (type : ItemType ι) (item : Item) : Json :=
  let skipped := (type.model.fields.zip item).filter (·.1.skipped)
  .object (Stored.fieldDumps (modelsOf types) type.model.fields item ++
    skipped.map fun (field, data) =>
      ('#' :: field.name, data.plainJson (modelsOf types) field.type))

/-- The JSON form of the first field that queries see. -/
def ItemType.dumpFirst (types : ι → ItemType ι) (type : ItemType ι) (item : Item) : Json :=
  match Stored.fieldDumps (modelsOf types) type.model.fields item with
  | (_, first) :: _ => first
  | [] => .null

end TextQuery
