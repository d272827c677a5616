import TextQuery.Proofs.Path.Terminals
import TextQuery.Proofs.Schema.Lookup

/-!
Views that fit their declared types. `FieldType.Holds` says which values a scalar type or an
enumeration holds, `View.Conforms` extends it to all types, and `View.ConformsTo` to the records of
a schema. Main statement: from a record that fits the root of a path, the path leads to absent
values and to views of its terminal type only (`PropertyPath.Resolves.terminals_conform`).
-/

namespace TextQuery

variable {ι : Type}

/-! ## Values of scalar types and enumerations -/

/-- Whether a scalar type holds a value. All integers but those of the two widest unsigned types are
held as signed ones. -/
def ScalarType.holds : ScalarType → Value → Bool
  | bool, .bool _ => true
  | char, .char _ => true
  | integer .u64, .unsigned _ => true
  | integer .u64, _ => false
  | integer .usize, .unsigned _ => true
  | integer .usize, _ => false
  | integer _, .signed _ => true
  | float _, .float _ => true
  | string, .string _ => true
  | date, .date _ => true
  | dateTime, .dateTime _ => true
  | timestamp, .timestamp _ => true
  | guid, .guid _ => true
  | _, _ => false

/-- A scalar type or an enumeration holds a value; a member has its position and its name. -/
def FieldType.Holds : FieldType ι → Value → Prop
  | scalar type, value => type.holds value = true
  | enum enumeration, .member ordinal name => enumeration.members[ordinal]? = some name
  | _, _ => False

/-- The kind of the values that a scalar type holds. -/
def ScalarType.valueKind : ScalarType → Nat
  | bool => 0
  | char => 1
  | integer type => if type.isWide then 3 else 2
  | float _ => 4
  | string => 5
  | date => 6
  | dateTime => 7
  | timestamp => 8
  | guid => 9

theorem ScalarType.kind_of_holds {type : ScalarType} {value : Value}
    (held : type.holds value = true) : value.kind = type.valueKind := by
  cases type with
  | integer type =>
    cases value with
    | signed n =>
      -- the two widest unsigned types hold no signed integers
      cases type with
      | u64 => cases held
      | usize => cases held
      | _ => rfl
    | unsigned n =>
      cases type with
      | u64 => rfl
      | usize => rfl
      | _ => cases held
    | _ => cases type <;> cases held
  | bool =>
    cases value with
    | bool b => rfl
    | _ => cases held
  | char =>
    cases value with
    | char c => rfl
    | _ => cases held
  | float type =>
    cases value with
    | float x => rfl
    | _ => cases held
  | string =>
    cases value with
    | string content => rfl
    | _ => cases held
  | date =>
    cases value with
    | date day => rfl
    | _ => cases held
  | dateTime =>
    cases value with
    | dateTime moment => rfl
    | _ => cases held
  | timestamp =>
    cases value with
    | timestamp instant => rfl
    | _ => cases held
  | guid =>
    cases value with
    | guid id => rfl
    | _ => cases held

theorem ScalarType.kind_eq_of_holds {type : ScalarType} {left right : Value}
    (leftHeld : type.holds left = true) (rightHeld : type.holds right = true) :
    left.kind = right.kind :=
  (kind_of_holds leftHeld).trans (kind_of_holds rightHeld).symm

namespace FieldType

variable {type : FieldType ι}

theorem Holds.member {enumeration : EnumSchema} {value : Value}
    (held : (enum enumeration : FieldType ι).Holds value) :
    ∃ ordinal name, value = .member ordinal name ∧ enumeration.members[ordinal]? = some name := by
  cases value with
  | member ordinal name => exact ⟨ordinal, name, rfl, held⟩
  | _ => cases held

theorem Holds.kind_eq {left right : Value} (leftHeld : type.Holds left)
    (rightHeld : type.Holds right) : left.kind = right.kind := by
  cases type with
  | scalar type => exact ScalarType.kind_eq_of_holds leftHeld rightHeld
  | enum enumeration =>
    obtain ⟨ordinal, name, rfl, -⟩ := leftHeld.member
    obtain ⟨ordinal', name', rfl, -⟩ := rightHeld.member
    rfl
  | nullable inner => cases leftHeld
  | object schema => cases leftHeld
  | collection element => cases leftHeld

end FieldType

/-! ## Views of all types -/

namespace View

mutual

/-- A view fits a type. -/
inductive Conforms (catalog : Catalog ι) : FieldType ι → View → Prop
  | value {type : FieldType ι} {content : Value} :
    type.Holds content → Conforms catalog type (.value content)
  | null {inner : FieldType ι} : Conforms catalog (.nullable inner) .null
  | nullable {inner : FieldType ι} {view : View} :
    Conforms catalog inner view → Conforms catalog (.nullable inner) view
  | object {schema : ι} {view : View} :
    ConformsTo catalog (catalog schema) view → Conforms catalog (.object schema) view
  | collection {element : FieldType ι} {views : List View} :
    (∀ view ∈ views, Conforms catalog element view) →
    Conforms catalog (.collection element) (.list views)

/-- A record has a field for every position of a schema, and each fits its declared type. -/
inductive ConformsTo (catalog : Catalog ι) : Schema ι → View → Prop
  | record {schema : Schema ι} {views : List View} :
    schema.fields.length ≤ views.length →
    (∀ (index : Nat) (field : FieldDescriptor ι) (view : View),
      schema.fields[index]? = some field → views[index]? = some view →
      Conforms catalog field.type view) →
    ConformsTo catalog schema (.record views)

end

variable {catalog : Catalog ι} {type : FieldType ι} {view : View}

theorem ConformsTo.of_forall₂ {schema : Schema ι} {views : List View}
    (each : List.Forall₂ (fun field view => Conforms catalog field.type view) schema.fields views) :
    ConformsTo catalog schema (.record views) := by
  refine .record (Nat.le_of_eq each.length_eq) fun index field view declared held => ?_
  obtain ⟨within, rfl⟩ := List.getElem?_eq_some_iff.1 declared
  obtain ⟨within', rfl⟩ := List.getElem?_eq_some_iff.1 held
  exact each.get within within'

theorem ConformsTo.child {schema : Schema ι} (conforms : view.ConformsTo catalog schema)
    {index : Nat} {field : FieldDescriptor ι} (declared : schema.fields[index]? = some field) :
    Conforms catalog field.type (view.child index) := by
  cases conforms with
  | @record schema views covers fits =>
    have within := (List.getElem?_eq_some_iff.1 declared).1
    have held : views[index]? = some views[index] :=
      List.getElem?_eq_getElem (Nat.lt_of_lt_of_le within covers)
    rw [child_record, held, Option.getD_some]
    exact fits index field _ declared held

/-- Under its nullable layers, a view is absent or fits what they enclose. -/
theorem Conforms.underlying (conforms : Conforms catalog type view) :
    view = .null ∨ Conforms catalog type.underlying view := by
  induction type with
  | nullable inner ih =>
    cases conforms with
    | value held => cases held
    | null => exact Or.inl rfl
    | nullable conforms => exact ih conforms
  | scalar type => exact Or.inr conforms
  | enum enumeration => exact Or.inr conforms
  | object schema => exact Or.inr conforms
  | collection element => exact Or.inr conforms

theorem Conforms.of_object (conforms : Conforms catalog type view) {schema : ι}
    (object : type.object? = some schema) :
    view = .null ∨ view.ConformsTo catalog (catalog schema) := by
  rcases conforms.underlying with absent | conforms
  · exact Or.inl absent
  · rw [FieldType.object?_eq_some_iff.1 object] at conforms
    cases conforms with
    | value held => cases held
    | object conforms => exact Or.inr conforms

theorem Conforms.null_or_list (conforms : Conforms catalog type view) {element : FieldType ι}
    (collection : type.element? = some element) :
    view = .null ∨ ∃ elements, view = .list elements := by
  rcases conforms.underlying with absent | conforms
  · exact Or.inl absent
  · rw [FieldType.element?_eq_some_iff.1 collection] at conforms
    cases conforms with
    | value held => cases held
    | collection each => exact Or.inr ⟨_, rfl⟩

theorem Conforms.of_collection (conforms : Conforms catalog type view) {element : FieldType ι}
    (collection : type.element? = some element) :
    ∀ inner ∈ view.elements, Conforms catalog element inner := by
  rcases conforms.underlying with rfl | conforms
  · intro inner member
    cases member
  · rw [FieldType.element?_eq_some_iff.1 collection] at conforms
    cases conforms with
    | value held => cases held
    | collection each => exact each

theorem Conforms.of_comparable (conforms : Conforms catalog type view)
    (comparable : type.isComparable = true) :
    view = .null ∨ ∃ content, view = .value content ∧ type.underlying.Holds content := by
  rcases conforms.underlying with absent | conforms
  · exact Or.inl absent
  · unfold FieldType.isComparable at comparable
    split at comparable
    · rename_i scalar layers
      rw [layers] at conforms ⊢
      cases conforms with
      | value held => exact Or.inr ⟨_, rfl, held⟩
    · rename_i enumeration layers
      rw [layers] at conforms ⊢
      cases conforms with
      | value held => exact Or.inr ⟨_, rfl, held⟩
    · cases comparable

end View

/-! ## Paths keep to the declared types -/

/-- From a record of the schema, or from an absent one, a step leads to an absent value or to a view
of the type of its field. -/
theorem View.child_conforms {catalog : Catalog ι} {schema : Schema ι} {step : Text} {index : Nat}
    {field : FieldDescriptor ι} {item : View} (found : schema.field? step = some (index, field))
    (conforms : item = .null ∨ item.ConformsTo catalog schema) :
    item.child index = .null ∨ Conforms catalog field.type (item.child index) := by
  rcases conforms with rfl | conforms
  · exact Or.inl rfl
  · exact Or.inr (conforms.child (Schema.getElem?_of_field? found))

/-- From a record of the schema, or from an absent one, a path leads to absent values and to views
of its terminal type. -/
theorem PropertyPath.Resolves.terminals_conform {catalog : Catalog ι} {schema : Schema ι}
    {steps : List Text} {segments : List (Segment ι)} {hop : Option Nat} {terminal : FieldType ι}
    (resolves : Resolves catalog schema steps segments hop terminal) (root : Text) {item : View}
    (conforms : item = .null ∨ item.ConformsTo catalog schema) :
    ∀ view ∈ terminals ⟨root, segments, hop, terminal⟩ item,
      view = .null ∨ View.Conforms catalog terminal view := by
  induction resolves generalizing item with
  | last found single =>
    intro view member
    rw [terminals_last, List.mem_singleton] at member
    rw [member]
    exact View.child_conforms found conforms
  | lastAcross found collection flat =>
    intro view member
    rw [terminals_lastAcross] at member
    rcases View.child_conforms found conforms with absent | conforms
    · rw [absent] at member
      cases member
    · exact Or.inr (conforms.of_collection collection view member)
  | through found object resolves ih =>
    rw [terminals_through root _]
    apply ih
    rcases View.child_conforms found conforms with absent | conforms
    · exact Or.inl absent
    · exact conforms.of_object object
  | across found collection object resolves ih =>
    intro view member
    rw [terminals_across root _, List.mem_flatMap] at member
    obtain ⟨element, elementMember, member⟩ := member
    rcases View.child_conforms found conforms with absent | conforms
    · rw [absent] at elementMember
      cases elementMember
    · exact ih ((conforms.of_collection collection element elementMember).of_object object) view
        member

end TextQuery
