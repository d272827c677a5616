import TextQuery.Proofs.Model.Positions
import TextQuery.Proofs.Query.NamedFields

/-!
What declared names address. Names are looked up without regard to case and the first one counts, so
a declared name finds its own field or member exactly if no earlier one is equal to it up to case,
and an earlier one otherwise (`Declaration.shadowed_names_lead_elsewhere`). Main statement: a name
that is not shadowed addresses its own field or member in all texts
(`Declaration.unshadowed_names_address`).
-/

namespace TextQuery

variable {ι : Type}

/-! ## Fields -/

theorem FieldDeclaration.hasName_iff {τ : Type} {declared : FieldDeclaration τ} {name : Text} :
    declared.HasName name ↔ declared.toField.name = name := by
  refine ⟨?_, ?_⟩
  · unfold Field.name toField
    rintro (raw | ⟨plain, same⟩)
    · rw [Text.after?_eq_some_iff.2 raw, Option.getD_some]
    · rw [← Text.isSome_after?_iff, Bool.not_eq_true, Option.isSome_eq_false_iff,
        Option.isNone_iff_eq_none] at plain
      rw [plain, Option.getD_none, same]
  · rintro rfl
    exact declared.hasName_toField

/-- A name of a model addresses the declared field at a place: texts with the name are about its
position, where conditions and orders read its data and projections copy it. -/
structure Model.Addresses (models : ι → Model (Property ι)) (model : Model (Property ι))
    (name : Text) (index : Nat) (declared : FieldDeclaration (Property ι)) (place : Nat) :
    Prop where
  texts : model.schema.Addresses (schemasOf models) name index ⟨name, declared.type.fieldType⟩
  reads : ∀ item, Stored.FieldsFit models model.fields item → ∃ data, item[place]? = some data ∧
    (model.schema.pathTo index ⟨name, declared.type.fieldType⟩).terminals (model.view models item) =
      declared.type.fieldType.subjects (data.view models declared.type)
  copies : ∀ (projection : Projection) (default item : Item), index ∈ projection.fields →
    Stored.FieldsFit models model.fields default → Stored.FieldsFit models model.fields item →
    (projection.apply model.copyField default item)[place]? = item[place]?

namespace Declaration

section Fields

variable {declaration : Declaration (Property ι)} {model : Model (Property ι)}
  (accepted : declaration.model = .ok model) {index place : Nat}
  {declared : FieldDeclaration (Property ι)} {name : Text}
  (found : declaration.seen[index]? = some (declared, place)) (named : declared.HasName name)

include accepted found named

theorem descriptor_of_seen :
    model.schema.fields[index]? = some ⟨name, declared.type.fieldType⟩ := by
  unfold Model.schema
  rw [List.getElem?_map, getElem?_queryable_of_seen accepted found,
    ← FieldDeclaration.hasName_iff.1 named]
  rfl

theorem addresses_of_unshadowed (models : ι → Model (Property ι))
    (unshadowed : Unshadowed model.schema.names index name) :
    model.Addresses models name index declared place where
  texts := by
    have descriptor := descriptor_of_seen accepted found named
    exact Schema.addresses_of_field? ((Schema.field?_own_name_iff descriptor).2 unshadowed)
  reads := by
    intro item fits
    obtain ⟨data, standing, shown, -⟩ :=
      (standsFor_of_accepted models accepted found).viewed item fits
    refine ⟨data, standing, ?_⟩
    rw [Schema.terminals_pathTo, View.child, shown, Option.getD_some]
  copies := by
    intro projection default item selected defaultFits itemFits
    have standsFor := standsFor_of_accepted models accepted found
    have placed := getElem?_places_of_seen accepted found
    obtain ⟨data, standing, -⟩ := standsFor.viewed item itemFits
    obtain ⟨former, within, -⟩ := standsFor.viewed default defaultFits
    rw [standing]
    exact model.getElem?_apply_of_selects projection default item ⟨index, selected, placed⟩
      (List.getElem?_eq_some_iff.1 within).1 standing

end Fields

end Declaration

/-! ## Members -/

namespace EnumSchema

variable {enumeration : EnumSchema} {ordinal : Nat} {name : Text}

theorem view_of_unshadowed (held : enumeration.members[ordinal]? = some name)
    (unshadowed : Unshadowed enumeration.members ordinal name) :
    enumeration.view name = .value (.member ordinal name) := by
  obtain ⟨within, same⟩ := List.getElem?_eq_some_iff.1 held
  have first : enumeration.members.findIdx? (· = name) = some ordinal := by
    refine List.findIdx?_eq_some_iff_getElem.2 ⟨within, decide_eq_true same, ?_⟩
    intro earlier before
    have different := unshadowed earlier _ before
      (List.getElem?_eq_getElem (Nat.lt_trans before within))
    intro equal
    exact different (congrArg Text.lower (of_decide_eq_true equal))
  unfold view
  rw [first]

theorem read_of_ordinalOf? {text : Text} (held : enumeration.members[ordinal]? = some name)
    (found : enumeration.ordinalOf? text.trim = some ordinal) :
    enumeration.read text = .ok (.member ordinal name) := by
  unfold read
  rw [found]
  dsimp only
  rw [held, Option.getD_some]

/-- A name selects the member at a position: an equality with the name as its literal, for a field
of any type with nothing but nullable layers around the enumeration, holds of that member alone. -/
structure Selects (enumeration : EnumSchema) (name : Text) (ordinal : Nat) : Prop where
  found : enumeration.ordinalOf? name = some ordinal
  equality : ∀ {ι : Type} (catalog : Catalog ι) (options : CompileOptions) (type : FieldType ι)
    (text : Text), type.underlying = .enum enumeration →
    (type.isNullable = true → options.isNullLiteral text = false) → text.trim = name →
    ∃ literal, Literal.read catalog options type .equals text = .ok literal ∧
      ∀ (path : PropertyPath ι), ∀ member ∈ enumeration.members,
        Condition.test ⟨path, .equals, literal⟩ (enumeration.view member) =
          decide (member = name)

theorem test_equals (held : enumeration.members[ordinal]? = some name)
    (unshadowed : Unshadowed enumeration.members ordinal name) {literal : Literal}
    (value : literal = .typed (.member ordinal name) ∨
      literal = .nullable (some (.member ordinal name)))
    (path : PropertyPath ι) {member : Text} (isMember : member ∈ enumeration.members) :
    Condition.test ⟨path, .equals, literal⟩ (enumeration.view member) = decide (member = name) := by
  obtain ⟨other, seen, -⟩ := view_of_mem isMember
  have tested : Condition.test ⟨path, .equals, literal⟩ (.value (.member other member)) =
      decide (Value.member other member = .member ordinal name) := by
    rcases value with rfl | rfl <;> rfl
  rw [seen, tested]
  refine decide_eq_decide.2 ⟨fun same => (Value.member.inj same).2, ?_⟩
  rintro rfl
  rw [view_of_unshadowed held unshadowed] at seen
  exact (View.value.inj seen).symm

/-- The name of a member that is not shadowed selects that member. -/
theorem selects_of_unshadowed (held : enumeration.members[ordinal]? = some name)
    (unshadowed : Unshadowed enumeration.members ordinal name) :
    enumeration.Selects name ordinal := by
  have found : enumeration.ordinalOf? name = some ordinal :=
    ordinalOf?_eq_some_iff.2 ((FirstNamed.self_iff held).2 unshadowed)
  refine ⟨found, ?_⟩
  intro ι catalog options type text layers present same
  have member : type.underlying.readValue catalog options text = .ok (.member ordinal name) := by
    rw [layers]
    exact read_of_ordinalOf? held (same ▸ found)
  have comparable : type.isComparable = true := by
    unfold FieldType.isComparable
    rw [layers]
  unfold Literal.read
  rw [comparable]
  dsimp only
  cases nullable : type.isNullable with
  | true =>
    rw [present nullable, member]
    exact ⟨_, rfl, fun path _ => test_equals held unshadowed (Or.inr rfl) path⟩
  | false =>
    rw [FieldType.underlying_eq_self nullable] at member
    rw [member]
    exact ⟨_, rfl, fun path _ => test_equals held unshadowed (Or.inl rfl) path⟩

end EnumSchema

namespace Declaration

theorem members_of_accepted {τ : Type} {declaration : Declaration τ} {enumeration : EnumSchema}
    (accepted : declaration.enumeration = .ok enumeration) :
    enumeration.members = declaration.variants.map (·.name) := by
  obtain ⟨-, -, -, -, rfl⟩ := enumeration_eq_ok_iff.1 accepted
  rfl

/-! ## Declarations -/

/-- The declared name of a field finds the first field that has the name up to case: it is no later
than the field itself, and no field before it has the name. That is the field itself exactly if no
earlier one has the name, and then the name addresses the field in all texts. In the same way the
name of a variant finds the first member that has it up to case, and selects its own member if no
earlier one has it. -/
theorem unshadowed_names_address (models : ι → Model (Property ι))
    (declaration : Declaration (Property ι)) :
    (∀ model, declaration.model = .ok model → ∀ index declared place name,
      declaration.seen[index]? = some (declared, place) → declared.HasName name →
      model.schema.fields[index]? = some ⟨name, declared.type.fieldType⟩ ∧
      (∃ first ≤ index, ∃ field, model.schema.field? name = some (first, field) ∧
        model.schema.fields[first]? = some field ∧ field.name.lower = name.lower ∧
        Unshadowed model.schema.names first name) ∧
      (model.schema.field? name = some (index, ⟨name, declared.type.fieldType⟩) ↔
        Unshadowed model.schema.names index name) ∧
      (Unshadowed model.schema.names index name →
        model.Addresses models name index declared place)) ∧
    (∀ enumeration, declaration.enumeration = .ok enumeration → ∀ ordinal variant,
      declaration.variants[ordinal]? = some variant →
      enumeration.members[ordinal]? = some variant.name ∧
      (∃ first ≤ ordinal, ∃ member, enumeration.ordinalOf? variant.name = some first ∧
        enumeration.members[first]? = some member ∧ member.lower = variant.name.lower ∧
        Unshadowed enumeration.members first variant.name) ∧
      (enumeration.ordinalOf? variant.name = some ordinal ↔
        Unshadowed enumeration.members ordinal variant.name) ∧
      (Unshadowed enumeration.members ordinal variant.name →
        enumeration.Selects variant.name ordinal)) := by
  refine ⟨?_, ?_⟩
  · intro model accepted index declared place name found named
    have descriptor := descriptor_of_seen accepted found named
    exact ⟨descriptor, Schema.exists_field?_le descriptor, Schema.field?_own_name_iff descriptor,
      addresses_of_unshadowed accepted found named models⟩
  · intro enumeration accepted ordinal variant found
    have held : enumeration.members[ordinal]? = some variant.name := by
      rw [members_of_accepted accepted, List.getElem?_map, found]
      rfl
    refine ⟨held, ?_, ?_, EnumSchema.selects_of_unshadowed held⟩
    · obtain ⟨first, notLater, firstNamed⟩ := FirstNamed.exists_le held
      obtain ⟨member, memberHeld, same⟩ := firstNamed.named
      exact ⟨first, notLater, member, EnumSchema.ordinalOf?_eq_some_iff.2 firstNamed, memberHeld,
        same, firstNamed.first⟩
    · exact EnumSchema.ordinalOf?_eq_some_iff.trans (FirstNamed.self_iff held)

end Declaration

/-! ## Names that differ in case only -/

/-- Two fields with names that are equal up to case. -/
def Sample.twins : Declaration (Property Sample) :=
  { name := "Twins".toList
    kind := .struct
    generics := []
    fields :=
      [ ⟨"name".toList, SampleProperty.text, []⟩, ⟨"NAME".toList, SampleProperty.int .i32, []⟩ ]
    variants := [] }

/-- An enumeration of three variants, two of them with names that are equal up to case. -/
def Sample.grades : Declaration (Property Sample) :=
  { name := "Grade".toList
    kind := .enum
    generics := []
    fields := []
    variants :=
      [ ⟨"Alpha".toList, true, none⟩, ⟨"ALPHA".toList, true, none⟩,
        ⟨"r#match".toList, true, none⟩ ] }

/-- The second of two fields and the second of two members whose names are equal up to case: the own
name of each leads to the first one. -/
theorem Declaration.shadowed_names_lead_elsewhere :
    (∃ model, Sample.twins.model = .ok model ∧
      model.schema.fields[1]? = some ⟨"NAME".toList, .scalar (.integer .i32)⟩ ∧
      model.schema.field? "NAME".toList = some (0, ⟨"name".toList, .scalar .string⟩)) ∧
    (∃ enumeration, Sample.grades.enumeration = .ok enumeration ∧
      enumeration.members[1]? = some "ALPHA".toList ∧
      enumeration.ordinalOf? "ALPHA".toList = some 0) :=
  ⟨⟨_, rfl, rfl, by decide +kernel⟩, ⟨_, rfl, rfl, by decide +kernel⟩⟩

/-- The age of an account, behind another field and two skipped ones, and the last of the grades. -/
theorem Declaration.unshadowed_names_address_account :
    let models : Sample → Model (Property Sample) := fun _ => ⟨[], []⟩
    let age : FieldDescriptor Sample := ⟨"age".toList, .nullable (.scalar (.integer .u8))⟩
    (∃ model, Sample.account.model = .ok model ∧
      model.schema.field? "age".toList = some (1, age) ∧
      Filter.compile (schemasOf models) {} model.schema "age>=44".toList =
        .ok ⟨some (.condition ⟨model.schema.pathTo 1 age, .greaterOrEqual,
          .nullable (some (.signed 44))⟩)⟩ ∧
      Order.compile (schemasOf models) {} model.schema "age=Desc".toList =
        .ok (some ⟨model.schema.pathTo 1 age, .desc⟩) ∧
      Projection.compile model.schema "age".toList = .ok (some ⟨[1]⟩)) ∧
    (∃ enumeration, Sample.grades.enumeration = .ok enumeration ∧
      enumeration.ordinalOf? "r#match".toList = some 2) := by
  intro models age
  refine ⟨?_, ?_⟩
  · have found : Sample.account.seen[1]? =
        some (⟨"age".toList, .optional (SampleProperty.int .u8), []⟩, 3) := rfl
    have unshadowed : Unshadowed ["type".toList, "age".toList] 1 "age".toList := by
      intro earlier other before held
      obtain rfl : earlier = 0 := Nat.lt_one_iff.1 before
      cases held
      decide +kernel
    have addressed := ((unshadowed_names_address models Sample.account).1 _ rfl 1 _ 3 "age".toList
      found (FieldDeclaration.hasName_iff.2 rfl)).2.2.2 unshadowed
    have identifier : Text.IsIdentifier "age".toList := by decide +kernel
    have unambiguous : Clause.Unambiguous ⟨⟨["age".toList]⟩, .greaterOrEqual, ["44".toList]⟩ := by
      decide +kernel
    have read : Literal.read (schemasOf models) {} age.type .greaterOrEqual "44".toList =
        .ok (.nullable (some (.signed 44))) :=
      eq_ok_of_toOption (by decide +kernel)
    exact ⟨_, rfl, addressed.texts.found,
      addressed.texts.filterText identifier nofun {} .greaterOrEqual "44".toList _ (by decide)
        (by decide) unambiguous read,
      (addressed.texts.orderText identifier rfl {}).2 .desc,
      addressed.texts.selectText identifier⟩
  · have unshadowed : Unshadowed ["Alpha".toList, "ALPHA".toList, "r#match".toList] 2
        "r#match".toList := by
      intro earlier other before held
      match earlier with
      | 0 =>
        cases held
        decide +kernel
      | 1 =>
        cases held
        decide +kernel
    have selected := ((unshadowed_names_address models Sample.grades).2 _ rfl 2 _ rfl).2.2.2
    exact ⟨_, rfl, (selected unshadowed).found⟩

end TextQuery
