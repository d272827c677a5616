import TextQuery.Proofs.Text.CaseFolding
import TextQuery.Schema.Basic

/-!
Lookup by name. A field or a member that is found stands at the position it is found at, and is the
first whose name has the lower-case form of the given one (`Schema.field?_eq_some_iff`,
`EnumSchema.ordinalOf?_eq_some_iff`). So what some spelling finds, its own name finds again
(`FirstNamed.self`), and a name finds what it belongs to unless an earlier one has the same
lower-case form (`FirstNamed.self_iff`).
-/

namespace TextQuery

/-- No name before the position `index` is equal to `name` up to case. -/
def Unshadowed (names : List Text) (index : Nat) (name : Text) : Prop :=
  ∀ earlier other, earlier < index → names[earlier]? = some other → other.lower ≠ name.lower

/-- The first of some names that is equal to `name` up to case stands at the position `index`. -/
structure FirstNamed (names : List Text) (index : Nat) (name : Text) : Prop where
  named : ∃ found, names[index]? = some found ∧ found.lower = name.lower
  first : Unshadowed names index name

namespace FirstNamed

variable {names : List Text} {index : Nat} {name : Text}

theorem of_same_lower {name' : Text} (found : FirstNamed names index name)
    (same : name.lower = name'.lower) : FirstNamed names index name' :=
  ⟨same ▸ found.named, fun _ _ before held => same ▸ found.first _ _ before held⟩

/-- What is found under any spelling is found under its own. -/
theorem self (found : FirstNamed names index name) {own : Text} (held : names[index]? = some own) :
    FirstNamed names index own := by
  obtain ⟨own', held', same⟩ := found.named
  rw [held] at held'
  cases held'
  exact found.of_same_lower same.symm

/-- A name is found where it stands exactly if no earlier one is equal to it up to case. -/
theorem self_iff (held : names[index]? = some name) :
    FirstNamed names index name ↔ Unshadowed names index name :=
  ⟨first, fun unshadowed => ⟨⟨name, held, rfl⟩, unshadowed⟩⟩

/-- A search for a name that ignores case finds the first one that is equal to it up to case. -/
theorem findIdx?_eq_some_iff :
    names.findIdx? (Text.eqIgnoreCase · name) = some index ↔ FirstNamed names index name := by
  rw [List.findIdx?_eq_some_iff_getElem]
  simp only [Text.eqIgnoreCase_iff]
  refine ⟨?_, ?_⟩
  · rintro ⟨within, same, others⟩
    refine ⟨⟨_, List.getElem?_eq_getElem within, same⟩, ?_⟩
    intro earlier other before held
    obtain ⟨_, rfl⟩ := List.getElem?_eq_some_iff.1 held
    exact others earlier before
  · rintro ⟨⟨found, held, same⟩, first⟩
    obtain ⟨within, rfl⟩ := List.getElem?_eq_some_iff.1 held
    refine ⟨within, same, ?_⟩
    intro earlier before
    exact first earlier _ before (List.getElem?_eq_getElem (Nat.lt_trans before within))

/-- A name finds something no later than where it stands. -/
theorem exists_le (held : names[index]? = some name) :
    ∃ first ≤ index, FirstNamed names first name := by
  have some : (names.findIdx? (Text.eqIgnoreCase · name)).isSome = true := by
    rw [List.findIdx?_isSome, List.any_eq_true]
    exact ⟨name, List.mem_of_getElem? held, Text.eqIgnoreCase_iff.2 rfl⟩
  obtain ⟨first, found⟩ := Option.isSome_iff_exists.1 some
  have firstNamed := findIdx?_eq_some_iff.1 found
  refine ⟨first, Nat.le_of_not_lt fun before => ?_, firstNamed⟩
  exact firstNamed.first index name before held rfl

end FirstNamed

namespace Schema

variable {ι : Type} {schema : Schema ι} {name : Text} {index : Nat} {field : FieldDescriptor ι}

/-- The names of the fields, in order. -/
def names (schema : Schema ι) : List Text :=
  schema.fields.map (·.name)

theorem getElem?_names (held : schema.fields[index]? = some field) :
    schema.names[index]? = some field.name := by
  unfold names
  rw [List.getElem?_map, held]
  rfl

theorem field?_eq_findIdx? :
    schema.field? name =
      (schema.names.findIdx? (Text.eqIgnoreCase · name)).bind fun index =>
        schema.fields[index]?.map (index, ·) := by
  -- counted from any start, the positions of the fields go on from it
  have shifted : ∀ (fields : List (FieldDescriptor ι)) (start : Nat),
      ((fields.zipIdx start).findSome? fun row =>
        if Text.eqIgnoreCase row.1.name name then some (row.2, row.1) else none) =
      ((fields.map (·.name)).findIdx? (Text.eqIgnoreCase · name)).bind fun index =>
        fields[index]?.map (start + index, ·) := by
    intro fields
    induction fields with
    | nil => exact fun _ => rfl
    | cons field more ih =>
      intro start
      rw [List.zipIdx_cons, List.findSome?_cons, List.map_cons, List.findIdx?_cons]
      dsimp only
      by_cases same : Text.eqIgnoreCase field.name name = true
      · rw [if_pos same, if_pos same]
        rfl
      · rw [if_neg same, if_neg same, ih, Option.bind_map]
        refine congrArg (Option.bind _) (funext fun index => ?_)
        rw [Function.comp_apply, List.getElem?_cons_succ, Nat.add_right_comm, Nat.add_assoc]
  have fromFirst := shifted schema.fields 0
  simp only [Nat.zero_add] at fromFirst
  exact fromFirst

/-- A name finds the first field whose name is equal to it up to case. -/
theorem field?_eq_some_iff :
    schema.field? name = some (index, field) ↔
      schema.fields[index]? = some field ∧ FirstNamed schema.names index name := by
  rw [field?_eq_findIdx?, Option.bind_eq_some_iff]
  simp only [FirstNamed.findIdx?_eq_some_iff, Option.map_eq_some_iff, Prod.mk.injEq]
  refine ⟨?_, ?_⟩
  · rintro ⟨position, first, field', held, rfl, rfl⟩
    exact ⟨held, first⟩
  · rintro ⟨held, first⟩
    exact ⟨index, first, field, held, rfl, rfl⟩

/-- Names that are equal up to case find the same. -/
theorem field?_congr {name' : Text} (same : name.lower = name'.lower) :
    schema.field? name = schema.field? name' := by
  have sameFor : ∀ other : Text, other.eqIgnoreCase name = other.eqIgnoreCase name' := by
    intro other
    rw [Bool.eq_iff_iff, Text.eqIgnoreCase_iff, Text.eqIgnoreCase_iff, same]
  unfold field?
  simp only [sameFor]

theorem getElem?_of_field? (found : schema.field? name = some (index, field)) :
    schema.fields[index]? = some field :=
  (field?_eq_some_iff.1 found).1

/-- A name finds nothing exactly if no field has a name that is equal to it up to case. -/
theorem field?_eq_none_iff :
    schema.field? name = none ↔ ∀ other ∈ schema.names, other.lower ≠ name.lower := by
  refine ⟨?_, ?_⟩
  · intro unknown other member same
    obtain ⟨position, held⟩ := List.mem_iff_getElem?.1 member
    obtain ⟨first, -, firstNamed⟩ := FirstNamed.exists_le held
    obtain ⟨_, firstHeld, -⟩ := firstNamed.named
    unfold names at firstHeld
    rw [List.getElem?_map] at firstHeld
    obtain ⟨field, fieldHeld, -⟩ := Option.map_eq_some_iff.1 firstHeld
    rw [field?_eq_some_iff.2 ⟨fieldHeld, firstNamed.of_same_lower same⟩] at unknown
    cases unknown
  · intro others
    refine Option.eq_none_iff_forall_ne_some.2 fun found same => ?_
    obtain ⟨other, held, equal⟩ := (field?_eq_some_iff.1 same).2.named
    exact others other (List.mem_of_getElem? held) equal

/-- A field that is found under any spelling of its name is found under its own. -/
theorem field?_name (found : schema.field? name = some (index, field)) :
    schema.field? field.name = some (index, field) := by
  obtain ⟨held, first⟩ := field?_eq_some_iff.1 found
  exact field?_eq_some_iff.2 ⟨held, first.self (getElem?_names held)⟩

/-- The name of a field always finds the first one that is equal to it up to case, which is no
later. -/
theorem exists_field?_le (held : schema.fields[index]? = some field) :
    ∃ first ≤ index, ∃ other, schema.field? field.name = some (first, other) ∧
      schema.fields[first]? = some other ∧ other.name.lower = field.name.lower ∧
      Unshadowed schema.names first field.name := by
  obtain ⟨first, notLater, firstNamed⟩ := FirstNamed.exists_le (getElem?_names held)
  obtain ⟨name, named, same⟩ := firstNamed.named
  unfold names at named
  rw [List.getElem?_map] at named
  obtain ⟨other, otherHeld, rfl⟩ := Option.map_eq_some_iff.1 named
  exact ⟨first, notLater, other, field?_eq_some_iff.2 ⟨otherHeld, firstNamed⟩, otherHeld, same,
    firstNamed.first⟩

/-- The name of a field finds that field exactly if no earlier name is equal to it up to case. -/
theorem field?_own_name_iff (held : schema.fields[index]? = some field) :
    schema.field? field.name = some (index, field) ↔ Unshadowed schema.names index field.name := by
  rw [field?_eq_some_iff, and_iff_right held]
  exact FirstNamed.self_iff (getElem?_names held)

end Schema

/-- A text finds the first member whose name is equal to it up to case. -/
theorem EnumSchema.ordinalOf?_eq_some_iff {enumeration : EnumSchema} {text : Text} {ordinal : Nat} :
    enumeration.ordinalOf? text = some ordinal ↔ FirstNamed enumeration.members ordinal text :=
  FirstNamed.findIdx?_eq_some_iff

end TextQuery
