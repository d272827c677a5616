import TextQuery.Proofs.Model.Positions
import TextQuery.Proofs.Query.NamedFields

/-!
What a selection makes of an item. A name of a selection stands for a field among all fields of the
model, skipped ones included: the first one that queries see whose name is equal to it up to case
(`Model.field?_iff_names`). A projected item holds the fields that its selection names and is the
default item elsewhere. Main statement: `ItemType.projection_copies_named`.
-/

namespace TextQuery

variable {ι : Type}

namespace Model

/-! ## Places of fields that queries see -/

section Places

variable {τ : Type} {model : Model τ}

/-- Positions follow the order of the declaration. -/
theorem pairwise_places : model.places.Pairwise (· < ·) := by
  have all : (model.fields.zipIdx.map (·.2)).Pairwise (· < ·) := by
    rw [List.zipIdx_map_snd]
    exact List.pairwise_lt_range'
  exact all.sublist (List.filter_sublist.map _)

theorem lt_of_places_lt {index index' place place' : Nat} (here : model.places[index]? = some place)
    (there : model.places[index']? = some place') (before : place' < place) : index' < index := by
  obtain ⟨within, rfl⟩ := List.getElem?_eq_some_iff.1 here
  obtain ⟨within', rfl⟩ := List.getElem?_eq_some_iff.1 there
  rcases Nat.lt_trichotomy index' index with less | rfl | more
  · exact less
  · omega
  · have := List.pairwise_iff_getElem.1 pairwise_places index index' within within' more
    omega

theorem places_lt_of_lt {index index' place place' : Nat} (here : model.places[index]? = some place)
    (there : model.places[index']? = some place') (before : index' < index) : place' < place := by
  obtain ⟨within, rfl⟩ := List.getElem?_eq_some_iff.1 here
  obtain ⟨within', rfl⟩ := List.getElem?_eq_some_iff.1 there
  exact List.pairwise_iff_getElem.1 pairwise_places index' index within' within before

/-- Every field that is not skipped has a position. -/
theorem exists_getElem?_places {place : Nat} {field : Field τ}
    (held : model.fields[place]? = some field) (seen : field.skipped = false) :
    ∃ index : Nat, model.places[index]? = some place ∧ model.queryable[index]? = some field := by
  have row : (field, place) ∈ model.fields.zipIdx.filter (!·.1.skipped) :=
    List.mem_filter.2 ⟨List.mk_mem_zipIdx_iff_getElem?.2 held, by simp [seen]⟩
  obtain ⟨index, found⟩ := List.mem_iff_getElem?.1 row
  refine ⟨index, ?_, ?_⟩
  · unfold places
    rw [List.getElem?_map, found]
    rfl
  · rw [queryable_eq_map, List.getElem?_map, found]
    rfl

end Places

/-! ## Names of fields -/

/-- A name stands for the field at a place among all fields: queries see it, its name is equal to
the given one up to case, and no field before it is seen under such a name. -/
structure Names {τ : Type} (model : Model τ) (name : Text) (place : Nat) : Prop where
  named : ∃ field, model.fields[place]? = some field ∧ field.skipped = false ∧
    field.name.lower = name.lower
  first : ∀ earlier other, earlier < place → model.fields[earlier]? = some other →
    other.skipped = false → other.name.lower ≠ name.lower

section Schema

variable {model : Model (Property ι)} {name : Text} {index place : Nat}

theorem getElem?_schema_names :
    model.schema.names[index]? = model.queryable[index]?.map (·.name) := by
  unfold Schema.names Model.schema
  rw [List.getElem?_map, List.getElem?_map]
  cases model.queryable[index]? <;> rfl

theorem Names.of_same_lower {name' : Text} (names : model.Names name place)
    (same : name.lower = name'.lower) : model.Names name' place :=
  ⟨same ▸ names.named, fun earlier other before held seen =>
    same ▸ names.first earlier other before held seen⟩

/-- What is looked up in the schema is the field that the name stands for, however many skipped
fields there are before it. -/
theorem field?_iff_names :
    (∃ index descriptor, model.schema.field? name = some (index, descriptor) ∧
        model.places[index]? = some place) ↔
      model.Names name place := by
  constructor
  · rintro ⟨index, descriptor, found, here⟩
    obtain ⟨-, ⟨given, named, same⟩, first⟩ := Schema.field?_eq_some_iff.1 found
    obtain ⟨field, held, seenHere, seen⟩ := field_of_getElem?_places here
    rw [getElem?_schema_names, seenHere] at named
    cases named
    refine ⟨⟨field, held, seen, same⟩, ?_⟩
    intro earlier other before otherHeld otherSeen
    obtain ⟨index', there, otherSeenThere⟩ := exists_getElem?_places otherHeld otherSeen
    refine first index' other.name (lt_of_places_lt here there before) ?_
    rw [getElem?_schema_names, otherSeenThere]
    rfl
  · rintro ⟨⟨field, held, seen, same⟩, first⟩
    obtain ⟨index, here, seenHere⟩ := exists_getElem?_places held seen
    have descriptor : model.schema.fields[index]? = some ⟨field.name, field.type.fieldType⟩ := by
      unfold Model.schema
      rw [List.getElem?_map, seenHere]
      rfl
    refine ⟨index, _, Schema.field?_eq_some_iff.2 ⟨descriptor, ?_, ?_⟩, here⟩
    · exact ⟨field.name, Schema.getElem?_names descriptor, same⟩
    · intro index' given before named
      rw [getElem?_schema_names] at named
      obtain ⟨other, otherSeenThere, rfl⟩ := Option.map_eq_some_iff.1 named
      have there : ∃ place', model.places[index']? = some place' := by
        have within := (List.getElem?_eq_some_iff.1 here).1
        exact ⟨_, List.getElem?_eq_getElem (Nat.lt_trans before within)⟩
      obtain ⟨place', there⟩ := there
      obtain ⟨other', otherHeld, otherSeenThere', otherSeen⟩ := field_of_getElem?_places there
      rw [otherSeenThere] at otherSeenThere'
      cases otherSeenThere'
      exact first place' other (places_lt_of_lt here there before) otherHeld otherSeen

/-- The fields that a selection names. -/
def NamedIn {τ : Type} (model : Model τ) (text : Text) (place : Nat) : Prop :=
  ∃ name ∈ selectedNames text, model.Names name place

theorem NamedIn.of_respelled {text text' : Text} (named : model.NamedIn text place)
    (respelled : ∀ name ∈ selectedNames text, name.lower ∈ (selectedNames text').map Text.lower) :
    model.NamedIn text' place := by
  obtain ⟨name, isName, names⟩ := named
  obtain ⟨name', isName', same⟩ := List.mem_map.1 (respelled name isName)
  exact ⟨name', isName', names.of_same_lower same.symm⟩

/-- A compiled selection selects the fields that it names. -/
theorem selects_iff_namedIn {text : Text} {projection : Projection}
    (compiled : Projection.compile model.schema text = .ok (some projection)) :
    model.Selects projection place ↔ model.NamedIn text place := by
  unfold Selects NamedIn
  simp only [← field?_iff_names]
  constructor
  · rintro ⟨index, selected, here⟩
    obtain ⟨-, positions, each, rfl⟩ := Projection.compile_eq_some_iff.1 compiled
    have asked := (Projection.mem_foldl_add_iff.1 selected).resolve_left List.not_mem_nil
    obtain ⟨name, isName, positioned⟩ := exists_of_mem_mapM each asked
    obtain ⟨descriptor, found⟩ := Projection.position_eq_ok_iff.1 positioned
    exact ⟨name, isName, index, descriptor, found, here⟩
  · rintro ⟨name, isName, index, descriptor, found, here⟩
    exact ⟨index, Projection.mem_fields_of_selected found compiled isName, here⟩

end Schema

end Model

namespace ItemType

section Projected

variable {type : ItemType ι} {projection : Projection} {item : Item}
  (complete : item.length = type.model.fields.length)

include complete

/-- A projected item is the given one at the selected places and the default one elsewhere. -/
theorem getElem?_project (place : Nat) [Decidable (type.model.Selects projection place)] :
    (type.project projection item)[place]? =
      if type.model.Selects projection place then item[place]? else type.default[place]? := by
  split
  · rename_i selected
    have within : place < item.length := by
      obtain ⟨index, -, here⟩ := selected
      obtain ⟨field, held, -⟩ := Model.field_of_getElem?_places here
      exact complete ▸ (List.getElem?_eq_some_iff.1 held).1
    have data : item[place]? = some item[place] := List.getElem?_eq_getElem within
    rw [data]
    exact type.getElem?_project_of_selected projection item selected data
  · rename_i unselected
    exact type.getElem?_project_of_not_selected projection item unselected

theorem project_project :
    type.project projection (type.project projection item) = type.project projection item := by
  classical
  refine List.ext_getElem? fun place => ?_
  rw [getElem?_project (type.length_project projection item), getElem?_project complete]
  split <;> rfl

theorem project_congr {projection' : Projection}
    (same : ∀ place, type.model.Selects projection place ↔ type.model.Selects projection' place) :
    type.project projection item = type.project projection' item := by
  classical
  refine List.ext_getElem? fun place => ?_
  rw [getElem?_project complete, getElem?_project complete]
  simp only [same place]

end Projected

/-- A projected item has the data of the given one in the fields that the selection names, which are
none of the skipped ones, and that of the default item in all others. Projecting it once more
changes nothing, and a selection that names the same fields gives the same, however it is written:
every text with the same names up to case, in any order and any number, is such a selection. -/
theorem projection_copies_named (type : ItemType ι) (text : Text) (projection : Projection)
    (item : Item)
    (compiled : Projection.compile type.model.schema text = .ok (some projection))
    (complete : item.length = type.model.fields.length) :
    (type.project projection item).length = type.model.fields.length ∧
    (∀ place field, type.model.fields[place]? = some field →
      (type.model.NamedIn text place → field.skipped = false ∧
        (type.project projection item)[place]? = item[place]?) ∧
      (¬ type.model.NamedIn text place →
        (type.project projection item)[place]? = type.default[place]?)) ∧
    type.project projection (type.project projection item) = type.project projection item ∧
    (∀ text' projection', Projection.compile type.model.schema text' = .ok (some projection') →
      (∀ place, type.model.NamedIn text place ↔ type.model.NamedIn text' place) →
      type.project projection' item = type.project projection item) ∧
    ∀ text', (∀ name : Text, name ∈ (selectedNames text).map Text.lower ↔
        name ∈ (selectedNames text').map Text.lower) →
      ∃ projection', Projection.compile type.model.schema text' = .ok (some projection') ∧
        type.project projection' item = type.project projection item := by
  classical
  have selects : ∀ place, type.model.Selects projection place ↔ type.model.NamedIn text place :=
    fun place => Model.selects_iff_namedIn compiled
  have same : ∀ text' projection', Projection.compile type.model.schema text' =
        .ok (some projection') →
      (∀ place, type.model.NamedIn text place ↔ type.model.NamedIn text' place) →
      type.project projection' item = type.project projection item := by
    intro text' projection' compiled' named
    refine project_congr complete fun place => ?_
    rw [selects place, Model.selects_iff_namedIn compiled', named place]
  refine ⟨type.length_project projection item, ?_, project_project complete, same, ?_⟩
  · intro place field held
    have data : (type.project projection item)[place]? = _ := getElem?_project complete place
    constructor
    · intro named
      rw [if_pos ((selects place).2 named)] at data
      obtain ⟨name, -, ⟨field', held', seen, -⟩, -⟩ := named
      rw [held] at held'
      cases held'
      exact ⟨seen, data⟩
    · intro unnamed
      rwa [if_neg (mt (selects place).1 unnamed)] at data
  · intro text' respelled
    obtain ⟨projection', compiled'⟩ := Projection.exists_compile_of_respelled compiled respelled
    refine ⟨projection', compiled', same text' projection' compiled' fun place => ?_⟩
    constructor
    · intro named
      exact named.of_respelled fun name isName =>
        (respelled _).1 (List.mem_map_of_mem isName)
    · intro named
      exact named.of_respelled fun name isName =>
        (respelled _).2 (List.mem_map_of_mem isName)

/-- An account with two skipped fields. A selection of its type copies the field behind the first of
them, and a skipped field and the age become those of the default account. -/
theorem projection_copies_named_account :
    let type : ItemType Sample :=
      ⟨⟨Sample.account.name, Sample.account.fields.map FieldDeclaration.toField⟩,
        [.string [], .string [], .integer 0, .absent], rfl⟩
    let item : Item :=
      [.string "secret".toList, .string "admin".toList, .integer 6, .present (.integer 44)]
    Sample.account.model = .ok type.model ∧
    Projection.compile type.model.schema "TYPE, ,type".toList = .ok (some ⟨[0]⟩) ∧
    item.length = type.model.fields.length ∧
    type.model.NamedIn "TYPE, ,type".toList 1 ∧
    (type.project ⟨[0]⟩ item)[1]? = some (.string "admin".toList) ∧
    (type.project ⟨[0]⟩ item)[2]? = some (.integer 0) ∧
    type.project ⟨[0]⟩ (type.project ⟨[0]⟩ item) = type.project ⟨[0]⟩ item ∧
    ∃ projection, Projection.compile type.model.schema " Type".toList = .ok (some projection) ∧
      type.project projection item = type.project ⟨[0]⟩ item := by
  intro type item
  have compiled : Projection.compile type.model.schema "TYPE, ,type".toList =
      .ok (some ⟨[0]⟩) := eq_ok_of_toOption (by decide +kernel)
  obtain ⟨-, fields, again, -, respelled⟩ := projection_copies_named type _ _ item compiled rfl
  have named : type.model.NamedIn "TYPE, ,type".toList 1 :=
    (Model.selects_iff_namedIn compiled).1 ⟨0, List.mem_cons_self, rfl⟩
  have unnamed : ¬ type.model.NamedIn "TYPE, ,type".toList 2 := fun named =>
    Bool.noConfusion ((fields 2 _ rfl).1 named).1
  have twice : (selectedNames "TYPE, ,type".toList).map Text.lower =
      ["type".toList, "type".toList] := by decide +kernel
  have once : (selectedNames " Type".toList).map Text.lower = ["type".toList] := by
    decide +kernel
  refine ⟨rfl, compiled, rfl, named, ((fields 1 _ rfl).1 named).2, (fields 2 _ rfl).2 unnamed,
    again, respelled " Type".toList fun name => ?_⟩
  rw [twice, once]
  simp

end ItemType

end TextQuery
