import TextQuery.Model.Declaration
import TextQuery.Proofs.Model.FittingData
import TextQuery.Proofs.Text.Occurrence
import TextQuery.Proofs.Traversal
import TextQuery.Samples.Basic

/-!
Positions of declared fields. A declaration is accepted if it is a struct without generic parameters
in which every `model` attribute is `model(skip)`, and the fields with that attribute are skipped
(`Declaration.model_eq_ok_iff`). Enumerations are accepted with plain variants
(`Declaration.enumeration_eq_ok_iff`). Main statement: the schema, the views and the copies of an
accepted declaration count the other fields in the same way (`Declaration.positions_agree`).
-/

namespace TextQuery

/-! ## Attributes -/

namespace Attribute

/-- The attribute that hides a field from queries. -/
def skip : Attribute :=
  ⟨["model".toList], .arguments [⟨.word, "skip".toList⟩]⟩

theorem argument_eq_ok_iff {body : AttributeBody} {word : Text} :
    argument body = .ok word ↔
      body = .arguments [⟨.word, word⟩] ∧ reservedWords.contains word = false := by
  refine ⟨?_, ?_⟩
  · intro found
    unfold argument at found
    split at found
    · cases found
    · cases found
    · cases found
    · split at found
      · cases found
      · rename_i allowed
        split at found
        · rename_i last
          cases found
          rw [List.isEmpty_iff.1 last]
          exact ⟨rfl, Bool.eq_false_iff.2 allowed⟩
        · cases found
    · cases found
  · rintro ⟨rfl, allowed⟩
    unfold argument
    exact if_neg (Bool.eq_false_iff.1 allowed)

/-- An attribute is no error if it has no meaning here or hides its field. -/
theorem isSkip_eq_ok_iff {given : Attribute} {skips : Bool} :
    given.isSkip = .ok skips ↔
      (given.isModel = true → given = skip) ∧ decide (given = skip) = skips := by
  unfold isSkip
  cases meant : given.isModel with
  | false =>
    have other : given ≠ skip := by
      rintro rfl
      cases meant
    rw [decide_eq_false other, if_neg Bool.false_ne_true, Except.ok.injEq]
    exact ⟨fun same => ⟨nofun, same⟩, And.right⟩
  | true =>
    obtain ⟨path, body⟩ := given
    obtain rfl : path = ["model".toList] := of_decide_eq_true meant
    rw [if_pos rfl]
    refine ⟨?_, ?_⟩
    · intro found
      dsimp only at found
      split at found
      · cases found
      · rename_i word read
        split at found
        · rename_i named
          cases found
          obtain ⟨rfl, -⟩ := argument_eq_ok_iff.1 read
          rw [named]
          exact ⟨fun _ => rfl, decide_eq_true rfl⟩
        · cases found
    · rintro ⟨spelled, rfl⟩
      rw [decide_eq_true (spelled rfl), spelled rfl]
      rfl

end Attribute

variable {τ : Type}

/-! ## Declared fields -/

namespace FieldDeclaration

/-- Whether queries see the declared field: no attribute hides it. -/
def isSeen (declared : FieldDeclaration τ) : Bool :=
  Attribute.skip ∉ declared.attributes

/-- Every `model` attribute of the field is the one that hides it. -/
def IsSupported (declared : FieldDeclaration τ) : Prop :=
  ∀ given ∈ declared.attributes, given.isModel = true → given = .skip

/-- The field that is declared, if its attributes are supported. -/
def toField (declared : FieldDeclaration τ) : Field τ :=
  ⟨declared.ident, declared.type, !declared.isSeen⟩

/-- The name of a declared field: its identifier, without the mark `r#` of a raw one. -/
def HasName (declared : FieldDeclaration τ) (name : Text) : Prop :=
  declared.ident = "r#".toList ++ name ∨
    ¬ "r#".toList <+: declared.ident ∧ declared.ident = name

theorem hasName_toField (declared : FieldDeclaration τ) :
    declared.HasName declared.toField.name := by
  unfold HasName Field.name toField
  dsimp only
  cases raw : Text.after? "r#".toList declared.ident with
  | some name => exact Or.inl (Text.after?_eq_some_iff.1 raw)
  | none =>
    right
    rw [← Text.isSome_after?_iff, raw]
    exact ⟨nofun, rfl⟩

theorem field_eq_ok_iff {declared : FieldDeclaration τ} {field : Field τ} :
    declared.field = .ok field ↔ declared.IsSupported ∧ declared.toField = field := by
  have each : ∀ (given : Attribute) (skips : Bool),
      given.isSkip.mapError DeclarationError.badAttribute = .ok skips ↔
        (given.isModel = true → given = .skip) ∧ decide (given = .skip) = skips := by
    intro given skips
    rw [mapError_eq_ok_iff, Attribute.isSkip_eq_ok_iff]
  have hidden : (declared.attributes.map fun given => decide (given = .skip)).any id =
      !declared.isSeen := by
    unfold isSeen
    rw [List.any_map, Bool.eq_iff_iff]
    simp
  unfold FieldDeclaration.field
  simp only [bind_eq_ok_iff, mapM_eq_ok_iff_of_iff each]
  refine ⟨?_, ?_⟩
  · rintro ⟨skips, ⟨supported, rfl⟩, same⟩
    cases same
    rw [hidden]
    exact ⟨supported, rfl⟩
  · rintro ⟨supported, rfl⟩
    refine ⟨_, ⟨supported, rfl⟩, ?_⟩
    rw [hidden]
    rfl

end FieldDeclaration

/-! ## Declarations -/

namespace Declaration

theorem model_eq_ok_iff {declaration : Declaration τ} {model : Model τ} :
    declaration.model = .ok model ↔
      declaration.isGeneric = false ∧ declaration.kind = .struct ∧
        (∀ declared ∈ declaration.fields, declared.IsSupported) ∧
        model = ⟨declaration.name, declaration.fields.map FieldDeclaration.toField⟩ := by
  have fields : ∀ (declared : FieldDeclaration τ) (field : Field τ),
      declared.field = .ok field ↔ declared.IsSupported ∧ declared.toField = field :=
    fun declared field => FieldDeclaration.field_eq_ok_iff
  unfold Declaration.model
  cases declaration.isGeneric with
  | true =>
    rw [if_pos rfl]
    exact iff_of_false nofun nofun
  | false =>
    rw [if_neg Bool.false_ne_true]
    cases declaration.kind with
    | struct =>
      simp only [bind_eq_ok_iff, mapM_eq_ok_iff_of_iff fields]
      refine ⟨?_, ?_⟩
      · rintro ⟨all, ⟨supported, rfl⟩, same⟩
        cases same
        exact ⟨trivial, trivial, supported, rfl⟩
      · rintro ⟨-, -, supported, rfl⟩
        exact ⟨_, ⟨supported, rfl⟩, rfl⟩
    | _ => exact iff_of_false nofun nofun

theorem enumeration_eq_ok_iff {declaration : Declaration τ} {enumeration : EnumSchema} :
    declaration.enumeration = .ok enumeration ↔
      declaration.isGeneric = false ∧ declaration.kind = .enum ∧ declaration.variants ≠ [] ∧
        (∀ variant ∈ declaration.variants, variant.plain = true) ∧
        enumeration = ⟨declaration.name, declaration.variants.map (·.name)⟩ := by
  have withFields : declaration.variants.any (!·.plain) = true ↔
      ¬ ∀ variant ∈ declaration.variants, variant.plain = true := by
    rw [List.any_eq_true]
    simp
  unfold Declaration.enumeration
  refine ⟨?_, ?_⟩
  · intro accepted
    split at accepted
    · cases accepted
    · rename_i plain
      split at accepted
      · cases accepted
      · rename_i isEnum
        split at accepted
        · cases accepted
        · rename_i nonempty
          split at accepted
          · cases accepted
          · rename_i noFields
            cases accepted
            exact ⟨Bool.eq_false_iff.2 plain, Decidable.not_not.1 isEnum, nonempty,
              Decidable.not_not.1 (mt withFields.2 noFields), rfl⟩
  · rintro ⟨plain, isEnum, nonempty, noFields, rfl⟩
    rw [plain, if_neg Bool.false_ne_true, if_neg (not_not_intro isEnum), if_neg nonempty,
      if_neg fun some => withFields.1 some noFields]

/-- The declared fields that queries see, in order, with their places among all fields. -/
def seen (declaration : Declaration τ) : List (FieldDeclaration τ × Nat) :=
  declaration.fields.zipIdx.filter (·.1.isSeen)

section Accepted

variable {declaration : Declaration τ} {model : Model τ} (accepted : declaration.model = .ok model)

include accepted

theorem numbered_of_accepted :
    model.fields.zipIdx.filter (!·.1.skipped) =
      declaration.seen.map (Prod.map FieldDeclaration.toField id) := by
  obtain ⟨-, -, -, rfl⟩ := model_eq_ok_iff.1 accepted
  unfold seen
  rw [List.zipIdx_map, List.filter_map]
  refine congrArg (List.map _) (List.filter_congr fun row _ => ?_)
  exact Bool.not_not _

theorem queryable_of_accepted :
    model.queryable = declaration.seen.map fun row => row.1.toField := by
  rw [Model.queryable_eq_map, numbered_of_accepted accepted, List.map_map]
  rfl

theorem places_of_accepted : model.places = declaration.seen.map fun row => row.2 := by
  unfold Model.places
  rw [numbered_of_accepted accepted, List.map_map]
  rfl

variable {index place : Nat} {declared : FieldDeclaration τ}
  (found : declaration.seen[index]? = some (declared, place))

include found

theorem getElem?_queryable_of_seen : model.queryable[index]? = some declared.toField := by
  rw [queryable_of_accepted accepted, List.getElem?_map, found]
  rfl

theorem getElem?_places_of_seen : model.places[index]? = some place := by
  rw [places_of_accepted accepted, List.getElem?_map, found]
  rfl

end Accepted

end Declaration

/-! ## Positions -/

variable {ι : Type}

/-- What a position of a model provides is the declared field at a place: the descriptor has its
name and its type, items show its data, which is of that type, and copying takes it from the source
and leaves every other field alone, skipped ones included. -/
structure Model.StandsFor (models : ι → Model (Property ι)) (model : Model (Property ι))
    (index : Nat) (declared : FieldDeclaration (Property ι)) (place : Nat) : Prop where
  described : ∃ name, declared.HasName name ∧
    model.schema.fields[index]? = some ⟨name, declared.type.fieldType⟩ ∧
    model.outline.descriptors[index]? = some (name, declared.type)
  outlined : model.outline.viewed[index]? = some (index, declared.ident) ∧
    model.outline.copied[index]? = some (index, declared.ident)
  viewed : ∀ item, Stored.FieldsFit models model.fields item → ∃ data, item[place]? = some data ∧
    (model.view models item).field? index = some (data.view models declared.type) ∧
    (data.view models declared.type).Conforms (schemasOf models) declared.type.fieldType
  copied : ∀ target source, Stored.FieldsFit models model.fields target →
    Stored.FieldsFit models model.fields source →
    ∀ other, (model.copyField target source index)[other]? =
      if other = place then source[place]? else target[other]?

namespace Declaration

variable {declaration : Declaration (Property ι)} {model : Model (Property ι)}
  (models : ι → Model (Property ι)) (accepted : declaration.model = .ok model)

include accepted

theorem standsFor_of_accepted {index place : Nat} {declared : FieldDeclaration (Property ι)}
    (found : declaration.seen[index]? = some (declared, place)) :
    model.StandsFor models index declared place := by
  have queried := getElem?_queryable_of_seen accepted found
  have placed := getElem?_places_of_seen accepted found
  obtain ⟨field, held, same, -⟩ := Model.field_of_getElem?_places placed
  obtain rfl : declared.toField = field := Option.some.inj (queried.symm.trans same)
  have positioned : model.positions[index]? = some (index, declared.ident) := by
    unfold Model.positions
    rw [List.getElem?_map, List.getElem?_zipIdx, queried, Nat.zero_add]
    rfl
  have copied : model.copies[index]? = some (index, declared.ident) := by
    unfold Model.copies
    rw [List.getElem?_map, List.getElem?_zipIdx, placed, Nat.zero_add]
    dsimp only [Option.map_some]
    rw [held]
    rfl
  refine ⟨⟨_, declared.hasName_toField, ?_, ?_⟩, ⟨positioned, copied⟩, ?_, ?_⟩
  · unfold Model.schema
    rw [List.getElem?_map, queried]
    rfl
  · unfold Model.outline
    rw [List.getElem?_map, queried]
    rfl
  · intro item fits
    obtain ⟨data, standing, dataFits⟩ := fits.getElem? held
    have row : (model.fields.zip item)[place]? = some (declared.toField, data) :=
      List.getElem?_zip_eq_some.2 ⟨held, standing⟩
    refine ⟨data, standing, ?_, dataFits.view_conforms⟩
    change (Stored.fieldViews models model.fields item)[index]? = _
    rw [Model.getElem?_fieldViews models (Nat.le_of_eq fits.length_eq.symm), placed,
      Option.bind_some, row]
    rfl
  · intro target source targetFits sourceFits other
    split
    · rename_i here
      obtain ⟨data, standing, -⟩ := sourceFits.getElem? held
      obtain ⟨former, within, -⟩ := targetFits.getElem? held
      have within := (List.getElem?_eq_some_iff.1 within).1
      rw [here, standing]
      exact model.getElem?_copyField_of_eq target source placed within standing
    · rename_i elsewhere
      refine model.getElem?_copyField_of_ne target source fun here => elsewhere ?_
      exact Option.some.inj (here.symm.trans placed)

/-- Past the fields that queries see nothing is shown, and copying has no effect. -/
theorem nothing_past_seen {index : Nat} (past : declaration.seen.length ≤ index) :
    (∀ item, Stored.FieldsFit models model.fields item →
      (model.view models item).field? index = none) ∧
    ∀ target source, model.copyField target source index = target := by
  have unplaced : model.places[index]? = none := by
    rw [places_of_accepted accepted, List.getElem?_map, List.getElem?_eq_none past]
    rfl
  refine ⟨?_, ?_⟩
  · intro item fits
    change (Stored.fieldViews models model.fields item)[index]? = none
    rw [Model.getElem?_fieldViews models (Nat.le_of_eq fits.length_eq.symm), unplaced]
    rfl
  · intro target source
    unfold Model.copyField
    rw [unplaced]

/-- The schema of an accepted declaration has one descriptor for each field that no attribute hides,
in the order of the declaration. Its position stands for that field in the schema, in the views of
items and in copies, and any greater position stands for nothing. -/
theorem positions_agree :
    model.schema.fields.length = declaration.seen.length ∧
    (∀ index declared place, declaration.seen[index]? = some (declared, place) →
      model.StandsFor models index declared place) ∧
    ∀ index, model.schema.fields.length ≤ index →
      (∀ item, Stored.FieldsFit models model.fields item →
        (model.view models item).field? index = none) ∧
      ∀ target source, model.copyField target source index = target := by
  have count : model.schema.fields.length = declaration.seen.length := by
    unfold Model.schema
    rw [List.length_map, queryable_of_accepted accepted, List.length_map]
  refine ⟨count, ?_, ?_⟩
  · intro index declared place found
    exact standsFor_of_accepted models accepted found
  · intro index past
    exact nothing_past_seen models accepted (count ▸ past)

end Declaration

/-- An account. A skipped field stands before the two that queries see and another one between them,
and the first of these two has a raw identifier. -/
def Sample.account : Declaration (Property Sample) :=
  { name := "Account".toList
    kind := .struct
    generics := []
    fields :=
      [ ⟨"secret".toList, SampleProperty.text, [.ofText "model(skip)".toList]⟩,
        ⟨"r#type".toList, SampleProperty.text, [.ofText "serde(default)".toList]⟩,
        ⟨"hash".toList, SampleProperty.int .u64,
          [.ofText "serde(skip)".toList, .ofText "model(skip)".toList]⟩,
        ⟨"age".toList, .optional (SampleProperty.int .u8), []⟩ ]
    variants := [] }

/-- Two accounts, of which only the fields `type` and `age` are seen. -/
theorem Declaration.positions_agree_account :
    let declaration := Sample.account
    let model : Model (Property Sample) :=
      ⟨declaration.name, declaration.fields.map FieldDeclaration.toField⟩
    let old : Item := [.string ['a'], .string ['b'], .integer 5, .absent]
    let new : Item := [.string ['c'], .string ['d'], .integer 6, .present (.integer 44)]
    declaration.model = .ok model ∧
    model.schema.fields =
      [⟨"type".toList, .scalar .string⟩, ⟨"age".toList, .nullable (.scalar (.integer .u8))⟩] ∧
    (model.view (fun _ => model) new).field? 1 = some (.value (.signed 44)) ∧
    (model.view (fun _ => model) new).field? 2 = none ∧
    (model.copyField old new 1)[3]? = some (.present (.integer 44)) ∧
    (model.copyField old new 1)[2]? = some (.integer 5) ∧
    model.copyField old new 2 = old := by
  intro declaration model old new
  have accepted : declaration.model = .ok model := rfl
  have oldFits : Stored.FieldsFit (fun _ => model) model.fields old :=
    .cons (.scalar rfl) (.cons (.scalar rfl) (.cons (.scalar rfl) (.cons .absent .nil)))
  have newFits : Stored.FieldsFit (fun _ => model) model.fields new :=
    .cons (.scalar rfl) (.cons (.scalar rfl) (.cons (.scalar rfl)
      (.cons (.present (.scalar rfl)) .nil)))
  obtain ⟨-, positions, past⟩ := positions_agree (fun _ => model) accepted
  have age : declaration.seen[1]? = some (⟨"age".toList, _, []⟩, 3) := rfl
  have standsFor := positions 1 _ 3 age
  obtain ⟨data, standing, shown, -⟩ := standsFor.viewed new newFits
  cases standing
  have copied := standsFor.copied old new oldFits newFits
  obtain ⟨unseen, unchanged⟩ := past 2 (Nat.le_refl 2)
  exact ⟨accepted, rfl, shown, unseen new newFits, copied 3, copied 2, unchanged old new⟩

end TextQuery
