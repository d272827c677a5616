import TextQuery.Proofs.Model.Positions

/-!
Which declarations are accepted, and why others are refused. The checks compete in a fixed order:
generic parameters come first, then the kind of the declaration, then its fields or its variants. Of
the fields the first one with a bad `model` attribute counts, and of its attributes the first bad
one, even behind an attribute that hides the field. `AttributeBody.Faulty`,
`Declaration.RefusedAsModel` and `Declaration.RefusedAsEnumeration` say this case by case. Main
statement: `Declaration.accepts_exactly_supported`.
-/

namespace TextQuery

/-! ## Attributes -/

namespace AttributeBody

/-- What is wrong with what follows the name of a `model` attribute, unless it is the one argument
`skip`. -/
inductive Faulty : AttributeBody → AttributeError → Prop
  | nothing : Faulty .nothing .missingArguments
  | assignment : Faulty .assignment .assigned
  | empty : Faulty (.arguments []) .noArgument
  | notWord {first : Lexeme} {more : List Lexeme} :
    first.kind ≠ .word → Faulty (.arguments (first :: more)) .notWord
  | reserved {word : Text} {more : List Lexeme} :
    word ∈ Attribute.reservedWords →
    Faulty (.arguments (⟨.word, word⟩ :: more)) (.reservedWord word)
  | trailing {word : Text} {next : Lexeme} {more : List Lexeme} :
    word ∉ Attribute.reservedWords →
    Faulty (.arguments (⟨.word, word⟩ :: next :: more)) .trailingArgument
  | unknown {word : Text} :
    word ∉ Attribute.reservedWords → word ≠ "skip".toList →
    Faulty (.arguments [⟨.word, word⟩]) (.unknownArgument word)

end AttributeBody

namespace Attribute

theorem faulty_of_argument {body : AttributeBody} {error : AttributeError}
    (failed : argument body = .error error) : body.Faulty error := by
  unfold argument at failed
  split at failed
  · cases failed
    exact .nothing
  · cases failed
    exact .assignment
  · cases failed
    exact .empty
  · split at failed
    · rename_i reserved
      cases failed
      exact .reserved (List.contains_iff_mem.1 reserved)
    · rename_i allowed
      split at failed
      · cases failed
      · rename_i longer
        cases failed
        obtain ⟨next, more, rfl⟩ := List.exists_cons_of_ne_nil (mt List.isEmpty_iff.2 longer)
        exact .trailing (mt List.contains_iff_mem.2 allowed)
  · rename_i first more other
    cases failed
    refine .notWord fun isWord => ?_
    obtain ⟨kind, word⟩ := first
    cases isWord
    exact other word rfl

/-- An attribute is refused if it is a `model` attribute that is faulty. -/
theorem isSkip_eq_error_iff {given : Attribute} {error : AttributeError} :
    given.isSkip = .error error ↔ given.isModel = true ∧ given.body.Faulty error := by
  unfold isSkip
  refine ⟨?_, ?_⟩
  · intro failed
    split at failed
    · rename_i meant
      refine ⟨meant, ?_⟩
      split at failed
      · rename_i argumentFailed
        cases failed
        exact faulty_of_argument argumentFailed
      · rename_i word read
        obtain ⟨body, allowed⟩ := argument_eq_ok_iff.1 read
        split at failed
        · cases failed
        · rename_i other
          cases failed
          rw [body]
          exact .unknown (mt List.contains_iff_mem.2 (Bool.eq_false_iff.1 allowed)) other
    · cases failed
  · rintro ⟨meant, faulty⟩
    rw [if_pos meant]
    obtain ⟨path, body⟩ := given
    cases faulty with
    | nothing => rfl
    | assignment => rfl
    | empty => rfl
    | @notWord first more other =>
      obtain ⟨kind, word⟩ := first
      cases kind with
      | word => exact absurd rfl other
      | _ => rfl
    | reserved member =>
      unfold argument
      dsimp only
      rw [if_pos (List.contains_iff_mem.2 member)]
    | trailing allowed =>
      unfold argument
      dsimp only
      rw [if_neg (mt List.contains_iff_mem.1 allowed)]
      rfl
    | unknown allowed other =>
      have unreserved := Bool.eq_false_iff.2 (mt List.contains_iff_mem.1 allowed)
      have read := argument_eq_ok_iff.2 ⟨rfl, unreserved⟩
      rw [read]
      exact if_neg other

end Attribute

variable {τ : Type}

/-! ## Fields -/

namespace FieldDeclaration

/-- The first bad `model` attribute of a field, all of whose attributes before it are supported. -/
def FirstFault (declared : FieldDeclaration τ) (error : AttributeError) : Prop :=
  ∃ before given after, declared.attributes = before ++ given :: after ∧
    (∀ earlier ∈ before, earlier.isModel = true → earlier = .skip) ∧
    given.isModel = true ∧ given.body.Faulty error

theorem field_eq_error_iff {declared : FieldDeclaration τ} {error : DeclarationError} :
    declared.field = .error error ↔
      ∃ fault, declared.FirstFault fault ∧ error = .badAttribute fault := by
  have supported : ∀ given : Attribute,
      (∃ skips, given.isSkip.mapError DeclarationError.badAttribute = .ok skips) ↔
        (given.isModel = true → given = .skip) := by
    intro given
    simp only [mapError_eq_ok_iff, Attribute.isSkip_eq_ok_iff, exists_and_left, exists_eq',
      and_true]
  unfold FieldDeclaration.field
  rw [← errorOf?_eq_some_iff, errorOf?_bind_pure, errorOf?_eq_some_iff, mapM_eq_error_iff]
  simp only [supported, mapError_eq_error_iff, Attribute.isSkip_eq_error_iff]
  refine ⟨?_, ?_⟩
  · rintro ⟨before, given, after, parted, fine, fault, ⟨meant, faulty⟩, rfl⟩
    exact ⟨fault, ⟨before, given, after, parted, fine, meant, faulty⟩, rfl⟩
  · rintro ⟨fault, ⟨before, given, after, parted, fine, meant, faulty⟩, rfl⟩
    exact ⟨before, given, after, parted, fine, fault, ⟨meant, faulty⟩, rfl⟩

end FieldDeclaration

/-! ## Declarations -/

namespace Declaration

/-- Why a declaration is no model. Of the fields, the first one with a bad attribute counts. -/
inductive RefusedAsModel (declaration : Declaration τ) : DeclarationError → Prop
  | generic : declaration.isGeneric = true → RefusedAsModel declaration .genericModel
  | unnamed : declaration.isGeneric = false →
    declaration.kind = .tuple ∨ declaration.kind = .unit →
    RefusedAsModel declaration .unnamedFields
  | otherKind : declaration.isGeneric = false →
    declaration.kind = .enum ∨ declaration.kind = .union →
    RefusedAsModel declaration .notStruct
  | field {before after : List (FieldDeclaration τ)} {declared : FieldDeclaration τ}
      {fault : AttributeError} :
    declaration.isGeneric = false → declaration.kind = .struct →
    declaration.fields = before ++ declared :: after →
    (∀ earlier ∈ before, earlier.IsSupported) → declared.FirstFault fault →
    RefusedAsModel declaration (.badAttribute fault)

/-- Why a declaration is no enumeration. -/
inductive RefusedAsEnumeration (declaration : Declaration τ) : DeclarationError → Prop
  | generic : declaration.isGeneric = true → RefusedAsEnumeration declaration .genericEnumeration
  | otherKind : declaration.isGeneric = false → declaration.kind ≠ .enum →
    RefusedAsEnumeration declaration .notEnum
  | empty : declaration.isGeneric = false → declaration.kind = .enum → declaration.variants = [] →
    RefusedAsEnumeration declaration .noVariants
  | withFields {variant : Variant} : declaration.isGeneric = false → declaration.kind = .enum →
    variant ∈ declaration.variants → variant.plain = false →
    RefusedAsEnumeration declaration .variantWithFields

variable {declaration : Declaration τ} {error : DeclarationError}

theorem model_eq_error_iff :
    declaration.model = .error error ↔ declaration.RefusedAsModel error := by
  have traversed : (do
      return Model.mk declaration.name (← declaration.fields.mapM FieldDeclaration.field) :
        Except DeclarationError (Model τ)) = .error error ↔
      declaration.fields.mapM FieldDeclaration.field = .error error := by
    rw [← errorOf?_eq_some_iff, errorOf?_bind_pure, errorOf?_eq_some_iff]
  have supported : ∀ declared : FieldDeclaration τ,
      (∃ field, declared.field = .ok field) ↔ declared.IsSupported := by
    intro declared
    simp only [FieldDeclaration.field_eq_ok_iff, exists_and_left, exists_eq', and_true]
  refine ⟨?_, ?_⟩
  · intro failed
    unfold Declaration.model at failed
    split at failed
    · rename_i generic
      cases failed
      exact .generic generic
    · rename_i plain
      have plain := Bool.eq_false_iff.2 plain
      split at failed
      · rename_i isStruct
        rw [traversed, mapM_eq_error_iff] at failed
        obtain ⟨before, declared, after, parted, fine, failed⟩ := failed
        obtain ⟨fault, first, rfl⟩ := FieldDeclaration.field_eq_error_iff.1 failed
        exact .field plain isStruct parted
          (fun earlier member => (supported earlier).1 (fine earlier member)) first
      · rename_i isTuple
        cases failed
        exact .unnamed plain (Or.inl isTuple)
      · rename_i isUnit
        cases failed
        exact .unnamed plain (Or.inr isUnit)
      · rename_i noStruct noTuple noUnit
        cases failed
        refine .otherKind plain ?_
        cases kind : declaration.kind with
        | struct => exact absurd kind noStruct
        | tuple => exact absurd kind noTuple
        | unit => exact absurd kind noUnit
        | enum => exact Or.inl rfl
        | union => exact Or.inr rfl
  · intro refused
    unfold Declaration.model
    cases refused with
    | generic generic => exact if_pos generic
    | unnamed plain kind =>
      rw [plain, if_neg Bool.false_ne_true]
      rcases kind with isTuple | isUnit
      · rw [isTuple]
      · rw [isUnit]
    | otherKind plain kind =>
      rw [plain, if_neg Bool.false_ne_true]
      rcases kind with isEnum | isUnion
      · rw [isEnum]
      · rw [isUnion]
    | field plain isStruct parted fine first =>
      rw [plain, if_neg Bool.false_ne_true, isStruct]
      refine traversed.2 (mapM_eq_error_iff.2 ⟨_, _, _, parted, ?_, ?_⟩)
      · exact fun earlier member => (supported earlier).2 (fine earlier member)
      · exact FieldDeclaration.field_eq_error_iff.2 ⟨_, first, rfl⟩

theorem enumeration_eq_error_iff :
    declaration.enumeration = .error error ↔ declaration.RefusedAsEnumeration error := by
  refine ⟨?_, ?_⟩
  · intro failed
    unfold Declaration.enumeration at failed
    split at failed
    · rename_i generic
      cases failed
      exact .generic generic
    · rename_i plain
      have plain := Bool.eq_false_iff.2 plain
      split at failed
      · rename_i otherKind
        cases failed
        exact .otherKind plain otherKind
      · rename_i isEnum
        have isEnum := Decidable.not_not.1 isEnum
        split at failed
        · rename_i empty
          cases failed
          exact .empty plain isEnum empty
        · split at failed
          · rename_i some
            cases failed
            obtain ⟨variant, member, fields⟩ := List.any_eq_true.1 some
            exact .withFields plain isEnum member (Bool.not_eq_true' _ ▸ fields)
          · cases failed
  · intro refused
    unfold Declaration.enumeration
    cases refused with
    | generic generic => exact if_pos generic
    | otherKind plain otherKind => rw [plain, if_neg Bool.false_ne_true, if_pos otherKind]
    | empty plain isEnum empty =>
      rw [plain, if_neg Bool.false_ne_true, if_neg (not_not_intro isEnum), if_pos empty]
    | withFields plain isEnum member fields =>
      have some : declaration.variants.any (!·.plain) = true :=
        List.any_eq_true.2 ⟨_, member, by rw [fields]; rfl⟩
      rw [plain, if_neg Bool.false_ne_true, if_neg (not_not_intro isEnum),
        if_neg (List.ne_nil_of_mem member), if_pos some]

/-- A declaration is accepted as a model exactly if it is a struct with named fields and without
generic parameters, and every `model` attribute of its fields is `model(skip)`, any number of times
and beside other attributes. It is accepted as an enumeration exactly if it is an enumeration
without generic parameters that has variants, all of them plain. Every other declaration is refused
for what comes first in these orders. -/
theorem accepts_exactly_supported (declaration : Declaration τ) :
    (∀ model, declaration.model = .ok model ↔
      declaration.isGeneric = false ∧ declaration.kind = .struct ∧
        (∀ declared ∈ declaration.fields, declared.IsSupported) ∧
        model = ⟨declaration.name, declaration.fields.map FieldDeclaration.toField⟩) ∧
    (∀ error, declaration.model = .error error ↔ declaration.RefusedAsModel error) ∧
    (∀ enumeration, declaration.enumeration = .ok enumeration ↔
      declaration.isGeneric = false ∧ declaration.kind = .enum ∧ declaration.variants ≠ [] ∧
        (∀ variant ∈ declaration.variants, variant.plain = true) ∧
        enumeration = ⟨declaration.name, declaration.variants.map (·.name)⟩) ∧
    ∀ error, declaration.enumeration = .error error ↔ declaration.RefusedAsEnumeration error :=
  ⟨fun _ => model_eq_ok_iff, fun _ => model_eq_error_iff, fun _ => enumeration_eq_ok_iff,
    fun _ => enumeration_eq_error_iff⟩

end Declaration

/-- A struct whose first field is skipped twice, and whose second and third ones have bad
attributes; those of the second stand behind one that hides the field. -/
def Sample.doubtful : Declaration (Property Sample) :=
  { name := "Doubtful".toList
    kind := .struct
    generics := []
    fields :=
      [ ⟨"id".toList, SampleProperty.text,
          [.ofText "model(skip)".toList, .ofText "serde(default)".toList,
            .ofText "model[skip]".toList]⟩,
        ⟨"secret".toList, SampleProperty.text,
          [.ofText "model(skip)".toList, .ofText "doc = \"no\"".toList,
            .ofText "model(hidden)".toList, .ofText "model".toList]⟩,
        ⟨"late".toList, SampleProperty.text, [.ofText "model = \"skip\"".toList]⟩ ]
    variants := [] }

/-- The first bad attribute of the second field is reported, and nothing at all of the third; with
generic parameters none of them is looked at. As an enumeration a struct is refused for its kind. -/
theorem Declaration.accepts_exactly_supported_doubtful :
    Sample.doubtful.model = .error (.badAttribute (.unknownArgument "hidden".toList)) ∧
    { Sample.doubtful with generics := "T".toList }.model = .error .genericModel ∧
    Sample.doubtful.enumeration = .error .notEnum := by
  obtain ⟨-, refused, -, enumeration⟩ := accepts_exactly_supported Sample.doubtful
  obtain ⟨-, generic, -, -⟩ :=
    accepts_exactly_supported { Sample.doubtful with generics := "T".toList }
  refine ⟨?_, ?_, ?_⟩
  · have isFirst : Sample.doubtful.fields =
        [Sample.doubtful.fields[0]] ++ Sample.doubtful.fields[1] :: [Sample.doubtful.fields[2]] :=
      rfl
    have supported : ∀ given ∈ Sample.doubtful.fields[0].attributes,
        given.isModel = true → given = .skip := by
      decide +kernel
    have fault : Sample.doubtful.fields[1].FirstFault (.unknownArgument "hidden".toList) :=
      ⟨[.ofText "model(skip)".toList, .ofText "doc = \"no\"".toList],
        .ofText "model(hidden)".toList, [.ofText "model".toList], rfl, by decide +kernel,
        by decide +kernel, .unknown (by decide) (by decide)⟩
    exact (refused _).2 (.field (by decide +kernel) rfl isFirst
      (List.forall_mem_singleton.2 supported) fault)
  · exact (generic _).2 (.generic (by decide +kernel))
  · exact (enumeration _).2 (.otherKind (by decide +kernel) (by decide))

end TextQuery
