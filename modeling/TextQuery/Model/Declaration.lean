import TextQuery.Model.Attribute
import TextQuery.Model.Item

/-!
Declarations of models and enumerations, before they are known to be supported. A model is declared
as a struct with named fields, an enumeration as a list of plain variants, and neither has generic
parameters. `Declaration.model` and `Declaration.enumeration` report the first fault: generic
parameters, then the kind of the declaration, then its fields or variants in order.
-/

namespace TextQuery

/-- The kinds of declarations. -/
inductive DeclarationKind where
  /-- A struct with named fields. -/
  | struct
  /-- A struct with numbered fields. -/
  | tuple
  /-- A struct without fields. -/
  | unit
  | enum
  | union
deriving DecidableEq, Repr

/-- A declared field, with its attributes. -/
structure FieldDeclaration (τ : Type) where
  ident : Text
  type : τ
  attributes : List Attribute
deriving DecidableEq, Repr

/-- A declared variant; a plain one has no fields. A variant may be given a number, which does not
count for its position. -/
structure Variant where
  name : Text
  plain : Bool
  number : Option Int
deriving DecidableEq, Repr

/-- A declaration. -/
structure Declaration (τ : Type) where
  name : Text
  kind : DeclarationKind
  /-- The text of the generic parameters. -/
  generics : Text
  fields : List (FieldDeclaration τ)
  variants : List Variant
deriving DecidableEq, Repr

/-- Why a declaration is not supported. -/
inductive DeclarationError where
  | genericModel
  | notStruct
  | unnamedFields
  | badAttribute (error : AttributeError)
  | genericEnumeration
  | notEnum
  | noVariants
  | variantWithFields
deriving DecidableEq, Repr

/-- The message for the author of the declaration. -/
def DeclarationError.message : DeclarationError → Text
  | genericModel => "Generic models are not supported".toList
  | notStruct => "Only structs are supported".toList
  | unnamedFields => "Only named fields are supported".toList
  | badAttribute error => error.message
  | genericEnumeration => "Generic enumerations are not supported".toList
  | notEnum => "Only enums are supported".toList
  | noVariants => "Enumerations need at least one variant".toList
  | variantWithFields => "Only unit variants are supported".toList

variable {τ : Type}

/-- The field of a model; every attribute is checked, and one that hides the field is enough. -/
def FieldDeclaration.field (declared : FieldDeclaration τ) :
    Except DeclarationError (Field τ) := do
  let skips ← declared.attributes.mapM fun given =>
    given.isSkip.mapError DeclarationError.badAttribute
  return ⟨declared.ident, declared.type, skips.any id⟩

namespace Declaration

/-- Whether the declaration has generic parameters. -/
def isGeneric (declaration : Declaration τ) : Bool :=
  !(Lexeme.tokens declaration.generics).isEmpty

/-- The model that is declared. -/
def model (declaration : Declaration τ) : Except DeclarationError (Model τ) :=
  if declaration.isGeneric then .error .genericModel
  else
    match declaration.kind with
    | .struct => do
      return ⟨declaration.name, ← declaration.fields.mapM FieldDeclaration.field⟩
    | .tuple => .error .unnamedFields
    | .unit => .error .unnamedFields
    | _ => .error .notStruct

/-- The enumeration that is declared. -/
def enumeration (declaration : Declaration τ) : Except DeclarationError EnumSchema :=
  if declaration.isGeneric then .error .genericEnumeration
  else if declaration.kind ≠ .enum then .error .notEnum
  else if declaration.variants = [] then .error .noVariants
  else if declaration.variants.any (!·.plain) then .error .variantWithFields
  else .ok ⟨declaration.name, declaration.variants.map (·.name)⟩

end Declaration

/-! ## What a model provides -/

/-- What is provided for a model: the descriptors of its schema, the fields that are copied and
viewed at each position, and its roles. -/
structure Outline (τ : Type) where
  typeName : Text
  descriptors : List (Text × τ)
  copied : List (Nat × Text)
  viewed : List (Nat × Text)
  roles : List Text
deriving DecidableEq, Repr

/-- The identifiers of the fields that queries see, with their positions. -/
def Model.positions (model : Model τ) : List (Nat × Text) :=
  model.queryable.zipIdx.map fun (field, index) => (index, field.ident)

/-- The identifiers of the fields that are copied, with the positions at which they are: a position
leads to a place among all fields. -/
def Model.copies (model : Model τ) : List (Nat × Text) :=
  model.places.zipIdx.map fun (place, index) =>
    (index, ((model.fields[place]?).map (·.ident)).getD [])

/-- What is provided for a model. -/
def Model.outline (model : Model τ) : Outline τ :=
  { typeName := model.name
    descriptors := model.queryable.map fun field => (field.name, field.type)
    copied := model.copies
    viewed := model.positions
    roles := ["Model".toList, "Record".toList, "Property".toList] }

/-- The text of a type without the comments and the white space in it. -/
def compactType (text : Text) : Text :=
  ((Lexeme.tokens text).flatMap (·.text)).filter (!Text.isWhiteSpace ·)

end TextQuery
