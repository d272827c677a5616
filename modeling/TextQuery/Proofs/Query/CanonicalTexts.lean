import TextQuery.Proofs.Query.Orderings
import TextQuery.Proofs.Query.Selections
import TextQuery.Samples.Catalog
import Mathlib.Logic.Relation

/-!
Texts of what was compiled. A resolved path, an order and a projection are written with the names of
the schema, which need not be the spellings they were asked for with. If names can stand as steps of
paths, these texts compile to the same path, order and projection again, even where several names of
a schema are equal up to case. Main statement: `Query.canonical_texts_recompile`.
-/

namespace TextQuery

variable {ι : Type}

/-! ## Names of all reachable schemas -/

namespace FieldType

/-- The schema of the objects in a type, under all of its layers. -/
def innermost? : FieldType ι → Option ι
  | object schema => some schema
  | nullable inner => inner.innermost?
  | collection element => element.innermost?
  | scalar _ => none
  | enum _ => none

theorem innermost?_underlying (type : FieldType ι) :
    type.underlying.innermost? = type.innermost? := by
  induction type with
  | nullable inner ih => exact ih
  | scalar type => rfl
  | enum enumeration => rfl
  | object schema => rfl
  | collection element => rfl

theorem innermost?_of_object? {type : FieldType ι} {schema : ι}
    (object : type.object? = some schema) : type.innermost? = some schema := by
  rw [← innermost?_underlying, object?_eq_some_iff.1 object]
  rfl

theorem innermost?_of_element? {type element : FieldType ι}
    (collection : type.element? = some element) : type.innermost? = element.innermost? := by
  rw [← innermost?_underlying, element?_eq_some_iff.1 collection]
  rfl

end FieldType

namespace Schema

variable {catalog : Catalog ι} {schema : Schema ι}

/-- A field of the schema holds objects of the schema `next`. -/
def Refers (catalog : Catalog ι) (schema next : Schema ι) : Prop :=
  ∃ field ∈ schema.fields, ∃ name, field.type.innermost? = some name ∧ catalog name = next

/-- The schemas that are reached from a schema, itself included. -/
abbrev Reaches (catalog : Catalog ι) : Schema ι → Schema ι → Prop :=
  Relation.ReflTransGen (Refers catalog)

/-- In the schema and in all that it reaches, every name can stand as a step of a path. -/
def Writable (catalog : Catalog ι) (schema : Schema ι) : Prop :=
  ∀ next, Reaches catalog schema next → ∀ name ∈ next.names, Grammar.IsStep name

/-- A catalog leads nowhere but to its own schemas. -/
theorem exists_of_reaches {type : ι} {next : Schema ι}
    (reaches : Reaches catalog (catalog type) next) :
    ∃ type', catalog type' = next := by
  cases reaches with
  | refl => exact ⟨type, rfl⟩
  | tail _ refers =>
    obtain ⟨-, -, type', -, same⟩ := refers
    exact ⟨type', same⟩

theorem writable_of_catalog (names : ∀ type, ∀ name ∈ (catalog type).names, Grammar.IsStep name)
    (type : ι) : (catalog type).Writable catalog := by
  intro next reaches
  obtain ⟨type', rfl⟩ := exists_of_reaches reaches
  exact names type'

end Schema

/-! ## Paths -/

namespace PropertyPath

variable {catalog : Catalog ι} {root : Schema ι}

section Resolves

variable {steps : List Text} {segments : List (Segment ι)} {hop : Option Nat}
  {terminal : FieldType ι}

/-- Every segment is a field of a schema that is reached from the root. -/
theorem Resolves.exists_field (resolves : Resolves catalog root steps segments hop terminal) :
    ∀ segment ∈ segments, ∃ next, Schema.Reaches catalog root next ∧
      ∃ field ∈ next.fields, segment.name = field.name ∧ segment.type = field.type := by
  have own : ∀ {schema : Schema ι} {step : Text} {index : Nat} {field : FieldDescriptor ι},
      schema.field? step = some (index, field) → field ∈ schema.fields :=
    fun found => List.mem_of_getElem? (Schema.getElem?_of_field? found)
  induction resolves with
  | last found single =>
    exact List.forall_mem_singleton.2 ⟨_, .refl, _, own found, rfl, rfl⟩
  | lastAcross found collection flat =>
    exact List.forall_mem_singleton.2 ⟨_, .refl, _, own found, rfl, rfl⟩
  | through found object resolves ih =>
    refine List.forall_mem_cons.2 ⟨⟨_, .refl, _, own found, rfl, rfl⟩, fun segment member => ?_⟩
    obtain ⟨next, reaches, isField⟩ := ih segment member
    have objects := FieldType.innermost?_of_object? object
    exact ⟨next, .head ⟨_, own found, _, objects, rfl⟩ reaches, isField⟩
  | across found collection object resolves ih =>
    refine List.forall_mem_cons.2 ⟨⟨_, .refl, _, own found, rfl, rfl⟩, fun segment member => ?_⟩
    obtain ⟨next, reaches, isField⟩ := ih segment member
    have objects := (FieldType.innermost?_of_element? collection).trans
      (FieldType.innermost?_of_object? object)
    exact ⟨next, .head ⟨_, own found, _, objects, rfl⟩ reaches, isField⟩

theorem Resolves.isStep (resolves : Resolves catalog root steps segments hop terminal)
    (writable : root.Writable catalog) : ∀ segment ∈ segments, Grammar.IsStep segment.name := by
  intro segment member
  obtain ⟨next, reaches, field, isField, named, -⟩ := resolves.exists_field segment member
  rw [named]
  exact writable next reaches field.name (List.mem_map_of_mem isField)

/-- Every step can be written as its field is declared: the first field that matches it up to case
also is the first that matches its own name. -/
theorem Resolves.of_names (resolves : Resolves catalog root steps segments hop terminal)
    (trimmed : ∀ segment ∈ segments, segment.name.trim = segment.name) :
    Resolves catalog root (segments.map (·.name)) segments hop terminal := by
  have own : ∀ {schema : Schema ι} {step : Text} {index : Nat} {field : FieldDescriptor ι},
      schema.field? step = some (index, field) → field.name.trim = field.name →
      schema.field? field.name.trim = some (index, field) := by
    intro schema step index field found same
    rw [same]
    exact Schema.field?_name found
  induction resolves with
  | last found single =>
    exact .last (own found (trimmed _ List.mem_cons_self)) single
  | lastAcross found collection flat =>
    exact .lastAcross (own found (trimmed _ List.mem_cons_self)) collection flat
  | through found object resolves ih =>
    obtain ⟨first, rest⟩ := List.forall_mem_cons.1 trimmed
    exact .through (own found first) object (ih rest)
  | across found collection object resolves ih =>
    obtain ⟨first, rest⟩ := List.forall_mem_cons.1 trimmed
    exact .across (own found first) collection object (ih rest)

end Resolves

/-- A path as it is written: with the declared names of its segments. -/
def written (path : PropertyPath ι) : PathExpr :=
  ⟨path.segments.map (·.name)⟩

section Written

variable {expr : PathExpr} {path : PropertyPath ι} (resolved : resolve catalog root expr = .ok path)

include resolved

theorem written_ne_nil : path.written.steps ≠ [] :=
  mt List.map_eq_nil_iff.1 (resolve_eq_ok_iff.1 resolved).2.segments_ne_nil

/-- A path with its declared names resolves to itself. -/
theorem resolve_written_of_trimmed
    (trimmed : ∀ segment ∈ path.segments, segment.name.trim = segment.name) :
    resolve catalog root path.written = .ok path := by
  obtain ⟨rootEq, resolves⟩ := resolve_eq_ok_iff.1 resolved
  exact resolve_eq_ok_iff.2 ⟨rootEq, resolves.of_names trimmed⟩

variable (writable : root.Writable catalog)

include writable

theorem isStep_written : ∀ step ∈ path.written.steps, Grammar.IsStep step :=
  List.forall_mem_map.2 ((resolve_eq_ok_iff.1 resolved).2.isStep writable)

/-- The text of a path is read as the path with its declared names. -/
theorem read_text : PathExpr.read path.text = .ok path.written :=
  PathExpr.read_text (isStep_written resolved writable) (written_ne_nil resolved)

theorem resolve_written : resolve catalog root path.written = .ok path :=
  resolve_written_of_trimmed resolved fun segment member =>
    ((resolve_eq_ok_iff.1 resolved).2.isStep writable segment member).2.1

end Written

end PropertyPath

/-! ## Orders -/

/-- The text of an order gives its direction, so no default is asked for. -/
theorem Order.compile_display {catalog : Catalog ι} {root : Schema ι} {options : CompileOptions}
    (writable : root.Writable catalog) {text : Text} {order : Order ι}
    (compiled : Order.compile catalog options root text = .ok (some order))
    (options' : CompileOptions) :
    Order.compile catalog options' root order.display = .ok (some order) := by
  obtain ⟨given, -, single, -⟩ := Order.compile_eq_some_iff.1 compiled
  obtain ⟨resolved, ends⟩ := PropertyPath.resolveSingle_eq_ok_iff.1 single
  refine Order.compile_eq_some_iff.2 ⟨⟨order.path.written, some order.direction⟩, ?_, ?_, rfl⟩
  · exact OrderBy.read_text (PropertyPath.isStep_written resolved writable)
      (PropertyPath.written_ne_nil resolved) order.direction
  · exact PropertyPath.resolveSingle_eq_ok_iff.2
      ⟨PropertyPath.resolve_written resolved writable, ends⟩

/-! ## Projections -/

namespace Projection

variable {root : Schema ι}

/-- The names of fields that are found under them lead back to their positions. -/
theorem mapM_position_fieldNames {fields : List Nat}
    (found : ∀ index ∈ fields, ∃ field, root.fields[index]? = some field ∧
      root.field? field.name = some (index, field)) :
    (fieldNames ⟨fields⟩ root).mapM (position root) = .ok fields := by
  rw [mapM_eq_ok_iff]
  induction fields with
  | nil => exact .nil
  | cons index more ih =>
    obtain ⟨⟨field, held, own⟩, rest⟩ := List.forall_mem_cons.1 found
    have names : fieldNames ⟨index :: more⟩ root = field.name :: fieldNames ⟨more⟩ root := by
      unfold fieldNames
      rw [List.filterMap_cons, held]
      rfl
    rw [names]
    exact .cons (position_eq_ok_iff.2 ⟨field, own⟩) (ih rest)

theorem mem_names_of_mem_fieldNames {projection : Projection} {name : Text}
    (member : name ∈ projection.fieldNames root) : name ∈ root.names := by
  obtain ⟨index, -, named⟩ := List.mem_filterMap.1 member
  obtain ⟨field, held, rfl⟩ := Option.map_eq_some_iff.1 named
  exact List.mem_of_getElem? (Schema.getElem?_names held)

/-- The declared names of the selected fields select the same fields. -/
theorem compile_fieldNames {text : Text} {projection : Projection}
    (names : ∀ name ∈ root.names, Grammar.IsStep name)
    (compiled : compile root text = .ok (some projection)) :
    compile root (Text.join [','] (projection.fieldNames root)) = .ok (some projection) := by
  have back : (projection.fieldNames root).mapM (position root) = .ok projection.fields :=
    mapM_position_fieldNames fun index member => field_of_mem_fields compiled member
  have nonempty : projection.fieldNames root ≠ [] := by
    intro empty
    rw [empty] at back
    exact fields_ne_nil compiled (Except.ok.inj back).symm
  have plain : ∀ name ∈ projection.fieldNames root,
      name ≠ [] ∧ name.trim = name ∧ ',' ∉ name := by
    intro name member
    obtain ⟨visible, trimmed, clean⟩ := names name (mem_names_of_mem_fieldNames member)
    exact ⟨visible, trimmed, fun comma => absurd (clean ',' comma) (by decide)⟩
  have distinct : ([] ++ projection.fields).Nodup := nodup_fields compiled
  refine compile_eq_some_iff.2 ⟨?_, projection.fields, ?_, ?_⟩
  · rw [selectedNames_join nonempty plain]
    exact nonempty
  · rw [selectedNames_join nonempty plain]
    exact back
  · rw [foldl_add_of_nodup distinct]
    rfl

end Projection

/-! ## All artifacts -/

/-- The texts of what was compiled compile to the same again, if every name in the schema and in
those that it reaches can stand as a step of a path: the text of a path resolves to the path, that
of an order compiles to the order whatever the options, and the names of a projection compile to the
projection. -/
theorem Query.canonical_texts_recompile (catalog : Catalog ι) (root : Schema ι)
    (writable : root.Writable catalog) :
    (∀ (expr : PathExpr) (path : PropertyPath ι),
      PropertyPath.resolve catalog root expr = .ok path →
      ∃ written, PathExpr.read path.text = .ok written ∧
        PropertyPath.resolve catalog root written = .ok path) ∧
    (∀ (options : CompileOptions) (text : Text) (order : Order ι),
      Order.compile catalog options root text = .ok (some order) →
      ∀ options', Order.compile catalog options' root order.display = .ok (some order)) ∧
    (∀ (text : Text) (projection : Projection),
      Projection.compile root text = .ok (some projection) →
      Projection.compile root (Text.join [','] (projection.fieldNames root)) =
        .ok (some projection)) := by
  refine ⟨?_, ?_, ?_⟩
  · intro expr path resolved
    exact ⟨path.written, PropertyPath.read_text resolved writable,
      PropertyPath.resolve_written resolved writable⟩
  · intro options text order compiled
    exact Order.compile_display writable compiled
  · intro text projection compiled
    exact Projection.compile_fieldNames (writable root .refl) compiled

theorem Sample.writable (sample : Sample) : (catalog sample).Writable catalog := by
  refine Schema.writable_of_catalog (fun sample => ?_) sample
  cases sample <;> decide +kernel

/-- A path, an order by default in descending direction and a selection, asked for in other
spellings than the declared ones. The names `name` and `NAME` of one schema are equal up to case. -/
theorem Query.canonical_texts_recompile_spellings :
    (∃ path, PropertyPath.resolve Sample.catalog (Sample.catalog .person)
        ⟨["FRIENDS".toList, " Address".toList, "STREET".toList]⟩ = .ok path ∧
      path.text = "friends.address.street".toList ∧
      ∃ written, PathExpr.read path.text = .ok written ∧
        PropertyPath.resolve Sample.catalog (Sample.catalog .person) written = .ok path) ∧
    (∃ order, Order.compile Sample.catalog { defaultDirection := .desc } (Sample.catalog .uni)
        "STRAẞE".toList = .ok (some order) ∧
      order.display = "Straße=Desc".toList ∧
      Order.compile Sample.catalog {} (Sample.catalog .uni) order.display = .ok (some order)) ∧
    (∃ projection, Projection.compile (Sample.catalog .uni) "NAME, naÏVE,Name".toList =
        .ok (some projection) ∧
      projection.fieldNames (Sample.catalog .uni) = ["name".toList, "naïve".toList] ∧
      Projection.compile (Sample.catalog .uni)
          (Text.join [','] (projection.fieldNames (Sample.catalog .uni))) =
        .ok (some projection)) := by
  obtain ⟨paths, -, -⟩ := canonical_texts_recompile Sample.catalog (Sample.catalog .person)
    (Sample.writable .person)
  obtain ⟨-, orders, projections⟩ := canonical_texts_recompile Sample.catalog (Sample.catalog .uni)
    (Sample.writable .uni)
  refine ⟨?_, ?_, ?_⟩
  · have resolves : (PropertyPath.resolve Sample.catalog (Sample.catalog .person)
        ⟨["FRIENDS".toList, " Address".toList, "STREET".toList]⟩).toOption.any
          (·.text = "friends.address.street".toList) := by decide +kernel
    obtain ⟨path, resolved, shown⟩ := exists_of_any_toOption resolves
    exact ⟨path, resolved, of_decide_eq_true shown, paths _ path resolved⟩
  · have compiles : (Order.compile Sample.catalog { defaultDirection := .desc }
        (Sample.catalog .uni) "STRAẞE".toList).toOption.any
          (·.any (·.display = "Straße=Desc".toList)) := by decide +kernel
    obtain ⟨found, compiled, shown⟩ := exists_of_any_toOption compiles
    obtain ⟨order, rfl, shown⟩ := (Option.any_eq_true _ _).1 shown
    exact ⟨order, compiled, of_decide_eq_true shown, orders _ _ order compiled {}⟩
  · have compiles : (Projection.compile (Sample.catalog .uni)
        "NAME, naÏVE,Name".toList).toOption.any (·.any fun projection =>
          projection.fieldNames (Sample.catalog .uni) = ["name".toList, "naïve".toList]) := by
      decide +kernel
    obtain ⟨found, compiled, shown⟩ := exists_of_any_toOption compiles
    obtain ⟨projection, rfl, shown⟩ := (Option.any_eq_true _ _).1 shown
    exact ⟨projection, compiled, of_decide_eq_true shown, projections _ projection compiled⟩

end TextQuery
