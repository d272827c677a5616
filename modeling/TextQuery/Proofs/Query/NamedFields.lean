import TextQuery.Model.Lexeme
import TextQuery.Proofs.Clause.RoundTrip
import TextQuery.Proofs.Filter.Conditions
import TextQuery.Proofs.Path.Terminals
import TextQuery.Proofs.Query.Orderings
import TextQuery.Proofs.Query.Selections

/-!
Query texts with the name of a field. Where a name finds a field of a schema, every path that begins
with the name goes through that field, and every selection of the name selects it. An identifier can
stand alone as a path, before an operator, before a direction and in a selection, and then the text
compiles to what it says about that field (`Filter.compile_name`, `Order.compile_name`,
`Projection.compile_name`).
-/

namespace TextQuery

/-! ## Identifiers -/

namespace Lexeme

theorem ascii_of_isAlpha {c : Char} (letter : c.isAlpha = true) : c.toNat < 128 := by
  rcases Bool.or_eq_true_iff.1 letter with upper | lower
  · have bound : c.val ≤ 'Z'.val := (of_decide_eq_true upper).2
    exact Nat.lt_of_le_of_lt (UInt32.le_iff_toNat_le.1 bound) (by decide)
  · have bound : c.val ≤ 'z'.val := of_decide_eq_true (Bool.and_eq_true_iff.1 lower).2
    exact Nat.lt_of_le_of_lt (UInt32.le_iff_toNat_le.1 bound) (by decide)

/-- Beyond ASCII a word consists of characters that are not blank. -/
theorem ascii_or_of_isWordPart {c : Char} (word : isWordPart c = true) :
    c.toNat < 128 ∨ isBlank c = false := by
  unfold isWordPart isWordStart at word
  simp only [Bool.or_eq_true, Bool.and_eq_true, Bool.not_eq_true', decide_eq_true_eq] at word
  rcases word with ((letter | rfl) | ⟨-, visible⟩) | digit
  · exact Or.inl (ascii_of_isAlpha letter)
  · exact Or.inl (by decide)
  · exact Or.inr visible
  · exact Or.inl (Nat.lt_of_le_of_lt (Char.isDigit_iff_toNat.1 digit).2 (by decide))

/-- No character of a word is white space, ends a step of a path or belongs to a marker. -/
theorem plain_of_isWordPart {c : Char} (word : isWordPart c = true) :
    Text.isWhiteSpace c = false ∧ c ∉ PathExpr.reserved := by
  by_cases ascii : c.toNat < 128
  · have table : (List.range 128).all fun n => !isWordPart (Char.ofNat n) ||
        (!Text.isWhiteSpace (Char.ofNat n) && decide (Char.ofNat n ∉ PathExpr.reserved)) := by
      decide +kernel
    have entry := List.all_eq_true.1 table c.toNat (List.mem_range.2 ascii)
    rw [Char.ofNat_toNat, word] at entry
    simpa using entry
  · have visible := (ascii_or_of_isWordPart word).resolve_left ascii
    have small : PathExpr.reserved.all (·.toNat < 128) = true := by decide
    refine ⟨?_, fun member => ascii (of_decide_eq_true (List.all_eq_true.1 small c member))⟩
    rw [← Bool.not_eq_true]
    intro white
    unfold isBlank at visible
    rw [white] at visible
    cases visible

end Lexeme

namespace Text

/-- A word of declarations: word characters, and at least one. -/
def IsIdentifier (text : Text) : Prop :=
  text ≠ [] ∧ ∀ c ∈ text, Lexeme.isWordPart c = true

instance : DecidablePred IsIdentifier := fun text =>
  decidable_of_iff (text ≠ [] ∧ text.all Lexeme.isWordPart = true) (by simp [IsIdentifier])

theorem IsIdentifier.trim_eq_self {text : Text} (identifier : text.IsIdentifier) :
    text.trim = text :=
  trim_of_visible fun c member => (Lexeme.plain_of_isWordPart (identifier.2 c member)).1

/-- An identifier can be written as a path of one step. -/
theorem IsIdentifier.plain {text : Text} (identifier : text.IsIdentifier) :
    PathExpr.Plain ⟨[text]⟩ := by
  refine ⟨List.cons_ne_nil _ _, List.forall_mem_singleton.2 ⟨identifier.1, ?_, ?_⟩⟩
  · exact identifier.trim_eq_self
  · exact fun c member => (Lexeme.plain_of_isWordPart (identifier.2 c member)).2

end Text

/-! ## Texts about the field that a name finds -/

variable {ι : Type} {catalog : Catalog ι} {options : CompileOptions} {schema : Schema ι}
  {name : Text} {index : Nat} {field : FieldDescriptor ι}

/-- No collection stands directly in a collection. -/
def FieldType.IsFlat (type : FieldType ι) : Prop :=
  ∀ element, type.element? = some element → element.element? = none

/-- What conditions on a field of the type look at: the field, or the elements of a collection. -/
def FieldType.subjects (type : FieldType ι) (view : View) : List View :=
  match type.element? with
  | none => [view]
  | some _ => view.elements

/-- The path of one step to a field of a schema, or to the elements of a collection. -/
def Schema.pathTo (schema : Schema ι) (index : Nat) (field : FieldDescriptor ι) : PropertyPath ι :=
  let segment : Segment ι := ⟨field.name, index, field.type⟩
  match field.type.element? with
  | none => ⟨schema.typeName, [segment], none, field.type⟩
  | some element => ⟨schema.typeName, [segment], some 0, element⟩

theorem Schema.pathTo_of_single (single : field.type.element? = none) :
    schema.pathTo index field =
      ⟨schema.typeName, [⟨field.name, index, field.type⟩], none, field.type⟩ := by
  unfold pathTo
  rw [single]

theorem Schema.terminals_pathTo (item : View) :
    (schema.pathTo index field).terminals item = field.type.subjects (item.child index) := by
  unfold pathTo FieldType.subjects
  cases field.type.element? with
  | none => exact PropertyPath.terminals_last item
  | some element => exact PropertyPath.terminals_lastAcross item

/-- All texts with the name are about the field at the position `index`: paths that begin with the
name, selections of the name, and the name with an operator and a literal, with a direction, or
alone. -/
structure Schema.Addresses (catalog : Catalog ι) (schema : Schema ι) (name : Text) (index : Nat)
    (field : FieldDescriptor ι) : Prop where
  found : schema.field? name = some (index, field)
  paths : ∀ expr path, PropertyPath.resolve catalog schema expr = .ok path →
    expr.steps.head?.map Text.trim = some name →
    path.segments.head? = some ⟨field.name, index, field.type⟩
  selections : ∀ text projection, Projection.compile schema text = .ok (some projection) →
    name ∈ selectedNames text → index ∈ projection.fields
  filterText : name.IsIdentifier → field.type.IsFlat →
    ∀ options operator text literal, ',' ∉ text → '|' ∉ text →
      Clause.Unambiguous ⟨⟨[name]⟩, operator, [text]⟩ →
      Literal.read catalog options (schema.pathTo index field).terminal operator text =
        .ok literal →
      Filter.compile catalog options schema (name ++ operator.marker ++ text) =
        .ok ⟨some (.condition ⟨schema.pathTo index field, operator, literal⟩)⟩
  orderText : name.IsIdentifier → field.type.isComparable = true → ∀ options,
    Order.compile catalog options schema name =
      .ok (some ⟨schema.pathTo index field, options.defaultDirection⟩) ∧
    ∀ direction, Order.compile catalog options schema (name ++ ['='] ++ direction.name) =
      .ok (some ⟨schema.pathTo index field, direction⟩)
  selectText : name.IsIdentifier → Projection.compile schema name = .ok (some ⟨[index]⟩)

section Found

variable (found : schema.field? name = some (index, field))

include found

/-- A path that begins with the name goes through the field. -/
theorem PropertyPath.head?_segments_of_resolve {expr : PathExpr} {path : PropertyPath ι}
    (resolved : resolve catalog schema expr = .ok path)
    (begins : expr.steps.head?.map Text.trim = some name) :
    path.segments.head? = some ⟨field.name, index, field.type⟩ := by
  have same : ∀ {step : Text} {index' : Nat} {field' : FieldDescriptor ι},
      schema.field? step.trim = some (index', field') → some step.trim = some name →
      (⟨field'.name, index', field'.type⟩ : Segment ι) = ⟨field.name, index, field.type⟩ := by
    intro step index' field' first stepEq
    rw [Option.some.inj stepEq, found] at first
    cases first
    rfl
  obtain ⟨-, resolves⟩ := resolve_eq_ok_iff.1 resolved
  obtain ⟨root, segments, hop, terminal⟩ := path
  obtain ⟨steps⟩ := expr
  cases resolves with
  | last first single => exact congrArg some (same first begins)
  | lastAcross first collection flat => exact congrArg some (same first begins)
  | through first object rest => exact congrArg some (same first begins)
  | across first collection object rest => exact congrArg some (same first begins)

/-- A selection of the name selects the field. -/
theorem Projection.mem_fields_of_selected {text : Text} {projection : Projection}
    (compiled : compile schema text = .ok (some projection))
    (selected : name ∈ selectedNames text) : index ∈ projection.fields := by
  obtain ⟨-, positions, each, rfl⟩ := compile_eq_some_iff.1 compiled
  refine mem_foldl_add_iff.2 (Or.inr ?_)
  rw [← filterMap_toOption_of_mapM each]
  refine List.mem_filterMap.2 ⟨name, selected, ?_⟩
  rw [position_eq_ok_iff.2 ⟨field, found⟩]
  rfl

/-! ### The name alone -/

variable (identifier : name.IsIdentifier)

include identifier

theorem PropertyPath.resolve_name (flat : field.type.IsFlat) :
    resolve catalog schema ⟨[name]⟩ = .ok (schema.pathTo index field) := by
  have trimmed : schema.field? name.trim = some (index, field) := by
    rw [identifier.trim_eq_self]
    exact found
  unfold Schema.pathTo
  cases collection : field.type.element? with
  | none => exact resolve_eq_ok_iff.2 ⟨rfl, .last trimmed collection⟩
  | some element =>
    exact resolve_eq_ok_iff.2 ⟨rfl, .lastAcross trimmed collection (flat element collection)⟩

/-- The name, an operator and a literal that the field or its elements can be compared with are a
filter that does so. -/
theorem Filter.compile_name {operator : Operator} {text : Text} {literal : Literal}
    (flat : field.type.IsFlat) (comma : ',' ∉ text) (bar : '|' ∉ text)
    (unambiguous : Clause.Unambiguous ⟨⟨[name]⟩, operator, [text]⟩)
    (read : Literal.read catalog options (schema.pathTo index field).terminal operator text =
      .ok literal) :
    compile catalog options schema (name ++ operator.marker ++ text) =
      .ok ⟨some (.condition ⟨schema.pathTo index field, operator, literal⟩)⟩ := by
  let clause : Clause := ⟨⟨[name]⟩, operator, [text]⟩
  have written : name ++ operator.marker ++ text = Clause.textAll [clause] := by
    unfold Clause.textAll Clause.text PathExpr.text
    rw [List.map_singleton, Text.join_singleton, Text.join_singleton, Text.join_singleton]
  have plain : clause.Plain :=
    ⟨identifier.plain, List.cons_ne_nil _ _, List.forall_mem_singleton.2 ⟨comma, bar⟩⟩
  have clauses : Clause.readAll (Clause.textAll [clause]) = .ok [clause] :=
    (Clause.readAll_textAll_iff (List.cons_ne_nil _ _) (List.forall_mem_singleton.2 plain)).2
      (List.forall_mem_singleton.2 unambiguous)
  have compiled : clause.compile catalog options schema =
      .ok [⟨schema.pathTo index field, operator, literal⟩] := by
    have resolved : PropertyPath.resolve catalog schema ⟨[name]⟩ = .ok _ :=
      PropertyPath.resolve_name found identifier flat
    obtain ⟨rootEq, resolves⟩ := PropertyPath.resolve_eq_ok_iff.1 resolved
    exact Clause.compile_single_eq_ok_iff.2 ⟨rootEq, resolves, rfl, read⟩
  rw [written]
  exact compile_eq_ok_iff.2 ⟨[clause], [[_]], clauses,
    mapM_eq_ok_iff.2 (.cons compiled .nil), rfl⟩

theorem PropertyPath.resolveSingle_name (comparable : field.type.isComparable = true) :
    resolveSingle catalog schema ⟨[name]⟩ = .ok (schema.pathTo index field) := by
  have single := FieldType.element?_of_isComparable comparable
  have flat : field.type.IsFlat := by
    intro element collection
    rw [single] at collection
    cases collection
  refine resolveSingle_eq_ok_iff.2 ⟨resolve_name found identifier flat, ?_⟩
  rw [Schema.pathTo_of_single single]
  exact ⟨rfl, comparable⟩

/-- The name is an order by the field, in the default direction. -/
theorem Order.compile_name (comparable : field.type.isComparable = true) :
    compile catalog options schema name =
      .ok (some ⟨schema.pathTo index field, options.defaultDirection⟩) := by
  have read := OrderBy.read_path_text identifier.plain.isStep identifier.plain.1
  rw [PathExpr.text, Text.join_singleton] at read
  exact compile_eq_some_iff.2
    ⟨⟨⟨[name]⟩, none⟩, read, PropertyPath.resolveSingle_name found identifier comparable, rfl⟩

/-- The name with a direction is an order by the field in that direction. -/
theorem Order.compile_name_directed (comparable : field.type.isComparable = true)
    (direction : Direction) :
    compile catalog options schema (name ++ ['='] ++ direction.name) =
      .ok (some ⟨schema.pathTo index field, direction⟩) := by
  have read := OrderBy.read_text identifier.plain.isStep identifier.plain.1 direction
  rw [PathExpr.text, Text.join_singleton] at read
  exact compile_eq_some_iff.2 ⟨⟨⟨[name]⟩, some direction⟩, read,
    PropertyPath.resolveSingle_name found identifier comparable, rfl⟩

/-- The name alone selects the field alone. -/
theorem Projection.compile_name : compile schema name = .ok (some ⟨[index]⟩) := by
  have comma : ',' ∉ name := fun member =>
    (identifier.plain.2 name List.mem_cons_self).2.2 ',' member (by decide)
  have names : selectedNames (Text.join [','] [name]) = [name] :=
    selectedNames_join (List.cons_ne_nil _ _)
      (List.forall_mem_singleton.2 ⟨identifier.1, identifier.trim_eq_self, comma⟩)
  rw [Text.join_singleton] at names
  refine compile_eq_some_iff.2 ⟨?_, [index], ?_, rfl⟩
  · rw [names]
    exact List.cons_ne_nil _ _
  · rw [names]
    exact mapM_eq_ok_iff.2 (.cons (position_eq_ok_iff.2 ⟨field, found⟩) .nil)

omit identifier in
/-- All texts with a name are about the field that the name finds. -/
theorem Schema.addresses_of_field? : schema.Addresses catalog name index field where
  found := found
  paths := fun _ _ resolved begins => PropertyPath.head?_segments_of_resolve found resolved begins
  selections := fun _ _ compiled selected =>
    Projection.mem_fields_of_selected found compiled selected
  filterText := fun identifier flat _ _ _ _ comma bar unambiguous read =>
    Filter.compile_name found identifier flat comma bar unambiguous read
  orderText := fun identifier comparable _ =>
    ⟨Order.compile_name found identifier comparable,
      Order.compile_name_directed found identifier comparable⟩
  selectText := fun identifier => Projection.compile_name found identifier

end Found

end TextQuery
