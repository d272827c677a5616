import TextQuery.Proofs.Filter.Conditions
import TextQuery.Proofs.Path.Terminals
import TextQuery.Samples.Catalog

/-!
Paths compose. A condition on a path with a first step `n` says of an item what the condition on the
rest of the path says of the value of `n`: of the object in it (`Condition.evaluate_through`), or of
some element of the collection in it (`Condition.evaluate_across`). What is no record has no fields,
so there a condition without collection is one about an absent value. Main statement:
`Clause.compile_composes`.
-/

namespace TextQuery

variable {ι : Type} {catalog : Catalog ι} {options : CompileOptions} {root : Schema ι}

/-! ## Resolution of the longer path -/

namespace PropertyPath

section FirstStep

variable {step : Text} {index : Nat} {field : FieldDescriptor ι} {rest : List Text}
  {segments : List (Segment ι)} {hop : Option Nat} {terminal : FieldType ι} {inner : ι}

/-- All that a path can do after a first step with a known field: it goes on through an object, or
across a collection of objects. -/
theorem Resolves.cons_cases (found : root.field? step.trim = some (index, field))
    (nonempty : rest ≠ []) (resolves : Resolves catalog root (step :: rest) segments hop terminal) :
    ∃ inner segments', segments = ⟨field.name, index, field.type⟩ :: segments' ∧
      ((field.type.object? = some inner ∧ ∃ hop', hop = hop'.map (· + 1) ∧
          Resolves catalog (catalog inner) rest segments' hop' terminal) ∨
        ∃ element, field.type.element? = some element ∧ element.object? = some inner ∧
          hop = some 0 ∧ Resolves catalog (catalog inner) rest segments' none terminal) := by
  cases resolves with
  | last => exact absurd rfl nonempty
  | lastAcross => exact absurd rfl nonempty
  | through found' object resolves =>
    rw [found] at found'
    cases found'
    exact ⟨_, _, rfl, Or.inl ⟨object, _, rfl, resolves⟩⟩
  | across found' collection object resolves =>
    rw [found] at found'
    cases found'
    exact ⟨_, _, rfl, Or.inr ⟨_, collection, object, rfl, resolves⟩⟩

theorem Resolves.cons_object_iff (found : root.field? step.trim = some (index, field))
    (object : field.type.object? = some inner) (nonempty : rest ≠ []) :
    Resolves catalog root (step :: rest) segments hop terminal ↔
      ∃ segments' hop', Resolves catalog (catalog inner) rest segments' hop' terminal ∧
        segments = ⟨field.name, index, field.type⟩ :: segments' ∧ hop = hop'.map (· + 1) := by
  refine ⟨?_, ?_⟩
  · intro resolves
    obtain ⟨inner', segments', same, onward⟩ := resolves.cons_cases found nonempty
    rcases onward with ⟨object', hop', hopEq, resolves⟩ | ⟨element, collection, -⟩
    · rw [object] at object'
      cases object'
      exact ⟨segments', hop', resolves, same, hopEq⟩
    · rw [FieldType.element?_of_object? object] at collection
      cases collection
  · intro shorter
    obtain ⟨segments', hop', resolves, rfl, rfl⟩ := shorter
    exact .through found object resolves

theorem Resolves.cons_collection_iff {element : FieldType ι}
    (found : root.field? step.trim = some (index, field))
    (collection : field.type.element? = some element) (object : element.object? = some inner)
    (nonempty : rest ≠ []) :
    Resolves catalog root (step :: rest) segments hop terminal ↔
      ∃ segments', Resolves catalog (catalog inner) rest segments' none terminal ∧
        segments = ⟨field.name, index, field.type⟩ :: segments' ∧ hop = some 0 := by
  refine ⟨?_, ?_⟩
  · intro resolves
    obtain ⟨inner', segments', same, onward⟩ := resolves.cons_cases found nonempty
    rcases onward with ⟨object', -⟩ | ⟨element', collection', object', hopEq, resolves⟩
    · rw [FieldType.element?_of_object? object'] at collection
      cases collection
    · rw [collection] at collection'
      cases collection'
      rw [object] at object'
      cases object'
      exact ⟨segments', resolves, same, hopEq⟩
  · intro shorter
    obtain ⟨segments', resolves, rfl, rfl⟩ := shorter
    exact .across found collection object resolves

end FirstStep

end PropertyPath

namespace Condition

/-! ## Conditions about absent values -/

/-- The condition holds of an absent value: it asks for a difference from a literal that is present,
or for equality with the literal for absent values. -/
def NullTest (condition : Condition ι) : Prop :=
  (condition.operator = .notEquals ∧ condition.literal.value?.isSome = true) ∨
    (condition.operator = .equals ∧ condition.literal = .nullable none)

theorem test_null_iff {condition : Condition ι} :
    condition.test .null = true ↔ condition.NullTest := by
  obtain ⟨path, operator, literal⟩ := condition
  unfold NullTest test testValue
  cases literal with
  | needle needle => cases operator <;> simp [Operator.finds, Literal.value?]
  | typed content =>
    cases operator <;>
      simp [Operator.relates, equalOptions, compareOptions?, Literal.value?]
  | nullable content =>
    cases content <;> cases operator <;>
      simp [Operator.relates, equalOptions, compareOptions?, Literal.value?]

theorem evaluate_of_not_record {condition : Condition ι} (nonempty : condition.path.segments ≠ [])
    {item : View} (scalar : item.isRecord = false) :
    condition.evaluate item = true ↔ condition.path.quantifier = none ∧ condition.NullTest := by
  unfold evaluate
  rw [PropertyPath.terminals_of_not_record nonempty scalar]
  split
  · rename_i single
    simp [single, test_null_iff]
  · rename_i crosses
    simp [crosses]

theorem evaluate_cases {condition : Condition ι} (nonempty : condition.path.segments ≠ [])
    (item : View) :
    condition.evaluate item = true ↔
      (item.isRecord = true ∧ condition.evaluate item = true) ∨
        (item.isRecord = false ∧ condition.path.quantifier = none ∧ condition.NullTest) := by
  cases record : item.isRecord with
  | true => simp
  | false => simp [evaluate_of_not_record nonempty record]

/-! ## Evaluation along the longer path -/

theorem evaluate_through {segment : Segment ι} {segments : List (Segment ι)} {hop : Option Nat}
    {terminal : FieldType ι} (longRoot shortRoot : Text) (operator : Operator) (literal : Literal)
    (item : View) :
    evaluate ⟨⟨longRoot, segment :: segments, hop.map (· + 1), terminal⟩, operator, literal⟩ item =
      evaluate ⟨⟨shortRoot, segments, hop, terminal⟩, operator, literal⟩
        (item.child segment.index) := by
  unfold evaluate
  rw [PropertyPath.terminals_through shortRoot terminal hop]
  rfl

theorem evaluate_across {segment : Segment ι} {segments : List (Segment ι)}
    {terminal : FieldType ι} (longRoot shortRoot : Text) (operator : Operator) (literal : Literal)
    (item : View) :
    evaluate ⟨⟨longRoot, segment :: segments, some 0, terminal⟩, operator, literal⟩ item =
      (item.child segment.index).elements.any
        (evaluate ⟨⟨shortRoot, segments, none, terminal⟩, operator, literal⟩) := by
  unfold evaluate
  rw [PropertyPath.terminals_across shortRoot terminal, List.any_flatMap]
  rfl

/-! ## Compilation of the longer path -/

section FirstStep

variable {step : Text} {index : Nat} {field : FieldDescriptor ι} {rest : List Text}
  {operator : Operator} {text : Text} {long : Condition ι} {inner : ι}

theorem Compiled.cons_object_iff (found : root.field? step.trim = some (index, field))
    (object : field.type.object? = some inner) (nonempty : rest ≠ []) :
    Compiled catalog options root (step :: rest) operator text long ↔
      ∃ short, Compiled catalog options (catalog inner) rest operator text short ∧
        long = ⟨⟨root.typeName, ⟨field.name, index, field.type⟩ :: short.path.segments,
          short.path.quantifier.map (· + 1), short.path.terminal⟩, short.operator,
          short.literal⟩ := by
  refine ⟨?_, ?_⟩
  · intro compiled
    obtain ⟨rootEq, resolves, operatorEq, literalEq⟩ := compiled
    obtain ⟨⟨longRoot, longSegments, longHop, terminal⟩, longOperator, literal⟩ := long
    obtain ⟨segments, hop, resolves, segmentsEq, hopEq⟩ :=
      (PropertyPath.Resolves.cons_object_iff found object nonempty).1 resolves
    cases rootEq
    cases segmentsEq
    cases hopEq
    exact ⟨⟨⟨(catalog inner).typeName, segments, hop, terminal⟩, longOperator, literal⟩,
      ⟨rfl, resolves, operatorEq, literalEq⟩, rfl⟩
  · intro shorter
    obtain ⟨short, ⟨-, resolves, operatorEq, literalEq⟩, rfl⟩ := shorter
    exact ⟨rfl, (PropertyPath.Resolves.cons_object_iff found object nonempty).2
      ⟨_, _, resolves, rfl, rfl⟩, operatorEq, literalEq⟩

theorem Compiled.cons_collection_iff {element : FieldType ι}
    (found : root.field? step.trim = some (index, field))
    (collection : field.type.element? = some element) (object : element.object? = some inner)
    (nonempty : rest ≠ []) :
    Compiled catalog options root (step :: rest) operator text long ↔
      ∃ short, Compiled catalog options (catalog inner) rest operator text short ∧
        short.path.quantifier = none ∧
        long = ⟨⟨root.typeName, ⟨field.name, index, field.type⟩ :: short.path.segments, some 0,
          short.path.terminal⟩, short.operator, short.literal⟩ := by
  refine ⟨?_, ?_⟩
  · intro compiled
    obtain ⟨rootEq, resolves, operatorEq, literalEq⟩ := compiled
    obtain ⟨⟨longRoot, longSegments, longHop, terminal⟩, longOperator, literal⟩ := long
    obtain ⟨segments, resolves, segmentsEq, hopEq⟩ :=
      (PropertyPath.Resolves.cons_collection_iff found collection object nonempty).1 resolves
    cases rootEq
    cases segmentsEq
    cases hopEq
    exact ⟨⟨⟨(catalog inner).typeName, segments, none, terminal⟩, longOperator, literal⟩,
      ⟨rfl, resolves, operatorEq, literalEq⟩, rfl, rfl⟩
  · intro shorter
    obtain ⟨short, ⟨-, resolves, operatorEq, literalEq⟩, single, rfl⟩ := shorter
    rw [single] at resolves
    exact ⟨rfl, (PropertyPath.Resolves.cons_collection_iff found collection object nonempty).2
      ⟨_, resolves, rfl, rfl⟩, operatorEq, literalEq⟩

end FirstStep

end Condition

/-! ## The statement about clauses -/

/-- Let the first step of a path find a field, in whatever spelling. If the field is an object, the
longer condition compiles exactly if the shorter one does for the object; it holds if the shorter
one holds of the record in the field, or if there is no record and, without any collection, the
condition is one that an absent value satisfies. If the field is a collection of objects, the longer
condition compiles exactly if the shorter one does without any collection; it holds if some element
of the list in the field is a record of which the shorter one holds, or no record, where an absent
value satisfies the condition. -/
theorem Clause.compile_composes (catalog : Catalog ι) (options : CompileOptions) (root : Schema ι)
    (step : Text) (index : Nat) (field : FieldDescriptor ι)
    (found : root.field? step.trim = some (index, field)) (rest : List Text)
    (nonempty : rest ≠ []) (operator : Operator) (text : Text) :
    (∀ inner, field.type.object? = some inner →
      ((∃ long, compile catalog options root ⟨⟨step :: rest⟩, operator, [text]⟩ = .ok [long]) ↔
        ∃ short, compile catalog options (catalog inner) ⟨⟨rest⟩, operator, [text]⟩ =
          .ok [short]) ∧
      ∀ long short,
        compile catalog options root ⟨⟨step :: rest⟩, operator, [text]⟩ = .ok [long] →
        compile catalog options (catalog inner) ⟨⟨rest⟩, operator, [text]⟩ = .ok [short] →
        ∀ item : View, long.evaluate item = true ↔
          ((item.child index).isRecord = true ∧ short.evaluate (item.child index) = true) ∨
          ((item.child index).isRecord = false ∧ short.path.quantifier = none ∧
            short.NullTest)) ∧
    (∀ element inner, field.type.element? = some element → element.object? = some inner →
      ((∃ long, compile catalog options root ⟨⟨step :: rest⟩, operator, [text]⟩ = .ok [long]) ↔
        ∃ short, compile catalog options (catalog inner) ⟨⟨rest⟩, operator, [text]⟩ =
          .ok [short] ∧ short.path.quantifier = none) ∧
      ∀ long short,
        compile catalog options root ⟨⟨step :: rest⟩, operator, [text]⟩ = .ok [long] →
        compile catalog options (catalog inner) ⟨⟨rest⟩, operator, [text]⟩ = .ok [short] →
        ∀ item : View, long.evaluate item = true ↔
          ∃ elements, item.child index = .list elements ∧ ∃ element ∈ elements,
            (element.isRecord = true ∧ short.evaluate element = true) ∨
            (element.isRecord = false ∧ short.NullTest)) := by
  simp only [Clause.compile_single_eq_ok_iff]
  refine ⟨?_, ?_⟩
  · intro inner object
    refine ⟨⟨?_, ?_⟩, ?_⟩
    · intro longer
      obtain ⟨long, compiled⟩ := longer
      obtain ⟨short, compiled, -⟩ :=
        (Condition.Compiled.cons_object_iff found object nonempty).1 compiled
      exact ⟨short, compiled⟩
    · intro shorter
      obtain ⟨short, compiled⟩ := shorter
      exact ⟨_, (Condition.Compiled.cons_object_iff found object nonempty).2
        ⟨short, compiled, rfl⟩⟩
    · intro long short longCompiled shortCompiled item
      obtain ⟨short', compiled, rfl⟩ :=
        (Condition.Compiled.cons_object_iff found object nonempty).1 longCompiled
      obtain rfl := compiled.unique shortCompiled
      rw [Condition.evaluate_through _ short'.path.root]
      exact Condition.evaluate_cases shortCompiled.resolves.segments_ne_nil (item.child index)
  · intro element inner collection object
    refine ⟨⟨?_, ?_⟩, ?_⟩
    · intro longer
      obtain ⟨long, compiled⟩ := longer
      obtain ⟨short, compiled, single, -⟩ :=
        (Condition.Compiled.cons_collection_iff found collection object nonempty).1 compiled
      exact ⟨short, compiled, single⟩
    · intro shorter
      obtain ⟨short, compiled, single⟩ := shorter
      exact ⟨_, (Condition.Compiled.cons_collection_iff found collection object nonempty).2
        ⟨short, compiled, single, rfl⟩⟩
    · intro long short longCompiled shortCompiled item
      obtain ⟨short', compiled, single, rfl⟩ :=
        (Condition.Compiled.cons_collection_iff found collection object nonempty).1 longCompiled
      obtain rfl := compiled.unique shortCompiled
      have shorter : ∀ element : View,
          Condition.evaluate ⟨⟨short'.path.root, short'.path.segments, none, short'.path.terminal⟩,
            short'.operator, short'.literal⟩ element = true ↔
          (element.isRecord = true ∧ short'.evaluate element = true) ∨
            (element.isRecord = false ∧ short'.NullTest) := by
        intro element
        have cases := Condition.evaluate_cases shortCompiled.resolves.segments_ne_nil element
        simp only [single, true_and] at cases
        rw [← cases, ← single]
      rw [Condition.evaluate_across _ short'.path.root, List.any_eq_true]
      simp only [View.mem_elements_iff, shorter]
      refine ⟨?_, ?_⟩
      · intro some
        obtain ⟨element, ⟨all, same, member⟩, holds⟩ := some
        exact ⟨all, same, element, member, holds⟩
      · intro some
        obtain ⟨all, same, element, member, holds⟩ := some
        exact ⟨element, ⟨all, same, member⟩, holds⟩

/-- `friends.name!=Ann` holds of a person with an absent friend, by what it says of that friend. -/
theorem Clause.compile_composes_friends :
    let inner : Condition Sample :=
      ⟨⟨"Person".toList, [⟨"name".toList, 1, .scalar .string⟩], none, .scalar .string⟩, .notEquals,
        .typed (.string "Ann".toList)⟩
    let person : View := .record (List.replicate 10 .null ++ [.list [.null]])
    (Sample.catalog .person).field? (Text.trim " Friends".toList) =
      some (10, ⟨"friends".toList, .collection (.object .person)⟩) ∧
    ["name".toList] ≠ [] ∧
    compile Sample.catalog {} (Sample.catalog .person)
      ⟨⟨["name".toList]⟩, .notEquals, ["Ann".toList]⟩ = .ok [inner] ∧
    ∃ outer, compile Sample.catalog {} (Sample.catalog .person)
        ⟨⟨[" Friends".toList, "name".toList]⟩, .notEquals, ["Ann".toList]⟩ = .ok [outer] ∧
      outer.evaluate person = true := by
  intro inner person
  have found : (Sample.catalog .person).field? (Text.trim " Friends".toList) =
      some (10, ⟨"friends".toList, .collection (.object .person)⟩) := by decide +kernel
  have shorter : compile Sample.catalog {} (Sample.catalog .person)
      ⟨⟨["name".toList]⟩, .notEquals, ["Ann".toList]⟩ = .ok [inner] :=
    eq_ok_of_toOption (by decide +kernel)
  have composes := (Clause.compile_composes Sample.catalog {} (Sample.catalog .person)
    " Friends".toList 10 _ found ["name".toList] (List.cons_ne_nil _ _) .notEquals
    "Ann".toList).2 (.object .person) .person rfl rfl
  obtain ⟨outer, longer⟩ := composes.1.2 ⟨inner, shorter, rfl⟩
  have holds := (composes.2 outer inner longer shorter person).2
    ⟨[.null], rfl, .null, List.mem_singleton_self _, Or.inr ⟨rfl, Or.inl ⟨rfl, rfl⟩⟩⟩
  exact ⟨found, List.cons_ne_nil _ _, shorter, outer, longer, holds⟩

end TextQuery
