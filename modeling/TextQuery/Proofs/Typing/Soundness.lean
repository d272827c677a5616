import TextQuery.Proofs.Filter.Conditions
import TextQuery.Proofs.Query.Orderings
import TextQuery.Proofs.Typing.Conformance
import TextQuery.Samples.Catalog

/-!
Compiled queries compare like with like. A literal that is read for a type is a value which the type
holds, so on records that fit the schema a condition meets absent values and values of its literal's
kind only, and the keys of an order are of one kind. Main statement:
`compiled_queries_well_typed`.
-/

namespace TextQuery

variable {ι : Type}

/-! ## Literals -/

theorem ScalarType.holds_of_read? {options : CompileOptions} {text : Text} {type : ScalarType}
    {value : Value} (read : type.read? options text = some value) : type.holds value = true := by
  unfold ScalarType.read? at read
  cases type with
  | string =>
    cases read
    rfl
  | char =>
    dsimp only at read
    split at read
    · cases read
      rfl
    · cases read
  | bool =>
    dsimp only at read
    split at read
    · cases read
      rfl
    · split at read
      · cases read
        rfl
      · cases read
  | integer type =>
    obtain ⟨n, -, rfl⟩ := Option.map_eq_some_iff.1 read
    cases type <;> rfl
  | float type =>
    obtain ⟨x, -, rfl⟩ := Option.map_eq_some_iff.1 read
    rfl
  | date =>
    obtain ⟨day, -, rfl⟩ := Option.map_eq_some_iff.1 read
    rfl
  | dateTime =>
    obtain ⟨moment, -, rfl⟩ := Option.map_eq_some_iff.1 read
    rfl
  | timestamp =>
    obtain ⟨instant, -, rfl⟩ := Option.map_eq_some_iff.1 read
    rfl
  | guid =>
    obtain ⟨id, -, rfl⟩ := Option.map_eq_some_iff.1 read
    rfl

theorem ScalarType.read?_of_read {options : CompileOptions} {text : Text} {type : ScalarType}
    {value : Value} (given : type.read options text = .ok value) :
    type.read? options text = some value := by
  unfold ScalarType.read at given
  split at given
  · rename_i value' read
    cases given
    exact read
  · cases given

/-- What is read for an enumeration is the first member with its own name. -/
theorem EnumSchema.exists_of_read {enumeration : EnumSchema} {text : Text} {value : Value}
    (given : enumeration.read text = .ok value) :
    ∃ ordinal name, value = .member ordinal name ∧ enumeration.members[ordinal]? = some name ∧
      enumeration.ordinalOf? name = some ordinal := by
  unfold EnumSchema.read at given
  split at given
  · rename_i ordinal found
    cases given
    have first := ordinalOf?_eq_some_iff.1 found
    obtain ⟨name, held, -⟩ := first.named
    rw [held]
    exact ⟨ordinal, name, rfl, held, ordinalOf?_eq_some_iff.2 (first.self held)⟩
  · cases given

theorem FieldType.holds_of_readValue {catalog : Catalog ι} {options : CompileOptions}
    {type : FieldType ι} {text : Text} {value : Value}
    (read : type.readValue catalog options text = .ok value) : type.Holds value := by
  cases type with
  | scalar type => exact ScalarType.holds_of_read? (ScalarType.read?_of_read read)
  | enum enumeration =>
    obtain ⟨ordinal, name, rfl, held, -⟩ := EnumSchema.exists_of_read read
    exact held
  | nullable inner => cases read
  | object schema => cases read
  | collection element => cases read

/-- All that a literal can be read as. It is read for scalar types and enumerations only, under any
nullable layers, and it is a needle, the literal for absent values, or a value. -/
theorem Literal.cases_of_read {catalog : Catalog ι} {options : CompileOptions}
    {type : FieldType ι} {operator : Operator} {text : Text} {literal : Literal}
    (given : read catalog options type operator text = .ok literal) :
    type.isComparable = true ∧
      ((operator.isTextual = true ∧ ∃ content, literal = .needle content) ∨
        (operator.isTextual = false ∧ literal = .nullable none ∧
          type.isNullable = true ∧ options.isNullLiteral text = true) ∨
        (operator.isTextual = false ∧
          ¬(type.isNullable = true ∧ options.isNullLiteral text = true) ∧
          ∃ value, type.underlying.readValue catalog options text = .ok value ∧
            (literal = .typed value ∨ literal = .nullable (some value)))) := by
  rw [read_eq] at given
  split at given
  · cases given
  · rename_i comparable
    refine ⟨by simpa using comparable, ?_⟩
    split at given
    · rename_i searches
      exact Or.inl ⟨searches, _, (Except.ok.inj given).symm⟩
    · rename_i compares
      have compares := Bool.eq_false_iff.2 compares
      split at given
      · rename_i absent
        exact Or.inr (Or.inl ⟨compares, (Except.ok.inj given).symm, absent⟩)
      · rename_i present
        obtain ⟨value, valueRead, rfl⟩ := map_eq_ok_iff.1 given
        refine Or.inr (Or.inr ⟨compares, present, value, valueRead, ?_⟩)
        split
        · exact Or.inr rfl
        · exact Or.inl rfl

/-- The value in a literal is one that the type holds which it was read for. -/
theorem Literal.holds_of_read {catalog : Catalog ι} {options : CompileOptions}
    {type : FieldType ι} {operator : Operator} {text : Text} {literal : Literal}
    (given : read catalog options type operator text = .ok literal) :
    type.isComparable = true ∧
      ∀ expected, literal.value? = some expected → type.underlying.Holds expected := by
  obtain ⟨comparable, outcome⟩ := cases_of_read given
  refine ⟨comparable, fun expected present => ?_⟩
  rcases outcome with ⟨-, content, rfl⟩ | ⟨-, rfl, -⟩ | ⟨-, -, value, valueRead, rfl | rfl⟩
  · cases present
  · cases present
  · cases present
    exact FieldType.holds_of_readValue valueRead
  · cases present
    exact FieldType.holds_of_readValue valueRead

/-! ## Conditions and keys -/

section Compiled

variable {catalog : Catalog ι} {options : CompileOptions} {root : Schema ι}

theorem Condition.Compiled.terminal_cases {steps : List Text} {operator : Operator} {text : Text}
    {condition : Condition ι}
    (compiled : Compiled catalog options root steps operator text condition) {item : View}
    (conforms : item.ConformsTo catalog root) {terminal : View}
    (reached : terminal ∈ condition.path.terminals item) :
    terminal = .null ∨
      ∃ actual, terminal = .value actual ∧ condition.path.terminal.underlying.Holds actual := by
  have comparable := (Literal.holds_of_read compiled.literal_eq).1
  rcases compiled.resolves.terminals_conform condition.path.root (Or.inr conforms) terminal reached
    with absent | fits
  · exact Or.inl absent
  · exact fits.of_comparable comparable

/-- An order has a path to one scalar or member, without a collection. -/
theorem Order.resolves_of_compile {text : Text} {order : Order ι}
    (compiled : Order.compile catalog options root text = .ok (some order)) :
    order.path.quantifier = none ∧ order.path.terminal.isComparable = true ∧
      ∃ steps, PropertyPath.Resolves catalog root steps order.path.segments order.path.quantifier
        order.path.terminal := by
  obtain ⟨given, -, single, -⟩ := Order.compile_eq_some_iff.1 compiled
  obtain ⟨resolved, direct, comparable⟩ := PropertyPath.resolveSingle_eq_ok_iff.1 single
  obtain ⟨-, resolves⟩ := PropertyPath.resolve_eq_ok_iff.1 resolved
  exact ⟨direct, comparable, given.path.steps, resolves⟩

theorem Order.holds_of_key? {text : Text} {order : Order ι}
    (compiled : Order.compile catalog options root text = .ok (some order)) {item : View}
    (conforms : item.ConformsTo catalog root) {key : Value} (keyed : order.key? item = some key) :
    order.path.terminal.underlying.Holds key := by
  obtain ⟨direct, comparable, steps, resolves⟩ := Order.resolves_of_compile compiled
  have reached : item.walk order.path.indices ∈ order.path.terminals item := by
    unfold PropertyPath.terminals
    rw [direct]
    exact List.mem_singleton_self _
  unfold Order.key? at keyed
  obtain ⟨valued, -⟩ := Option.filter_eq_some_iff.1 keyed
  rcases resolves.terminals_conform order.path.root (Or.inr conforms) _ reached with absent | fits
  · rw [absent] at valued
    cases valued
  · rcases fits.of_comparable comparable with absent | ⟨content, present, held⟩
    · rw [absent] at valued
      cases valued
    · rw [present] at valued
      cases valued
      exact held

end Compiled

/-- On records that fit the schema a compiled condition is tested on absent values and on values
only, and a value that it compares with its literal is of the literal's kind: both are held by the
type at the end of the path, so that members are of one enumeration. Any two keys of a compiled
order are of one kind in the same way. -/
theorem compiled_queries_well_typed (catalog : Catalog ι) (options : CompileOptions)
    (root : Schema ι) :
    (∀ text filter, Filter.compile catalog options root text = .ok filter →
      ∀ item, View.ConformsTo catalog root item →
      ∀ condition ∈ filter.conditions, ∀ terminal ∈ condition.path.terminals item,
        (terminal = .null ∨ ∃ actual, terminal = .value actual) ∧
        ∀ actual expected, terminal = .value actual →
          condition.literal.value? = some expected →
          actual.kind = expected.kind ∧ condition.path.terminal.underlying.Holds actual ∧
            condition.path.terminal.underlying.Holds expected) ∧
    (∀ text order, Order.compile catalog options root text = .ok (some order) →
      ∀ left right, View.ConformsTo catalog root left → View.ConformsTo catalog root right →
      ∀ key key', order.key? left = some key → order.key? right = some key' →
        key.kind = key'.kind ∧ order.path.terminal.underlying.Holds key ∧
          order.path.terminal.underlying.Holds key') := by
  refine ⟨?_, ?_⟩
  · intro text filter compiled item conforms condition member terminal reached
    obtain ⟨clauses, -, clause, -, literal, -, compiled⟩ := Filter.compiled_of_mem compiled member
    rcases compiled.terminal_cases conforms reached with rfl | ⟨content, rfl, held⟩
    · refine ⟨Or.inl rfl, ?_⟩
      intro actual expected present
      cases present
    · refine ⟨Or.inr ⟨content, rfl⟩, ?_⟩
      intro actual expected present literalPresent
      cases present
      have expectedHeld := (Literal.holds_of_read compiled.literal_eq).2 expected literalPresent
      exact ⟨held.kind_eq expectedHeld, held, expectedHeld⟩
  · intro text order compiled left right leftConforms rightConforms key key' leftKeyed rightKeyed
    have held := Order.holds_of_key? compiled leftConforms leftKeyed
    have held' := Order.holds_of_key? compiled rightConforms rightKeyed
    exact ⟨held.kind_eq held', held, held'⟩

/-- A sample node without a label, to which no node is next. -/
def Sample.nodeView (id : Int) (children : List View) : View :=
  .record [.value (.signed id), .value (.string []), .null, .list children]

theorem Sample.nodeView_conformsTo (id : Int) {children : List View}
    (each : ∀ child ∈ children, View.ConformsTo catalog (catalog .node) child) :
    View.ConformsTo catalog (catalog .node) (nodeView id children) := by
  refine .record (Nat.le_refl 4) ?_
  intro index field view declared held
  match index with
  | 0 =>
    cases declared
    cases held
    exact .value rfl
  | 1 =>
    cases declared
    cases held
    exact .value rfl
  | 2 =>
    cases declared
    cases held
    exact .null
  | 3 =>
    cases declared
    cases held
    exact .collection fun child member => .object (each child member)
  | index + 4 => cases declared

/-- That a child of a node has a number above one. -/
def Sample.childAboveOne : Condition Sample :=
  ⟨⟨"Node".toList,
    [ ⟨"children".toList, 3, .collection (.object node)⟩,
      ⟨"id".toList, 0, .scalar (.integer .i32)⟩ ], some 0, .scalar (.integer .i32)⟩,
    .greaterThan, .typed (.signed 1)⟩

/-- Nodes by their numbers. -/
def Sample.byNumber : Order Sample :=
  ⟨⟨"Node".toList, [⟨"id".toList, 0, .scalar (.integer .i32)⟩], none, .scalar (.integer .i32)⟩,
    .asc⟩

/-- A parent and its child, filtered by the number of the child and ordered by their own. -/
theorem compiled_queries_well_typed_node :
    Filter.compile Sample.catalog {} (Sample.catalog .node) "children.id>1".toList =
      .ok ⟨some (.condition Sample.childAboveOne)⟩ ∧
    Order.compile Sample.catalog {} (Sample.catalog .node) "id".toList =
      .ok (some Sample.byNumber) ∧
    (Sample.nodeView 1 [Sample.nodeView 2 []]).ConformsTo Sample.catalog (Sample.catalog .node) ∧
    Value.kind (.signed 2) = Value.kind (.signed 1) ∧
    (∃ key key', Sample.byNumber.key? (Sample.nodeView 1 [Sample.nodeView 2 []]) = some key ∧
      Sample.byNumber.key? (Sample.nodeView 2 []) = some key' ∧ key.kind = key'.kind) := by
  have child : View.ConformsTo Sample.catalog (Sample.catalog .node) (Sample.nodeView 2 []) :=
    Sample.nodeView_conformsTo 2 nofun
  have parent : View.ConformsTo Sample.catalog (Sample.catalog .node)
      (Sample.nodeView 1 [Sample.nodeView 2 []]) :=
    Sample.nodeView_conformsTo 1 (List.forall_mem_singleton.2 child)
  have filtered : Filter.compile Sample.catalog {} (Sample.catalog .node) "children.id>1".toList =
      .ok ⟨some (.condition Sample.childAboveOne)⟩ :=
    eq_ok_of_toOption (by decide +kernel)
  have ordered : Order.compile Sample.catalog {} (Sample.catalog .node) "id".toList =
      .ok (some Sample.byNumber) :=
    eq_ok_of_toOption (by decide +kernel)
  obtain ⟨conditions, keys⟩ :=
    compiled_queries_well_typed Sample.catalog {} (Sample.catalog .node)
  have compared := (conditions _ _ filtered _ parent Sample.childAboveOne List.mem_cons_self
    (.value (.signed 2)) List.mem_cons_self).2 (.signed 2) (.signed 1) rfl rfl
  have same := keys _ _ ordered _ _ parent child (.signed 1) (.signed 2) rfl rfl
  exact ⟨filtered, ordered, parent, compared.1, .signed 1, .signed 2, rfl, rfl, same.1⟩

end TextQuery
