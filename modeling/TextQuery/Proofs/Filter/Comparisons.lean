import TextQuery.Proofs.Order.Keys
import TextQuery.Proofs.Typing.Soundness

/-!
The algebra of the operators that compare. Between two values each of them says something about
their order, which is one of three or none, and so their answers hang together. With an absent value
on either side only *equal* and *not equal* can hold. Main statement:
`Condition.comparisons_agree`.
-/

namespace TextQuery

variable {ι : Type}

/-! ## Relations between values -/

namespace Operator

/-- Whether a relation holds between two values, by their order, if they have one. -/
def allows : Operator → Option Ordering → Bool
  | equals, ordering => ordering = some .eq
  | notEquals, ordering => ordering ≠ some .eq
  | greaterThan, ordering => ordering = some .gt
  | lessThan, ordering => ordering = some .lt
  | greaterOrEqual, ordering => ordering.any (·.isGE)
  | lessOrEqual, ordering => ordering.any (·.isLE)
  | contains, _ => false
  | containsCaseSensitive, _ => false

theorem relates_values (operator : Operator) (actual expected : Value) :
    operator.relates (some actual) (some expected) =
      operator.allows (actual.compare? expected) := by
  have equal : equalOptions (some actual) (some expected) =
      decide (actual.compare? expected = some .eq) := by
    rw [Bool.eq_iff_iff, decide_eq_true_iff]
    exact Value.equal_iff_compare?
  have order : compareOptions? (some actual) (some expected) = actual.compare? expected := rfl
  unfold relates allows
  cases operator <;> simp [equal, order]

/-- The answers of the operators on two values are those of *less*, *equal* and *greater*, of which
exactly one holds if the values have an order. -/
theorem allows_cases (ordering : Option Ordering) :
    allows .notEquals ordering = (!allows .equals ordering) ∧
    allows .greaterOrEqual ordering = (allows .greaterThan ordering || allows .equals ordering) ∧
    allows .lessOrEqual ordering = (allows .lessThan ordering || allows .equals ordering) ∧
    [lessThan, equals, greaterThan].countP (allows · ordering) = ordering.toList.length := by
  cases ordering with
  | none => decide
  | some ordering => cases ordering <;> decide

theorem relates_none_left (operator : Operator) (expected : Value) :
    operator.relates none (some expected) = decide (operator = notEquals) := by
  cases operator <;> rfl

theorem relates_none_right (operator : Operator) (actual : Option Value) :
    operator.relates actual none =
      decide (operator = if actual.isSome then notEquals else equals) := by
  cases actual <;> cases operator <;> rfl

end Operator

/-! ## Literals for one type -/

section Literals

variable {catalog : Catalog ι} {options : CompileOptions} {type : FieldType ι} {text : Text}
  {literal : Literal}

/-- All operators that compare read a text in the same way. -/
theorem Literal.read_of_compares {operator : Operator} (compares : operator.isTextual = false) :
    read catalog options type operator text = read catalog options type .equals text := by
  rw [read_eq, read_eq, compares]
  rfl

theorem Literal.needle_of_read {operator : Operator} (searches : operator.isTextual = true)
    (accepted : read catalog options type operator text = .ok literal) :
    ∃ content, literal = .needle content := by
  obtain ⟨-, ⟨-, needle⟩ | ⟨compares, -⟩ | ⟨compares, -⟩⟩ := cases_of_read accepted
  · exact needle
  · rw [searches] at compares
    cases compares
  · rw [searches] at compares
    cases compares

/-- A literal that is compared says that there is no value exactly if it is the literal for absent
values, given for a nullable field. -/
theorem Literal.value?_eq_none_iff
    (accepted : read catalog options type .equals text = .ok literal) :
    literal.value? = none ↔ type.isNullable = true ∧ options.isNullLiteral text = true := by
  obtain ⟨-, ⟨searches, -⟩ | ⟨-, rfl, absent⟩ | ⟨-, present, value, -, rfl | rfl⟩⟩ :=
    cases_of_read accepted
  · cases searches
  · exact iff_of_true rfl absent
  · exact iff_of_false nofun present
  · exact iff_of_false nofun present

theorem Condition.testValue_eq_relates
    (accepted : Literal.read catalog options type .equals text = .ok literal)
    (path : PropertyPath ι) (operator : Operator) (actual : Option Value) :
    testValue ⟨path, operator, literal⟩ actual = operator.relates actual literal.value? := by
  obtain ⟨-, ⟨searches, -⟩ | ⟨-, rfl, -⟩ | ⟨-, -, value, -, rfl | rfl⟩⟩ :=
    Literal.cases_of_read accepted
  · cases searches
  · rfl
  · rfl
  · rfl

end Literals

/-! ## Where a path leads -/

/-- Once a walk has come to an absent value, it stays there. -/
theorem View.walk_eq_null_iff {item : View} {indices : List Nat} :
    item.walk indices = .null ↔ ∃ stop, item.walk (indices.take stop) = .null := by
  refine ⟨fun absent => ⟨indices.length, by rwa [List.take_length]⟩, ?_⟩
  intro stops
  obtain ⟨stop, absent⟩ := stops
  rw [← List.take_append_drop stop indices, walk_append, absent, walk_null]

/-- From a record of the schema, or from an absent one, a path leads to a list or an absent value at
the step that crosses a collection. -/
theorem PropertyPath.Resolves.walk_hop {catalog : Catalog ι} {schema : Schema ι}
    {steps : List Text} {segments : List (Segment ι)} {crossed : Option Nat}
    {terminal : FieldType ι}
    (resolves : Resolves catalog schema steps segments crossed terminal) {item : View}
    (conforms : item = .null ∨ item.ConformsTo catalog schema) :
    ∀ hop, crossed = some hop →
      item.walk ((segments.map (·.index)).take (hop + 1)) = .null ∨
        ∃ elements, item.walk ((segments.map (·.index)).take (hop + 1)) = .list elements := by
  induction resolves generalizing item with
  | last found single => exact nofun
  | lastAcross found collection flat =>
    intro hop crosses
    cases crosses
    rcases View.child_conforms found conforms with absent | conforms
    · exact Or.inl absent
    · exact conforms.null_or_list collection
  | through found object resolves ih =>
    intro hop crosses
    obtain ⟨hop', crosses', rfl⟩ := Option.map_eq_some_iff.1 crosses
    refine ih ?_ hop' crosses'
    rcases View.child_conforms found conforms with absent | conforms
    · exact Or.inl absent
    · exact conforms.of_object object
  | across found collection object resolves ih =>
    intro hop crosses
    cases crosses
    rcases View.child_conforms found conforms with absent | conforms
    · exact Or.inl absent
    · exact conforms.null_or_list collection

/-! ## Conditions that differ in the operator -/

namespace Condition

/-- What the operators say of what stands at the end of a path, compared with a value. Here `holds`
tells of each operator whether its condition holds. -/
structure ComparesWithValue (holds : Operator → Bool) (terminal : View) (expected : Value) :
    Prop where
  greaterOrEqual_eq : holds .greaterOrEqual = (holds .greaterThan || holds .equals)
  lessOrEqual_eq : holds .lessOrEqual = (holds .lessThan || holds .equals)
  atMostOne : [.lessThan, .equals, .greaterThan].countP holds ≤ 1
  exactlyOne_iff : [.lessThan, .equals, .greaterThan].countP holds = 1 ↔
    ∃ actual, terminal = .value actual ∧ actual.isNaN = false ∧ expected.isNaN = false
  of_absent : terminal = .null → ∀ operator, holds operator = decide (operator = .notEquals)

/-- What the operators say of what stands at the end of a path, compared with an absent value. -/
structure ComparesWithAbsent (holds : Operator → Bool) (terminal : View) : Prop where
  equals_iff : holds .equals = true ↔ terminal = .null
  notEquals_iff : holds .notEquals = true ↔ ∃ actual, terminal = .value actual
  others : ∀ operator, operator ≠ .equals → operator ≠ .notEquals → holds operator = false

theorem comparesWithValue_of_present {holds : Operator → Bool} {actual expected : Value}
    (kinds : actual.kind = expected.kind)
    (each : ∀ operator, holds operator = operator.relates (some actual) (some expected)) :
    ComparesWithValue holds (.value actual) expected := by
  have same : holds = fun operator => operator.allows (actual.compare? expected) :=
    funext fun operator => (each operator).trans (operator.relates_values actual expected)
  obtain ⟨-, greater, less, count⟩ := Operator.allows_cases (actual.compare? expected)
  have bound : (actual.compare? expected).toList.length ≤ 1 := Option.length_toList_le
  have ordered : (actual.compare? expected).toList.length = 1 ↔
      actual.isNaN = false ∧ expected.isNaN = false := by
    have proper := Value.isSome_compare? kinds
    cases compared : actual.compare? expected with
    | none => simpa [compared] using proper
    | some ordering => simpa [compared] using proper
  rw [same]
  refine ⟨greater, less, count ▸ bound, ?_, nofun⟩
  rw [count, ordered]
  simp

theorem comparesWithValue_of_absent {holds : Operator → Bool} {expected : Value}
    (each : ∀ operator, holds operator = operator.relates none (some expected)) :
    ComparesWithValue holds .null expected := by
  have same : holds = fun operator => decide (operator = .notEquals) :=
    funext fun operator => (each operator).trans (operator.relates_none_left expected)
  rw [same]
  refine ⟨rfl, rfl, by decide, iff_of_false (by decide) ?_, fun _ _ => rfl⟩
  intro present
  obtain ⟨actual, same, -⟩ := present
  cases same

theorem comparesWithAbsent_of_scalar {holds : Operator → Bool} {terminal : View}
    (scalar : terminal = .null ∨ ∃ actual, terminal = .value actual)
    (each : ∀ operator, holds operator = operator.relates terminal.value? none) :
    ComparesWithAbsent holds terminal := by
  rcases scalar with rfl | ⟨actual, rfl⟩
  · have same : holds = fun operator => decide (operator = .equals) :=
      funext fun operator => (each operator).trans (operator.relates_none_right none)
    rw [same]
    refine ⟨iff_of_true rfl rfl, iff_of_false (by decide) ?_, fun _ other _ =>
      decide_eq_false other⟩
    intro present
    obtain ⟨actual, same⟩ := present
    cases same
  · have same : holds = fun operator => decide (operator = .notEquals) :=
      funext fun operator => (each operator).trans (operator.relates_none_right (some actual))
    rw [same]
    exact ⟨iff_of_false (by decide) nofun, iff_of_true rfl ⟨actual, rfl⟩, fun _ _ other =>
      decide_eq_false other⟩

/-! ## Conditions -/

variable {catalog : Catalog ι} {options : CompileOptions} {path : PropertyPath ι} {text : Text}
  {literal : Literal} {item : View}

theorem test_of_scalar
    (accepted : Literal.read catalog options path.terminal .equals text = .ok literal)
    (operator : Operator) {terminal : View}
    (scalar : terminal = .null ∨ ∃ actual, terminal = .value actual) :
    test ⟨path, operator, literal⟩ terminal = operator.relates terminal.value? literal.value? := by
  rcases scalar with rfl | ⟨actual, rfl⟩
  · exact testValue_eq_relates accepted path operator none
  · exact testValue_eq_relates accepted path operator (some actual)

/-- Neither *equal* nor *not equal* holds exactly if the path leads nowhere: of everything that it
leads to, one of them holds. -/
theorem neither_iff
    (accepted : Literal.read catalog options path.terminal .equals text = .ok literal)
    (scalar : ∀ terminal ∈ path.terminals item,
      terminal = .null ∨ ∃ actual, terminal = .value actual) :
    evaluate ⟨path, .equals, literal⟩ item = false ∧
        evaluate ⟨path, .notEquals, literal⟩ item = false ↔ path.terminals item = [] := by
  unfold evaluate
  refine ⟨?_, ?_⟩
  · intro neither
    refine List.eq_nil_iff_forall_not_mem.2 fun terminal member => ?_
    have equal := List.any_eq_false.1 neither.1 terminal member
    have unequal := List.any_eq_false.1 neither.2 terminal member
    rw [test_of_scalar accepted _ (scalar terminal member)] at equal unequal
    exact unequal (by simpa [Operator.relates] using equal)
  · intro nowhere
    rw [nowhere]
    exact ⟨rfl, rfl⟩

theorem terminals_eq_nil_iff {hop : Nat} (crosses : path.quantifier = some hop)
    (list : item.walk (path.indices.take (hop + 1)) = .null ∨
      ∃ elements, item.walk (path.indices.take (hop + 1)) = .list elements) :
    path.terminals item = [] ↔
      item.walk (path.indices.take (hop + 1)) = .null ∨
        item.walk (path.indices.take (hop + 1)) = .list [] := by
  rw [PropertyPath.terminals_of_crossing crosses, List.map_eq_nil_iff]
  rcases list with absent | ⟨elements, present⟩
  · rw [absent]
    exact iff_of_true rfl (Or.inl rfl)
  · rw [present]
    simp [View.elements]

theorem evaluate_of_direct (direct : path.quantifier = none) (condition : Condition ι)
    (same : condition.path = path) (item : View) :
    condition.evaluate item = condition.test (item.walk path.indices) := by
  unfold evaluate
  rw [same, PropertyPath.terminals_of_direct direct, List.any_cons, List.any_nil, Bool.or_false]

/-- A search for text finds nothing in an absent value. -/
theorem test_null_of_textual {operator : Operator} {condition : Condition ι}
    (searches : operator.isTextual = true)
    (compiled : compile catalog options path operator text = .ok condition) :
    condition.test .null = false := by
  obtain ⟨-, -, read⟩ := compile_eq_ok_iff.1 compiled
  obtain ⟨content, needle⟩ := Literal.needle_of_read searches read
  unfold test testValue
  rw [needle]
  rfl

/-- What the operators that compare say of a record, for one path and one literal.

They all read the text of the literal in the same way, and it says that there is no value exactly if
it is the literal for absent values and the path ends at a nullable type. A path without collection
ends at a value or at an absent one, which is where every step behind an absent object leads.
There *not equal* is the negation of *equal*, and the others depend on whether the literal is
present (`ComparesWithValue`, `ComparesWithAbsent`); searches for text find nothing in an absent
value. Across a collection neither *equal* nor *not equal* holds exactly if the collection is absent
or empty. -/
theorem comparisons_agree (catalog : Catalog ι) (options : CompileOptions) (root : Schema ι)
    (expr : PathExpr) (path : PropertyPath ι) (text : Text) (literal : Literal) (item : View)
    (resolved : PropertyPath.resolve catalog root expr = .ok path)
    (accepted : Literal.read catalog options path.terminal .equals text = .ok literal)
    (conforms : item.ConformsTo catalog root) :
    (∀ operator, operator.isTextual = false →
      compile catalog options path operator text = .ok ⟨path, operator, literal⟩) ∧
    (literal.value? = none ↔
      path.terminal.isNullable = true ∧ options.isNullLiteral text = true) ∧
    (path.quantifier = none →
      (item.walk path.indices = .null ∨ ∃ actual, item.walk path.indices = .value actual) ∧
      (item.walk path.indices = .null ↔ ∃ stop, item.walk (path.indices.take stop) = .null) ∧
      evaluate ⟨path, .notEquals, literal⟩ item = !evaluate ⟨path, .equals, literal⟩ item ∧
      (match literal.value? with
      | some expected => ComparesWithValue (fun operator => evaluate ⟨path, operator, literal⟩ item)
          (item.walk path.indices) expected
      | none => ComparesWithAbsent (fun operator => evaluate ⟨path, operator, literal⟩ item)
          (item.walk path.indices)) ∧
      ∀ operator condition, operator.isTextual = true →
        compile catalog options path operator text = .ok condition →
        item.walk path.indices = .null → condition.evaluate item = false) ∧
    ∀ hop, path.quantifier = some hop →
      (evaluate ⟨path, .equals, literal⟩ item = false ∧
          evaluate ⟨path, .notEquals, literal⟩ item = false ↔
        item.walk (path.indices.take (hop + 1)) = .null ∨
          item.walk (path.indices.take (hop + 1)) = .list []) := by
  obtain ⟨-, resolves⟩ := PropertyPath.resolve_eq_ok_iff.1 resolved
  have compiled : Compiled catalog options root expr.steps .equals text ⟨path, .equals, literal⟩ :=
    compiled_iff.2 ⟨path, resolved, compile_eq_ok_iff.2 ⟨rfl, rfl, accepted⟩⟩
  have held : ∀ terminal ∈ path.terminals item, terminal = .null ∨
      ∃ actual, terminal = .value actual ∧ path.terminal.underlying.Holds actual :=
    fun _ => compiled.terminal_cases conforms
  have scalar : ∀ terminal ∈ path.terminals item,
      terminal = .null ∨ ∃ actual, terminal = .value actual := by
    intro terminal reached
    rcases held terminal reached with absent | ⟨actual, present, -⟩
    · exact Or.inl absent
    · exact Or.inr ⟨actual, present⟩
  refine ⟨?_, Literal.value?_eq_none_iff accepted, ?_, ?_⟩
  · intro operator compares
    refine compile_eq_ok_iff.2 ⟨rfl, rfl, ?_⟩
    rw [Literal.read_of_compares compares]
    exact accepted
  · intro direct
    have reached : item.walk path.indices ∈ path.terminals item := by
      rw [PropertyPath.terminals_of_direct direct]
      exact List.mem_singleton_self _
    have each : ∀ operator, evaluate ⟨path, operator, literal⟩ item =
        operator.relates (item.walk path.indices).value? literal.value? := by
      intro operator
      rw [evaluate_of_direct direct _ rfl]
      exact test_of_scalar accepted operator (scalar _ reached)
    refine ⟨scalar _ reached, View.walk_eq_null_iff, ?_, ?_, ?_⟩
    · rw [each, each]
      rfl
    · cases present : literal.value? with
      | none =>
        rw [present] at each
        exact comparesWithAbsent_of_scalar (scalar _ reached) each
      | some expected =>
        rw [present] at each
        rcases held _ reached with absent | ⟨actual, found, fits⟩
        · rw [absent] at each ⊢
          exact comparesWithValue_of_absent each
        · rw [found] at each ⊢
          have kinds := fits.kind_eq ((Literal.holds_of_read accepted).2 expected present)
          exact comparesWithValue_of_present kinds each
    · intro operator condition searches searching absent
      rw [evaluate_of_direct direct condition (compile_eq_ok_iff.1 searching).1, absent]
      exact test_null_of_textual searches searching
  · intro hop crosses
    rw [neither_iff accepted scalar]
    exact terminals_eq_nil_iff crosses (resolves.walk_hop (Or.inr conforms) hop crosses)

/-- For a node to which no node is next, `next.id` differs from 2 and compares with it in no other
way. Its children, of which it has none, neither differ from 2 nor equal it. -/
theorem comparisons_agree_leaf :
    let leaf := Sample.nodeView 1 []
    let next : PropertyPath Sample :=
      ⟨"Node".toList,
        [ ⟨"next".toList, 2, .nullable (.object .node)⟩,
          ⟨"id".toList, 0, .scalar (.integer .i32)⟩ ], none, .scalar (.integer .i32)⟩
    let children := Sample.childAboveOne.path
    let literal := Literal.typed (.signed 2)
    PropertyPath.resolve Sample.catalog (Sample.catalog .node) ⟨["next".toList, "id".toList]⟩ =
      .ok next ∧
    PropertyPath.resolve Sample.catalog (Sample.catalog .node)
      ⟨["children".toList, "id".toList]⟩ = .ok children ∧
    leaf.ConformsTo Sample.catalog (Sample.catalog .node) ∧
    (∀ operator, evaluate ⟨next, operator, literal⟩ leaf = decide (operator = .notEquals)) ∧
    evaluate ⟨children, .equals, literal⟩ leaf = false ∧
    evaluate ⟨children, .notEquals, literal⟩ leaf = false := by
  intro leaf next children literal
  have resolved : PropertyPath.resolve Sample.catalog (Sample.catalog .node)
      ⟨["next".toList, "id".toList]⟩ = .ok next :=
    eq_ok_of_toOption (by decide +kernel)
  have resolved' : PropertyPath.resolve Sample.catalog (Sample.catalog .node)
      ⟨["children".toList, "id".toList]⟩ = .ok children :=
    eq_ok_of_toOption (by decide +kernel)
  have accepted : Literal.read Sample.catalog {} (.scalar (.integer .i32)) .equals "2".toList =
      .ok literal :=
    eq_ok_of_toOption (by decide +kernel)
  have conforms : leaf.ConformsTo Sample.catalog (Sample.catalog .node) :=
    Sample.nodeView_conformsTo 1 nofun
  obtain ⟨-, -, direct, -⟩ := comparisons_agree Sample.catalog {} (Sample.catalog .node) _ next _
    literal leaf resolved accepted conforms
  obtain ⟨-, -, -, across⟩ := comparisons_agree Sample.catalog {} (Sample.catalog .node) _ children
    _ literal leaf resolved' accepted conforms
  obtain ⟨-, -, -, compares, -⟩ := direct rfl
  obtain ⟨equal, unequal⟩ := (across 0 rfl).2 (Or.inr rfl)
  exact ⟨resolved, resolved', conforms, compares.of_absent rfl, equal, unequal⟩

end Condition

end TextQuery
