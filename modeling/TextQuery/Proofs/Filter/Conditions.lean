import TextQuery.Filter.Basic
import TextQuery.Proofs.Path.Resolution

/-!
The conditions of a filter, and what compilation says of each. `Condition.Compiled` ties a condition
to the steps, the operator and the literal text it comes from; every condition of a compiled filter
is compiled from one literal of one clause of its text (`Filter.compiled_of_mem`).
-/

namespace TextQuery

variable {ι : Type} {catalog : Catalog ι} {options : CompileOptions} {root : Schema ι}

/-! ## Literals -/

/-- How a literal is read. The operators that search text take it as it is, and all others read it
in the same way: as an absent value, if the type is nullable and the text says so, or as a value. -/
theorem Literal.read_eq (catalog : Catalog ι) (options : CompileOptions) (type : FieldType ι)
    (operator : Operator) (text : Text) :
    read catalog options type operator text =
      if type.isComparable = false then .error (.invalidLiteral text (catalog.typeText type))
      else if operator.isTextual = true then
        .ok (needle (if operator = .contains then text.lower else text))
      else if type.isNullable = true ∧ options.isNullLiteral text = true then .ok (nullable none)
      else (type.underlying.readValue catalog options text).map
        fun value => if type.isNullable = true then nullable (some value) else typed value := by
  have valued : (if type.isNullable = true then
        if options.isNullLiteral text = true then Except.ok (nullable none)
        else (type.underlying.readValue catalog options text).map fun value => nullable (some value)
      else (type.readValue catalog options text).map typed) =
      if type.isNullable = true ∧ options.isNullLiteral text = true then .ok (nullable none)
      else (type.underlying.readValue catalog options text).map
        fun value => if type.isNullable = true then nullable (some value) else typed value := by
    cases layered : type.isNullable with
    | true => simp
    | false => simp [FieldType.underlying_eq_self layered]
  unfold read
  cases type.isComparable with
  | false => rfl
  | true =>
    cases operator with
    | contains => rfl
    | containsCaseSensitive => rfl
    | _ => exact valued

/-! ## Compiled conditions -/

namespace Condition

/-- The condition is what compiling a path, an operator and one literal text gives. -/
structure Compiled (catalog : Catalog ι) (options : CompileOptions) (root : Schema ι)
    (steps : List Text) (operator : Operator) (text : Text) (condition : Condition ι) : Prop where
  root_eq : condition.path.root = root.typeName
  resolves : PropertyPath.Resolves catalog root steps condition.path.segments
    condition.path.quantifier condition.path.terminal
  operator_eq : condition.operator = operator
  literal_eq : Literal.read catalog options condition.path.terminal operator text =
    .ok condition.literal

theorem Compiled.resolved {steps : List Text} {operator : Operator} {text : Text}
    {condition : Condition ι}
    (compiled : Compiled catalog options root steps operator text condition) :
    PropertyPath.resolve catalog root ⟨steps⟩ = .ok condition.path :=
  PropertyPath.resolve_eq_ok_iff.2 ⟨compiled.root_eq, compiled.resolves⟩

theorem compile_eq_ok_iff {path : PropertyPath ι} {operator : Operator} {text : Text}
    {condition : Condition ι} :
    compile catalog options path operator text = .ok condition ↔
      condition.path = path ∧ condition.operator = operator ∧
        Literal.read catalog options path.terminal operator text = .ok condition.literal := by
  unfold compile
  rw [map_eq_ok_iff]
  refine ⟨?_, ?_⟩
  · intro parts
    obtain ⟨literal, read, rfl⟩ := parts
    exact ⟨rfl, rfl, read⟩
  · intro parts
    obtain ⟨rfl, rfl, read⟩ := parts
    exact ⟨condition.literal, read, rfl⟩

theorem compiled_iff {steps : List Text} {operator : Operator} {text : Text}
    {condition : Condition ι} :
    Compiled catalog options root steps operator text condition ↔
      ∃ path, PropertyPath.resolve catalog root ⟨steps⟩ = .ok path ∧
        compile catalog options path operator text = .ok condition := by
  refine ⟨?_, ?_⟩
  · intro compiled
    exact ⟨condition.path, compiled.resolved,
      compile_eq_ok_iff.2 ⟨rfl, compiled.operator_eq, compiled.literal_eq⟩⟩
  · intro parts
    obtain ⟨path, resolved, compiled⟩ := parts
    obtain ⟨rfl, operatorEq, read⟩ := compile_eq_ok_iff.1 compiled
    obtain ⟨rootEq, resolves⟩ := PropertyPath.resolve_eq_ok_iff.1 resolved
    exact ⟨rootEq, resolves, operatorEq, read⟩

theorem Compiled.unique {steps : List Text} {operator : Operator} {text : Text}
    {left right : Condition ι} (first : Compiled catalog options root steps operator text left)
    (second : Compiled catalog options root steps operator text right) : left = right := by
  obtain ⟨path, resolved, leftCompiled⟩ := compiled_iff.1 first
  obtain ⟨path', resolved', rightCompiled⟩ := compiled_iff.1 second
  rw [resolved] at resolved'
  cases resolved'
  rw [leftCompiled] at rightCompiled
  cases rightCompiled
  rfl

end Condition

theorem Clause.compile_single_eq_ok_iff {steps : List Text} {operator : Operator} {text : Text}
    {condition : Condition ι} :
    Clause.compile catalog options root ⟨⟨steps⟩, operator, [text]⟩ = .ok [condition] ↔
      Condition.Compiled catalog options root steps operator text condition := by
  rw [Condition.compiled_iff]
  unfold Clause.compile
  rw [bind_eq_ok_iff]
  refine exists_congr fun path => and_congr_right fun _ => ?_
  rw [List.mapM_cons, List.mapM_nil, bind_eq_ok_iff]
  refine ⟨?_, ?_⟩
  · intro parts
    obtain ⟨read, compiled, same⟩ := parts
    cases same
    exact compiled
  · intro compiled
    exact ⟨condition, compiled, rfl⟩

theorem Clause.ne_nil_of_compile {clause : Clause} {conditions : List (Condition ι)}
    (compiled : clause.compile catalog options root = .ok conditions)
    (literals : clause.values ≠ []) : conditions ≠ [] := by
  unfold Clause.compile at compiled
  obtain ⟨path, -, compiled⟩ := bind_eq_ok_iff.1 compiled
  exact ne_nil_of_mapM compiled literals

/-! ## The conditions of an expression -/

namespace Expression

/-- The conditions of an expression, from left to right. -/
def conditions : Expression ι → List (Condition ι)
  | condition c => [c]
  | and left right => left.conditions ++ right.conditions
  | or left right => left.conditions ++ right.conditions

theorem conditions_extend (first : Bool) (before : Option (Expression ι)) (c : Condition ι) :
    (extend first before c).conditions = before.elim [] conditions ++ [c] := by
  cases before with
  | none => rfl
  | some before => cases first <;> rfl

theorem conditions_extendClause (before : Option (Expression ι)) (clause : List (Condition ι)) :
    (extendClause before clause).elim [] conditions = before.elim [] conditions ++ clause := by
  cases clause with
  | nil => exact (List.append_nil _).symm
  | cons c more =>
    have alternatives : ∀ (all : Expression ι) (more : List (Condition ι)),
        (more.foldl (fun all next => some (extend false all next)) (some all)).elim [] conditions =
          all.conditions ++ more := by
      intro all more
      induction more generalizing all with
      | nil => exact (List.append_nil _).symm
      | cons next more ih =>
        rw [List.foldl_cons, ih, conditions_extend, Option.elim_some, List.append_assoc]
        rfl
    rw [extendClause, alternatives, conditions_extend, List.append_assoc]
    rfl

theorem conditions_ofClauses (clauses : List (List (Condition ι))) :
    (ofClauses clauses).elim [] conditions = clauses.flatten := by
  have extended : ∀ (before : Option (Expression ι)) (clauses : List (List (Condition ι))),
      (clauses.foldl extendClause before).elim [] conditions =
        before.elim [] conditions ++ clauses.flatten := by
    intro before clauses
    induction clauses generalizing before with
    | nil => exact (List.append_nil _).symm
    | cons clause clauses ih =>
      rw [List.foldl_cons, ih, conditions_extendClause, List.append_assoc, List.flatten_cons]
  exact extended none clauses

end Expression

namespace Filter

/-- The conditions of a filter, in the order of its text. -/
def conditions (filter : Filter ι) : List (Condition ι) :=
  filter.expression.elim [] Expression.conditions

theorem compile_eq_ok_iff {text : Text} {filter : Filter ι} :
    compile catalog options root text = .ok filter ↔
      ∃ clauses conditions, Clause.readAll text = .ok clauses ∧
        clauses.mapM (Clause.compile catalog options root) = .ok conditions ∧
        filter = ⟨Expression.ofClauses conditions⟩ := by
  unfold compile
  refine ⟨?_, ?_⟩
  · intro compiled
    obtain ⟨clauses, read, compiled⟩ := bind_eq_ok_iff.1 compiled
    obtain ⟨conditions, each, same⟩ := bind_eq_ok_iff.1 compiled
    cases same
    exact ⟨clauses, conditions, mapError_eq_ok_iff.1 read, each, rfl⟩
  · intro parts
    obtain ⟨clauses, conditions, read, each, rfl⟩ := parts
    exact bind_eq_ok_iff.2 ⟨clauses, mapError_eq_ok_iff.2 read,
      bind_eq_ok_iff.2 ⟨conditions, each, rfl⟩⟩

/-- Every condition of a compiled filter is compiled from one literal of one clause of the text. -/
theorem compiled_of_mem {text : Text} {filter : Filter ι}
    (compiled : compile catalog options root text = .ok filter) {condition : Condition ι}
    (member : condition ∈ filter.conditions) :
    ∃ clauses, Clause.readAll text = .ok clauses ∧ ∃ clause ∈ clauses, ∃ literal ∈ clause.values,
      Condition.Compiled catalog options root clause.path.steps clause.operator literal
        condition := by
  obtain ⟨clauses, conditions, read, each, rfl⟩ := compile_eq_ok_iff.1 compiled
  unfold Filter.conditions at member
  rw [Expression.conditions_ofClauses] at member
  obtain ⟨group, groupMember, member⟩ := List.mem_flatten.1 member
  obtain ⟨clause, clauseMember, compiled⟩ := exists_of_mem_mapM each groupMember
  unfold Clause.compile at compiled
  obtain ⟨path, resolved, compiled⟩ := bind_eq_ok_iff.1 compiled
  obtain ⟨literal, literalMember, compiled⟩ := exists_of_mem_mapM compiled member
  exact ⟨clauses, read, clause, clauseMember, literal, literalMember,
    Condition.compiled_iff.2 ⟨path, resolved, compiled⟩⟩

end Filter

end TextQuery
