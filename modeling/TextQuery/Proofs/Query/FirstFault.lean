import TextQuery.Query
import TextQuery.Proofs.Filter.Faults
import TextQuery.Samples.Catalog

/-!
Which fault is reported. A filter text is refused with its first fault, and a query with the error
of the first of its texts that does not compile; nothing that compiled before it is handed out. Main
statement: `Query.compile_reports_first`.
-/

namespace TextQuery

variable {ι : Type}

/-- A filter text without clauses is blank. -/
theorem Filter.compile_eq_all_iff (catalog : Catalog ι) (options : CompileOptions)
    (root : Schema ι) (text : Text) :
    compile catalog options root text = .ok all ↔ text.isBlank = true := by
  refine ⟨?_, ?_⟩
  · intro compiled
    by_contra visible
    rw [Bool.not_eq_true] at visible
    obtain ⟨clauses, conditions, read, each, same⟩ := compile_eq_ok_iff.1 compiled
    obtain ⟨nonempty, literals⟩ := Clause.nonempty_of_readAll visible read
    have nothing : conditions.flatten = [] := by
      rw [← Expression.conditions_ofClauses, ← Filter.mk.inj same]
      rfl
    obtain ⟨group, member⟩ := List.exists_mem_of_ne_nil _ (ne_nil_of_mapM each nonempty)
    obtain ⟨clause, clauseMember, compiled⟩ := exists_of_mem_mapM each member
    have groupNonempty := Clause.ne_nil_of_compile compiled (literals clause clauseMember)
    exact groupNonempty (List.flatten_eq_nil_iff.1 nothing group member)
  · intro blank
    exact compile_eq_ok_iff.2 ⟨[], [], Clause.readAll_of_blank blank, rfl, rfl⟩

namespace Query

section Parts

variable (catalog : Catalog ι) (options : CompileOptions) (root : Schema ι) (params : QueryParams)

/-- What a part of a query gives whose text may be absent. -/
def part {α : Type} (compile : Text → Except CompileError α) (absent : α) :
    Option Text → Except CompileError α
  | some text => compile text
  | none => .ok absent

/-- The filter of a query, alone. -/
def filterPart : Except CompileError (Filter ι) :=
  part (Filter.compile catalog options root) Filter.all (params.filter.or params.query)

/-- The order of a query, alone. -/
def orderPart : Except CompileError (Option (Order ι)) :=
  part (Order.compile catalog options root) none params.order

/-- The projection of a query, alone. -/
def selectPart : Except CompileError (Option Projection) :=
  part (Projection.compile root) none params.select

theorem compile_eq_bind_parts :
    compile catalog options root params =
      filterPart catalog options root params >>= fun filter =>
        orderPart catalog options root params >>= fun order =>
          selectPart root params >>= fun select => pure ⟨filter, order, select⟩ := by
  unfold compile filterPart orderPart selectPart QueryParams.filterText?
  cases params.filter.or params.query <;> cases params.order <;> cases params.select <;> rfl

theorem compile_eq_ok_iff {query : Query ι} :
    compile catalog options root params = .ok query ↔
      filterPart catalog options root params = .ok query.filter ∧
        orderPart catalog options root params = .ok query.order ∧
        selectPart root params = .ok query.select := by
  rw [compile_eq_bind_parts]
  refine ⟨?_, ?_⟩
  · intro compiled
    obtain ⟨filter, filtered, compiled⟩ := bind_eq_ok_iff.1 compiled
    obtain ⟨order, ordered, compiled⟩ := bind_eq_ok_iff.1 compiled
    obtain ⟨select, selected, same⟩ := bind_eq_ok_iff.1 compiled
    cases same
    exact ⟨filtered, ordered, selected⟩
  · intro parts
    obtain ⟨filtered, ordered, selected⟩ := parts
    rw [filtered, ordered, selected]
    rfl

theorem errorOf?_compile :
    errorOf? (compile catalog options root params) =
      ((errorOf? (filterPart catalog options root params)).or
        (errorOf? (orderPart catalog options root params))).or
          (errorOf? (selectPart root params)) := by
  rw [compile_eq_bind_parts]
  cases filterPart catalog options root params with
  | error error => rfl
  | ok filter =>
    cases orderPart catalog options root params with
    | error error => rfl
    | ok order => cases selectPart root params <;> rfl

end Parts

/-- Compilation reports the first fault and hands out nothing incomplete.

A filter text that is not blank compiles exactly if each piece between commas is a clause whose path
resolves and whose literals can be read for the type at the end of the path. Otherwise the first
fault is reported, and a piece that is no clause comes before everything that is wrong with the
clauses. A filter without an expression is that of a blank text.

A query compiles exactly if its filter text, which may also come under the name `query`, its order
text and its selection text do, as far as they are there, and it consists of what these give alone.
Otherwise it is refused with the error of the first of them that does not compile. -/
theorem compile_reports_first (catalog : Catalog ι) (options : CompileOptions) (root : Schema ι) :
    (∀ text : Text, text.isBlank = false →
      ((∃ filter, Filter.compile catalog options root text = .ok filter) ↔
        ∀ piece ∈ Text.pieces ',' text, ∃ clause, Clause.read piece = .ok clause ∧
          ∃ path, PropertyPath.resolve catalog root clause.path = .ok path ∧
            ∀ literal ∈ clause.values, ∃ value,
              Literal.read catalog options path.terminal clause.operator literal = .ok value) ∧
      ∀ error, Filter.compile catalog options root text = .error error ↔
        (Filter.faults catalog options root text).head? = some error) ∧
    (∀ text : Text, Filter.compile catalog options root text = .ok Filter.all ↔
      text.isBlank = true) ∧
    (∀ params : QueryParams,
      (∀ query, compile catalog options root params = .ok query ↔
        part (Filter.compile catalog options root) Filter.all (params.filter.or params.query) =
          .ok query.filter ∧
        part (Order.compile catalog options root) none params.order = .ok query.order ∧
        part (Projection.compile root) none params.select = .ok query.select) ∧
      ∀ error, compile catalog options root params = .error error ↔
        ((errorOf? (part (Filter.compile catalog options root) Filter.all
            (params.filter.or params.query))).or
          (errorOf? (part (Order.compile catalog options root) none params.order))).or
            (errorOf? (part (Projection.compile root) none params.select)) = some error) := by
  refine ⟨?_, ?_, ?_⟩
  · intro text visible
    refine ⟨Filter.compiles_iff catalog options root visible, ?_⟩
    intro error
    rw [← Filter.errorOf?_compile catalog options root visible]
    exact errorOf?_eq_some_iff.symm
  · exact Filter.compile_eq_all_iff catalog options root
  · intro params
    refine ⟨fun query => compile_eq_ok_iff catalog options root params, ?_⟩
    intro error
    rw [← errorOf?_eq_some_iff, errorOf?_compile]
    rfl

/-- The last piece of `nome=x,age=abc|y,name` is no clause, which is reported before the unknown
property and the two bad literals to its left. -/
theorem compile_reports_first_malformed :
    Text.isBlank "nome=x,age=abc|y,name".toList = false ∧
    Filter.compile Sample.catalog {} (Sample.catalog .user) "nome=x,age=abc|y,name".toList =
      .error (.parse (.malformedClause "name".toList)) := by
  have visible : Text.isBlank "nome=x,age=abc|y,name".toList = false := by decide
  have reports := (compile_reports_first Sample.catalog {} (Sample.catalog .user)).1 _ visible
  exact ⟨visible, (reports.2 _).2 (by decide +kernel)⟩

end Query

end TextQuery
