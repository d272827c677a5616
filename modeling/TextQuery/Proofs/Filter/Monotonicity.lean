import TextQuery.Proofs.Typing.Soundness
import TextQuery.Proofs.View.Enlargement

/-!
Filters see collections as sets, and more elements never take an item out of a filter. A condition
is tested on scalar values, which enlarging collections does not change, and it needs one of them
only; expressions do not negate. Main statement: `Filter.holds_of_enlarged`.
-/

namespace TextQuery

variable {ι : Type}

theorem View.Enlarged.eq_of_scalar {left right : View} (enlarged : left.Enlarged right)
    (leftScalar : left = .null ∨ ∃ content, left = .value content)
    (rightScalar : right = .null ∨ ∃ content, right = .value content) : left = right := by
  rcases leftScalar with rfl | ⟨content, rfl⟩
  · rcases rightScalar with rfl | ⟨content, rfl⟩
    · rfl
    · cases enlarged
  · cases enlarged
    rfl

section Monotone

variable {catalog : Catalog ι} {options : CompileOptions} {root : Schema ι} {left right : View}

theorem Condition.Compiled.evaluate_of_enlarged {steps : List Text} {operator : Operator}
    {text : Text} {condition : Condition ι}
    (compiled : Compiled catalog options root steps operator text condition)
    (leftConforms : left.ConformsTo catalog root) (rightConforms : right.ConformsTo catalog root)
    (enlarged : left.Enlarged right) (holds : condition.evaluate left = true) :
    condition.evaluate right = true := by
  obtain ⟨terminal, reached, tested⟩ := List.any_eq_true.1 holds
  obtain ⟨counterpart, counterpartReached, further⟩ :=
    enlarged.terminals condition.path terminal reached
  have scalar : ∀ {item view : View}, item.ConformsTo catalog root →
      view ∈ condition.path.terminals item → view = .null ∨ ∃ content, view = .value content := by
    intro item view conforms reached
    rcases compiled.terminal_cases conforms reached with absent | ⟨content, present, -⟩
    · exact Or.inl absent
    · exact Or.inr ⟨content, present⟩
  have same := further.eq_of_scalar (scalar leftConforms reached)
    (scalar rightConforms counterpartReached)
  rw [same] at tested
  exact List.any_eq_true.2 ⟨counterpart, counterpartReached, tested⟩

/-- Expressions keep what their conditions keep: neither *and* nor *or* turns a truth around. -/
theorem Expression.evaluate_mono {expression : Expression ι}
    (each : ∀ condition ∈ expression.conditions,
      condition.evaluate left = true → condition.evaluate right = true)
    (holds : expression.evaluate left = true) : expression.evaluate right = true := by
  induction expression with
  | condition c => exact each c List.mem_cons_self holds
  | and first second ihFirst ihSecond =>
    obtain ⟨firstHolds, secondHolds⟩ := Bool.and_eq_true_iff.1 holds
    refine Bool.and_eq_true_iff.2 ⟨?_, ?_⟩
    · exact ihFirst (fun c member => each c (List.mem_append_left _ member)) firstHolds
    · exact ihSecond (fun c member => each c (List.mem_append_right _ member)) secondHolds
  | or first second ihFirst ihSecond =>
    rcases Bool.or_eq_true_iff.1 holds with firstHolds | secondHolds
    · exact Bool.or_eq_true_iff.2
        (Or.inl (ihFirst (fun c member => each c (List.mem_append_left _ member)) firstHolds))
    · exact Bool.or_eq_true_iff.2
        (Or.inr (ihSecond (fun c member => each c (List.mem_append_right _ member)) secondHolds))

theorem Filter.holds_mono {text : Text} {filter : Filter ι}
    (compiled : compile catalog options root text = .ok filter)
    (leftConforms : left.ConformsTo catalog root) (rightConforms : right.ConformsTo catalog root)
    (enlarged : left.Enlarged right) (holds : filter.holds left = true) :
    filter.holds right = true := by
  obtain ⟨expression⟩ := filter
  cases expression with
  | none => rfl
  | some expression =>
    change expression.evaluate left = true at holds
    refine Expression.evaluate_mono ?_ holds
    intro condition member conditionHolds
    obtain ⟨_, -, _, -, _, -, conditionCompiled⟩ := compiled_of_mem compiled member
    exact conditionCompiled.evaluate_of_enlarged leftConforms rightConforms enlarged conditionHolds

end Monotone

/-- An item that passes a filter still passes it with collections enlarged, at any depth. So it
makes no difference to a filter in what order or how often a collection holds its elements, or
whether an empty collection is absent. -/
theorem Filter.holds_of_enlarged (catalog : Catalog ι) (options : CompileOptions)
    (root : Schema ι) (text : Text) (filter : Filter ι)
    (compiled : compile catalog options root text = .ok filter) (left right : View)
    (leftConforms : left.ConformsTo catalog root)
    (rightConforms : right.ConformsTo catalog root) :
    (left.Enlarged right → filter.holds left = true → filter.holds right = true) ∧
      (Relation.ReflTransGen View.Rearranged left right →
        filter.holds left = filter.holds right) := by
  refine ⟨?_, ?_⟩
  · intro enlarged holds
    exact holds_mono compiled leftConforms rightConforms enlarged holds
  · intro rearranged
    obtain ⟨forth, back⟩ := View.enlarged_of_rearranged rearranged
    rw [Bool.eq_iff_iff]
    refine ⟨?_, ?_⟩
    · intro holds
      exact holds_mono compiled leftConforms rightConforms forth holds
    · intro holds
      exact holds_mono compiled rightConforms leftConforms back holds

/-- With a child of number 2 besides the one of number 3, in either order, a node still has a child
of another number than 2. -/
theorem Filter.holds_of_enlarged_children :
    ∃ filter : Filter Sample,
      compile Sample.catalog {} (Sample.catalog .node) "children.id!=2".toList = .ok filter ∧
      filter.holds (Sample.nodeView 1 [Sample.nodeView 3 []]) = true ∧
      filter.holds (Sample.nodeView 1 [Sample.nodeView 2 [], Sample.nodeView 3 []]) = true ∧
      filter.holds (Sample.nodeView 1 [Sample.nodeView 2 [], Sample.nodeView 3 []]) =
        filter.holds (Sample.nodeView 1 [Sample.nodeView 3 [], Sample.nodeView 2 []]) := by
  have leaf : ∀ id, View.ConformsTo Sample.catalog (Sample.catalog .node)
      (Sample.nodeView id []) := by
    intro id
    exact Sample.nodeView_conformsTo id nofun
  have single := Sample.nodeView_conformsTo 1 (List.forall_mem_singleton.2 (leaf 3))
  have pair : ∀ first second, View.ConformsTo Sample.catalog (Sample.catalog .node)
      (Sample.nodeView 1 [Sample.nodeView first [], Sample.nodeView second []]) := by
    intro first second
    exact Sample.nodeView_conformsTo 1
      (List.forall_mem_cons.2 ⟨leaf first, List.forall_mem_singleton.2 (leaf second)⟩)
  have enlarged : (Sample.nodeView 1 [Sample.nodeView 3 []]).Enlarged
      (Sample.nodeView 1 [Sample.nodeView 2 [], Sample.nodeView 3 []]) :=
    (View.Enlarged.list_of_subset (List.subset_cons_self _ _)).inField [_, _, _] []
  have swapped : View.Rearranged
      (Sample.nodeView 1 [Sample.nodeView 2 [], Sample.nodeView 3 []])
      (Sample.nodeView 1 [Sample.nodeView 3 [], Sample.nodeView 2 []]) :=
    .inField [_, _, _] [] (.permuted (List.Perm.swap _ _ _))
  have kept : (compile Sample.catalog {} (Sample.catalog .node)
      "children.id!=2".toList).toOption.any
        (·.holds (Sample.nodeView 1 [Sample.nodeView 3 []])) = true := by
    decide +kernel
  obtain ⟨filter, compiled, holds⟩ := exists_of_any_toOption kept
  refine ⟨filter, compiled, holds, ?_, ?_⟩
  · exact (Filter.holds_of_enlarged _ _ _ _ filter compiled _ _ single (pair 2 3)).1 enlarged holds
  · exact (Filter.holds_of_enlarged _ _ _ _ filter compiled _ _ (pair 2 3) (pair 3 2)).2
      (.single swapped)

end TextQuery
