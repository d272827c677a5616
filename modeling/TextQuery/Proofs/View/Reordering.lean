import Mathlib.Data.List.Forall2
import TextQuery.Filter.Basic
import TextQuery.Order
import TextQuery.Proofs.Path.Terminals

/-!
Views that differ only in the order of elements. `left.Reordered right` says that both show the same
records and values, but that lists, at any depth, may hold their elements in different orders. A
path leads to the same in both, up to order, and so filters and orders cannot tell them apart. Main
statements: `Reordered.filter_holds` and `Reordered.key?_eq`.
-/

namespace TextQuery

variable {ι : Type}

namespace View

/-- The second view is the first one with the elements of some lists in another order. -/
inductive Reordered : View → View → Prop
  | refl (view : View) : Reordered view view
  | record {left right : List View} :
    List.Forall₂ Reordered left right → Reordered (record left) (record right)
  | list {left middle right : List View} :
    List.Forall₂ Reordered left middle → middle.Perm right → Reordered (list left) (list right)

/-- Several views are those of another list, reordered, in any order. -/
def ReorderedAll (left right : List View) : Prop :=
  ∃ middle, List.Forall₂ Reordered left middle ∧ middle.Perm right

theorem ReorderedAll.refl (views : List View) : ReorderedAll views views :=
  ⟨views, List.forall₂_same.2 fun view _ => .refl view, .refl _⟩

theorem ReorderedAll.map {left right : List View} (reordered : ReorderedAll left right)
    {f : View → View} (each : ∀ {a b : View}, a.Reordered b → (f a).Reordered (f b)) :
    ReorderedAll (left.map f) (right.map f) := by
  obtain ⟨middle, pointwise, permutation⟩ := reordered
  refine ⟨middle.map f, ?_, permutation.map f⟩
  rw [List.forall₂_map_left_iff, List.forall₂_map_right_iff]
  exact pointwise.imp fun _ _ => each

theorem ReorderedAll.any_eq {left right : List View} (reordered : ReorderedAll left right)
    {p : View → Bool} (each : ∀ {a b : View}, a.Reordered b → p a = p b) :
    left.any p = right.any p := by
  obtain ⟨middle, pointwise, permutation⟩ := reordered
  rw [← permutation.any_eq]
  clear permutation
  induction pointwise with
  | nil => rfl
  | cons first _ ih => rw [List.any_cons, List.any_cons, each first, ih]

namespace Reordered

variable {left right : View}

theorem child (reordered : left.Reordered right) (index : Nat) :
    (left.child index).Reordered (right.child index) := by
  cases reordered with
  | refl view => exact .refl _
  | list _ _ => exact .refl _
  | record fields =>
    rw [child_record, child_record]
    induction fields generalizing index with
    | nil => exact .refl _
    | cons first _ ih =>
      cases index with
      | zero => exact first
      | succ index => exact ih index

theorem walk (reordered : left.Reordered right) (indices : List Nat) :
    (left.walk indices).Reordered (right.walk indices) := by
  induction indices generalizing left right with
  | nil => exact reordered
  | cons index indices ih => exact ih (reordered.child index)

theorem elements (reordered : left.Reordered right) :
    ReorderedAll left.elements right.elements := by
  cases reordered with
  | refl view => exact .refl _
  | record fields => exact .refl _
  | list pointwise permutation => exact ⟨_, pointwise, permutation⟩

theorem value?_eq (reordered : left.Reordered right) : left.value? = right.value? := by
  cases reordered <;> rfl

/-- A path leads to the same in both views, up to order. -/
theorem terminals (reordered : left.Reordered right) (path : PropertyPath ι) :
    ReorderedAll (path.terminals left) (path.terminals right) := by
  cases crosses : path.quantifier with
  | none =>
    rw [PropertyPath.terminals_of_direct crosses, PropertyPath.terminals_of_direct crosses]
    exact ⟨[right.walk path.indices], .cons (reordered.walk path.indices) .nil, .refl _⟩
  | some hop =>
    rw [PropertyPath.terminals_of_crossing crosses, PropertyPath.terminals_of_crossing crosses]
    exact (reordered.walk _).elements.map fun element => element.walk _

/-! ## What cannot tell them apart -/

theorem test_eq (reordered : left.Reordered right) (condition : Condition ι) :
    condition.test left = condition.test right := by
  cases reordered <;> rfl

theorem condition_evaluate (reordered : left.Reordered right) (condition : Condition ι) :
    condition.evaluate left = condition.evaluate right :=
  (reordered.terminals condition.path).any_eq fun terminal => terminal.test_eq condition

theorem expression_evaluate (reordered : left.Reordered right) (expression : Expression ι) :
    expression.evaluate left = expression.evaluate right := by
  induction expression with
  | condition c => exact reordered.condition_evaluate c
  | and first second ihFirst ihSecond =>
    rw [Expression.evaluate, Expression.evaluate, ihFirst, ihSecond]
  | or first second ihFirst ihSecond =>
    rw [Expression.evaluate, Expression.evaluate, ihFirst, ihSecond]

theorem filter_holds (reordered : left.Reordered right) (filter : Filter ι) :
    filter.holds left = filter.holds right := by
  obtain ⟨expression⟩ := filter
  cases expression with
  | none => rfl
  | some expression => exact reordered.expression_evaluate expression

theorem key?_eq (reordered : left.Reordered right) (order : Order ι) :
    order.key? left = order.key? right := by
  unfold Order.key?
  rw [(reordered.walk order.path.indices).value?_eq]

end Reordered

end View

end TextQuery
