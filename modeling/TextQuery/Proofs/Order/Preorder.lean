import TextQuery.Proofs.Order.Keys
import TextQuery.Proofs.Traversal
import TextQuery.Samples.Catalog

/-!
Orders are total preorders. Whatever the items show at the path of an order, be it nothing, a NaN,
or values of different kinds, any two of them are comparable, and comparing is transitive in both
directions. So sorting is well defined under every order. Main statement:
`Order.compare_total_preorder`.
-/

namespace TextQuery

variable {ι : Type}

namespace Order

variable {order : Order ι} {a b c : View}

theorem compare_ne_gt_iff : order.compare a b ≠ .gt ↔ (order.compare a b).isLE = true :=
  Ordering.isLE_iff_ne_gt.symm

/-- Of two steps that do not descend, both stay level if the whole does. -/
theorem compare_eq_of_level (first : order.compare a b ≠ .gt) (second : order.compare b c ≠ .gt)
    (level : order.compare a c = .eq) : order.compare a b = .eq ∧ order.compare b c = .eq := by
  rw [compare_ne_gt_iff] at first second
  have back : (order.compare c a).isLE = true := by
    rw [Std.OrientedCmp.eq_symm level]
    rfl
  refine ⟨?_, ?_⟩
  · exact Std.OrientedCmp.isLE_antisymm first (Std.TransCmp.isLE_trans second back)
  · exact Std.OrientedCmp.isLE_antisymm second (Std.TransCmp.isLE_trans back first)

/-- Two keys are never incomparable: neither is a NaN. So their items are compared as they are, in
the direction of the order. -/
theorem exists_compare?_of_keys {key key' : Value} (left : order.key? a = some key)
    (right : order.key? b = some key') :
    ∃ ordering, key.compare? key' = some ordering ∧
      order.compare a b = order.direction.apply ordering := by
  have comparable := Value.compare?_eq_some (isNaN_of_mem_key? left) (isNaN_of_mem_key? right)
  refine ⟨_, comparable, ?_⟩
  unfold compare compareKeys
  rw [left, right, TextQuery.compareKeys, comparable]
  rfl

/-- An order is a total preorder on all items, whether they fit a schema or not: an item is equal to
itself, comparing two items the other way around gives the opposite, and of two steps that do not
descend the whole does not, and is level only if both are. Any two keys that are there are
comparable, and their items are compared by them. In particular each of *less*, *equal* and
*greater* is transitive, as sorting needs. -/
theorem compare_total_preorder (order : Order ι) (a b c : View) :
    order.compare a a = .eq ∧
    order.compare b a = (order.compare a b).swap ∧
    (order.compare a b ≠ .gt → order.compare b c ≠ .gt →
      order.compare a c ≠ .gt ∧
        (order.compare a c = .eq → order.compare a b = .eq ∧ order.compare b c = .eq)) ∧
    (∀ key key', order.key? a = some key → order.key? b = some key' →
      ∃ ordering, key.compare? key' = some ordering ∧
        order.compare a b = order.direction.apply ordering) ∧
    ∀ ordering, order.compare a b = ordering → order.compare b c = ordering →
      order.compare a c = ordering := by
  refine ⟨Std.ReflCmp.compare_self, Std.OrientedCmp.eq_swap, ?_, ?_, ?_⟩
  · intro first second
    refine ⟨?_, compare_eq_of_level first second⟩
    rw [compare_ne_gt_iff] at first second ⊢
    exact Std.TransCmp.isLE_trans first second
  · intro key key' left right
    exact exists_compare?_of_keys left right
  · intro ordering first second
    cases ordering with
    | lt => exact Std.TransCmp.lt_trans first second
    | eq => exact Std.TransCmp.eq_trans first second
    | gt => exact Std.TransCmp.gt_trans first second

end Order

/-- An employee with a salary and perhaps a department. -/
def Sample.employeeView (salary : Double) (dept : View) : View :=
  .record [.value (.string []), .value (.float salary), .value (.date .epoch), dept, .list []]

/-- A department with its head. -/
def Sample.deptView (head : View) : View :=
  .record [.value (.string []), head, .list []]

/-- By the salary of the head of their department, from the highest down: an employee whose head has
one, then one whose department has no head and one whose head has a salary that is no number. -/
theorem Order.compare_total_preorder_salaries :
    let a := Sample.employeeView .nan (Sample.deptView
      (Sample.employeeView (.ofRatio false 2 1) .null))
    let b := Sample.employeeView .nan (Sample.deptView .null)
    let c := Sample.employeeView .nan (Sample.deptView (Sample.employeeView .nan .null))
    ∃ order, Order.compile Sample.catalog {} (Sample.catalog .employee)
        "dept.head.salary=desc".toList = .ok (some order) ∧
      order.compare a b = .lt ∧ order.compare b c = .eq ∧ order.compare a c ≠ .gt ∧
      order.compare a c ≠ .eq ∧ order.compare c a = (order.compare a c).swap := by
  intro a b c
  have compared : (Order.compile Sample.catalog {} (Sample.catalog .employee)
      "dept.head.salary=desc".toList).toOption.any (fun found => found.any fun order =>
        order.compare a b = .lt ∧ order.compare b c = .eq) = true := by
    decide +kernel
  obtain ⟨found, compiled, facts⟩ := exists_of_any_toOption compared
  obtain ⟨order, rfl, facts⟩ := (Option.any_eq_true _ _).1 facts
  obtain ⟨first, second⟩ := of_decide_eq_true facts
  obtain ⟨-, -, climbs, -, -⟩ := Order.compare_total_preorder order a b c
  obtain ⟨whole, level⟩ := climbs (by rw [first]; decide) (by rw [second]; decide)
  refine ⟨order, compiled, first, second, whole, ?_, ?_⟩
  · intro same
    have level := (level same).1
    rw [first] at level
    cases level
  · exact (Order.compare_total_preorder order a c b).2.1

end TextQuery
