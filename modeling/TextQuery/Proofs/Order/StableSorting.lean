import TextQuery.Proofs.Order.Keys

/-!
Stable sorting. A list is a stable sorting of another one if it ascends and has the items of each
class of equal ones in the order in which the other list has them (`StableSorting`). There is only
one such list (`StableSorting.unique`), merge sort gives it (`stableSorting_mergeSort`), and it
makes no difference whether items are left out before or after (`StableSorting.filter`). Both ways
of sorting under an order give it (`Order.stableSorting_sort`, `Order.sortByKeys_eq_sort`).
-/

namespace TextQuery

variable {ι : Type}

section Comparison

variable {α : Type} {cmp : α → α → Ordering}

/-- The items of a list that are equal to `a`, in their order. -/
def equalTo (cmp : α → α → Ordering) (a : α) (items : List α) : List α :=
  items.filter fun b => cmp a b = .eq

/-- The second list is the first one in ascending order, with equal items left in their order. -/
structure StableSorting (cmp : α → α → Ordering) (items sorted : List α) : Prop where
  ascending : sorted.Pairwise fun a b => cmp a b ≠ .gt
  stable : ∀ a, equalTo cmp a sorted = equalTo cmp a items

variable {a b : α} {items sorted first second rest : List α}

theorem mem_equalTo_iff : b ∈ equalTo cmp a items ↔ b ∈ items ∧ cmp a b = .eq := by
  unfold equalTo
  rw [List.mem_filter, decide_eq_true_iff]

theorem equalTo_cons_of_eq (equal : cmp a b = .eq) :
    equalTo cmp a (b :: items) = b :: equalTo cmp a items :=
  List.filter_cons_of_pos (decide_eq_true equal)

theorem equalTo_cons_of_ne (unequal : cmp a b ≠ .eq) :
    equalTo cmp a (b :: items) = equalTo cmp a items :=
  List.filter_cons_of_neg (by simpa using unequal)

theorem equalTo_filter (p : α → Bool) :
    equalTo cmp a (items.filter p) = (equalTo cmp a items).filter p := by
  unfold equalTo
  rw [List.filter_filter, List.filter_filter]
  simp only [Bool.and_comm]

/-- What ascends is sorted already. -/
theorem StableSorting.self (ascending : items.Pairwise fun a b => cmp a b ≠ .gt) :
    StableSorting cmp items items :=
  ⟨ascending, fun _ => rfl⟩

/-- So are items that are all equal. -/
theorem StableSorting.of_level (level : ∀ a ∈ items, ∀ b ∈ items, cmp a b = .eq) :
    StableSorting cmp items items := by
  refine .self (List.pairwise_of_forall_mem_list ?_)
  intro a aMember b bMember
  rw [level a aMember b bMember]
  decide

/-- It makes no difference whether items are left out before sorting or after. -/
theorem StableSorting.filter (sorting : StableSorting cmp items sorted) (p : α → Bool) :
    StableSorting cmp (items.filter p) (sorted.filter p) where
  ascending := sorting.ascending.filter p
  stable a := by rw [equalTo_filter, equalTo_filter, sorting.stable]

/-! ## Lawful comparisons -/

variable [Std.TransCmp cmp]

/-- Lists with the same classes have the same items. -/
theorem mem_of_equalTo (classes : ∀ a, equalTo cmp a first = equalTo cmp a second)
    (member : a ∈ first) : a ∈ second := by
  have inClass : a ∈ equalTo cmp a first :=
    mem_equalTo_iff.2 ⟨member, Std.ReflCmp.compare_self⟩
  rw [classes] at inClass
  exact (mem_equalTo_iff.1 inClass).1

theorem count_equalTo [DecidableEq α] : (equalTo cmp a items).count a = items.count a :=
  List.count_filter (p := fun b => decide (cmp a b = .eq)) (decide_eq_true Std.ReflCmp.compare_self)

/-- The head of an ascending list is not above any of its items. -/
theorem isLE_of_mem_ascending (ascending : (a :: rest).Pairwise fun a b => cmp a b ≠ .gt)
    (member : b ∈ a :: rest) : (cmp a b).isLE = true := by
  rcases List.mem_cons.1 member with same | later
  · rw [same]
    exact Std.ReflCmp.isLE_rfl
  · exact Ordering.isLE_iff_ne_gt.2 (List.rel_of_pairwise_cons ascending later)

/-- Ascending lists with the same classes are equal: their heads are in one class, and are the first
ones of it. -/
theorem eq_of_ascending (firstAscending : first.Pairwise fun a b => cmp a b ≠ .gt)
    (secondAscending : second.Pairwise fun a b => cmp a b ≠ .gt)
    (classes : ∀ a, equalTo cmp a first = equalTo cmp a second) : first = second := by
  have back : ∀ a, equalTo cmp a second = equalTo cmp a first := fun a => (classes a).symm
  induction first generalizing second with
  | nil =>
    cases second with
    | nil => rfl
    | cons b more => cases mem_of_equalTo back List.mem_cons_self
  | cons a rest ih =>
    cases second with
    | nil => cases mem_of_equalTo classes List.mem_cons_self
    | cons b more =>
      have below := isLE_of_mem_ascending firstAscending (mem_of_equalTo back List.mem_cons_self)
      have above := isLE_of_mem_ascending secondAscending
        (mem_of_equalTo classes List.mem_cons_self)
      have heads := classes a
      rw [equalTo_cons_of_eq Std.ReflCmp.compare_self,
        equalTo_cons_of_eq (Std.OrientedCmp.isLE_antisymm below above)] at heads
      obtain ⟨rfl, -⟩ := List.cons.inj heads
      have rests : ∀ c, equalTo cmp c rest = equalTo cmp c more := by
        intro c
        have same := classes c
        by_cases equal : cmp c a = .eq
        · rw [equalTo_cons_of_eq equal, equalTo_cons_of_eq equal] at same
          exact (List.cons.inj same).2
        · rwa [equalTo_cons_of_ne equal, equalTo_cons_of_ne equal] at same
      rw [ih firstAscending.of_cons secondAscending.of_cons rests fun c => (rests c).symm]

namespace StableSorting

theorem unique (sorting : StableSorting cmp items first)
    (sorting' : StableSorting cmp items second) : first = second :=
  eq_of_ascending sorting.ascending sorting'.ascending fun a =>
    (sorting.stable a).trans (sorting'.stable a).symm

/-- Nothing is lost, and nothing is doubled. -/
theorem perm (sorting : StableSorting cmp items sorted) : sorted.Perm items := by
  classical
  rw [List.perm_iff_count]
  intro a
  have after : (equalTo cmp a sorted).count a = sorted.count a := count_equalTo
  rw [← after, sorting.stable, count_equalTo]

end StableSorting

/-- Merge sort is stable. -/
theorem stableSorting_mergeSort (cmp : α → α → Ordering) [Std.TransCmp cmp] (items : List α) :
    StableSorting cmp items (items.mergeSort fun a b => (cmp a b).isLE) := by
  have trans : ∀ a b c : α, (cmp a b).isLE = true → (cmp b c).isLE = true →
      (cmp a c).isLE = true := fun a b c => Std.TransCmp.isLE_trans
  have total : ∀ a b : α, ((cmp a b).isLE || (cmp b a).isLE) = true := by
    intro a b
    have back : cmp b a = (cmp a b).swap := Std.OrientedCmp.eq_swap
    rw [back]
    cases cmp a b <;> rfl
  refine ⟨(List.pairwise_mergeSort trans total items).imp Ordering.isLE_iff_ne_gt.1, ?_⟩
  intro a
  -- The class of `a` is level, hence sorted, and so it is still a sublist of the sorted list.
  have level : (equalTo cmp a items).Pairwise fun b c => (cmp b c).isLE = true := by
    rw [List.pairwise_iff_forall_sublist]
    intro b c pair
    have bEqual := (mem_equalTo_iff.1 (pair.subset List.mem_cons_self)).2
    have cEqual := (mem_equalTo_iff.1 (pair.subset (List.mem_cons_of_mem _ List.mem_cons_self))).2
    rw [Std.TransCmp.eq_trans (Std.OrientedCmp.eq_symm bEqual) cEqual]
    rfl
  have within := (List.sublist_mergeSort trans total level List.filter_sublist).filter
    fun b => decide (cmp a b = .eq)
  have twice : (equalTo cmp a items).filter (fun b => cmp a b = .eq) = equalTo cmp a items := by
    unfold equalTo
    rw [List.filter_filter]
    simp only [Bool.and_self]
  rw [twice] at within
  have sameLength := ((List.mergeSort_perm items fun a b => (cmp a b).isLE).filter
    fun b => decide (cmp a b = .eq)).length_eq
  exact (within.eq_of_length sameLength.symm).symm

end Comparison

/-! ## Sorting under an order -/

namespace Order

variable {α β : Type} (order : Order ι) (view : α → View) (items : List α)

/-- The comparison of items by what they show. -/
def comparing : α → α → Ordering :=
  fun a b => order.compare (view a) (view b)

instance transCmp_comparing : Std.TransCmp (order.comparing view) where
  eq_swap {a b} := by
    have swapped : order.compare (view a) (view b) = (order.compare (view b) (view a)).swap :=
      Std.OrientedCmp.eq_swap
    exact swapped
  isLE_trans {a b c} := by
    intro first second
    have whole : (order.compare (view a) (view c)).isLE = true :=
      Std.TransCmp.isLE_trans first second
    exact whole

theorem stableSorting_sort : StableSorting (order.comparing view) items (order.sort view items) :=
  stableSorting_mergeSort (order.comparing view) items

/-- It makes no difference whether the key of an item is taken once or whenever it is compared. -/
theorem sortByKeys_eq_sort : order.sortByKeys view items = order.sort view items := by
  have paired : (items.map fun item => (order.key? (view item), item)).map (·.2) = items := by
    rw [List.map_map]
    exact List.map_id _
  unfold sortByKeys sort
  rw [List.map_mergeSort (s := fun a b => (order.compare (view a) (view b)).isLE), paired]
  intro left leftPaired right rightPaired
  obtain ⟨a, -, rfl⟩ := List.mem_map.1 leftPaired
  obtain ⟨b, -, rfl⟩ := List.mem_map.1 rightPaired
  rfl

/-- Sorting looks at nothing but the keys. -/
theorem sort_map {f : β → α} {view' : β → View} {sources : List β}
    (sameKeys : ∀ source ∈ sources, order.key? (view (f source)) = order.key? (view' source)) :
    order.sort view (sources.map f) = (order.sort view' sources).map f := by
  unfold sort
  rw [List.map_mergeSort]
  intro a aMember b bMember
  unfold compare
  rw [sameKeys a aMember, sameKeys b bMember]

end Order

end TextQuery
