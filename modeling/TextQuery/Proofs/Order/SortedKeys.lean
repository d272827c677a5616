import TextQuery.Proofs.Order.Preorder
import TextQuery.Proofs.Order.StableSorting

/-!
Where sorting puts what. Items without a key, because nothing or a NaN is at the path, are all equal
under an order, so sorting moves them as one block, in the order in which they come: before all
others in ascending direction, behind them in descending direction. Main statement:
`Order.sort_arranges`.
-/

namespace TextQuery

variable {ι : Type}

section Comparison

variable {α : Type} {cmp : α → α → Ordering} {items sorted again : List α}

theorem StableSorting.again_eq [Std.TransCmp cmp] (sorting : StableSorting cmp items sorted)
    (resorting : StableSorting cmp sorted again) : again = sorted :=
  resorting.unique (.self sorting.ascending)

/-- Items that are all equal are left in their order. -/
theorem StableSorting.filter_eq_of_level [Std.TransCmp cmp]
    (sorting : StableSorting cmp items sorted) {p : α → Bool}
    (level : ∀ a b, p a = true → p b = true → cmp a b = .eq) :
    sorted.filter p = items.filter p := by
  refine (sorting.filter p).unique (.of_level ?_)
  intro a aMember b bMember
  exact level a b (List.mem_filter.1 aMember).2 (List.mem_filter.1 bMember).2

/-- A list in which nothing with a property comes behind something without it falls into the items
with the property and those without. -/
theorem eq_filter_append_filter {p q : α → Bool} (opposite : ∀ a, q a = !p a)
    (apart : items.Pairwise fun a b => p b = true → p a = true) :
    items = items.filter p ++ items.filter q := by
  obtain rfl : q = fun a => !p a := funext opposite
  induction items with
  | nil => rfl
  | cons a rest ih =>
    obtain ⟨later, apart⟩ := List.pairwise_cons.1 apart
    by_cases holds : p a = true
    · rw [List.filter_cons_of_pos holds, List.filter_cons_of_neg (by simpa using holds),
        List.cons_append, ← ih apart]
    · have nothing : ∀ b ∈ a :: rest, p b = false := by
        intro b member
        rcases List.mem_cons.1 member with rfl | member
        · simpa using holds
        · exact Bool.eq_false_iff.2 fun found => holds (later b member found)
      have none : (a :: rest).filter p = [] :=
        List.filter_eq_nil_iff.2 fun b member => by simp [nothing b member]
      have all : (a :: rest).filter (!p ·) = a :: rest :=
        List.filter_eq_self.2 fun b member => by simp [nothing b member]
      rw [none, all, List.nil_append]

end Comparison

theorem Direction.apply_eq_eq_iff {direction : Direction} {ordering : Ordering} :
    direction.apply ordering = .eq ↔ ordering = .eq := by
  cases direction <;> cases ordering <;> decide

namespace Order

variable {order : Order ι} {a b : View}

/-! ## Items with and without a key -/

/-- Whether an item has a key. -/
def hasKey (order : Order ι) (item : View) : Bool :=
  (order.key? item).isSome

/-- The key of an item is the value at the path, unless there is none or a NaN. -/
theorem key?_eq_some_iff {item : View} {key : Value} :
    order.key? item = some key ↔
      item.walk order.path.indices = .value key ∧ key.isNaN = false := by
  unfold key?
  rw [Option.filter_eq_some_iff, Bool.not_eq_true']
  cases item.walk order.path.indices with
  | value content => simp [View.value?]
  | null => simp [View.value?]
  | record fields => simp [View.value?]
  | list elements => simp [View.value?]

theorem key?_of_not_hasKey {item : View} (keyless : (!order.hasKey item) = true) :
    order.key? item = none := by
  unfold hasKey at keyless
  simpa using keyless

/-- Items are equal under an order exactly if their keys are, where two absent ones count as
equal. -/
theorem compare_eq_iff_equalOptions :
    order.compare a b = .eq ↔ equalOptions (order.key? a) (order.key? b) = true := by
  have level : order.compare a b = .eq ↔
      TextQuery.compareKeys (order.key? a) (order.key? b) = .eq := by
    unfold compare compareKeys
    exact Direction.apply_eq_eq_iff
  rw [level]
  cases left : order.key? a with
  | none =>
    cases order.key? b with
    | none => exact iff_of_true rfl rfl
    | some key' => exact iff_of_false nofun nofun
  | some key =>
    cases right : order.key? b with
    | none => exact iff_of_false nofun nofun
    | some key' =>
      obtain ⟨ordering, compared, -⟩ := exists_compare?_of_keys left right
      change (key.compare? key').getD .eq = .eq ↔ key.equal key' = true
      rw [Value.equal_iff_compare?, compared, Option.getD_some, Option.some_inj]

theorem compare_of_keyless (left : order.key? a = none) (right : order.hasKey b = true) :
    order.compare a b = order.direction.apply .lt := by
  obtain ⟨key', right⟩ := Option.isSome_iff_exists.1 right
  unfold compare compareKeys
  rw [left, right, TextQuery.compareKeys]

/-- How two keys stand to each other in a sorted list: the first is not above the second in
ascending direction, and not below it in descending direction. -/
def InDirection (order : Order ι) (left right : Option Value) : Prop :=
  match order.direction with
  | .asc => Operator.lessOrEqual.relates left right = true
  | .desc => Operator.greaterOrEqual.relates left right = true

theorem inDirection_of_compare_ne_gt (left : order.hasKey a = true) (right : order.hasKey b = true)
    (climbs : order.compare a b ≠ .gt) : order.InDirection (order.key? a) (order.key? b) := by
  obtain ⟨key, left⟩ := Option.isSome_iff_exists.1 left
  obtain ⟨key', right⟩ := Option.isSome_iff_exists.1 right
  obtain ⟨ordering, compared, same⟩ := exists_compare?_of_keys left right
  have between : compareOptions? (some key) (some key') = some ordering := compared
  rw [same] at climbs
  unfold InDirection Operator.relates
  rw [left, right, between]
  cases direction : order.direction with
  | asc =>
    rw [direction] at climbs
    exact Ordering.isLE_iff_ne_gt.2 climbs
  | desc =>
    rw [direction] at climbs
    cases ordering with
    | lt => exact absurd rfl climbs
    | eq => rfl
    | gt => rfl

/-! ## Sorted lists -/

section Sorting

variable {α : Type} (order : Order ι) (view : α → View) (items : List α)

/-- The items with a key. -/
def keyed : List α :=
  items.filter fun item => order.hasKey (view item)

/-- The items without a key. -/
def keyless : List α :=
  items.filter fun item => !order.hasKey (view item)

theorem keyless_sort : order.keyless view (order.sort view items) = order.keyless view items := by
  refine (order.stableSorting_sort view items).filter_eq_of_level ?_
  intro a b left right
  refine compare_of_same_key ?_
  rw [key?_of_not_hasKey left, key?_of_not_hasKey right]

theorem perm_keyed_sort :
    (order.keyed view (order.sort view items)).Perm (order.keyed view items) :=
  (order.stableSorting_sort view items).perm.filter _

theorem pairwise_keyed_sort : (order.keyed view (order.sort view items)).Pairwise fun a b =>
    order.InDirection (order.key? (view a)) (order.key? (view b)) := by
  refine ((order.stableSorting_sort view items).filter _).ascending.imp_of_mem ?_
  intro a b aMember bMember climbs
  exact inDirection_of_compare_ne_gt (List.mem_filter.1 aMember).2 (List.mem_filter.1 bMember).2
    climbs

/-- Sorting moves the items without a key to the front or to the back. -/
theorem sort_eq_append : order.sort view items =
    match order.direction with
    | .asc => order.keyless view items ++ order.keyed view (order.sort view items)
    | .desc => order.keyed view (order.sort view items) ++ order.keyless view items := by
  have climbs := (order.stableSorting_sort view items).ascending
  rw [← keyless_sort]
  cases direction : order.direction with
  | asc =>
    refine eq_filter_append_filter (fun item => (Bool.not_not _).symm) (climbs.imp ?_)
    intro a b climbs keyless
    by_contra keyed
    have descends : order.compare (view b) (view a) = .lt := by
      rw [compare_of_keyless (key?_of_not_hasKey keyless) (by simpa using keyed), direction]
      rfl
    exact climbs (Std.OrientedCmp.gt_of_lt descends)
  | desc =>
    refine eq_filter_append_filter (fun item => rfl) (climbs.imp ?_)
    intro a b climbs keyed
    by_contra keyless
    have descends : order.compare (view a) (view b) = .gt := by
      rw [compare_of_keyless (key?_of_not_hasKey (by simpa using keyless)) keyed, direction]
      rfl
    exact climbs descends

theorem equalTo_eq_filter (item : α) : equalTo (order.comparing view) item items =
    items.filter fun other =>
      equalOptions (order.key? (view item)) (order.key? (view other)) := by
  refine List.filter_congr fun other _ => ?_
  rw [Bool.eq_iff_iff, decide_eq_true_iff]
  exact compare_eq_iff_equalOptions

end Sorting

/-- What sorting makes of a list of items, in the same way on both paths.

The sorted list has the same items. Those without a key, which show no value at the path or a NaN,
stand in front in ascending direction and behind in descending direction, in the order in which they
come. The keys of the others never descend, or never ascend. Among the items whose keys are equal to
that of any given one, sorting changes nothing, and sorting again changes nothing at all. -/
theorem sort_arranges {α : Type} (order : Order ι) (view : α → View) (items : List α) :
    order.sortByKeys view items = order.sort view items ∧
    (order.sort view items).Perm items ∧
    (∀ item key, order.key? item = some key ↔
      item.walk order.path.indices = .value key ∧ key.isNaN = false) ∧
    (∃ ranked : List α, ranked.Perm (order.keyed view items) ∧
      (ranked.Pairwise fun a b => order.InDirection (order.key? (view a)) (order.key? (view b))) ∧
      order.sort view items = match order.direction with
        | .asc => order.keyless view items ++ ranked
        | .desc => ranked ++ order.keyless view items) ∧
    (∀ item, (order.sort view items).filter
        (fun other => equalOptions (order.key? (view item)) (order.key? (view other))) =
      items.filter fun other => equalOptions (order.key? (view item)) (order.key? (view other))) ∧
    order.sort view (order.sort view items) = order.sort view items := by
  have sorting := order.stableSorting_sort view items
  refine ⟨order.sortByKeys_eq_sort view items, sorting.perm, fun _ _ => key?_eq_some_iff,
    ⟨_, order.perm_keyed_sort view items, order.pairwise_keyed_sort view items,
      order.sort_eq_append view items⟩, ?_, ?_⟩
  · intro item
    rw [← equalTo_eq_filter, ← equalTo_eq_filter]
    exact sorting.stable item
  · exact sorting.again_eq (order.stableSorting_sort view _)

/-- Of four numbered items the second has no key, and the first and the third have equal ones. -/
example :
    let view (item : Nat × Option Int) : View := .record [item.2.elim .null (.value ∘ .signed)]
    let byId (direction : Direction) : Order Sample :=
      ⟨⟨"Node".toList, [⟨"id".toList, 0, .scalar (.integer .i32)⟩], none,
        .scalar (.integer .i32)⟩, direction⟩
    let items := [(0, some 2), (1, none), (2, some 2), (3, some 1)]
    ((byId .asc).sort view items).map (·.1) = [1, 3, 0, 2] ∧
    ((byId .desc).sort view items).map (·.1) = [0, 2, 3, 1] := by
  refine ⟨?_, ?_⟩ <;> cbv

end Order

end TextQuery
