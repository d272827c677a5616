import Mathlib.Data.List.Nodup
import TextQuery.Proofs.Order.StableSorting
import TextQuery.Proofs.Traversal
import TextQuery.Query
import TextQuery.Samples.Catalog

/-!
What a query makes of a list of items. The items that match are those of the sorted list that match,
in the order in which they stand there (`Query.matching_eq_filter`). Nothing is looked at but
whether items match and what their keys are (`Query.matching_map`), so every item that matches
occurs once and no other does (`Query.exists_positions`). Projecting comes last. Main statement:
`Query.matching_sorted_then_projected`.
-/

namespace TextQuery

variable {ι α β : Type}

namespace Query

/-- The comparison by which a query sorts. Without an order all items are equal, and stay as they
are. -/
def comparing (query : Query ι) (view : α → View) : α → α → Ordering :=
  match query.order with
  | some order => order.comparing view
  | none => fun _ _ => .eq

/-- The items sorted as the query asks for, if it asks for an order. -/
def sorted (query : Query ι) (view : α → View) (items : List α) : List α :=
  match query.order with
  | some order => order.sort view items
  | none => items

section Sorting

variable (query : Query ι) (view : α → View) (items : List α)

instance transCmp_comparing : Std.TransCmp (query.comparing view) := by
  unfold comparing
  split
  · infer_instance
  · exact { eq_swap := rfl, isLE_trans := fun _ _ => rfl }

theorem stableSorting_sorted :
    StableSorting (query.comparing view) items (query.sorted view items) := by
  unfold comparing sorted
  cases query.order with
  | some order => exact order.stableSorting_sort view items
  | none => exact .of_level fun _ _ _ _ => rfl

/-- The items that match are sorted stably. -/
theorem stableSorting_matching :
    StableSorting (query.comparing view) (query.filter.apply view items)
      (query.matching view items) := by
  unfold comparing matching
  cases query.order with
  | some order =>
    dsimp only
    rw [order.sortByKeys_eq_sort]
    exact order.stableSorting_sort view _
  | none => exact .of_level fun _ _ _ _ => rfl

/-- The items that match are those of the sorted list, in the order in which they stand there. -/
theorem matching_eq_filter : query.matching view items =
    (query.sorted view items).filter fun item => query.filter.holds (view item) :=
  (query.stableSorting_matching view items).unique
    ((query.stableSorting_sorted view items).filter _)

theorem perm_matching : (query.matching view items).Perm (query.filter.apply view items) :=
  (query.stableSorting_matching view items).perm

variable {view items}

/-- The items that match, in an order in which each is less than all after it, are the answer. -/
theorem matching_eq_of_perm {answer : List α} (kept : answer.Perm (query.filter.apply view items))
    (ascending : answer.Pairwise fun a b => query.comparing view a b ≠ .gt)
    (distinct : ∀ a ∈ answer, ∀ b ∈ answer, query.comparing view a b ≠ .gt →
      query.comparing view b a ≠ .gt → a = b) : query.matching view items = answer := by
  have same := (query.perm_matching view items).trans kept.symm
  exact same.eq_of_pairwise
    (fun a b left right => distinct a (same.subset left) b right)
    (query.stableSorting_matching view items).ascending ascending

end Sorting

/-! ## What a query looks at -/

/-- A query looks at nothing but whether items match and what their keys are. -/
theorem matching_map (query : Query ι) (view : β → View) (view' : α → View) (f : α → β)
    (items : List α)
    (sameFilter : ∀ item ∈ items,
      query.filter.holds (view (f item)) = query.filter.holds (view' item))
    (sameKeys : ∀ order, query.order = some order → ∀ item ∈ items,
      order.key? (view (f item)) = order.key? (view' item)) :
    query.matching view (items.map f) = (query.matching view' items).map f := by
  have kept : query.filter.apply view (items.map f) = (query.filter.apply view' items).map f := by
    unfold Filter.apply
    rw [List.filter_map]
    exact congrArg (List.map f) (List.filter_congr sameFilter)
  unfold matching
  cases asked : query.order with
  | none => exact kept
  | some order =>
    dsimp only
    rw [kept, order.sortByKeys_eq_sort, order.sortByKeys_eq_sort]
    refine order.sort_map view ?_
    intro item member
    exact sameKeys order asked item (List.mem_of_mem_filter member)

/-- Every item that matches occurs in the answer once, and no other does: by their positions. -/
theorem exists_positions (query : Query ι) (view : α → View) (items : List α) :
    ∃ positions : List Nat, positions.Nodup ∧
      (∀ position, position ∈ positions ↔
        ∃ item, items[position]? = some item ∧ query.filter.holds (view item) = true) ∧
      positions.map (items[·]?) = (query.matching view items).map some := by
  -- The query is run on numbered items; it cannot see the numbers.
  let numbered := query.matching (fun entry => view entry.1) items.zipIdx
  have members : ∀ entry, entry ∈ numbered ↔
      items[entry.2]? = some entry.1 ∧ query.filter.holds (view entry.1) = true := by
    intro entry
    rw [(query.perm_matching _ _).mem_iff]
    unfold Filter.apply
    rw [List.mem_filter, List.mem_zipIdx_iff_getElem?]
  have same : numbered.map (·.1) = query.matching view items := by
    have seen := query.matching_map view (fun entry => view entry.1) Prod.fst items.zipIdx
      (fun _ _ => rfl) (fun _ _ _ _ => rfl)
    rw [List.zipIdx_map_fst] at seen
    exact seen.symm
  refine ⟨numbered.map (·.2), ?_, ?_, ?_⟩
  · have distinct : (items.zipIdx.map (·.2)).Nodup := by
      rw [List.zipIdx_map_snd]
      exact List.nodup_range'
    have matching := List.filter_sublist (l := items.zipIdx)
      (p := fun entry : α × Nat => query.filter.holds (view entry.1))
    have kept := matching.map (·.2)
    exact (((query.perm_matching _ _).map _).nodup_iff).2 (distinct.sublist kept)
  · intro position
    rw [List.mem_map]
    refine ⟨?_, ?_⟩
    · intro answered
      obtain ⟨entry, member, rfl⟩ := answered
      exact ⟨entry.1, (members entry).1 member⟩
    · intro stands
      obtain ⟨item, found⟩ := stands
      exact ⟨(item, position), (members (item, position)).2 found, rfl⟩
  · rw [← same, List.map_map, List.map_map]
    refine List.map_congr_left ?_
    intro entry member
    exact ((members entry).1 member).1

/-! ## The whole -/

/-- What a query makes of a list of items.

The items that match are those of the whole list, stably sorted as the query asks for, that match.
Every item that matches occurs once in them, and no other item does, where items are told apart by
their positions. The answer has the projection of each of them, or the item itself if there is no
projection, in the same place; so it is in the order of the keys of the items as they were before.
-/
theorem matching_sorted_then_projected (query : Query ι) (view : α → View)
    (copy : α → α → Nat → α) (default : α) (items : List α) :
    query.matching view items =
      (query.sorted view items).filter (fun item => query.filter.holds (view item)) ∧
    (∀ other, StableSorting (query.comparing view) items other ↔
      other = query.sorted view items) ∧
    (∃ positions : List Nat, positions.Nodup ∧
      (∀ position, position ∈ positions ↔
        ∃ item, items[position]? = some item ∧ query.filter.holds (view item) = true) ∧
      positions.map (items[·]?) = (query.matching view items).map some) ∧
    query.apply view copy default items =
      (query.matching view items).map (match query.select with
        | some projection => projection.apply copy default
        | none => id) ∧
    ∀ order, query.order = some order →
      (query.matching view items).Pairwise fun a b => order.compare (view a) (view b) ≠ .gt := by
  refine ⟨query.matching_eq_filter view items, ?_, query.exists_positions view items, ?_, ?_⟩
  · intro other
    have sorting := query.stableSorting_sorted view items
    refine ⟨fun sorting' => sorting'.unique sorting, ?_⟩
    intro same
    rw [same]
    exact sorting
  · unfold apply
    cases query.select with
    | some projection => rfl
    | none => exact (List.map_id _).symm
  · intro order asked
    have ascending := (query.stableSorting_matching view items).ascending
    unfold comparing at ascending
    rwa [asked] at ascending

/-- Of five users, four are above 25; the answer has their names alone, from the oldest down, though
their ages are not selected. -/
theorem matching_sorted_then_projected_roster :
    let view := Sample.userType.model.view (modelsOf Sample.itemType)
    let ages : List (Option Value) :=
      [some (.signed 37), some (.signed 33), some (.signed 28), some (.signed 27)]
    ∃ query order, Query.compile Sample.catalog {} (Sample.catalog .user)
        { filter := some "age>25".toList, order := some "age=desc".toList,
          select := some "name".toList } = .ok query ∧
      query.order = some order ∧ query.select = some ⟨[0]⟩ ∧
      (query.matching view Sample.roster).map (fun user => order.key? (view user)) = ages ∧
      ((query.matching view Sample.roster).Pairwise fun a b =>
        order.compare (view a) (view b) ≠ .gt) ∧
      Sample.userType.answer Sample.itemType query Sample.roster =
        (query.matching view Sample.roster).map (Sample.userType.project ⟨[0]⟩) := by
  intro view ages
  have compiles : (Query.compile Sample.catalog {} (Sample.catalog .user)
      { filter := some "age>25".toList, order := some "age=desc".toList,
        select := some "name".toList }).toOption.any (fun query =>
          query.select = some ⟨[0]⟩ ∧ query.order.any fun order =>
            ((query.filter.apply view Sample.roster).map fun user =>
              order.key? (view user)).Perm ages ∧
            (ages.Pairwise fun a b => order.compareKeys a b ≠ .gt) ∧
            ∀ a ∈ ages, ∀ b ∈ ages, order.compareKeys a b ≠ .gt → order.compareKeys b a ≠ .gt →
              a = b) = true := by
    decide +kernel
  obtain ⟨query, compiled, facts⟩ := exists_of_any_toOption compiles
  obtain ⟨selected, facts⟩ := of_decide_eq_true facts
  obtain ⟨order, asked, facts⟩ := (Option.any_eq_true _ _).1 facts
  obtain ⟨kept, descending, distinct⟩ := of_decide_eq_true facts
  obtain ⟨-, -, -, answered, ascending⟩ := matching_sorted_then_projected query view
    Sample.userType.model.copyField Sample.userType.default Sample.roster
  rw [selected] at answered
  -- The ages are those of the users that match, and there is only one list of them that descends.
  have sameAges := ((query.perm_matching view Sample.roster).map
    fun user => order.key? (view user)).trans kept
  have descends : ((query.matching view Sample.roster).map fun user =>
      order.key? (view user)).Pairwise fun a b => order.compareKeys a b ≠ .gt :=
    List.pairwise_map.2 (ascending order asked)
  have inOrder := sameAges.eq_of_pairwise
    (fun a b left right => distinct a (sameAges.subset left) b right) descends descending
  exact ⟨query, order, compiled, asked, selected, inOrder, ascending order asked, answered⟩

end Query

end TextQuery
