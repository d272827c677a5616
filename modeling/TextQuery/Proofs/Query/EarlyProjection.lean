import TextQuery.Proofs.Filter.Monotonicity
import TextQuery.Proofs.Model.Projecting
import TextQuery.Proofs.Query.Pipeline

/-!
Projecting before filtering and sorting. Of an item a query reads nothing but the fields with which
its paths begin (`Query.firstFields`), and at a field that is selected a projected item looks as it
did before. So if these fields are among the selected ones, it makes no difference whether items are
projected first or last. Main statement: `ItemType.answer_projected_first`.
-/

namespace TextQuery

variable {ι : Type}

/-! ## What a path reads -/

/-- The position of the field with which a path begins. -/
def PropertyPath.first? (path : PropertyPath ι) : Option Nat :=
  path.indices.head?

/-- The fields of two records are the same at some positions. -/
def View.AgreeAt (positions : List Nat) (left right : List View) : Prop :=
  ∀ index ∈ positions, left[index]? = right[index]?

namespace View.AgreeAt

variable {positions : List Nat} {left right : List View}

/-- A path that begins at one of the positions leads to the same in both records. A path without
steps stays at the record. -/
theorem walk_cases (agree : AgreeAt positions left right) {indices : List Nat}
    (reads : ∀ index ∈ indices.head?, index ∈ positions) :
    (record left).walk indices = (record right).walk indices ∨ indices = [] := by
  cases indices with
  | nil => exact Or.inr rfl
  | cons index rest =>
    rw [walk_cons, walk_cons, child_record, child_record, agree index (reads index rfl)]
    exact Or.inl rfl

theorem condition_evaluate (agree : AgreeAt positions left right) (condition : Condition ι)
    (reads : ∀ index ∈ condition.path.first?, index ∈ positions) :
    condition.evaluate (record left) = condition.evaluate (record right) := by
  unfold Condition.evaluate
  cases crosses : condition.path.quantifier with
  | none =>
    rw [PropertyPath.terminals_of_direct crosses, PropertyPath.terminals_of_direct crosses]
    rcases agree.walk_cases reads with same | nowhere
    · rw [same]
    · rw [nowhere]
      rfl
  | some hop =>
    rw [PropertyPath.terminals_of_crossing crosses, PropertyPath.terminals_of_crossing crosses]
    have begins : (condition.path.indices.take (hop + 1)).head? = condition.path.first? := by
      rw [List.head?_take, if_neg (Nat.succ_ne_zero hop)]
      rfl
    rw [← begins] at reads
    rcases agree.walk_cases reads with same | nowhere
    · rw [same]
    · rw [nowhere]
      rfl

theorem filter_holds (agree : AgreeAt positions left right) (filter : Filter ι)
    (reads : ∀ condition ∈ filter.conditions, ∀ index ∈ condition.path.first?,
      index ∈ positions) : filter.holds (record left) = filter.holds (record right) := by
  obtain ⟨expression⟩ := filter
  cases expression with
  | none => rfl
  | some expression =>
    have each : ∀ condition ∈ expression.conditions,
        condition.evaluate (record left) = condition.evaluate (record right) := by
      intro condition member
      exact agree.condition_evaluate condition (reads condition member)
    change expression.evaluate (record left) = expression.evaluate (record right)
    rw [Bool.eq_iff_iff]
    refine ⟨Expression.evaluate_mono ?_, Expression.evaluate_mono ?_⟩
    · intro condition member holds
      rwa [← each condition member]
    · intro condition member holds
      rwa [each condition member]

theorem key?_eq (agree : AgreeAt positions left right) (order : Order ι)
    (reads : ∀ index ∈ order.path.first?, index ∈ positions) :
    order.key? (record left) = order.key? (record right) := by
  unfold Order.key?
  rcases agree.walk_cases reads with same | nowhere
  · rw [same]
  · rw [nowhere]
    rfl

end View.AgreeAt

/-! ## What a query reads -/

namespace Query

/-- The paths of a query: those of its conditions, and that of its order. -/
def paths (query : Query ι) : List (PropertyPath ι) :=
  query.filter.conditions.map (·.path) ++ (query.order.map (·.path)).toList

/-- The positions of the fields with which the paths of a query begin. -/
def firstFields (query : Query ι) : List Nat :=
  query.paths.filterMap PropertyPath.first?

variable {query : Query ι} {index : Nat}

theorem mem_firstFields_of_condition {condition : Condition ι}
    (member : condition ∈ query.filter.conditions) (first : index ∈ condition.path.first?) :
    index ∈ query.firstFields :=
  List.mem_filterMap.2
    ⟨condition.path, List.mem_append_left _ (List.mem_map_of_mem member), first⟩

theorem mem_firstFields_of_order {order : Order ι} (asked : query.order = some order)
    (first : index ∈ order.path.first?) : index ∈ query.firstFields := by
  refine List.mem_filterMap.2 ⟨order.path, List.mem_append_right _ ?_, first⟩
  rw [asked]
  exact List.mem_singleton_self _

end Query

/-! ## Projecting first -/

namespace ItemType

/-- Suppose that a query selects all fields with which the paths of its conditions and of its order
begin. Then it gives the same answer as filtering and sorting, without projection, the items that
were projected one by one before. The items are those of the model: they have data for each of its
fields. -/
theorem answer_projected_first (types : ι → ItemType ι) (type : ItemType ι) (query : Query ι)
    (projection : Projection) (selects : query.select = some projection)
    (keeps : query.firstFields ⊆ projection.fields) (items : List Item)
    (complete : ∀ item ∈ items, item.length = type.model.fields.length) :
    type.answer types query items =
      type.answer types { query with select := none } (items.map (type.project projection)) := by
  let view := type.model.view (modelsOf types)
  have agree : ∀ item ∈ items, View.AgreeAt projection.fields
      (Stored.fieldViews (modelsOf types) type.model.fields (type.project projection item))
      (Stored.fieldViews (modelsOf types) type.model.fields item) := by
    intro item member index selected
    exact type.getElem?_fieldViews_project projection item _ selected (complete item member)
  have sameFilter : ∀ item ∈ items,
      query.filter.holds (view (type.project projection item)) =
        query.filter.holds (view item) := by
    intro item member
    refine (agree item member).filter_holds query.filter ?_
    intro condition conditionMember index first
    exact keeps (Query.mem_firstFields_of_condition conditionMember first)
  have sameKeys : ∀ order, query.order = some order → ∀ item ∈ items,
      order.key? (view (type.project projection item)) = order.key? (view item) := by
    intro order asked item member
    refine (agree item member).key?_eq order ?_
    intro index first
    exact keeps (Query.mem_firstFields_of_order asked first)
  have pushed := query.matching_map view view (type.project projection) items sameFilter sameKeys
  unfold answer Query.apply
  rw [selects]
  exact pushed.symm

/-- Users in Recife above 25 from the oldest down, with their ages and addresses only. The query
reads the addresses, and twice the ages. The answer is the same where the items are projected first:
four of the five users, and none of them has a name any more. -/
theorem answer_projected_first_roster :
    ∃ query, Query.compile Sample.catalog {} (Sample.catalog .user)
        { filter := some "address.city=Recife,age>25".toList, order := some "age=desc".toList,
          select := some "AGE,address".toList } = .ok query ∧
      query.firstFields = [4, 1, 1] ∧ query.select = some ⟨[1, 4]⟩ ∧
      Sample.userType.answer Sample.itemType query Sample.roster =
        Sample.userType.answer Sample.itemType { query with select := none }
          (Sample.roster.map (Sample.userType.project ⟨[1, 4]⟩)) ∧
      Sample.userType.answer Sample.itemType query Sample.roster =
        [ (Sample.namedUser "Albert" 37).set 0 (.string []),
          (Sample.namedUser "Fred" 33).set 0 (.string []),
          (Sample.namedUser "Luide" 28).set 0 (.string []),
          (Sample.namedUser "Bruno" 27).set 0 (.string []) ] := by
  let view := Sample.userType.model.view (modelsOf Sample.itemType)
  let user (place : Nat) : Item := Sample.roster.getD place []
  let seen (place : Nat) : View := view (user place)
  have compiles : (Query.compile Sample.catalog {} (Sample.catalog .user)
      { filter := some "address.city=Recife,age>25".toList, order := some "age=desc".toList,
        select := some "AGE,address".toList }).toOption.any (fun query =>
          query.firstFields = [4, 1, 1] ∧ query.select = some ⟨[1, 4]⟩ ∧
          [2, 1, 4, 0].Perm (query.filter.apply seen [0, 1, 2, 3, 4]) ∧
          ([2, 1, 4, 0].Pairwise fun a b => query.comparing seen a b ≠ .gt) ∧
          ∀ a ∈ [2, 1, 4, 0], ∀ b ∈ [2, 1, 4, 0], query.comparing seen a b ≠ .gt →
            query.comparing seen b a ≠ .gt → a = b) = true := by
    decide +kernel
  obtain ⟨query, compiled, facts⟩ := exists_of_any_toOption compiles
  obtain ⟨reads, selects, kept, ascending, distinct⟩ := of_decide_eq_true facts
  have keeps : query.firstFields ⊆ [1, 4] := by
    rw [reads]
    decide
  have complete : ∀ user ∈ Sample.roster, user.length = Sample.userType.model.fields.length := by
    intro user member
    simp only [Sample.roster, List.mem_cons, List.not_mem_nil, or_false] at member
    rcases member with rfl | rfl | rfl | rfl | rfl <;> rfl
  -- the answer is found among the places of the users in the roster
  have places : query.matching seen [0, 1, 2, 3, 4] = [2, 1, 4, 0] :=
    query.matching_eq_of_perm kept ascending distinct
  have picked := query.matching_map view seen user [0, 1, 2, 3, 4] (fun _ _ => rfl)
    (fun _ _ _ _ => rfl)
  have all : [0, 1, 2, 3, 4].map user = Sample.roster := rfl
  rw [places, all] at picked
  refine ⟨query, compiled, reads, selects, answer_projected_first Sample.itemType Sample.userType
    query ⟨[1, 4]⟩ selects keeps Sample.roster complete, ?_⟩
  unfold answer Query.apply
  rw [selects]
  dsimp only
  rw [picked]
  rfl

end ItemType

end TextQuery
