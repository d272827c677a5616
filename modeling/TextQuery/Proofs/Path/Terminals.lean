import TextQuery.Proofs.Path.Resolution

/-!
What a path leads to, by its first segment. A path that goes on through an object leads from an item
to what the rest of the path leads to from the object, and a path that goes on across a collection
to what the rest leads to from each element.
-/

namespace TextQuery

variable {ι : Type}

namespace View

/-- What stands at a field position; nothing is an absent value. -/
def child (view : View) (index : Nat) : View :=
  (view.field? index).getD null

/-- The elements of a list; nothing else has any. -/
def elements : View → List View
  | list elements => elements
  | _ => []

theorem mem_elements_iff {view element : View} :
    element ∈ view.elements ↔ ∃ all, view = .list all ∧ element ∈ all := by
  cases view with
  | list all => simp [elements]
  | value content => simp [elements]
  | null => simp [elements]
  | record fields => simp [elements]

/-- Whether the view is a record. -/
def isRecord : View → Bool
  | record _ => true
  | _ => false

theorem walk_cons (index : Nat) (indices : List Nat) (view : View) :
    view.walk (index :: indices) = (view.child index).walk indices :=
  rfl

theorem child_record (fields : List View) (index : Nat) :
    (record fields).child index = fields[index]?.getD null :=
  rfl

theorem child_of_not_record {view : View} (scalar : view.isRecord = false) (index : Nat) :
    view.child index = null := by
  cases view with
  | record fields => cases scalar
  | value content => rfl
  | null => rfl
  | list elements => rfl

theorem walk_of_not_record {view : View} (scalar : view.isRecord = false) {indices : List Nat}
    (nonempty : indices ≠ []) : view.walk indices = null := by
  cases indices with
  | nil => exact absurd rfl nonempty
  | cons index indices => rw [walk_cons, child_of_not_record scalar, walk_null]

end View

namespace PropertyPath

theorem terminals_of_direct {path : PropertyPath ι} (direct : path.quantifier = none)
    (item : View) : path.terminals item = [item.walk path.indices] := by
  unfold terminals
  rw [direct]

/-- Across a collection a path leads to something for each of its elements. -/
theorem terminals_of_crossing {path : PropertyPath ι} {hop : Nat}
    (crosses : path.quantifier = some hop) (item : View) :
    path.terminals item = (item.walk (path.indices.take (hop + 1))).elements.map
      (·.walk (path.indices.drop (hop + 1))) := by
  unfold terminals
  rw [crosses]
  dsimp only
  cases item.walk (path.indices.take (hop + 1)) <;> rfl

/-! ## The first segment -/

section FirstSegment

variable {root : Text} {segment : Segment ι} {segments : List (Segment ι)} {terminal : FieldType ι}

theorem terminals_last (item : View) :
    terminals ⟨root, [segment], none, terminal⟩ item = [item.child segment.index] :=
  rfl

/-- The rest of a path starts at the object in the field. -/
theorem terminals_through (root' : Text) (terminal' : FieldType ι) (hop : Option Nat)
    (item : View) :
    terminals ⟨root, segment :: segments, hop.map (· + 1), terminal⟩ item =
      terminals ⟨root', segments, hop, terminal'⟩ (item.child segment.index) := by
  cases hop <;> rfl

/-- The rest of a path starts at each element of the list in the field. -/
theorem terminals_across (root' : Text) (terminal' : FieldType ι) (item : View) :
    terminals ⟨root, segment :: segments, some 0, terminal⟩ item =
      (item.child segment.index).elements.flatMap
        (terminals ⟨root', segments, none, terminal'⟩) := by
  rw [terminals_of_crossing rfl, List.map_eq_flatMap]
  rfl

theorem terminals_lastAcross (item : View) :
    terminals ⟨root, [segment], some 0, terminal⟩ item =
      (item.child segment.index).elements := by
  rw [terminals_across root terminal]
  exact List.flatMap_singleton' _

end FirstSegment

/-! ## Paths from what is no record -/

/-- From what is no record a path without collection leads to one absent value, and any other path
leads nowhere. -/
theorem terminals_of_not_record {path : PropertyPath ι} (nonempty : path.segments ≠ [])
    {item : View} (scalar : item.isRecord = false) :
    path.terminals item = if path.quantifier = none then [.null] else [] := by
  have indicesNonempty : path.indices ≠ [] := by
    unfold indices
    simpa using nonempty
  cases crosses : path.quantifier with
  | none =>
    rw [terminals_of_direct crosses, View.walk_of_not_record scalar indicesNonempty]
    rfl
  | some hop =>
    have taken : path.indices.take (hop + 1) ≠ [] := by
      cases indices : path.indices with
      | nil => exact absurd indices indicesNonempty
      | cons index rest => exact List.cons_ne_nil _ _
    rw [terminals_of_crossing crosses, View.walk_of_not_record scalar taken]
    rfl

end PropertyPath

end TextQuery
