import Mathlib.Logic.Relation
import TextQuery.Proofs.Path.Terminals

/-!
Views with enlarged collections. `left.Enlarged right` says that `right` shows the same as `left`
but for collections, which hold at least what they hold in `left`: every element there has a
counterpart among the elements here, which is again the element with collections enlarged. An absent
collection counts as an empty one. `View.Rearranged` is one change that is none to collections taken
as sets. Main statements: whatever a path leads to in a view has an enlarged counterpart among what
it leads to in the enlarged view (`Enlarged.terminals`), and views that are rearranged step by step
enlarge each other (`enlarged_of_rearranged`).
-/

namespace TextQuery

variable {ι : Type}

namespace View

/-- Induction on views: on records by their field positions, on lists by their elements. -/
@[elab_as_elim]
theorem members_induction {motive : View → Prop} (value : ∀ content, motive (value content))
    (null : motive null)
    (record : ∀ fields, (∀ index, motive ((record fields).child index)) → motive (record fields))
    (list : ∀ elements, (∀ element ∈ elements, motive element) → motive (list elements)) :
    ∀ view, motive view
  | .value content => value content
  | .null => null
  | .record fields => record fields fun index => by
    rw [child_record]
    cases held : fields[index]? with
    | none => exact null
    | some field =>
      have member : field ∈ fields := List.mem_of_getElem? held
      exact members_induction value null record list field
  | .list elements => list elements fun element member =>
    members_induction value null record list element

/-! ## Enlarged collections -/

mutual

/-- The second view is the first one with collections enlarged. -/
inductive Enlarged : View → View → Prop
  | value (content : Value) : Enlarged (value content) (value content)
  | null : Enlarged null null
  | record {left right : List View} :
    (∀ index, Enlarged ((record left).child index) ((record right).child index)) →
    Enlarged (record left) (record right)
  | list {left right : List View} :
    (∀ element ∈ left, EnlargedAmong element right) → Enlarged (list left) (list right)
  /-- An absent collection counts as an empty one, to which anything may be added. -/
  | absent (right : List View) : Enlarged null (list right)
  | empty : Enlarged (list []) null

/-- One of several views is the given one with collections enlarged. -/
inductive EnlargedAmong : View → List View → Prop
  | member {element counterpart : View} {right : List View} :
    counterpart ∈ right → Enlarged element counterpart → EnlargedAmong element right

end

theorem enlargedAmong_iff {element : View} {right : List View} :
    EnlargedAmong element right ↔ ∃ counterpart ∈ right, element.Enlarged counterpart := by
  refine ⟨?_, ?_⟩
  · intro among
    cases among with
    | member within enlarged => exact ⟨_, within, enlarged⟩
  · intro counterparts
    obtain ⟨counterpart, within, enlarged⟩ := counterparts
    exact .member within enlarged

namespace Enlarged

theorem refl (view : View) : view.Enlarged view := by
  induction view using members_induction with
  | value content => exact .value content
  | null => exact .null
  | record fields ih => exact .record ih
  | list elements ih => exact .list fun element member => .member member (ih element member)

theorem trans {first second third : View} (left : first.Enlarged second)
    (right : second.Enlarged third) : first.Enlarged third := by
  induction first using members_induction generalizing second third with
  | value content =>
    cases left
    exact right
  | null =>
    cases left with
    | null => exact right
    | absent elements =>
      cases right with
      | list _ => exact .absent _
      | empty => exact .null
  | record fields ih =>
    cases left with
    | record leftFields =>
      cases right with
      | record rightFields =>
        exact .record fun index => ih index (leftFields index) (rightFields index)
  | list elements ih =>
    -- an absent collection may stand between two empty ones, and an empty one between two absent
    cases left with
    | empty =>
      cases right with
      | null => exact .empty
      | absent elements => exact .list nofun
    | list leftElements =>
      cases right with
      | list rightElements =>
        refine .list fun element member => ?_
        obtain ⟨middle, within, enlarged⟩ := enlargedAmong_iff.1 (leftElements element member)
        obtain ⟨last, lastWithin, further⟩ := enlargedAmong_iff.1 (rightElements middle within)
        exact .member lastWithin (ih element member enlarged further)
      | empty =>
        cases elements with
        | nil => exact .empty
        | cons element elements =>
          obtain ⟨middle, within, -⟩ :=
            enlargedAmong_iff.1 (leftElements element List.mem_cons_self)
          cases within

variable {left right : View}

theorem child (enlarged : left.Enlarged right) (index : Nat) :
    (left.child index).Enlarged (right.child index) := by
  cases enlarged with
  | value content => exact .null
  | null => exact .null
  | record fields => exact fields index
  | list elements => exact .null
  | absent elements => exact .null
  | empty => exact .null

theorem elements (enlarged : left.Enlarged right) :
    ∀ element ∈ left.elements, ∃ counterpart ∈ right.elements, element.Enlarged counterpart := by
  intro element member
  cases enlarged with
  | list among => exact enlargedAmong_iff.1 (among element member)
  | value content => cases member
  | null => cases member
  | record fields => cases member
  | absent elements => cases member
  | empty => cases member

theorem walk (enlarged : left.Enlarged right) (indices : List Nat) :
    (left.walk indices).Enlarged (right.walk indices) := by
  induction indices generalizing left right with
  | nil => exact enlarged
  | cons index indices ih => exact ih (enlarged.child index)

end Enlarged

/-- Whatever a path leads to has a counterpart in the enlarged view. -/
theorem Enlarged.terminals {left right : View} (enlarged : left.Enlarged right)
    (path : PropertyPath ι) :
    ∀ terminal ∈ path.terminals left, ∃ counterpart ∈ path.terminals right,
      terminal.Enlarged counterpart := by
  intro terminal reached
  cases crosses : path.quantifier with
  | none =>
    rw [PropertyPath.terminals_of_direct crosses] at reached ⊢
    obtain rfl := List.mem_singleton.1 reached
    exact ⟨_, List.mem_singleton_self _, enlarged.walk path.indices⟩
  | some hop =>
    rw [PropertyPath.terminals_of_crossing crosses] at reached ⊢
    obtain ⟨element, member, rfl⟩ := List.mem_map.1 reached
    obtain ⟨counterpart, within, further⟩ :=
      (enlarged.walk (path.indices.take (hop + 1))).elements element member
    exact ⟨_, List.mem_map_of_mem within, further.walk (path.indices.drop (hop + 1))⟩

/-! ## Collections as sets -/

/-- One change at any depth that leaves all collections the same as sets. -/
inductive Rearranged : View → View → Prop
  | permuted {left right : List View} : left.Perm right → Rearranged (list left) (list right)
  | duplicated {elements : List View} {element : View} :
    element ∈ elements → Rearranged (list elements) (list (element :: elements))
  /-- An absent collection becomes an empty one. -/
  | emptied : Rearranged null (list [])
  | inField {left right : View} (before after : List View) :
    Rearranged left right →
    Rearranged (record (before ++ left :: after)) (record (before ++ right :: after))
  | inElement {left right : View} (before after : List View) :
    Rearranged left right →
    Rearranged (list (before ++ left :: after)) (list (before ++ right :: after))

namespace Enlarged

theorem list_of_subset {left right : List View} (within : left ⊆ right) :
    (View.list left).Enlarged (View.list right) :=
  .list fun element member => .member (within member) (refl element)

variable {left right : View}

theorem inField (enlarged : left.Enlarged right) (before after : List View) :
    (View.record (before ++ left :: after)).Enlarged (View.record (before ++ right :: after)) := by
  refine .record fun index => ?_
  rw [child_record, child_record]
  by_cases earlier : index < before.length
  · rw [List.getElem?_append_left earlier, List.getElem?_append_left earlier]
    exact refl _
  · rw [List.getElem?_append_right (Nat.le_of_not_lt earlier),
      List.getElem?_append_right (Nat.le_of_not_lt earlier)]
    cases index - before.length with
    | zero => exact enlarged
    | succ later => exact refl _

theorem inElement (enlarged : left.Enlarged right) (before after : List View) :
    (View.list (before ++ left :: after)).Enlarged (View.list (before ++ right :: after)) := by
  refine .list fun element member => ?_
  rcases List.mem_append.1 member with earlier | rest
  · exact .member (List.mem_append_left _ earlier) (refl element)
  · rcases List.mem_cons.1 rest with rfl | later
    · exact .member (List.mem_append_right _ List.mem_cons_self) enlarged
    · exact .member (List.mem_append_right _ (List.mem_cons_of_mem _ later)) (refl element)

end Enlarged

theorem Rearranged.enlarged {left right : View} (rearranged : left.Rearranged right) :
    left.Enlarged right ∧ right.Enlarged left := by
  induction rearranged with
  | permuted permutation =>
    exact ⟨.list_of_subset permutation.subset, .list_of_subset permutation.symm.subset⟩
  | duplicated member =>
    refine ⟨.list_of_subset (List.subset_cons_self _ _), .list_of_subset ?_⟩
    exact List.cons_subset.2 ⟨member, List.Subset.refl _⟩
  | emptied => exact ⟨.absent [], .empty⟩
  | inField before after _ ih => exact ⟨ih.1.inField before after, ih.2.inField before after⟩
  | inElement before after _ ih =>
    exact ⟨ih.1.inElement before after, ih.2.inElement before after⟩

/-- Views that are rearranged step by step enlarge each other. -/
theorem enlarged_of_rearranged {left right : View}
    (rearranged : Relation.ReflTransGen Rearranged left right) :
    left.Enlarged right ∧ right.Enlarged left := by
  induction rearranged with
  | refl => exact ⟨.refl left, .refl left⟩
  | tail _ step ih =>
    obtain ⟨forth, back⟩ := step.enlarged
    exact ⟨ih.1.trans forth, back.trans ih.2⟩

end View

end TextQuery
