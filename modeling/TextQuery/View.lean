import TextQuery.Value

/-!
What a query sees of an item: values, absent values, records with fields by position, and lists.
`View.walk` follows the positions of a path. Main statement: a walk can be taken in parts
(`walk_append`).
-/

namespace TextQuery

/-- The view of one item, or of one of its fields. -/
inductive View where
  | value (content : Value)
  /-- An absent value. -/
  | null
  /-- A nested record, by the views of its fields. -/
  | record (fields : List View)
  | list (elements : List View)
deriving Repr

namespace View

/-- The field of a record at `index`; nothing is a field of a view that is no record. -/
def field? : View → Nat → Option View
  | record fields, index => fields[index]?
  | _, _ => none

/-- The value of a view that is one. -/
def value? : View → Option Value
  | value content => some content
  | _ => none

mutual

/-- The structure of a view, for diagnostics. -/
def structureText : View → Text
  | value content => "Value(".toList ++ content.display ++ [')']
  | null => "Null".toList
  | record _ => "Record".toList
  | list elements => ['['] ++ Text.join ", ".toList (structureTexts elements) ++ [']']

/-- The structures of several views. -/
def structureTexts : List View → List Text
  | [] => []
  | view :: views => view.structureText :: structureTexts views

end

/-- Follows field positions from a view. A step that leads nowhere leads to an absent value. -/
def walk (indices : List Nat) (view : View) : View :=
  indices.foldl (fun reached index => (reached.field? index).getD null) view

/-- A walk can be broken off and taken up again. -/
theorem walk_append (first second : List Nat) (view : View) :
    view.walk (first ++ second) = (view.walk first).walk second :=
  List.foldl_append

/-- Nothing is reached from an absent value. -/
theorem walk_null (indices : List Nat) : null.walk indices = null := by
  induction indices with
  | nil => rfl
  | cons index indices ih => exact ih

end View

end TextQuery
