import TextQuery.Clause.Reading
import TextQuery.Options
import TextQuery.Path

/-!
Orders: items sorted by one key. The key is the value at a path; a NaN counts as absent. Absent keys
come first in ascending direction, and the descending direction is the reverse. Sorting keeps the
order of items with equal keys.
-/

namespace TextQuery

variable {ι : Type}

/-- An order: the path of its key and its direction. -/
structure Order (ι : Type) where
  path : PropertyPath ι
  direction : Direction
deriving DecidableEq, Repr

/-- The order of two keys in ascending direction: an absent one comes first. -/
def compareKeys : Option Value → Option Value → Ordering
  | none, none => .eq
  | none, some _ => .lt
  | some _, none => .gt
  | some a, some b => (a.compare? b).getD .eq

namespace Order

/-- Compiles an order text for items with the schema `root`; a blank text asks for no order. -/
def compile (catalog : Catalog ι) (options : CompileOptions) (root : Schema ι) (text : Text) :
    Except CompileError (Option (Order ι)) := do
  match ← (OrderBy.read text).mapError CompileError.parse with
  | none => return none
  | some order =>
    let path ← PropertyPath.resolveSingle catalog root order.path
    return some ⟨path, order.direction.getD options.defaultDirection⟩

/-- The key of an item. -/
def key? (order : Order ι) (item : View) : Option Value :=
  (item.walk order.path.indices).value?.filter (!·.isNaN)

/-- The order of two keys, in the order's direction. -/
def compareKeys (order : Order ι) (left right : Option Value) : Ordering :=
  order.direction.apply (TextQuery.compareKeys left right)

/-- The order of two items. -/
def compare (order : Order ι) (left right : View) : Ordering :=
  order.compareKeys (order.key? left) (order.key? right)

/-- Sorts items, comparing their keys as needed; `view` shows an item to the order. -/
def sort {α : Type} (order : Order ι) (view : α → View) (items : List α) : List α :=
  items.mergeSort fun left right => (order.compare (view left) (view right)).isLE

/-- Sorts items, taking the key of each once. -/
def sortByKeys {α : Type} (order : Order ι) (view : α → View) (items : List α) : List α :=
  ((items.map fun item => (order.key? (view item), item)).mergeSort fun left right =>
    (order.compareKeys left.1 right.1).isLE).map (·.2)

/-- The text of an order. -/
def display (order : Order ι) : Text :=
  order.path.text ++ ['='] ++ order.direction.name

end Order

end TextQuery
