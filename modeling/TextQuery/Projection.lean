import TextQuery.Clause.Reading
import TextQuery.Schema.Basic

/-!
Projections: the fields that a selection names. Names are looked up ignoring case and may repeat; a
field is kept where it is named first.
-/

namespace TextQuery

variable {ι : Type}

/-- A projection: the positions of the selected fields, each once. -/
structure Projection where
  fields : List Nat
deriving DecidableEq, Repr

namespace Projection

/-- The position of a named field. -/
def position (root : Schema ι) (name : Text) : Except CompileError Nat :=
  match root.field? name with
  | some (index, _) => .ok index
  | none => .error (.propertyNotFound name root.typeName)

/-- Adds a position unless it is already there. -/
def add (fields : List Nat) (index : Nat) : List Nat :=
  if index ∈ fields then fields else fields ++ [index]

/-- Compiles a selection for items with the schema `root`; one without names asks for no
projection. -/
def compile (root : Schema ι) (text : Text) : Except CompileError (Option Projection) := do
  let names ← (readSelection text).mapError CompileError.parse
  if names = [] then
    return none
  let positions ← names.mapM (position root)
  return some ⟨positions.foldl add []⟩

/-- The declared names of the selected fields. -/
def fieldNames (projection : Projection) (root : Schema ι) : List Text :=
  projection.fields.filterMap fun index => (root.fields[index]?).map (·.name)

/-- Copies the selected fields of an item onto a default item; `copy target source index` copies
one field. -/
def apply {α : Type} (projection : Projection) (copy : α → α → Nat → α) (default item : α) : α :=
  projection.fields.foldl (fun target index => copy target item index) default

end Projection

end TextQuery
