import TextQuery.Clause.Basic
import TextQuery.Error
import TextQuery.Schema.Basic
import TextQuery.View

/-!
Paths resolved against a schema. Every step names a field of the schema reached so far, ignoring
case. At most one step may cross a collection, and the steps after it are about its elements; the
position of that step is the path's quantifier. `PropertyPath.terminals` is what a path leads to in
an item.
-/

namespace TextQuery

variable {ι : Type}

/-- A resolved step: the declared name, position and type of its field. -/
structure Segment (ι : Type) where
  name : Text
  index : Nat
  type : FieldType ι
deriving DecidableEq, Repr

/-- A resolved path. -/
structure PropertyPath (ι : Type) where
  /-- The name of the type at which the path starts. -/
  root : Text
  segments : List (Segment ι)
  /-- The position of the step that crosses a collection. -/
  quantifier : Option Nat
  /-- The type at the end, that of the elements if the last step crosses a collection. -/
  terminal : FieldType ι
deriving DecidableEq, Repr

namespace PropertyPath

/-- The declared names with dots between them. -/
def text (path : PropertyPath ι) : Text :=
  Text.join ['.'] (path.segments.map (·.name))

/-- The positions of the fields along the path. -/
def indices (path : PropertyPath ι) : List Nat :=
  path.segments.map (·.index)

/-- The type that a step of type `type` leads to, and whether it crosses a collection. A second
collection, or one directly inside another, has no path through it. -/
def reach? (quantified : Bool) (type : FieldType ι) : Option (FieldType ι × Bool) :=
  match type.element? with
  | none => some (type, false)
  | some element => if quantified || element.element?.isSome then none else some (element, true)

/-- Resolves the steps from `position` on, in the schema `scope`, if the path has not left all
schemas; `quantifier` is the step that has crossed a collection. Gives the segments, the
quantifier and the type reached last. -/
def follow (catalog : Catalog ι) (path : PathExpr) (root : Text) (position : Nat)
    (scope : Option (Schema ι)) (quantifier : Option Nat) :
    List Text → Except CompileError (List (Segment ι) × Option Nat × Option (FieldType ι))
  | [] => .ok ([], quantifier, none)
  | step :: steps =>
    match scope.bind (·.field? step.trim) with
    | none => .error (.propertyNotFound step.trim root)
    | some (index, field) =>
      match reach? quantifier.isSome field.type with
      | none => .error (.unsupportedPath path.text .severalCollections)
      | some (reached, crosses) => do
        let (segments, quantifier, terminal) ←
          follow catalog path root (position + 1) (reached.object?.map catalog)
            (if crosses then some position else quantifier) steps
        return (⟨field.name, index, field.type⟩ :: segments, quantifier,
          some (terminal.getD reached))

/-- Resolves a path, starting at the schema `root`. -/
def resolve (catalog : Catalog ι) (root : Schema ι) (path : PathExpr) :
    Except CompileError (PropertyPath ι) := do
  match ← follow catalog path root.typeName 0 (some root) none path.steps with
  | (segments, quantifier, some terminal) =>
    return ⟨root.typeName, segments, quantifier, terminal⟩
  | (_, _, none) => throw (.propertyNotFound path.text root.typeName)

/-- Resolves a path that has to end in one scalar or member, without crossing a collection. -/
def resolveSingle (catalog : Catalog ι) (root : Schema ι) (path : PathExpr) :
    Except CompileError (PropertyPath ι) := do
  let resolved ← resolve catalog root path
  if resolved.quantifier.isSome then
    throw (.unsupportedPath resolved.text .crossesCollection)
  if !resolved.terminal.isComparable then
    throw (.unsupportedPath resolved.text .endsInNoScalar)
  return resolved

/-- What stands at the end of the path in an item: one view, or across a collection one for each of
its elements. An absent collection has none. -/
def terminals (path : PropertyPath ι) (item : View) : List View :=
  match path.quantifier with
  | none => [item.walk path.indices]
  | some hop =>
    match item.walk (path.indices.take (hop + 1)) with
    | .list elements => elements.map (·.walk (path.indices.drop (hop + 1)))
    | _ => []

end PropertyPath

end TextQuery
