import TextQuery.Clause.Operator

/-!
What query texts say before it is known what they are about: paths, clauses, orderings. Each has a
canonical text.
-/

namespace TextQuery

/-- A dotted path: the names of its steps. -/
structure PathExpr where
  steps : List Text
deriving DecidableEq, Repr

/-- The steps with dots between them. -/
def PathExpr.text (path : PathExpr) : Text :=
  Text.join ['.'] path.steps

/-- A clause: the value at a path stands in a relation to one of several literals. -/
structure Clause where
  path : PathExpr
  operator : Operator
  values : List Text
deriving DecidableEq, Repr

/-- The path, the marker, and the literals with bars between them. -/
def Clause.text (clause : Clause) : Text :=
  clause.path.text ++ clause.operator.marker ++ Text.join ['|'] clause.values

/-- The direction of an ordering. -/
inductive Direction where
  | asc
  | desc
deriving DecidableEq, Repr

namespace Direction

/-- The name of the direction. -/
def name : Direction → Text
  | asc => "Asc".toList
  | desc => "Desc".toList

/-- The direction with exactly the given name. -/
def ofName? (text : Text) : Option Direction :=
  if text = asc.name then some asc
  else if text = desc.name then some desc
  else none

/-- Reads a direction: its name in any case, with any white space around it. -/
def read? (text : Text) : Option Direction :=
  let word := text.trim
  if word.eqIgnoreAsciiCase "asc".toList then some asc
  else if word.eqIgnoreAsciiCase "desc".toList then some desc
  else none

/-- A comparison made in this direction. -/
def apply (direction : Direction) (ordering : Ordering) : Ordering :=
  match direction with
  | asc => ordering
  | desc => ordering.swap

end Direction

/-- An ordering: the path of its key and, if one is given, its direction. -/
structure OrderBy where
  path : PathExpr
  direction : Option Direction
deriving DecidableEq, Repr

end TextQuery
