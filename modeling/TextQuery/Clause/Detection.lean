import TextQuery.Clause.Basic
import TextQuery.Error

/-!
Which operator a clause has. The markers of two characters are tried before those of one, which
they contain. Among the markers of one length exactly one may occur, and it divides the clause
where it occurs first.
-/

namespace TextQuery

/-- A clause divided at its operator. -/
structure Detected where
  operator : Operator
  left : Text
  right : Text
deriving DecidableEq, Repr

namespace Detected

/-- The divisions of the clause at the first occurrences of the markers that occur in it. -/
def candidates (operators : List Operator) (clause : Text) : List Detected :=
  operators.filterMap fun operator =>
    (Text.cutAt? operator.marker clause).map fun (left, right) => ⟨operator, left, right⟩

/-- The operator of a clause and what stands on its sides. -/
def ofClause (clause : Text) : Except ParseError Detected :=
  match candidates Operator.doubleMarked clause with
  | [detected] => .ok detected
  | _ :: _ :: _ => .error (.malformedClause clause)
  | [] =>
    match candidates Operator.singleMarked clause with
    | [detected] => .ok detected
    | _ => .error (.malformedClause clause)

end Detected

end TextQuery
