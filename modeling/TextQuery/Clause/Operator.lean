import TextQuery.Text.Basic

/-!
Operators of clauses and the markers that stand for them.
-/

namespace TextQuery

/-- The operator of a clause. -/
inductive Operator where
  | equals
  | notEquals
  | contains
  | containsCaseSensitive
  | greaterThan
  | lessThan
  | greaterOrEqual
  | lessOrEqual
deriving DecidableEq, Repr

namespace Operator

/-- The characters that stand for the operator. -/
def marker : Operator → Text
  | equals => ['=']
  | notEquals => ['!', '=']
  | contains => ['%']
  | containsCaseSensitive => ['%', '%']
  | greaterThan => ['>']
  | lessThan => ['<']
  | greaterOrEqual => ['>', '=']
  | lessOrEqual => ['<', '=']

/-- The name of the operator in data formats. -/
def name : Operator → Text
  | equals => "Equals".toList
  | notEquals => "NotEquals".toList
  | contains => "Contains".toList
  | containsCaseSensitive => "ContainsCaseSensitive".toList
  | greaterThan => "GreaterThan".toList
  | lessThan => "LessThan".toList
  | greaterOrEqual => "GreaterOrEqual".toList
  | lessOrEqual => "LessOrEqual".toList

/-- Whether the operator searches text. -/
def isTextual : Operator → Bool
  | contains => true
  | containsCaseSensitive => true
  | _ => false

/-- The operators whose markers have two characters, in the order in which they are tried. -/
def doubleMarked : List Operator :=
  [greaterOrEqual, lessOrEqual, notEquals, containsCaseSensitive]

/-- The operators whose markers have one character, in the order in which they are tried. -/
def singleMarked : List Operator :=
  [contains, greaterThan, lessThan, equals]

/-- All operators, those with the longer markers first. -/
def byMarkerLength : List Operator :=
  doubleMarked ++ singleMarked

/-- The operator with the given marker. -/
def ofMarker? (text : Text) : Option Operator :=
  byMarkerLength.find? (·.marker = text)

/-- The operator with the given name. -/
def ofName? (text : Text) : Option Operator :=
  byMarkerLength.find? (·.name = text)

end Operator

end TextQuery
