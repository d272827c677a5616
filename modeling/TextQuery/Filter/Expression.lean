import TextQuery.Condition

/-!
Expressions: conditions combined by *and* and *or*. An expression is evaluated on an item from its
conditions up, and its rendering puts every combination in parentheses.
-/

namespace TextQuery

variable {ι : Type}

/-- A combination of conditions. -/
inductive Expression (ι : Type) where
  | condition (condition : Condition ι)
  | and (left right : Expression ι)
  | or (left right : Expression ι)
deriving DecidableEq, Repr

namespace Expression

/-- Whether the expression holds of an item. -/
def evaluate (item : View) : Expression ι → Bool
  | condition c => c.evaluate item
  | and left right => left.evaluate item && right.evaluate item
  | or left right => left.evaluate item || right.evaluate item

/-- The number of conditions. -/
def count : Expression ι → Nat
  | condition _ => 1
  | and left right => left.count + right.count
  | or left right => left.count + right.count

/-- The text of an expression; every combination stands in parentheses. -/
def display : Expression ι → Text
  | condition c => c.display
  | and left right => ['('] ++ left.display ++ " AND ".toList ++ right.display ++ [')']
  | or left right => ['('] ++ left.display ++ " OR ".toList ++ right.display ++ [')']

end Expression

end TextQuery
